/-
# Path containment

Where a received file goes. The name in a FILE_BEGIN payload is untrusted; the sink
forms three paths from it, and every one of them stays in the directory of its job.

The conversion to UTF-16 is Windows'. What is asked of it is that it decodes strictly:
an ASCII byte becomes the same code unit, and no other byte becomes an ASCII one.
-/

import PrintDrop.Receiver.FileSink

namespace PrintDrop

/-- What a strict UTF-8 decoder may make of a string. A sequence that is not ASCII
becomes code units that are not, and no more of them than it has bytes. -/
inductive DecodesStrictly : Bytes → WideString → Prop
  | nil : DecodesStrictly [] []
  | ascii {value : UInt8} {rest : Bytes} {units : WideString} (hvalue : value < 0x80)
    (hrest : DecodesStrictly rest units) :
    DecodesStrictly (value :: rest) (value.toUInt16 :: units)
  | sequence {bytes rest : Bytes} {wide units : WideString} (hbytes : ∀ value ∈ bytes, 0x80 ≤ value)
    (hwide : ∀ unit ∈ wide, 0x80 ≤ unit) (hne : wide ≠ [])
    (hlength : wide.length ≤ bytes.length) (hrest : DecodesStrictly rest units) :
    DecodesStrictly (bytes ++ rest) (wide ++ units)

/-- `MultiByteToWideChar` with `CP_UTF8` and `MB_ERR_INVALID_CHARS`. -/
def StrictDecoder (multiByteToWideChar : Bytes → Option WideString) : Prop :=
  ∀ {name wide}, multiByteToWideChar name = some wide → DecodesStrictly name wide

namespace DecodesStrictly

variable {name : Bytes} {wide : WideString}

theorem length_le (hdecodes : DecodesStrictly name wide) : wide.length ≤ name.length := by
  induction hdecodes with
  | nil => exact Nat.le_refl 0
  | ascii _ _ ih => simpa using ih
  | sequence _ _ _ hlength _ ih =>
      rw [List.length_append, List.length_append]
      omega

theorem eq_nil (hdecodes : DecodesStrictly [] wide) : wide = [] :=
  List.length_eq_zero_iff.mp (Nat.le_zero.mp hdecodes.length_le)

theorem ne_nil (hdecodes : DecodesStrictly name wide) (hname : name ≠ []) : wide ≠ [] := by
  cases hdecodes with
  | nil => exact absurd rfl hname
  | ascii => exact List.cons_ne_nil _ _
  | sequence _ _ hne => exact List.append_ne_nil_of_left_ne_nil hne _

/-- An ASCII code unit comes from the same byte. -/
theorem mem (hdecodes : DecodesStrictly name wide) {unit : UInt16} (hunit : unit ∈ wide)
    (hascii : unit < 0x80) : ∃ value ∈ name, value.toUInt16 = unit := by
  induction hdecodes with
  | nil => cases hunit
  | ascii _ _ ih =>
      rcases List.mem_cons.mp hunit with rfl | hunit
      · exact ⟨_, List.mem_cons_self, rfl⟩
      · obtain ⟨value, hvalue, heq⟩ := ih hunit
        exact ⟨value, List.mem_cons_of_mem _ hvalue, heq⟩
  | sequence _ hwide _ _ _ ih =>
      rcases List.mem_append.mp hunit with hunit | hunit
      · exact absurd hascii (UInt16.not_lt.mpr (hwide unit hunit))
      · obtain ⟨value, hvalue, heq⟩ := ih hunit
        exact ⟨value, List.mem_append_right _ hvalue, heq⟩

/-- An ASCII code unit at the end comes from the last byte. -/
theorem getLast? (hdecodes : DecodesStrictly name wide) {unit : UInt16}
    (hunit : wide.getLast? = some unit) (hascii : unit < 0x80) :
    ∃ value, name.getLast? = some value ∧ value.toUInt16 = unit := by
  induction hdecodes with
  | nil => cases hunit
  | @ascii value rest units _ hrest ih =>
      by_cases hend : rest = []
      · subst hend
        rw [hrest.eq_nil] at hunit
        exact ⟨value, rfl, Option.some.inj hunit⟩
      · rw [List.getLast?_cons_of_ne_nil (hrest.ne_nil hend)] at hunit
        rw [List.getLast?_cons_of_ne_nil hend]
        exact ih hunit
  | @sequence bytes rest wide units _ hwide hne _ hrest ih =>
      by_cases hend : units = []
      · subst hend
        rw [List.append_nil] at hunit
        exact absurd hascii (UInt16.not_lt.mpr (hwide unit (List.mem_of_getLast? hunit)))
      · have hrestne : rest ≠ [] := by
          rintro rfl
          exact hend hrest.eq_nil
        rw [List.getLast?_append_of_ne_nil _ hend] at hunit
        rw [List.getLast?_append_of_ne_nil _ hrestne]
        exact ih hunit

end DecodesStrictly

def colon : UInt16 := 0x3a
def dot : UInt16 := 0x2e

/-- A path component that names something in the directory it is appended to: nothing
in it separates, selects a drive or a stream or controls, and it is not one of the two
names for directories on the way. -/
structure SafeComponent (component : WideString) : Prop where
  nonempty : component ≠ []
  noBackslash : backslash ∉ component
  noSlash : slash ∉ component
  noColon : colon ∉ component
  noControl : ∀ unit ∈ component, 0x20 ≤ unit ∧ unit ≠ 0x7f
  notDot : component ≠ [dot]
  notDotDot : component ≠ [dot, dot]

/-- A byte that a safe name does not hold is no code unit of the decoded name. -/
private theorem toUInt16_notMem {name : Bytes} {wide : WideString}
    (hdecodes : DecodesStrictly name wide) {value : UInt8} (hascii : value < 0x80)
    (hvalue : value ∉ name) : value.toUInt16 ∉ wide := by
  intro hunit
  have hsmall : value.toUInt16 < 0x80 := by
    rw [UInt16.lt_iff_toNat_lt, UInt8.toNat_toUInt16]
    exact UInt8.lt_iff_toNat_lt.mp hascii
  obtain ⟨original, horiginal, heq⟩ := hdecodes.mem hunit hsmall
  rw [UInt8.toUInt16_inj.mp heq] at horiginal
  exact hvalue horiginal

/-- A decoded name does not end in a dot unless the name does. -/
private theorem getLast?_ne_dot {name : Bytes} {wide : WideString}
    (hdecodes : DecodesStrictly name wide) (hlast : name.getLast? ≠ some (Char.toUInt8 '.')) :
    wide.getLast? ≠ some dot := by
  intro hdot
  obtain ⟨value, hvalue, heq⟩ := hdecodes.getLast? hdot (by decide)
  have hbyte : value = Char.toUInt8 '.' := UInt8.toUInt16_inj.mp heq
  exact hlast (hbyte ▸ hvalue)

/-- Decoded strictly, a safe name is a safe path component. -/
theorem SafeFilename.component {name : Bytes} {wide : WideString} (hsafe : SafeFilename name)
    (hdecodes : DecodesStrictly name wide) : SafeComponent wide := by
  have hforbidden : ∀ value : UInt8, isWindowsForbidden value = true → value ∉ name := by
    intro value hvalue hmem
    rw [(hsafe.bytes value hmem).2] at hvalue
    cases hvalue
  have hlast : wide.getLast? ≠ some dot := getLast?_ne_dot hdecodes hsafe.lastByte
  constructor
  case nonempty => exact hdecodes.ne_nil hsafe.nonempty
  case noBackslash => exact toUInt16_notMem hdecodes (by decide) (hforbidden 0x5c (by decide))
  case noSlash => exact toUInt16_notMem hdecodes (by decide) (hforbidden 0x2f (by decide))
  case noColon => exact toUInt16_notMem hdecodes (by decide) (hforbidden 0x3a (by decide))
  case noControl =>
    intro unit hunit
    by_contra hcontrol
    have hcases : unit < 0x20 ∨ unit = 0x7f := by
      by_cases hlow : 0x20 ≤ unit
      · exact .inr (by_contra fun hdelete => hcontrol ⟨hlow, hdelete⟩)
      · exact .inl (UInt16.not_le.mp hlow)
    have hascii : unit < 0x80 := by
      rcases hcases with hlow | rfl
      · exact UInt16.lt_trans hlow (by decide)
      · decide
    obtain ⟨value, hvalue, rfl⟩ := hdecodes.mem hunit hascii
    have hclean := (hsafe.bytes value hvalue).1
    simp only [asciiIsControl, Bool.or_eq_false_iff, decide_eq_false_iff_not, beq_eq_false_iff_ne]
      at hclean
    rcases hcases with hlow | hdelete
    · exact hclean.1 (UInt8.lt_iff_toNat_lt.mpr (UInt16.lt_iff_toNat_lt.mp hlow))
    · exact hclean.2 (UInt8.toUInt16_inj.mp hdelete)
  case notDot => exact fun hdot => hlast (hdot ▸ rfl)
  case notDotDot => exact fun hdots => hlast (hdots ▸ rfl)

/-! ## Paths -/

/-- Whether a path ends in one of the two separators. -/
def EndsInSeparator (path : WideString) : Prop :=
  path.getLast? = some backslash ∨ path.getLast? = some slash

instance (path : WideString) : Decidable (EndsInSeparator path) := instDecidableOr

/-- The directory of a job in a root directory. -/
def jobDirectoryIn (rootDirectory : WideString) (jobId : Bytes) : Path :=
  rootDirectory ++ (if EndsInSeparator rootDirectory then [] else [backslash]) ++
    jobId.map UInt8.toUInt16

theorem win32Separator_eq {path : WideString} (hpath : path ≠ []) :
    win32Separator path = if EndsInSeparator path then [] else [backslash] := by
  obtain ⟨last, hlast⟩ := Option.ne_none_iff_exists'.mp (mt List.getLast?_eq_none_iff.mp hpath)
  simp only [win32Separator, EndsInSeparator, hlast, Option.some.injEq]
  by_cases hbackslash : last = backslash <;> by_cases hslash : last = slash <;>
    simp [hbackslash, hslash]

/-- A job identifier ends in a digit, so whatever follows it needs a separator. -/
theorem win32Separator_jobDirectoryIn (rootDirectory : WideString) {jobId : Bytes}
    (hjob : jobIdIsValid jobId = true) :
    win32Separator (jobDirectoryIn rootDirectory jobId) = [backslash] := by
  simp only [jobIdIsValid, Bool.and_eq_true, beq_iff_eq, List.all_eq_true] at hjob
  have hne : jobId ≠ [] := by
    rintro rfl
    exact absurd hjob.1 (by decide)
  have hdigit : isLowerHexDigit (jobId.getLast hne) = true :=
    hjob.2 _ (List.getLast_mem hne)
  have hlast : (jobDirectoryIn rootDirectory jobId).getLast? =
      some (jobId.getLast hne).toUInt16 := by
    rw [jobDirectoryIn, List.getLast?_append_of_ne_nil _ (by simpa using hne), List.getLast?_map,
      List.getLast?_eq_some_getLast hne]
    rfl
  have hbackslash : (jobId.getLast hne).toUInt16 ≠ backslash := by
    intro heq
    rw [show jobId.getLast hne = 0x5c from UInt8.toUInt16_inj.mp heq] at hdigit
    exact absurd hdigit (by decide)
  have hslash : (jobId.getLast hne).toUInt16 ≠ slash := by
    intro heq
    rw [show jobId.getLast hne = 0x2f from UInt8.toUInt16_inj.mp heq] at hdigit
    exact absurd hdigit (by decide)
  simp [win32Separator, hlast, hbackslash, hslash]

/-- The arrays that initialisation builds strings in hold them with their terminators. -/
structure BuffersFit (jobId name : Bytes) (component : WideString) : Prop where
  checkedFilename : name.length + 1 ≤ filenameCapacity
  wideJobId : (jobId.map UInt8.toUInt16).length + 1 ≤ jobIdCapacity
  wideFilename : component.length + 1 ≤ filenameCapacity
  stagingName : (component ++ partSuffix).length + 1 ≤ filenameCapacity + 6

/-- A sink whose paths stay in the directory of its job. -/
structure ContainedSink (rootDirectory : WideString) (jobId : Bytes) (component : WideString)
    (sink : Win32FileSink) : Prop where
  initialized : sink.initialized = true
  safe : SafeComponent component
  jobDirectory : sink.jobDirectory = jobDirectoryIn rootDirectory jobId
  finalPath : sink.finalPath = jobDirectoryIn rootDirectory jobId ++ [backslash] ++ component
  stagingPath : sink.stagingPath = sink.finalPath ++ partSuffix
  jobDirectoryFits : sink.jobDirectory.length + 1 ≤ win32PathCapacity
  finalPathFits : sink.finalPath.length + 1 ≤ win32PathCapacity
  stagingPathFits : sink.stagingPath.length + 1 ≤ win32PathCapacity

/-- A sink that has not been set up and takes no file. -/
structure RefusingSink (c : Win32SinkContext) : Prop where
  notInitialized : c.sink.initialized = false
  begin_eq : ∀ expectedBytes, win32SinkBegin c expectedBytes = (.ioError, c)

theorem refusingSink_of_notInitialized {c : Win32SinkContext}
    (hsink : c.sink.initialized = false) : RefusingSink c :=
  ⟨hsink, fun _ => by simp [win32SinkBegin, hsink]⟩

/-- What initialising a sink comes to. -/
inductive SinkInitOutcome (multiByteToWideChar : Bytes → Option WideString)
    (c : Win32SinkContext) (rootDirectory : WideString) (jobId name : Bytes)
    (outcome : Win32SinkResult × Win32SinkContext) : Prop
  | emptyRoot (hroot : rootDirectory = []) (heq : outcome = (.invalidArgument, c))
  | refused (hroot : rootDirectory ≠ []) (hresult : outcome.1 ≠ .ok)
    (hinitialized : outcome.2.sink.initialized = false)
  | ok (component : WideString) (hroot : rootDirectory ≠ [])
    (hchecked : (filenameSanitize (some name) (some filenameCapacity)).output = some name)
    (hdecoded : multiByteToWideChar name = some component) (hresult : outcome.1 = .ok)
    (hinitialized : outcome.2.sink.initialized = true)
    (hjob : outcome.2.sink.jobDirectory =
      rootDirectory ++ win32Separator rootDirectory ++ jobId.map UInt8.toUInt16)
    (hfinal : outcome.2.sink.finalPath = outcome.2.sink.jobDirectory ++
      win32Separator outcome.2.sink.jobDirectory ++ component)
    (hstaging : outcome.2.sink.stagingPath = outcome.2.sink.jobDirectory ++
      win32Separator outcome.2.sink.jobDirectory ++ (component ++ partSuffix))
    (hjobFits : outcome.2.sink.jobDirectory.length + 1 ≤ win32PathCapacity)
    (hfinalFits : outcome.2.sink.finalPath.length + 1 ≤ win32PathCapacity)
    (hstagingFits : outcome.2.sink.stagingPath.length + 1 ≤ win32PathCapacity)

theorem win32FileSinkInit_outcome (multiByteToWideChar : Bytes → Option WideString)
    (c : Win32SinkContext) (rootDirectory : WideString) (jobId name : Bytes) :
    SinkInitOutcome multiByteToWideChar c rootDirectory jobId name
      (win32FileSinkInit multiByteToWideChar c rootDirectory jobId name) := by
  unfold win32FileSinkInit
  dsimp only
  split
  · rename_i hroot
    exact .emptyRoot hroot rfl
  rename_i hroot
  split
  · exact .refused hroot (fun heq => nomatch heq) rfl
  split
  · exact .refused hroot (fun heq => nomatch heq) rfl
  rename_i hchecked
  rw [not_or, not_not, not_not] at hchecked
  cases hdecoded : multiByteToWideChar name with
  | none => exact .refused hroot (fun heq => nomatch heq) rfl
  | some component =>
      dsimp only
      split
      · exact .refused hroot (fun heq => nomatch heq) rfl
      rename_i hjob
      split
      · exact .refused hroot (fun heq => nomatch heq) rfl
      rename_i hfinal
      split
      · exact .refused hroot (fun heq => nomatch heq) rfl
      split
      · exact .refused hroot (fun heq => nomatch heq) rfl
      rename_i hstaging
      split
      · exact .refused hroot (fun heq => nomatch heq) rfl
      rw [Bool.not_eq_true', Bool.not_eq_false] at hjob hfinal hstaging
      obtain ⟨hjobPath, hjobFits⟩ := win32CopyAndAppend_ok hjob
      obtain ⟨hfinalPath, hfinalFits⟩ := win32CopyAndAppend_ok hfinal
      obtain ⟨hstagingPath, hstagingFits⟩ := win32CopyAndAppend_ok hstaging
      exact .ok component hroot hchecked.2 hdecoded rfl rfl hjobPath hfinalPath hstagingPath
        hjobFits hfinalFits hstagingFits

/-- The purpose of initialisation: a sink that it sets up is contained, and one that it
does not set up takes no file. -/
def SinkInitContains (multiByteToWideChar : Bytes → Option WideString) (c : Win32SinkContext)
    (rootDirectory : WideString) (jobId name : Bytes) : Prop :=
  let outcome := win32FileSinkInit multiByteToWideChar c rootDirectory jobId name
  if outcome.1 = .ok then
    ∃ component, multiByteToWideChar name = some component ∧
      ContainedSink rootDirectory jobId component outcome.2.sink ∧ BuffersFit jobId name component
  else RefusingSink outcome.2

/-- Every name that initialisation takes fits the arrays it passes through. -/
theorem buffersFit {jobId name : Bytes} {component : WideString} (hsafe : SafeFilename name)
    (hdecodes : DecodesStrictly name component) (hjob : jobIdIsValid jobId = true) :
    BuffersFit jobId name component := by
  have hname : name.length ≤ filenameMaxBytes := hsafe.length
  have hcomponent : component.length ≤ name.length := hdecodes.length_le
  simp only [jobIdIsValid, Bool.and_eq_true, beq_iff_eq] at hjob
  constructor
  case checkedFilename => exact Nat.succ_le_succ hname
  case wideJobId => rw [List.length_map, hjob.1, jobIdCapacity]
  case wideFilename => exact Nat.succ_le_succ (hcomponent.trans hname)
  case stagingName =>
    simp only [List.length_append, partSuffix, List.length_cons, List.length_nil,
      filenameCapacity]
    omega

/-- An untrusted name stays in the directory of its job: the sink that a FILE_BEGIN
payload leads to is contained, or takes no file. An empty root directory is rejected
before the sink is touched. -/
theorem contains_of_frameMetadata {multiByteToWideChar : Bytes → Option WideString}
    (hstrict : StrictDecoder multiByteToWideChar) {payload : Buffer} {file : FileBegin}
    {name jobId : Bytes} (hmetadata : frameMetadata payload = some (file, name))
    (hjob : jobIdIsValid jobId = true) (c : Win32SinkContext) (rootDirectory : WideString) :
    (rootDirectory ≠ [] ∨ c.sink.initialized = false →
        SinkInitContains multiByteToWideChar c rootDirectory jobId name) ∧
      (rootDirectory = [] →
        win32FileSinkInit multiByteToWideChar c rootDirectory jobId name =
          (.invalidArgument, c)) := by
  have hsafe : SafeFilename name := safeFilename_of_frameMetadata hmetadata
  constructor
  · intro hcondition
    unfold SinkInitContains
    extract_lets outcome
    cases win32FileSinkInit_outcome multiByteToWideChar c rootDirectory jobId name with
    | emptyRoot hroot heq =>
        have hsink : c.sink.initialized = false := hcondition.resolve_left (not_not.mpr hroot)
        have houtcome : outcome = (.invalidArgument, c) := heq
        rw [houtcome, if_neg fun hresult => nomatch hresult]
        exact refusingSink_of_notInitialized hsink
    | refused _ hresult hinitialized =>
        rw [if_neg hresult]
        exact refusingSink_of_notInitialized hinitialized
    | ok component hroot _ hdecoded hresult hinitialized hjobPath hfinal hstaging hjobFits
        hfinalFits hstagingFits =>
        rw [if_pos hresult]
        have hdecodes : DecodesStrictly name component := hstrict hdecoded
        have hdirectory : outcome.2.sink.jobDirectory = jobDirectoryIn rootDirectory jobId := by
          rw [jobDirectoryIn, ← win32Separator_eq hroot]
          exact hjobPath
        rw [hdirectory, win32Separator_jobDirectoryIn rootDirectory hjob] at hfinal hstaging
        refine ⟨component, hdecoded, ?_, buffersFit hsafe hdecodes hjob⟩
        refine ⟨hinitialized, hsafe.component hdecodes, hdirectory, hfinal, ?_, hjobFits,
          hfinalFits, hstagingFits⟩
        rw [hfinal, hstaging, List.append_assoc, List.append_assoc, List.append_assoc]
  · intro hroot
    rw [win32FileSinkInit, if_pos hroot]

/-- The conversion of a system that takes ASCII names only. -/
def asciiToWideChar (name : Bytes) : Option WideString :=
  if name.all fun value => value < 0x80 then some (name.map UInt8.toUInt16) else none

/-- An ASCII name decodes to the same code units. -/
theorem decodesStrictly_ascii {name : Bytes} (hascii : ∀ value ∈ name, value < 0x80) :
    DecodesStrictly name (name.map UInt8.toUInt16) := by
  induction name with
  | nil => exact .nil
  | cons value rest ih =>
      exact .ascii (hascii value List.mem_cons_self)
        (ih fun other hother => hascii other (List.mem_cons_of_mem _ hother))

theorem strictDecoder_asciiToWideChar : StrictDecoder asciiToWideChar := by
  intro name wide hdecoded
  rw [asciiToWideChar] at hdecoded
  split at hdecoded
  · rename_i hascii
    obtain rfl := Option.some.inj hdecoded
    exact decodesStrictly_ascii (by simpa using hascii)
  · cases hdecoded

/-- A FILE_BEGIN payload for a file named `..\a`. -/
def climbingPayload : Buffer :=
  .bytes (fileBeginPayload 4 (List.replicate 32 0) (ascii ['.', '.', '\\', 'a']))

def climbingFile : FileBegin where
  fileSize := 4
  sha256 := Digest.ofBytes (List.replicate 32 0)
  filename := ascii ['.', '.', '\\', 'a']

theorem frameMetadata_climbingPayload :
    frameMetadata climbingPayload = some (climbingFile, ascii ['.', '.', '_', 'a']) := by
  rw [frameMetadata, climbingPayload, fileBeginDecode_fileBeginPayload (by rfl) (by decide)
    (by decide) (by decide)]
  rfl

/-- A job identifier of zeros. -/
def zeroJobId : Bytes := List.replicate 32 (Char.toUInt8 '0')

/-- A zeroed sink on a system where every call succeeds. -/
def zeroSinkContext : Win32SinkContext where
  sink := .zero
  world := .start (fun _ => none) fun _ => ⟨true, 0, false⟩

/-- The file is stored in `C:\<job>` under the name `.._a`. -/
theorem climbingPayload_contains :
    frameMetadata climbingPayload = some (climbingFile, ascii ['.', '.', '_', 'a']) ∧
      (win32FileSinkInit asciiToWideChar zeroSinkContext [0x43, colon] zeroJobId
        (ascii ['.', '.', '_', 'a'])).1 = .ok ∧
      SinkInitContains asciiToWideChar zeroSinkContext [0x43, colon] zeroJobId
        (ascii ['.', '.', '_', 'a']) :=
  ⟨frameMetadata_climbingPayload, by decide,
    (contains_of_frameMetadata strictDecoder_asciiToWideChar frameMetadata_climbingPayload
      (by decide) zeroSinkContext [0x43, colon]).1 (.inl (List.cons_ne_nil _ _))⟩

/-- A sink that has been set up is left as it is when it is set up again with an empty
root directory: the call fails, yet the sink takes a file. -/
theorem emptyRoot_not_contains :
    let c := (win32FileSinkInit asciiToWideChar zeroSinkContext [0x43, colon] zeroJobId
      (ascii ['.', '.', '_', 'a'])).2
    StrictDecoder asciiToWideChar ∧ jobIdIsValid zeroJobId = true ∧
      frameMetadata climbingPayload = some (climbingFile, ascii ['.', '.', '_', 'a']) ∧
      (win32FileSinkInit asciiToWideChar c [] zeroJobId (ascii ['.', '.', '_', 'a'])).1 =
        .invalidArgument ∧
      (win32SinkBegin c 4).1 = .ok ∧
      ¬ SinkInitContains asciiToWideChar c [] zeroJobId (ascii ['.', '.', '_', 'a']) := by
  refine ⟨strictDecoder_asciiToWideChar, by decide, frameMetadata_climbingPayload, by decide,
    by decide, ?_⟩
  intro hcontains
  have hrefusing : RefusingSink _ := hcontains
  exact absurd hrefusing.notInitialized (by decide)

end PrintDrop
