/-
# Staging and committing

What the Win32 sink does to the file system in each phase of a transfer. Before the
commit it changes the staging path only, and only if no file was there; the commit
moves the staged bytes to a final path that does not exist.
-/

import PrintDrop.Receiver.FileSink
import PrintDrop.Receiver.Recording

namespace PrintDrop

open Math

universe v

namespace Win32World

@[simp] theorem files_advance (w : Win32World) : w.advance.files = w.files := rfl
@[simp] theorem openHandles_advance (w : Win32World) :
    w.advance.openHandles = w.openHandles := rfl
@[simp] theorem deleteFailed_advance (w : Win32World) :
    w.advance.deleteFailed = w.deleteFailed := rfl

@[simp]
theorem files_ensureDirectory (w : Win32World) (path : Path) :
    (w.ensureDirectory path).2.files = w.files := by
  unfold ensureDirectory
  split <;> rfl

@[simp]
theorem openHandles_ensureDirectory (w : Win32World) (path : Path) :
    (w.ensureDirectory path).2.openHandles = w.openHandles := by
  unfold ensureDirectory
  split <;> rfl

@[simp]
theorem deleteFailed_ensureDirectory (w : Win32World) (path : Path) :
    (w.ensureDirectory path).2.deleteFailed = w.deleteFailed := by
  unfold ensureDirectory
  split <;> rfl

/-- Closing changes no file. -/
@[simp]
theorem files_closeHandle (w : Win32World) (handle : Handle) :
    (w.closeHandle handle).2.files = w.files := by
  unfold closeHandle
  split <;> rfl

@[simp]
theorem deleteFailed_closeHandle (w : Win32World) (handle : Handle) :
    (w.closeHandle handle).2.deleteFailed = w.deleteFailed := by
  unfold closeHandle
  split <;> rfl

/-- Closing the only open handle leaves none open, or the same one. -/
theorem openHandles_closeHandle {w : Win32World} {handle : Handle} {path : Path}
    (hopen : w.openHandles = [(handle, path)]) :
    (w.closeHandle handle).2.openHandles =
      if (w.closeHandle handle).1 then [] else [(handle, path)] := by
  unfold closeHandle
  split <;> simp [hopen]

/-- A deletion that is not noted as failed has removed the file, and the file was not
open. -/
theorem deleteFile_of_not_failed {w : Win32World} {path : Path} {content : Bytes}
    (hexists : w.files.get path = some content)
    (hdeleted : (w.deleteFile path).deleteFailed = false) :
    w.isOpen path = false ∧ (w.deleteFile path).files = w.files.set path none ∧
      (w.deleteFile path).openHandles = w.openHandles := by
  unfold deleteFile at hdeleted ⊢
  rw [if_neg (by simp [hexists])] at hdeleted ⊢
  split at hdeleted
  · rename_i hsucceeds
    simp only [Bool.and_eq_true, Bool.not_eq_true'] at hsucceeds
    rw [if_pos (by simp [hsucceeds])]
    exact ⟨hsucceeds.2, rfl, rfl⟩
  · cases hdeleted

/-- A deletion changes no other file. -/
theorem changesAt_deleteFile {w : Win32World} {path other : Path} (hne : other ≠ path) :
    (w.deleteFile path).files.changesAt other = w.files.changesAt other := by
  unfold deleteFile
  split
  · rfl
  split
  · exact Journaled.changesAt_set_of_ne _ hne _
  · rfl

@[simp]
theorem initial_deleteFile (w : Win32World) (path : Path) :
    (w.deleteFile path).files.initial = w.files.initial := by
  unfold deleteFile
  split
  · rfl
  split <;> rfl

end Win32World

/-- Only the staging path has been changed, and it was free. -/
structure StagedOnly (files : Path → Option Bytes) (c : Win32SinkContext) : Prop where
  initial : c.world.files.initial = files
  staging : c.sink.stagingPath = c.sink.finalPath ++ partSuffix
  free : files c.sink.stagingPath = none
  only : ∀ path, path ≠ c.sink.stagingPath → c.world.files.changesAt path = []

/-- The sink holds the one open handle, of its staging file. -/
def HoldsStaging (c : Win32SinkContext) : Prop :=
  ∃ handle, c.sink.fileHandle = some handle ∧
    c.world.openHandles = [(handle, c.sink.stagingPath)]

/-- No handle is open. -/
def HoldsNothing (c : Win32SinkContext) : Prop :=
  c.sink.fileHandle = none ∧ c.world.openHandles = []

/-- The staged bytes are at the final path, which was free, and nothing else has
changed. -/
structure Committed (files : Path → Option Bytes) (data : Bytes) (c : Win32SinkContext) :
    Prop where
  initial : c.world.files.initial = files
  staging : c.sink.stagingPath = c.sink.finalPath ++ partSuffix
  free : files c.sink.stagingPath = none
  target : files c.sink.finalPath = none
  final : c.world.files.changesAt c.sink.finalPath =
    [{ key := c.sink.finalPath, before := none, after := some data }]
  only : ∀ path, path ≠ c.sink.stagingPath → path ≠ c.sink.finalPath →
    c.world.files.changesAt path = []
  staged : c.world.files.get c.sink.stagingPath = none
  closed : c.world.openHandles = []

/-- The Win32 sink in a phase, over the files there were before the transfer. -/
def Win32At (files : Path → Option Bytes) : SinkPhase → Win32SinkContext → Prop
  | .idle, c => c.world.files = { initial := files, journal := [] } ∧ HoldsNothing c ∧
      c.world.deleteFailed = false ∧
      (c.sink.initialized = true → c.sink.stagingPath = c.sink.finalPath ++ partSuffix)
  | .refused, c => c.world.files = { initial := files, journal := [] } ∧ HoldsNothing c
  | .writing _ data, c => StagedOnly files c ∧ HoldsStaging c ∧ c.world.deleteFailed = false ∧
      c.world.files.get c.sink.stagingPath = some data
  | .broken, c => StagedOnly files c ∧ (HoldsStaging c ∨ HoldsNothing c) ∧
      c.world.deleteFailed = false ∧
      ∃ content, c.world.files.get c.sink.stagingPath = some content
  | .committed _ data, c => Committed files data c
  | .aborted, c => StagedOnly files c ∧ (c.world.deleteFailed = false →
      HoldsNothing c ∧ c.world.files.get c.sink.stagingPath = none)

variable {files : Path → Option Bytes}

theorem stagingPath_ne_finalPath {path : Path} : path ≠ path ++ partSuffix := by
  intro hequal
  have hlength := congrArg List.length hequal
  simp [partSuffix] at hlength

/-- Initialising changes no file and leaves the paths related once it has succeeded. -/
theorem win32FileSinkInit_idle {multiByteToWideChar : Bytes → Option WideString}
    {c : Win32SinkContext} (hidle : Win32At files .idle c) (root : WideString)
    (jobId name : Bytes) :
    Win32At files .idle (win32FileSinkInit multiByteToWideChar c root jobId name).2 := by
  obtain ⟨hfiles, ⟨hhandle, hopen⟩, hdelete, hpaths⟩ := hidle
  have huninitialized : ∀ {sink : Win32FileSink}, sink.fileHandle = none →
      sink.initialized = false → Win32At files .idle { sink := sink, world := c.world } :=
    fun hnone hinit => ⟨hfiles, ⟨hnone, hopen⟩, hdelete, by simp [hinit]⟩
  unfold win32FileSinkInit
  split
  · exact ⟨hfiles, ⟨hhandle, hopen⟩, hdelete, hpaths⟩
  dsimp only
  split
  · exact huninitialized rfl rfl
  split
  · exact huninitialized rfl rfl
  split
  · exact huninitialized rfl rfl
  rename_i wideFilename hwide
  split
  · exact huninitialized rfl rfl
  split
  · exact huninitialized rfl rfl
  rename_i hfinal
  split
  · exact huninitialized rfl rfl
  split
  · exact huninitialized rfl rfl
  rename_i hstaging
  split
  · exact ⟨by simpa using hfiles, ⟨rfl, by simpa using hopen⟩, by simpa using hdelete,
      by simp [Win32FileSink.zero]⟩
  · refine ⟨by simpa using hfiles, ⟨rfl, by simpa using hopen⟩, by simpa using hdelete, ?_⟩
    intro _
    simp only [Bool.not_eq_true', Bool.not_eq_false] at hfinal hstaging
    simp only [(win32CopyAndAppend_ok hfinal).1, (win32CopyAndAppend_ok hstaging).1,
      List.append_assoc]

/-- An operation leads to one phase with the status OK and to another without it. -/
inductive SinkOutcome (good bad : Win32SinkContext → Prop)
    (outcome : FileSinkStatus × Win32SinkContext) : Prop
  | ok (hstatus : outcome.1 = .ok) (hphase : good outcome.2)
  | error (hstatus : outcome.1 ≠ .ok) (hphase : bad outcome.2)

/-- A sink that does not begin changes no file and holds no handle. -/
theorem win32SinkBegin_outcome {c : Win32SinkContext} (hidle : Win32At files .idle c)
    (expected : UInt64) :
    SinkOutcome (Win32At files (.writing expected [])) (Win32At files .refused)
      (win32SinkBegin c expected) := by
  obtain ⟨hfiles, ⟨hhandle, hopen⟩, hdelete, hpaths⟩ := hidle
  have hfilesEnsured := (c.world.files_ensureDirectory c.sink.jobDirectory).trans hfiles
  have hopenEnsured := (c.world.openHandles_ensureDirectory c.sink.jobDirectory).trans hopen
  have hdeleteEnsured := (c.world.deleteFailed_ensureDirectory c.sink.jobDirectory).trans hdelete
  unfold win32SinkBegin
  split
  · exact .error (by simp) ⟨hfiles, hhandle, hopen⟩
  rename_i hready
  have hstaging := hpaths (by simpa [hhandle] using hready)
  dsimp only
  generalize c.world.ensureDirectory c.sink.jobDirectory = ensured at *
  split
  · exact .error (by simp) ⟨hfilesEnsured, hhandle, hopenEnsured⟩
  unfold Win32World.createNew
  split
  · rename_i hcreate
    split at hcreate
    · cases hcreate
    · cases hcreate
      exact .error (by simp) ⟨hfilesEnsured, hhandle, hopenEnsured⟩
  · rename_i hcreate
    split at hcreate
    · rename_i hfree
      cases hcreate
      simp only [hfilesEnsured, Bool.and_eq_true, Option.isNone_iff_eq_none] at hfree
      refine .ok rfl ⟨⟨?_, hstaging, hfree.2, ?_⟩, ⟨_, rfl, ?_⟩, hdeleteEnsured, ?_⟩
      · simp [hfilesEnsured]
      · intro path hne
        rw [Journaled.changesAt_set_of_ne _ hne, hfilesEnsured]
        rfl
      · simp [hopenEnsured]
      · simp
    · cases hcreate

/-- Writing to a staged file appends a part of the data. -/
theorem writeFile_staged {c : Win32SinkContext} {handle : Handle} {content : Bytes}
    (hopen : c.world.openHandles = [(handle, c.sink.stagingPath)])
    (hcontent : c.world.files.get c.sink.stagingPath = some content) (data : Bytes) :
    ∃ part, part <+: data ∧ (c.world.writeFile handle data).1.2 = part.length ∧
      (c.world.writeFile handle data).2.files =
        c.world.files.set c.sink.stagingPath (some (content ++ part)) ∧
      (c.world.writeFile handle data).2.openHandles = c.world.openHandles ∧
      (c.world.writeFile handle data).2.deleteFailed = c.world.deleteFailed := by
  unfold Win32World.writeFile
  rw [hopen]
  simp only [List.lookup_cons_self, hcontent, Option.getD_some]
  exact ⟨_, List.take_prefix _ _, rfl, rfl, hopen.symm ▸ rfl, rfl⟩

/-- Staging more bytes keeps everything else as it is. -/
theorem StagedOnly.set {c : Win32SinkContext} (hstaged : StagedOnly files c) {world : Win32World}
    {value : Option Bytes} (hfiles : world.files = c.world.files.set c.sink.stagingPath value) :
    StagedOnly files { c with world := world } := by
  refine ⟨?_, hstaged.staging, hstaged.free, ?_⟩
  · simp only [hfiles, Journaled.initial_set]
    exact hstaged.initial
  · intro path hne
    simp only [hfiles]
    rw [Journaled.changesAt_set_of_ne _ hne]
    exact hstaged.only path hne

/-- A write is complete and extends the staged data, or the sink is left broken. -/
theorem win32SinkWrite_phase {c : Win32SinkContext} {expected : UInt64} {data chunk : Bytes}
    (hwriting : Win32At files (.writing expected data) c) :
    ((win32SinkWrite c chunk).1.1 = .ok → (win32SinkWrite c chunk).1.2 = chunk.length →
        Win32At files (.writing expected (data ++ chunk)) (win32SinkWrite c chunk).2) ∧
      Win32At files .broken (win32SinkWrite c chunk).2 := by
  obtain ⟨hstaged, ⟨handle, hhandle, hopen⟩, hdelete, hcontent⟩ := hwriting
  obtain ⟨part, hpart, hlength, hfiles', hopen', hdelete'⟩ :=
    writeFile_staged hopen hcontent chunk
  unfold win32SinkWrite
  rw [hhandle]
  dsimp only
  split
  · exact ⟨by simp, hstaged, .inl ⟨handle, hhandle, hopen⟩, hdelete, data, hcontent⟩
  have hbroken : Win32At files .broken { c with world := (c.world.writeFile handle chunk).2 } :=
    ⟨hstaged.set hfiles', .inl ⟨handle, hhandle, hopen'.trans hopen⟩, hdelete'.trans hdelete,
      data ++ part, by simp [hfiles']⟩
  split
  · exact ⟨by simp, hbroken⟩
  · refine ⟨?_, hbroken⟩
    intro _ hcomplete
    have hwhole : part = chunk := hpart.eq_of_length (hlength.symm.trans hcomplete)
    exact ⟨hstaged.set hfiles', ⟨handle, hhandle, hopen'.trans hopen⟩, hdelete'.trans hdelete,
      by simp [hfiles', hwhole]⟩

/-- A commit moves the staged bytes to a free final path, or leaves the sink broken. -/
theorem win32SinkCommit_outcome {c : Win32SinkContext} {expected : UInt64} {data : Bytes}
    (hwriting : Win32At files (.writing expected data) c) :
    SinkOutcome (Win32At files (.committed expected data)) (Win32At files .broken)
      (win32SinkCommit c) := by
  obtain ⟨hstaged, ⟨handle, hhandle, hopen⟩, hdelete, hcontent⟩ := hwriting
  unfold win32SinkCommit
  rw [hhandle]
  dsimp only [Win32World.flushFileBuffers]
  split
  · exact .error (by simp) ⟨⟨hstaged.initial, hstaged.staging, hstaged.free, hstaged.only⟩,
      .inl ⟨handle, hhandle, hopen⟩, hdelete, data, hcontent⟩
  have hfilesClosed := (c.world.advance.files_closeHandle handle).trans c.world.files_advance
  have hdeleteClosed := (c.world.advance.deleteFailed_closeHandle handle).trans hdelete
  have hopenClosed := Win32World.openHandles_closeHandle (w := c.world.advance) hopen
  generalize c.world.advance.closeHandle handle = closed at *
  split
  · rename_i hclose
    rw [if_neg (by simpa using hclose)] at hopenClosed
    refine .error (by simp) ⟨⟨?_, hstaged.staging, hstaged.free, ?_⟩,
      .inl ⟨handle, hhandle, hopenClosed⟩, hdeleteClosed, data, ?_⟩
    · rw [hfilesClosed]
      exact hstaged.initial
    · rw [hfilesClosed]
      exact hstaged.only
    · rw [hfilesClosed]
      exact hcontent
  rename_i hclose
  rw [if_pos (by simpa using hclose)] at hopenClosed
  have hne : c.sink.finalPath ≠ c.sink.stagingPath := by
    rw [hstaged.staging]
    exact stagingPath_ne_finalPath
  have hfinal : closed.2.files.changesAt c.sink.finalPath = [] := by
    rw [hfilesClosed]
    exact hstaged.only _ hne
  unfold Win32World.moveFile
  split
  · rename_i hmove
    simp only [Bool.and_eq_true, Option.isNone_iff_eq_none] at hmove
    obtain ⟨⟨-, hfree⟩, -⟩ := hmove
    rw [if_neg (by simp)]
    have htarget : files c.sink.finalPath = none := by
      rw [← hstaged.initial, ← hfilesClosed, ← Journaled.get_eq_initial hfinal]
      exact hfree
    refine .ok rfl ⟨?_, hstaged.staging, hstaged.free, htarget, ?_, ?_, ?_, hopenClosed⟩
    · simpa [hfilesClosed] using hstaged.initial
    · show (((closed.2.files.set c.sink.stagingPath none).set c.sink.finalPath _).changesAt _) = _
      rw [Journaled.changesAt_set_self, Journaled.changesAt_set_of_ne _ hne, hfinal,
        Journaled.get_set_of_ne _ hne, hfree, hfilesClosed, hcontent]
      rfl
    · intro path hstagingNe hfinalNe
      show (((closed.2.files.set c.sink.stagingPath none).set c.sink.finalPath _).changesAt _) = _
      rw [Journaled.changesAt_set_of_ne _ hfinalNe, Journaled.changesAt_set_of_ne _ hstagingNe,
        hfilesClosed]
      exact hstaged.only path hstagingNe
    · show (((closed.2.files.set c.sink.stagingPath none).set c.sink.finalPath _).get _) = _
      rw [Journaled.get_set_of_ne _ hne.symm, Journaled.get_set_self]
  · rw [if_pos (by simp)]
    refine .error (by simp) ⟨⟨?_, hstaged.staging, hstaged.free, ?_⟩, .inr ⟨rfl, hopenClosed⟩,
      hdeleteClosed, data, ?_⟩
    · simpa [hfilesClosed] using hstaged.initial
    · simpa [hfilesClosed] using hstaged.only
    · simpa [hfilesClosed] using hcontent

/-- Giving up closes the handle and deletes the staging file. -/
theorem win32SinkAbort_aborted {c : Win32SinkContext} (hstaged : StagedOnly files c)
    (hholds : HoldsStaging c ∨ HoldsNothing c) {content : Bytes}
    (hcontent : c.world.files.get c.sink.stagingPath = some content) :
    Win32At files .aborted (win32SinkAbort c) := by
  have hnonempty : c.sink.stagingPath ≠ [] := by
    rw [hstaged.staging]
    simp [partSuffix]
  rcases hholds with ⟨handle, hhandle, hopen⟩ | ⟨hhandle, hopen⟩
  · have hfilesClosed := c.world.files_closeHandle handle
    have hopenClosed := Win32World.openHandles_closeHandle hopen
    unfold win32SinkAbort
    rw [hhandle]
    dsimp only
    generalize c.world.closeHandle handle = closed at *
    rw [if_neg hnonempty]
    refine ⟨⟨?_, hstaged.staging, hstaged.free, ?_⟩, ?_⟩
    · simpa [hfilesClosed] using hstaged.initial
    · intro path hne
      rw [Win32World.changesAt_deleteFile hne, hfilesClosed]
      exact hstaged.only path hne
    · intro hdeleted
      obtain ⟨hclosed, hfiles', hopen'⟩ := Win32World.deleteFile_of_not_failed
        (w := closed.2) (by rw [hfilesClosed]; exact hcontent) hdeleted
      refine ⟨⟨rfl, ?_⟩, ?_⟩
      · show (closed.2.deleteFile c.sink.stagingPath).openHandles = []
        rw [hopen']
        cases hresult : closed.1 with
        | true => simpa [hresult] using hopenClosed
        | false =>
            rw [hresult] at hopenClosed
            simp [Win32World.isOpen, hopenClosed] at hclosed
      · show (closed.2.deleteFile c.sink.stagingPath).files.get _ = none
        rw [hfiles', Journaled.get_set_self]
  · unfold win32SinkAbort
    rw [hhandle]
    dsimp only
    rw [if_neg hnonempty]
    refine ⟨⟨?_, hstaged.staging, hstaged.free, ?_⟩, ?_⟩
    · simpa using hstaged.initial
    · intro path hne
      rw [Win32World.changesAt_deleteFile hne]
      exact hstaged.only path hne
    · intro hdeleted
      obtain ⟨-, hfiles', hopen'⟩ := Win32World.deleteFile_of_not_failed hcontent hdeleted
      refine ⟨⟨hhandle, ?_⟩, ?_⟩
      · show (c.world.deleteFile c.sink.stagingPath).openHandles = []
        rw [hopen', hopen]
      · show (c.world.deleteFile c.sink.stagingPath).files.get _ = none
        rw [hfiles', Journaled.get_set_self]

/-- The Win32 sink implements its description. -/
theorem win32FileSinkOps_implements (files : Path → Option Bytes) :
    win32FileSinkOps.Implements (Win32At files) := by
  constructor
  case begin_ok =>
    intro c expected hidle hok
    cases win32SinkBegin_outcome hidle expected with
    | ok _ hphase => exact hphase
    | error hstatus _ => exact absurd hok hstatus
  case begin_error =>
    intro c expected hidle herror
    cases win32SinkBegin_outcome hidle expected with
    | ok hstatus _ => exact absurd hstatus herror
    | error _ hphase => exact hphase
  case write_ok =>
    intro c expected data chunk hwriting _ _ _ hok hlength
    exact (win32SinkWrite_phase hwriting).1 hok hlength
  case write_error =>
    intro c expected data chunk hwriting _ _ _ _
    exact (win32SinkWrite_phase hwriting).2
  case commit_ok =>
    intro c expected data hwriting _ hok
    cases win32SinkCommit_outcome hwriting with
    | ok _ hphase => exact hphase
    | error hstatus _ => exact absurd hok hstatus
  case commit_error =>
    intro c expected data hwriting _ herror
    cases win32SinkCommit_outcome hwriting with
    | ok hstatus _ => exact absurd hstatus herror
    | error _ hphase => exact hphase
  case abort_writing =>
    intro c expected data hwriting
    obtain ⟨hstaged, hholds, -, hcontent⟩ := hwriting
    exact win32SinkAbort_aborted hstaged (.inl hholds) hcontent
  case abort_broken =>
    intro c hbroken
    obtain ⟨hstaged, hholds, -, content, hcontent⟩ := hbroken
    exact win32SinkAbort_aborted hstaged hholds hcontent

/-! ## The receiver over the Win32 sink -/

variable {τ : Type v}

/-- The receive handler's platform: the Win32 sink, and any hash. -/
def win32Platform (multiByteToWideChar : Bytes → Option WideString) (sha256Init : τ → τ)
    (sha256Ops : IntegrityOps τ) : ReceivePlatform Win32SinkContext τ where
  sinkInit c root jobId name :=
    let initialized := win32FileSinkInit multiByteToWideChar c root jobId name
    (initialized.1 == .ok, initialized.2)
  sinkOps := win32FileSinkOps
  sha256Init := sha256Init
  sha256Ops := sha256Ops

theorem win32Platform_implements (files : Path → Option Bytes)
    (multiByteToWideChar : Bytes → Option WideString) (sha256Init : τ → τ)
    (sha256Ops : IntegrityOps τ) :
    (win32Platform multiByteToWideChar sha256Init sha256Ops).Implements (Win32At files)
      sha256Ops.FedAt where
  sink := win32FileSinkOps_implements files
  hash := sha256Ops.implements_fedAt
  sinkInit hidle := win32FileSinkInit_idle hidle _ _ _
  sha256Init _ := trivial

/-- A sink and a system before any transfer. -/
def Win32SinkContext.start (files : Path → Option Bytes) (outcomes : ℕ → ApiOutcome) :
    Win32SinkContext where
  sink := Win32FileSink.zero
  world := Win32World.start files outcomes

theorem win32At_start (files : Path → Option Bytes) (outcomes : ℕ → ApiOutcome) :
    Win32At files .idle (Win32SinkContext.start files outcomes) :=
  ⟨rfl, ⟨rfl, rfl⟩, rfl, by simp [Win32SinkContext.start, Win32FileSink.zero]⟩

/-- No file has been changed but a staging file of the sink's own. -/
structure Uncommitted (files : Path → Option Bytes) (c : Win32SinkContext) : Prop where
  initial : c.world.files.initial = files
  final : c.world.files.changesAt c.sink.finalPath = []
  staging : files c.sink.stagingPath ≠ none → c.world.files.changesAt c.sink.stagingPath = []
  others : ∀ path, path ≠ c.sink.stagingPath → c.world.files.changesAt path = []

private theorem uncommitted_of_unchanged {c : Win32SinkContext}
    (hfiles : c.world.files = { initial := files, journal := [] }) : Uncommitted files c := by
  constructor <;> simp [hfiles, Journaled.changesAt]

private theorem StagedOnly.uncommitted {c : Win32SinkContext} (hstaged : StagedOnly files c) :
    Uncommitted files c := by
  refine ⟨hstaged.initial, hstaged.only _ ?_, ?_, hstaged.only⟩
  · rw [hstaged.staging]
    exact stagingPath_ne_finalPath
  · exact fun hexists => absurd hstaged.free hexists

/-- A sink that has not committed has changed nothing but its own staging file. -/
theorem uncommitted_of_phase (phase : SinkPhase) {c : Win32SinkContext}
    (hphase : Win32At files phase c) (hne : ∀ expected data, phase ≠ .committed expected data) :
    Uncommitted files c := by
  cases phase with
  | idle => exact uncommitted_of_unchanged hphase.1
  | refused => exact uncommitted_of_unchanged hphase.1
  | writing expected data => exact hphase.1.uncommitted
  | broken => exact hphase.1.uncommitted
  | committed expected data => exact absurd rfl (hne expected data)
  | aborted => exact hphase.1.uncommitted

/-- A transfer that is not complete has changed nothing but a staging file. -/
theorem uncommitted_of_represents {Q : HashPhase → τ → Prop} {announced : Announced}
    {phase : TransferPhase} {m : ReceiverState Win32SinkContext τ}
    (hrep : Represents (Win32At files) Q announced phase m)
    (hne : ∀ data, phase ≠ .complete data) : Uncommitted files m.sink := by
  obtain ⟨sinkPhase, hphase, hcommitted, -⟩ := hrep.sink.exists_phase
  refine uncommitted_of_phase _ hphase ?_
  intro expected data hequal
  obtain ⟨content, hcomplete⟩ := hcommitted ⟨expected, data, hequal⟩
  exact hne content hcomplete

/-- What a transfer has done to the files: nothing but staging, or one atomic and
verified change of the final path. -/
inductive FilesOutcome (files : Path → Option Bytes) (sha256Ops : IntegrityOps τ)
    (content : Bytes) (p : ReceiverProtocol (Win32ReceiveHandler Win32SinkContext τ)) : Prop
  | untouched (hfiles : Uncommitted files p.context.sink)
  | completed (hstate : p.state = .complete) (hfiles : Committed files content p.context.sink)
    (hlength : content.length = p.currentFile.fileSize.toNat)
    (hdigest : ∃ running finished, sha256Ops.Fed content running ∧
      sha256Ops.finish running = ((.ok, p.currentFile.sha256), finished))

/-- **Atomic, verified completion.** Whatever the frames, the failures and the files
there were, a run of the receiver over the Win32 sink either leaves every path but
a fresh staging path unchanged, or has changed the final path once, from absent
to the concatenated chunks, whose length and digest are the announced ones. -/
theorem receive_filesOutcome (multiByteToWideChar : Bytes → Option WideString)
    (sha256Init : τ → τ) (sha256Ops : IntegrityOps τ) (root : WideString) (hash : τ)
    (entropy : List RandomDraw) (files : Path → Option Bytes) (outcomes : ℕ → ApiOutcome)
    (calls : List ProtocolCall) :
    let ops := win32ReceiveHandlerOps (win32Platform multiByteToWideChar sha256Init sha256Ops)
    let start := receiverProtocolInit
      (Win32ReceiveHandler.fresh root (Win32SinkContext.start files outcomes) hash entropy)
    FilesOutcome files sha256Ops (handledChunks ops start calls).flatten
      (runCalls ops start calls) := by
  intro ops start
  have hplatform := win32Platform_implements files multiByteToWideChar sha256Init sha256Ops
  have hops : ops.Implements (HandlerAt (Win32At files) sha256Ops.FedAt True) fun _ => True :=
    win32ReceiveHandlerOps_implements_leaking hplatform
  have hstart : HandlerInv (HandlerAt (Win32At files) sha256Ops.FedAt True) [] start :=
    handlerInv_fresh root (win32At_start files outcomes) trivial entropy
  have hinv := hstart.run hops calls
  rw [List.nil_append] at hinv
  generalize handledChunks ops start calls = chunks at hinv
  cases hinv with
  | waiting _ _ hcontext =>
      exact .untouched (uncommitted_of_phase .idle hcontext.2.2.1 (by simp))
  | receiving _ _ hcontext => exact .untouched (uncommitted_of_represents hcontext.2 (by simp))
  | complete hstate _ hcontext =>
      obtain ⟨-, hrep⟩ := hcontext
      obtain ⟨hcommitted, hlength⟩ := hrep.sink
      obtain ⟨running, hfed, hfinish⟩ := hrep.hash _ rfl
      exact .completed hstate hcommitted hlength ⟨running, _, hfed, hfinish⟩
  | rejected _ _ hcontext =>
      rcases hcontext with hcontext | ⟨-, announced, hrep | hrep⟩
      · exact .untouched (uncommitted_of_phase .idle hcontext.2.2.1 (by simp))
      · exact .untouched (uncommitted_of_represents hrep (by simp))
      · exact .untouched (uncommitted_of_represents hrep (by simp))
  | aborted _ _ hcontext =>
      obtain ⟨-, data, hrep | hrep | ⟨-, hrep⟩⟩ := hcontext
      · exact .untouched (uncommitted_of_represents hrep (by simp))
      · exact .untouched (uncommitted_of_represents hrep (by simp))
      · exact .untouched (uncommitted_of_represents hrep (by simp))

end PrintDrop
