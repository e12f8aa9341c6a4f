/-
# Device names

What the sanitizer promises about device names, and what Windows makes of a name. The
sanitizer compares the part of a name before its first dot with the reserved names;
Windows first drops the spaces at the end of that part.
-/

import PrintDrop.Wire.Filename

namespace PrintDrop

/-- The names of devices, in upper case. -/
def reservedDeviceNames : List Bytes :=
  [ascii ['C', 'O', 'N'], ascii ['P', 'R', 'N'], ascii ['A', 'U', 'X'], ascii ['N', 'U', 'L']] ++
    (ascii ['1', '2', '3', '4', '5', '6', '7', '8', '9']).flatMap fun digit =>
      [ascii ['C', 'O', 'M'] ++ [digit], ascii ['L', 'P', 'T'] ++ [digit]]

/-- The part of a name before its first dot. -/
def baseName (name : Bytes) : Bytes := name.takeWhile fun value => value != Char.toUInt8 '.'

/-- The byte string is a reserved name, in upper or lower case. -/
def IsReserved (value : Bytes) : Prop := value.map asciiUpper ∈ reservedDeviceNames

instance (value : Bytes) : Decidable (IsReserved value) :=
  inferInstanceAs (Decidable (_ ∈ _))

theorem asciiEqualPrefix_iff (value literal : Bytes) :
    asciiEqualPrefix value literal = true ↔ value.map asciiUpper = literal := by
  induction value generalizing literal with
  | nil => cases literal <;> simp [asciiEqualPrefix]
  | cons first value ih =>
      cases literal with
      | nil => simp [asciiEqualPrefix]
      | cons second literal =>
          have hrest := ih literal
          simp only [asciiEqualPrefix, Bool.and_eq_true, beq_iff_eq] at hrest ⊢
          simp only [List.length_cons, List.zip_cons_cons, List.all_cons, Bool.and_eq_true,
            List.map_cons, List.cons.injEq, beq_iff_eq, Nat.add_right_cancel_iff, ← hrest]
          tauto

/-- A byte is a digit from 1 to 9 exactly if its upper case is one. -/
private theorem digit_iff (digit : UInt8) :
    (Char.toUInt8 '1' ≤ digit ∧ digit ≤ Char.toUInt8 '9') ↔
      asciiUpper digit ∈ ascii ['1', '2', '3', '4', '5', '6', '7', '8', '9'] := by
  obtain ⟨bits⟩ := digit
  revert bits
  decide +kernel

theorem isReserved_iff (value : Bytes) :
    IsReserved value ↔ value.map asciiUpper = ascii ['C', 'O', 'N'] ∨
      value.map asciiUpper = ascii ['P', 'R', 'N'] ∨
      value.map asciiUpper = ascii ['A', 'U', 'X'] ∨
      value.map asciiUpper = ascii ['N', 'U', 'L'] ∨
      ∃ digit ∈ ascii ['1', '2', '3', '4', '5', '6', '7', '8', '9'],
        value.map asciiUpper = ascii ['C', 'O', 'M'] ++ [digit] ∨
          value.map asciiUpper = ascii ['L', 'P', 'T'] ++ [digit] := by
  simp only [IsReserved, reservedDeviceNames, List.mem_append, List.mem_cons, List.not_mem_nil,
    or_false, List.mem_flatMap, or_assoc]

/-- The code's check is that the part before the first dot is a reserved name. -/
theorem isWindowsReservedDeviceName_iff (name : Bytes) :
    isWindowsReservedDeviceName name = true ↔ IsReserved (baseName name) := by
  have hsplit : baseName name ++ name.dropWhile (fun value => value != Char.toUInt8 '.') = name :=
    List.takeWhile_append_dropWhile
  rw [isReserved_iff, isWindowsReservedDeviceName]
  simp only [← baseName.eq_def]
  generalize baseName name = base at *
  simp only [Bool.or_eq_true, asciiEqualPrefix_iff, or_assoc]
  split
  case isTrue hword => tauto
  case isFalse hword =>
    simp only [not_or] at hword
    obtain ⟨hcon, hprn, haux, hnul⟩ := hword
    simp only [hcon, hprn, haux, hnul, false_or]
    split
    case isTrue hfour =>
      match base, hfour with
      | [a, b, c, d], _ =>
        have hstem : name.take 3 = [a, b, c] := by rw [← hsplit]; rfl
        have hdigit : byteAt name 3 = d := by rw [← hsplit]; rfl
        have hport (stem : Bytes) (digit : UInt8) (hstem : stem.length = 3) :
            [a, b, c, d].map asciiUpper = stem ++ [digit] ↔
              [a, b, c].map asciiUpper = stem ∧ asciiUpper d = digit := by
          match stem, hstem with
          | [x, y, z], _ => simp [and_assoc]
        simp only [hstem, hdigit, Bool.and_eq_true, Bool.or_eq_true, beq_iff_eq,
          decide_eq_true_eq, and_assoc, digit_iff, hport (ascii ['C', 'O', 'M']) _ rfl,
          hport (ascii ['L', 'P', 'T']) _ rfl]
        constructor
        · rintro ⟨hletters, hd⟩
          exact ⟨_, hd, hletters.imp (⟨·, rfl⟩) (⟨·, rfl⟩)⟩
        · rintro ⟨digit, hd, ⟨hletters, rfl⟩ | ⟨hletters, rfl⟩⟩
          · exact ⟨.inl hletters, hd⟩
          · exact ⟨.inr hletters, hd⟩
    case isFalse hfour =>
      refine iff_of_false Bool.false_ne_true ?_
      rintro ⟨digit, -, heq | heq⟩
      all_goals exact hfour (by simpa [ascii] using congrArg List.length heq)

/-- A safe name, in the words of the sanitizer's purpose: it fits, holds neither control
nor forbidden bytes, ends in neither a space nor a dot and is not that of a device. -/
structure SafeName (name : Bytes) : Prop extends SafeFilename name where
  lastSpace : name.getLast? ≠ some (Char.toUInt8 ' ')
  notReserved : ¬ IsReserved (baseName name)

/-- What the sanitizer makes of an input. -/
def sanitized (input : Bytes) : Bytes :=
  sanitizePrefix (sanitizeCandidate input) ++ sanitizeCandidate input

/-- On an input that is not too long only the length of the result and the capacity
decide. -/
theorem filenameSanitize_eq {input : Bytes} (hinput : input.length ≤ filenameMaxBytes)
    (capacity : ℕ) :
    filenameSanitize (some input) (some capacity) =
      if filenameMaxBytes < (sanitized input).length then ⟨.tooLong, none, 0⟩
      else if capacity ≤ (sanitized input).length then
        ⟨.bufferTooSmall, if 0 < capacity then some [] else none, (sanitized input).length + 1⟩
      else ⟨.ok, some (sanitized input), (sanitized input).length + 1⟩ := by
  have hlength : (sanitized input).length =
      (sanitizeCandidate input).length + (sanitizePrefix (sanitizeCandidate input)).length := by
    rw [sanitized, List.length_append, Nat.add_comm]
  have hprefix : (sanitizePrefix (sanitizeCandidate input)).length ≤ filenameMaxBytes := by
    unfold sanitizePrefix
    split <;> decide
  have hlong : filenameMaxBytes - (sanitizePrefix (sanitizeCandidate input)).length <
      (sanitizeCandidate input).length ↔ filenameMaxBytes < (sanitized input).length := by
    omega
  simp only [filenameSanitize, if_neg (Nat.not_lt.mpr hinput), hlong, Nat.lt_succ_iff, ← hlength]
  rfl

/-- What a call comes to: a name that fits is written whole or, below its length and
terminator, not at all; everything else is too long. -/
inductive SanitizeOutcome (input : Bytes) (capacity : ℕ) : FilenameSanitized → Prop
  | tooLong (hlong : filenameMaxBytes < input.length ∨
      filenameMaxBytes < (sanitized input).length) :
      SanitizeOutcome input capacity ⟨.tooLong, none, 0⟩
  | bufferTooSmall (hinput : input.length ≤ filenameMaxBytes)
      (hfits : (sanitized input).length ≤ filenameMaxBytes)
      (hsmall : capacity ≤ (sanitized input).length) (output : Option Bytes)
      (hempty : output = none ∨ output = some []) :
      SanitizeOutcome input capacity ⟨.bufferTooSmall, output, (sanitized input).length + 1⟩
  | ok (hinput : input.length ≤ filenameMaxBytes)
      (hfits : (sanitized input).length ≤ filenameMaxBytes)
      (hroom : (sanitized input).length < capacity) :
      SanitizeOutcome input capacity ⟨.ok, some (sanitized input), (sanitized input).length + 1⟩

theorem filenameSanitize_outcome (input : Bytes) (capacity : ℕ) :
    SanitizeOutcome input capacity (filenameSanitize (some input) (some capacity)) := by
  by_cases hinput : input.length ≤ filenameMaxBytes
  · rw [filenameSanitize_eq hinput]
    split
    case isTrue hlong => exact .tooLong (.inr hlong)
    case isFalse hfits =>
      split
      case isTrue hsmall =>
        refine .bufferTooSmall hinput (Nat.not_lt.mp hfits) hsmall _ ?_
        by_cases hpositive : 0 < capacity
        · exact .inr (if_pos hpositive)
        · exact .inl (if_neg hpositive)
      case isFalse hroom => exact .ok hinput (Nat.not_lt.mp hfits) (Nat.not_le.mp hroom)
  · have hlong : filenameMaxBytes < input.length := Nat.not_le.mp hinput
    simp only [filenameSanitize, if_pos hlong]
    exact .tooLong (.inl hlong)

theorem getLast?_sanitizeCandidate (input : Bytes) :
    (sanitizeCandidate input).getLast? ≠ some (Char.toUInt8 ' ') := by
  unfold sanitizeCandidate
  extract_lets trimmed
  split
  · decide
  rename_i hkept
  have hne : trimmed ≠ [] := fun hempty => hkept (.inl hempty)
  have hlast := List.rdropWhile_last_not _ (input.map sanitizeByte) hne
  rw [List.getLast?_eq_some_getLast hne]
  intro hspace
  refine hlast ?_
  rw [Option.some.inj hspace]
  rfl

theorem sanitizePrefix_of_reserved {candidate : Bytes} (h : IsReserved (baseName candidate)) :
    sanitizePrefix candidate = ascii ['_'] :=
  if_pos ((isWindowsReservedDeviceName_iff candidate).mpr h)

theorem sanitizePrefix_of_notReserved {candidate : Bytes}
    (h : ¬ IsReserved (baseName candidate)) : sanitizePrefix candidate = [] :=
  if_neg (mt (isWindowsReservedDeviceName_iff candidate).mp h)

/-- Behind an underscore no name is reserved. -/
theorem not_isReserved_underscore {name : Bytes} (hfirst : name.head? = some (Char.toUInt8 '_')) :
    ¬ IsReserved name := by
  have hreserved : ∀ value ∈ reservedDeviceNames, value.head? ≠ some (Char.toUInt8 '_') := by
    decide +kernel
  intro h
  refine hreserved _ h ?_
  rw [List.head?_map, hfirst]
  rfl

/-- The result is safe when it fits. -/
theorem safeName_sanitized {input : Bytes} (hinput : input.length ≤ filenameMaxBytes)
    (hfits : (sanitized input).length ≤ filenameMaxBytes) : SafeName (sanitized input) := by
  have hroom : ¬ filenameCapacity ≤ (sanitized input).length := by
    simp only [filenameCapacity]
    omega
  have hcall : filenameSanitize (some input) (some filenameCapacity) =
      ⟨.ok, some (sanitized input), (sanitized input).length + 1⟩ := by
    rw [filenameSanitize_eq hinput, if_neg (Nat.not_lt.mpr hfits), if_neg hroom]
  have hsafe := safeFilename_of_sanitize (congrArg FilenameSanitized.result hcall)
    (congrArg FilenameSanitized.output hcall)
  have hne := (safeFilename_sanitizeCandidate hinput).nonempty
  refine ⟨hsafe, ?_, ?_⟩
  · rw [sanitized, List.getLast?_append_of_ne_nil _ hne]
    exact getLast?_sanitizeCandidate input
  · by_cases hreserved : IsReserved (baseName (sanitizeCandidate input))
    · rw [sanitized, sanitizePrefix_of_reserved hreserved]
      exact not_isReserved_underscore rfl
    · rwa [sanitized, sanitizePrefix_of_notReserved hreserved]

/-- A safe name has nothing to replace, to trim or to prefix. -/
theorem sanitized_of_safeName {name : Bytes} (hsafe : SafeName name) : sanitized name = name := by
  have hbytes : name.map sanitizeByte = name := by
    refine (List.map_congr_left fun value hvalue => ?_).trans (List.map_id name)
    obtain ⟨hcontrol, hforbidden⟩ := hsafe.bytes value hvalue
    rw [sanitizeByte, hcontrol, hforbidden]
    rfl
  have htrimmed : name.rdropWhile (fun value =>
      value == Char.toUInt8 ' ' || value == Char.toUInt8 '.') = name := by
    rw [List.rdropWhile_eq_self_iff]
    intro hne hlast
    have hspace := hsafe.lastSpace
    have hdot := hsafe.lastByte
    rw [List.getLast?_eq_some_getLast hne] at hspace hdot
    rcases Bool.or_eq_true_iff.mp hlast with heq | heq
    · exact hspace (congrArg some (beq_iff_eq.mp heq))
    · exact hdot (congrArg some (beq_iff_eq.mp heq))
  have hkept : ¬ (name = [] ∨ name = ascii ['.'] ∨ name = ascii ['.', '.']) := by
    rintro (rfl | rfl | rfl)
    · exact hsafe.nonempty rfl
    · exact hsafe.lastByte rfl
    · exact hsafe.lastByte rfl
  have hcandidate : sanitizeCandidate name = name := by
    rw [sanitizeCandidate, hbytes, htrimmed]
    exact if_neg hkept
  rw [sanitized, hcandidate, sanitizePrefix_of_notReserved hsafe.notReserved, List.nil_append]

/-! ## Windows' rule -/

/-- A name without the spaces at its end. -/
def dropSpaces (name : Bytes) : Bytes := name.rdropWhile fun value => value == Char.toUInt8 ' '

/-- The name denotes a device: its part before the first dot or colon, without the spaces at
its end, is a reserved name. -/
def DenotesDevice (name : Bytes) : Prop :=
  IsReserved (dropSpaces (name.takeWhile fun value =>
    value != Char.toUInt8 '.' && value != Char.toUInt8 ':'))

instance (name : Bytes) : Decidable (DenotesDevice name) :=
  inferInstanceAs (Decidable (IsReserved _))

/-- A reserved name that is followed by spaces. -/
def SpacedDevice (base : Bytes) : Prop :=
  base.getLast? = some (Char.toUInt8 ' ') ∧ IsReserved (dropSpaces base)

/-- The input's part before its first dot is a reserved name with spaces behind it, and
they stay behind it because what follows is not only spaces and dots. -/
def HidesDevice (input : Bytes) : Prop :=
  SpacedDevice (baseName input) ∧
    ∃ value ∈ input.dropWhile fun value => value != Char.toUInt8 '.',
      value ≠ Char.toUInt8 ' ' ∧ value ≠ Char.toUInt8 '.'

theorem not_isReserved_of_space {base : Bytes} (hlast : base.getLast? = some (Char.toUInt8 ' ')) :
    ¬ IsReserved base := by
  have hreserved : ∀ value ∈ reservedDeviceNames, value.getLast? ≠ some (Char.toUInt8 ' ') := by
    decide +kernel
  intro h
  refine hreserved _ h ?_
  rw [List.getLast?_map, hlast]
  rfl

theorem dropSpaces_eq_self {name : Bytes} (hlast : name.getLast? ≠ some (Char.toUInt8 ' ')) :
    dropSpaces name = name := by
  rw [dropSpaces, List.rdropWhile_eq_self_iff]
  intro hne hspace
  rw [List.getLast?_eq_some_getLast hne] at hlast
  exact hlast (congrArg some (beq_iff_eq.mp hspace))

private theorem takeWhile_congr {p q : UInt8 → Bool} {name : Bytes}
    (hsame : ∀ value ∈ name, p value = q value) : name.takeWhile p = name.takeWhile q := by
  induction name with
  | nil => rfl
  | cons value name ih =>
      obtain ⟨hvalue, hname⟩ := List.forall_mem_cons.mp hsame
      rw [List.takeWhile_cons, List.takeWhile_cons, hvalue, ih hname]

/-- In a safe name there is no colon, so that only the spaces make a difference. -/
theorem denotesDevice_iff_of_safeName {name : Bytes} (hsafe : SafeName name) :
    DenotesDevice name ↔ SpacedDevice (baseName name) := by
  have hbase : (name.takeWhile fun value =>
      value != Char.toUInt8 '.' && value != Char.toUInt8 ':') = baseName name := by
    refine takeWhile_congr fun value hvalue => ?_
    have hcolon : value ≠ Char.toUInt8 ':' := by
      rintro rfl
      exact absurd (hsafe.bytes _ hvalue).2 (by decide)
    rw [bne_iff_ne.mpr hcolon, Bool.and_true]
  rw [DenotesDevice, hbase, SpacedDevice]
  constructor
  · intro hdevice
    refine ⟨?_, hdevice⟩
    by_contra hlast
    rw [dropSpaces_eq_self hlast] at hdevice
    exact hsafe.notReserved hdevice
  · exact And.right

/-- The suffix of the staging name does not matter. -/
theorem denotesDevice_part (name : Bytes) :
    DenotesDevice (name ++ ascii ['.', 'p', 'a', 'r', 't']) ↔ DenotesDevice name := by
  have hpart : ((name ++ ascii ['.', 'p', 'a', 'r', 't']).takeWhile fun value =>
      value != Char.toUInt8 '.' && value != Char.toUInt8 ':') =
        name.takeWhile fun value => value != Char.toUInt8 '.' && value != Char.toUInt8 ':' := by
    rw [List.takeWhile_append]
    split
    case isTrue hall =>
      have hwhole := (List.takeWhile_prefix _).eq_of_length hall
      rw [hwhole]
      exact List.append_nil name
    case isFalse => rfl
  rw [DenotesDevice, DenotesDevice, hpart]

private theorem sanitizeByte_eq_iff {value kept : UInt8}
    (hkept : kept ≠ Char.toUInt8 '_' ∧ asciiIsControl kept = false ∧
      isWindowsForbidden kept = false) : sanitizeByte value = kept ↔ value = kept := by
  by_cases hvalue : (asciiIsControl value || isWindowsForbidden value) = true
  · rw [sanitizeByte, if_pos hvalue]
    refine iff_of_false hkept.1.symm ?_
    rintro rfl
    rw [hkept.2.1, hkept.2.2] at hvalue
    cases hvalue
  · rw [sanitizeByte, if_neg hvalue]

private theorem sanitizeByte_dot (value : UInt8) :
    (sanitizeByte value == Char.toUInt8 '.') = (value == Char.toUInt8 '.') := by
  rw [Bool.eq_iff_iff, beq_iff_eq, beq_iff_eq]
  exact sanitizeByte_eq_iff (by decide)

private theorem sanitizeByte_space (value : UInt8) :
    (sanitizeByte value == Char.toUInt8 ' ') = (value == Char.toUInt8 ' ') := by
  rw [Bool.eq_iff_iff, beq_iff_eq, beq_iff_eq]
  exact sanitizeByte_eq_iff (by decide)

/-- The letters and digits of the reserved names are not made by replacing. -/
private theorem isReserved_map_sanitizeByte (base : Bytes) :
    IsReserved (base.map sanitizeByte) ↔ IsReserved base := by
  have hwords : ∀ word ∈ reservedDeviceNames, ∀ value ∈ word, value ≠ Char.toUInt8 '_' ∧
      asciiIsControl value = false ∧ isWindowsForbidden value = false := by
    decide +kernel
  have hupper : ∀ value : UInt8, (asciiIsControl value || isWindowsForbidden value) = true →
      asciiUpper value = value := by
    rintro ⟨bits⟩
    revert bits
    decide +kernel
  have hsame (hkept : ∀ value ∈ base, (asciiIsControl value || isWindowsForbidden value) = false) :
      base.map sanitizeByte = base := by
    refine (List.map_congr_left fun value hvalue => ?_).trans (List.map_id base)
    rw [sanitizeByte, hkept value hvalue]
    rfl
  constructor
  · intro hreserved
    rwa [hsame] at hreserved
    intro value hvalue
    by_contra hreplaced
    have hunderscore : asciiUpper (sanitizeByte value) = Char.toUInt8 '_' := by
      rw [sanitizeByte, if_pos (Bool.not_eq_false _ ▸ hreplaced)]
      rfl
    exact (hwords _ hreserved _ (List.mem_map_of_mem (List.mem_map_of_mem hvalue))).1 hunderscore
  · intro hreserved
    rwa [hsame]
    intro value hvalue
    by_contra hreplaced
    have hbad : (asciiIsControl value || isWindowsForbidden value) = true :=
      Bool.not_eq_false _ ▸ hreplaced
    obtain ⟨-, hcontrol, hforbidden⟩ :=
      hwords _ hreserved _ (List.mem_map_of_mem hvalue)
    rw [hupper value hbad] at hcontrol hforbidden
    rw [hcontrol, hforbidden] at hbad
    cases hbad

/-- Replacing bytes changes neither where the first dot is nor what is reserved. -/
theorem hidesDevice_map (input : Bytes) :
    HidesDevice (input.map sanitizeByte) ↔ HidesDevice input := by
  have hdot : ((fun value => value != Char.toUInt8 '.') ∘ sanitizeByte) =
      fun value => value != Char.toUInt8 '.' := by
    funext value
    simp only [Function.comp_apply, bne, sanitizeByte_dot]
  have hspace : ((fun value => value == Char.toUInt8 ' ') ∘ sanitizeByte) =
      fun value => value == Char.toUInt8 ' ' := by
    funext value
    simp only [Function.comp_apply, sanitizeByte_space]
  have hbase : baseName (input.map sanitizeByte) = (baseName input).map sanitizeByte := by
    rw [baseName, List.takeWhile_map, hdot, baseName]
  have hdrop : dropSpaces ((baseName input).map sanitizeByte) =
      (dropSpaces (baseName input)).map sanitizeByte := by
    rw [dropSpaces, List.rdropWhile, ← List.map_reverse, List.dropWhile_map, hspace,
      ← List.map_reverse, dropSpaces, List.rdropWhile]
  have hlast : ((baseName input).map sanitizeByte).getLast? = some (Char.toUInt8 ' ') ↔
      (baseName input).getLast? = some (Char.toUInt8 ' ') := by
    rw [List.getLast?_map, Option.map_eq_some_iff]
    constructor
    · rintro ⟨value, hvalue, heq⟩
      rw [hvalue, (sanitizeByte_eq_iff (by decide)).mp heq]
    · intro hvalue
      exact ⟨_, hvalue, by decide⟩
  have hrest : (∃ value ∈ (input.map sanitizeByte).dropWhile (fun value =>
        value != Char.toUInt8 '.'), value ≠ Char.toUInt8 ' ' ∧ value ≠ Char.toUInt8 '.') ↔
      ∃ value ∈ input.dropWhile (fun value => value != Char.toUInt8 '.'),
        value ≠ Char.toUInt8 ' ' ∧ value ≠ Char.toUInt8 '.' := by
    rw [List.dropWhile_map, hdot]
    simp only [List.mem_map, exists_exists_and_eq_and, ne_eq,
      sanitizeByte_eq_iff (show Char.toUInt8 ' ' ≠ _ ∧ _ ∧ _ by decide),
      sanitizeByte_eq_iff (show Char.toUInt8 '.' ≠ _ ∧ _ ∧ _ by decide)]
  rw [HidesDevice, hrest, SpacedDevice, hbase, hlast, hdrop, isReserved_map_sanitizeByte]
  rfl

private theorem rdropWhile_append (p : UInt8 → Bool) (base rest : Bytes) :
    (base ++ rest).rdropWhile p =
      if rest.rdropWhile p = [] then base.rdropWhile p else base ++ rest.rdropWhile p := by
  by_cases hempty : rest.rdropWhile p = []
  · have hrest : (rest.reverse.dropWhile p).isEmpty = true :=
      List.isEmpty_iff.mpr (List.reverse_eq_nil_iff.mp hempty)
    rw [if_pos hempty, List.rdropWhile, List.reverse_append, List.dropWhile_append, if_pos hrest,
      List.rdropWhile]
  · have hrest : ¬ (rest.reverse.dropWhile p).isEmpty = true := fun h =>
      hempty (List.reverse_eq_nil_iff.mpr (List.isEmpty_iff.mp h))
    rw [if_neg hempty, List.rdropWhile, List.reverse_append, List.dropWhile_append, if_neg hrest,
      List.reverse_append, List.reverse_reverse, List.rdropWhile]

/-- What the sanitizer trims. -/
def trimmed (name : Bytes) : Bytes :=
  name.rdropWhile fun value => value == Char.toUInt8 ' ' || value == Char.toUInt8 '.'

theorem trimmed_append (base rest : Bytes) :
    trimmed (base ++ rest) =
      if trimmed rest = [] then trimmed base else base ++ trimmed rest :=
  rdropWhile_append _ base rest

theorem getLast?_trimmed (name : Bytes) : (trimmed name).getLast? ≠ some (Char.toUInt8 ' ') := by
  intro hspace
  have hne : trimmed name ≠ [] := by
    intro hempty
    rw [hempty] at hspace
    cases hspace
  rw [List.getLast?_eq_some_getLast hne] at hspace
  have hvalue := Option.some.inj hspace
  refine List.rdropWhile_last_not _ name hne ?_
  unfold trimmed at hvalue
  rw [hvalue]
  rfl

/-- The spaces behind a reserved name survive the trimming exactly if something follows
the dot that is not trimmed. -/
theorem spacedDevice_trimmed (name : Bytes) :
    SpacedDevice (baseName (trimmed name)) ↔ HidesDevice name := by
  let base := baseName name
  let rest := name.dropWhile fun value => value != Char.toUInt8 '.'
  have hsplit : base ++ rest = name := List.takeWhile_append_dropWhile
  have hbase : ∀ value ∈ base, value ≠ Char.toUInt8 '.' := by
    intro value hvalue
    simpa using List.mem_takeWhile_imp hvalue
  by_cases hrest : trimmed rest = []
  · have hall : ∀ value ∈ rest, value = Char.toUInt8 ' ' ∨ value = Char.toUInt8 '.' := by
      intro value hvalue
      simpa using List.rdropWhile_eq_nil_iff.mp hrest value hvalue
    have htrimmed : trimmed name = trimmed base := by
      rw [← hsplit, trimmed_append, if_pos hrest]
    have hwhole : baseName (trimmed base) = trimmed base := by
      refine List.takeWhile_eq_self_iff.mpr fun value hvalue => bne_iff_ne.mpr ?_
      exact hbase value ((List.rdropWhile_prefix _ _).subset hvalue)
    rw [htrimmed, hwhole]
    refine iff_of_false (fun h => getLast?_trimmed base h.1) ?_
    rintro ⟨-, value, hvalue, hspace, hdot⟩
    exact (hall value hvalue).elim hspace hdot
  · have hmore : ∃ value ∈ rest, value ≠ Char.toUInt8 ' ' ∧ value ≠ Char.toUInt8 '.' := by
      by_contra hnone
      refine hrest (List.rdropWhile_eq_nil_iff.mpr fun value hvalue => ?_)
      by_contra htrim
      simp only [Bool.or_eq_true, beq_iff_eq, not_or] at htrim
      exact hnone ⟨value, hvalue, htrim⟩
    have hdot : ∃ more, trimmed rest = Char.toUInt8 '.' :: more := by
      have hprefix : trimmed rest <+: rest := List.rdropWhile_prefix _ _
      obtain ⟨value, more, hcons⟩ := List.exists_cons_of_ne_nil hrest
      rw [hcons] at hprefix
      obtain ⟨suffix, hsuffix⟩ := hprefix
      have hhead : rest.head? = some value := by
        rw [← hsuffix]
        rfl
      have hvalue := List.head?_dropWhile_not (fun value => value != Char.toUInt8 '.') name
      rw [show (name.dropWhile _).head? = some value from hhead] at hvalue
      refine ⟨more, hcons.trans ?_⟩
      rw [show value = Char.toUInt8 '.' by simpa using hvalue]
    have htrimmed : baseName (trimmed name) = base := by
      obtain ⟨more, hmore⟩ := hdot
      have hwhole : trimmed name = base ++ trimmed rest := by
        rw [← hsplit, trimmed_append, if_neg hrest]
      rw [hwhole, hmore, baseName, List.takeWhile_append_of_pos fun value hvalue =>
        bne_iff_ne.mpr (hbase value hvalue)]
      exact List.append_nil base
    rw [htrimmed]
    exact (and_iff_left hmore).symm

/-- A candidate hides a device exactly if the input does. -/
theorem spacedDevice_sanitizeCandidate (input : Bytes) :
    SpacedDevice (baseName (sanitizeCandidate input)) ↔ HidesDevice input := by
  rw [← hidesDevice_map, ← spacedDevice_trimmed]
  have hcandidate : sanitizeCandidate input = if trimmed (input.map sanitizeByte) = [] ∨
      trimmed (input.map sanitizeByte) = ascii ['.'] ∨
        trimmed (input.map sanitizeByte) = ascii ['.', '.'] then ascii ['f', 'i', 'l', 'e']
      else trimmed (input.map sanitizeByte) := rfl
  rw [hcandidate]
  split
  case isTrue hfallback =>
    have hempty : ¬ SpacedDevice [] := fun h => absurd h.1 (by decide)
    refine iff_of_false (fun h => absurd h.1 (by decide)) ?_
    rcases hfallback with heq | heq | heq
    all_goals
      rw [heq]
      exact hempty
  case isFalse => exact Iff.rfl

/-- The underscore goes before no candidate that hides a device, and hides none itself. -/
theorem spacedDevice_sanitized (input : Bytes) :
    SpacedDevice (baseName (sanitized input)) ↔ HidesDevice input := by
  rw [← spacedDevice_sanitizeCandidate]
  by_cases hreserved : IsReserved (baseName (sanitizeCandidate input))
  · rw [sanitized, sanitizePrefix_of_reserved hreserved]
    refine iff_of_false ?_ fun h => not_isReserved_of_space h.1 hreserved
    rintro ⟨-, hdevice⟩
    have hprefix : dropSpaces (baseName (ascii ['_'] ++ sanitizeCandidate input)) <+:
        Char.toUInt8 '_' :: baseName (sanitizeCandidate input) := List.rdropWhile_prefix _ _
    rcases List.prefix_cons_iff.mp hprefix with hempty | ⟨rest, hcons, -⟩
    · rw [hempty] at hdevice
      exact absurd hdevice (by decide +kernel)
    · rw [hcons] at hdevice
      exact not_isReserved_underscore rfl hdevice
  · rw [sanitized, sanitizePrefix_of_notReserved hreserved, List.nil_append]

/-- What the sanitizer writes on success is what it makes of the input. -/
theorem sanitized_of_ok {input name : Bytes} {capacity : ℕ}
    (hok : (filenameSanitize (some input) (some capacity)).result = .ok)
    (hname : (filenameSanitize (some input) (some capacity)).output = some name) :
    name = sanitized input ∧ SafeName name := by
  have houtcome := filenameSanitize_outcome input capacity
  generalize filenameSanitize (some input) (some capacity) = r at houtcome hok hname
  cases houtcome with
  | tooLong => cases hok
  | bufferTooSmall => cases hok
  | ok hinput hfits _ =>
      obtain rfl := Option.some.inj hname
      exact ⟨rfl, safeName_sanitized hinput hfits⟩

/-- Neither the name that the sanitizer writes nor the name of its staging file denotes a
device, exactly if the input does not hide one: the part before its first dot is a
reserved name with spaces behind it, and something is left behind the dot. -/
theorem sanitized_denotesDevice {input name : Bytes} {capacity : ℕ}
    (hok : (filenameSanitize (some input) (some capacity)).result = .ok)
    (hname : (filenameSanitize (some input) (some capacity)).output = some name) :
    (¬ DenotesDevice name ∧ ¬ DenotesDevice (name ++ ascii ['.', 'p', 'a', 'r', 't'])) ↔
      ¬ HidesDevice input := by
  obtain ⟨rfl, hsafe⟩ := sanitized_of_ok hok hname
  rw [denotesDevice_part, and_self, denotesDevice_iff_of_safeName hsafe, spacedDevice_sanitized]

/-- The name `con.txt` is not one of a device any more. -/
theorem sanitized_denotesDevice_con :
    (¬ DenotesDevice (ascii ['_', 'c', 'o', 'n', '.', 't', 'x', 't']) ∧
      ¬ DenotesDevice (ascii ['_', 'c', 'o', 'n', '.', 't', 'x', 't'] ++
        ascii ['.', 'p', 'a', 'r', 't'])) ↔
      ¬ HidesDevice (ascii ['c', 'o', 'n', '.', 't', 'x', 't']) :=
  @sanitized_denotesDevice (ascii ['c', 'o', 'n', '.', 't', 'x', 't']) _ 121 (by decide)
    (by decide)

/-- The name `CON .txt` passes the sanitizer and denotes the console, as does its staging
file's. -/
theorem sanitized_denotesDevice_spaced :
    filenameSanitize (some (ascii ['C', 'O', 'N', ' ', '.', 't', 'x', 't'])) (some 121) =
        ⟨.ok, some (ascii ['C', 'O', 'N', ' ', '.', 't', 'x', 't']), 9⟩ ∧
      DenotesDevice (ascii ['C', 'O', 'N', ' ', '.', 't', 'x', 't']) ∧
      DenotesDevice (ascii ['C', 'O', 'N', ' ', '.', 't', 'x', 't'] ++
        ascii ['.', 'p', 'a', 'r', 't']) := by
  decide +kernel

end PrintDrop
