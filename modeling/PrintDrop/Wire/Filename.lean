/-
# File names from untrusted metadata

`filename.c`: the sanitizer that every received name passes before it becomes
part of a path. A C string is the list of its bytes before the terminator.
-/

import PrintDrop.Wire.Bytes
import Mathlib.Data.List.DropRight

namespace PrintDrop

def filenameMaxBytes : ℕ := 120
def filenameCapacity : ℕ := filenameMaxBytes + 1

inductive FilenameResult
  | ok
  | invalidArgument
  | tooLong
  | bufferTooSmall
  deriving DecidableEq, Repr

/-- The bytes of an ASCII literal. -/
def ascii (literal : List Char) : Bytes := literal.map Char.toUInt8

def asciiIsControl (value : UInt8) : Bool := value < 0x20 || value == 0x7f

def isWindowsForbidden (value : UInt8) : Bool :=
  (ascii ['<', '>', ':', '"', '/', '\\', '|', '?', '*']).contains value

def asciiUpper (value : UInt8) : UInt8 :=
  if Char.toUInt8 'a' ≤ value ∧ value ≤ Char.toUInt8 'z' then
    value - (Char.toUInt8 'a' - Char.toUInt8 'A')
  else value

def asciiEqualPrefix (value literal : Bytes) : Bool :=
  value.length == literal.length &&
    (value.zip literal).all fun pair => asciiUpper pair.1 == pair.2

/-- `pd_is_windows_reserved_device_name`, on the part of the name before its
first dot. -/
def isWindowsReservedDeviceName (filename : Bytes) : Bool :=
  let base := filename.takeWhile fun value => value != Char.toUInt8 '.'
  if asciiEqualPrefix base (ascii ['C', 'O', 'N']) ||
      asciiEqualPrefix base (ascii ['P', 'R', 'N']) ||
      asciiEqualPrefix base (ascii ['A', 'U', 'X']) ||
      asciiEqualPrefix base (ascii ['N', 'U', 'L']) then
    true
  else if base.length = 4 then
    let stem := (filename.take 3).map asciiUpper
    let digit := byteAt filename 3
    (stem == ascii ['C', 'O', 'M'] || stem == ascii ['L', 'P', 'T']) &&
      Char.toUInt8 '1' ≤ digit && digit ≤ Char.toUInt8 '9'
  else false

/-- One byte of the candidate: control and forbidden bytes become underscores. -/
def sanitizeByte (value : UInt8) : UInt8 :=
  if asciiIsControl value || isWindowsForbidden value then Char.toUInt8 '_' else value

/-- The candidate before the device-name check: bytes replaced, spaces and dots
trimmed from the end, `file` when nothing is left. -/
def sanitizeCandidate (input : Bytes) : Bytes :=
  let trimmed := (input.map sanitizeByte).rdropWhile fun value =>
    value == Char.toUInt8 ' ' || value == Char.toUInt8 '.'
  if trimmed = [] ∨ trimmed = ascii ['.'] ∨ trimmed = ascii ['.', '.'] then
    ascii ['f', 'i', 'l', 'e']
  else trimmed

/-- The underscore that keeps a name from denoting a device. -/
def sanitizePrefix (candidate : Bytes) : Bytes :=
  if isWindowsReservedDeviceName candidate then ascii ['_'] else []

/-- What a call of `pd_filename_sanitize` leaves behind: its result, the string in
the output buffer if it wrote one, and the required capacity. -/
structure FilenameSanitized where
  result : FilenameResult
  output : Option Bytes
  requiredCapacity : ℕ
  deriving DecidableEq, Repr

/-- `pd_filename_sanitize`; a null output pointer is an absent capacity. -/
def filenameSanitize (input : Option Bytes) (outputCapacity : Option ℕ) : FilenameSanitized :=
  match input, outputCapacity with
  | some input, some capacity =>
    if filenameMaxBytes < input.length then ⟨.tooLong, none, 0⟩
    else
      let candidate := sanitizeCandidate input
      let pfx := sanitizePrefix candidate
      if filenameMaxBytes - pfx.length < candidate.length then ⟨.tooLong, none, 0⟩
      else
        let required := candidate.length + pfx.length + 1
        if capacity < required then
          ⟨.bufferTooSmall, if 0 < capacity then some [] else none, required⟩
        else ⟨.ok, some (pfx ++ candidate), required⟩
  | _, _ => ⟨.invalidArgument, none, 0⟩

/-- The sanitizer writes a whole name exactly when it reports success. -/
theorem filenameSanitize_ok {input : Bytes} {capacity : ℕ}
    (hok : (filenameSanitize (some input) (some capacity)).result = .ok) :
    ∃ name, (filenameSanitize (some input) (some capacity)).output = some name := by
  simp only [filenameSanitize] at hok ⊢
  split at hok
  · cases hok
  split at hok
  · cases hok
  split at hok
  · cases hok
  · rename_i hlong hprefixed hcapacity
    simp [hlong, hprefixed, hcapacity]

/-- A name that denotes a file in the directory it is used in: it is not empty, holds
neither control nor forbidden bytes and ends in no dot. -/
structure SafeFilename (name : Bytes) : Prop where
  nonempty : name ≠ []
  length : name.length ≤ filenameMaxBytes
  bytes : ∀ value ∈ name, asciiIsControl value = false ∧ isWindowsForbidden value = false
  lastByte : name.getLast? ≠ some (Char.toUInt8 '.')

private theorem sanitizeByte_safe (value : UInt8) :
    asciiIsControl (sanitizeByte value) = false ∧
      isWindowsForbidden (sanitizeByte value) = false := by
  by_cases hvalue : (asciiIsControl value || isWindowsForbidden value) = true
  · rw [sanitizeByte, if_pos hvalue]
    decide
  · rw [sanitizeByte, if_neg hvalue]
    simpa using hvalue

private theorem safeFilename_file : SafeFilename (ascii ['f', 'i', 'l', 'e']) :=
  ⟨by decide, by decide, by decide +kernel, by decide⟩

theorem safeFilename_sanitizeCandidate {input : Bytes} (hinput : input.length ≤ filenameMaxBytes) :
    SafeFilename (sanitizeCandidate input) := by
  unfold sanitizeCandidate
  extract_lets trimmed
  split
  · exact safeFilename_file
  rename_i hkept
  have hne : trimmed ≠ [] := fun hempty => hkept (.inl hempty)
  have htrimmed : trimmed <+: input.map sanitizeByte := List.rdropWhile_prefix _ _
  refine ⟨hne, ?_, ?_, ?_⟩
  · have hlength := htrimmed.length_le
    rw [List.length_map] at hlength
    omega
  · intro value hvalue
    obtain ⟨original, -, rfl⟩ := List.mem_map.mp (htrimmed.subset hvalue)
    exact sanitizeByte_safe original
  · have hlast := List.rdropWhile_last_not _ (input.map sanitizeByte) hne
    rw [List.getLast?_eq_some_getLast hne]
    intro hdot
    refine hlast ?_
    rw [Option.some.inj hdot]
    rfl

/-- Every name the sanitizer writes is safe. -/
theorem safeFilename_of_sanitize {input name : Bytes} {capacity : ℕ}
    (hok : (filenameSanitize (some input) (some capacity)).result = .ok)
    (hname : (filenameSanitize (some input) (some capacity)).output = some name) :
    SafeFilename name := by
  simp only [filenameSanitize] at hok hname
  split at hok
  · cases hok
  rename_i hinput
  split at hok
  · cases hok
  rename_i hcandidate
  split at hok
  · cases hok
  rename_i hcapacity
  rw [if_neg hinput, if_neg hcandidate, if_neg hcapacity] at hname
  obtain rfl := Option.some.inj hname
  have hsafe := safeFilename_sanitizeCandidate (Nat.not_lt.mp hinput)
  rw [sanitizePrefix] at hcandidate ⊢
  split
  · rename_i hreserved
    rw [if_pos hreserved] at hcandidate
    have hunderscore : asciiIsControl (Char.toUInt8 '_') = false ∧
        isWindowsForbidden (Char.toUInt8 '_') = false := by decide
    refine ⟨List.cons_ne_nil _ _, ?_, ?_, ?_⟩
    · simp only [ascii, List.map_cons, List.map_nil, List.length_append, List.length_cons,
        List.length_nil] at hcandidate ⊢
      have hbound : (sanitizeCandidate input).length ≤ filenameMaxBytes := hsafe.length
      simp only [filenameMaxBytes] at hcandidate hbound ⊢
      omega
    · intro value hvalue
      rcases List.mem_append.mp hvalue with hvalue | hvalue
      · rw [List.mem_singleton.mp hvalue]
        exact hunderscore
      · exact hsafe.bytes value hvalue
    · rw [List.getLast?_append_of_ne_nil _ hsafe.nonempty]
      exact hsafe.lastByte
  · exact hsafe

example : (filenameSanitize (some (ascii ['c', 'o', 'n', '.', 't', 'x', 't'])) (some 121)).output =
    some (ascii ['_', 'c', 'o', 'n', '.', 't', 'x', 't']) := by decide

end PrintDrop
