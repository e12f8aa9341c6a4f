/-
# Job identifiers

`job_id.c`: the directory of a transfer is named by 16 random bytes in lower-case
hexadecimal. The random source is outside the program; a draw from it either
fills the buffer or fails.
-/

import PrintDrop.Wire.Filename

namespace PrintDrop

/-- `PD_JOB_ID_BYTES`. -/
def jobIdBytes : ℕ := 16

/-- `PD_JOB_ID_HEX_CHARS`. -/
def jobIdHexChars : ℕ := jobIdBytes * 2

/-- `PD_JOB_ID_CAPACITY`, which leaves room for the terminator. -/
def jobIdCapacity : ℕ := jobIdHexChars + 1

/-- A draw of `PD_JOB_ID_BYTES` bytes; `none` where the random source fails. -/
abbrev RandomDraw := Option (Vector UInt8 16)

/-- `pd_job_id_result`. -/
inductive JobIdResult
  | ok
  | invalidArgument
  | entropyFailure
  deriving DecidableEq, Repr

/-- `pd_job_hex_digit`: the digit of the low four bits. -/
def jobHexDigit (value : UInt8) : UInt8 :=
  (ascii ['0', '1', '2', '3', '4', '5', '6', '7', '8', '9', 'a', 'b', 'c', 'd', 'e', 'f']).getD
    (value &&& 0x0f).toNat 0

/-- `pd_job_id_create`, with the draw its random source makes. -/
def jobIdCreate (random : RandomDraw) : JobIdResult × Bytes :=
  match random with
  | none => (.entropyFailure, [])
  | some bytes =>
    (.ok, bytes.toList.flatMap fun byte : UInt8 => [jobHexDigit (byte >>> 4), jobHexDigit byte])

/-- The characters that `pd_job_id_is_valid` lets through. -/
def isLowerHexDigit (character : UInt8) : Bool :=
  (Char.toUInt8 '0' ≤ character && character ≤ Char.toUInt8 '9') ||
    (Char.toUInt8 'a' ≤ character && character ≤ Char.toUInt8 'f')

/-- The digits are ASCII characters. -/
theorem ascii_of_isLowerHexDigit {character : UInt8} (hdigit : isLowerHexDigit character = true) :
    character < 0x80 := by
  have hnine : (Char.toUInt8 '9').toNat = 0x39 := rfl
  have hf : (Char.toUInt8 'f').toNat = 0x66 := rfl
  simp only [isLowerHexDigit, Bool.or_eq_true, Bool.and_eq_true, decide_eq_true_eq,
    UInt8.le_iff_toNat_le, hnine, hf] at hdigit
  rw [UInt8.lt_iff_toNat_lt]
  show character.toNat < 0x80
  omega

/-- `pd_job_id_is_valid`: the right length, and lower-case digits throughout. -/
def jobIdIsValid (value : Bytes) : Bool :=
  value.length == jobIdHexChars && value.all isLowerHexDigit

/-- The table holds lower-case digits only. -/
theorem isLowerHexDigit_jobHexDigit (value : UInt8) :
    isLowerHexDigit (jobHexDigit value) = true := by
  have hlow : (value &&& 0x0f).toNat < 16 := by
    rw [UInt8.toNat_and]
    exact Nat.lt_of_le_of_lt Nat.and_le_right (by decide)
  have hdigits : ∀ index < 16, isLowerHexDigit
      ((ascii ['0', '1', '2', '3', '4', '5', '6', '7', '8', '9', 'a', 'b', 'c', 'd', 'e',
        'f']).getD index 0) = true := by decide
  exact hdigits _ hlow

/-- Every byte is written as two digits. -/
theorem length_jobHexDigits (values : Bytes) :
    (values.flatMap fun byte : UInt8 => [jobHexDigit (byte >>> 4), jobHexDigit byte]).length =
      values.length * 2 := by
  induction values with
  | nil => rfl
  | cons value rest ih =>
      simp only [List.flatMap_cons, List.length_append, List.length_cons, List.length_nil, ih]
      omega

/-- All that is written of any bytes are lower-case digits. -/
theorem isLowerHexDigit_of_mem_jobHexDigits {values : Bytes} {character : UInt8}
    (hmem : character ∈
      values.flatMap fun byte : UInt8 => [jobHexDigit (byte >>> 4), jobHexDigit byte]) :
    isLowerHexDigit character = true := by
  obtain ⟨byte, -, hbyte⟩ := List.mem_flatMap.mp hmem
  simp only [List.mem_cons, List.not_mem_nil, or_false] at hbyte
  rcases hbyte with rfl | rfl <;> exact isLowerHexDigit_jobHexDigit _

/-- Every identifier that is created passes its own check. -/
theorem jobIdIsValid_jobIdCreate {random : RandomDraw}
    (hok : (jobIdCreate random).1 = .ok) : jobIdIsValid (jobIdCreate random).2 = true := by
  cases random with
  | none => cases hok
  | some bytes =>
      simp only [jobIdIsValid, jobIdCreate, Bool.and_eq_true, beq_iff_eq, List.all_eq_true]
      constructor
      · rw [length_jobHexDigits, Vector.length_toList]
        rfl
      · exact fun character hmem => isLowerHexDigit_of_mem_jobHexDigits hmem

end PrintDrop
