/-
# Byte strings, pointer arguments and fixed-width integers on the wire

The integer writers and readers are the static helpers that `frame.c`,
`file_begin.c` and `ack.c` each carry in the same words. They shift and mask
machine words; the lemmas here identify them with base-256 numerals, which is
the form every codec proof uses.
-/

import PrintDrop.Math.BigEndian
import Mathlib.Data.Nat.Bitwise

namespace PrintDrop

open Math

/-- A run of bytes in memory or on the wire. -/
abbrev Bytes := List UInt8

/-- A `const uint8_t *` argument with the size passed beside it. A null pointer
may come with any size; any other pointer addresses exactly that many bytes. -/
inductive Buffer
  | null (size : ℕ)
  | bytes (data : Bytes)
  deriving DecidableEq, Repr

namespace Buffer

/-- The size argument. -/
def size : Buffer → ℕ
  | .null size => size
  | .bytes data => data.length

/-- The bytes a non-null pointer addresses. -/
def data? : Buffer → Option Bytes
  | .null _ => none
  | .bytes data => some data

/-- The pointer is null although its size is not zero. -/
def isInvalid : Buffer → Bool
  | .null size => size != 0
  | .bytes _ => false

@[simp] theorem size_null (size : ℕ) : (Buffer.null size).size = size := rfl
@[simp] theorem size_bytes (data : Bytes) : (Buffer.bytes data).size = data.length := rfl
@[simp] theorem data?_null (size : ℕ) : (Buffer.null size).data? = none := rfl
@[simp] theorem data?_bytes (data : Bytes) : (Buffer.bytes data).data? = some data := rfl
@[simp] theorem isInvalid_null (size : ℕ) : (Buffer.null size).isInvalid = (size != 0) := rfl
@[simp] theorem isInvalid_bytes (data : Bytes) : (Buffer.bytes data).isInvalid = false := rfl

end Buffer

/-- `input[index]`, for an index the caller has checked to be in range. -/
def byteAt (input : Bytes) (index : ℕ) : UInt8 := input.getD index 0

/-- A loop that or-s differences together ends with zero if there is none. -/
theorem foldl_or_eq_zero {ι : Type} (difference : ι → UInt8) :
    ∀ (indices : List ι) (start : UInt8),
      indices.foldl (fun acc index => acc ||| difference index) start = 0 ↔
        start = 0 ∧ ∀ index ∈ indices, difference index = 0
  | [], start => by simp
  | index :: rest, start => by
      rw [List.foldl_cons, foldl_or_eq_zero difference rest]
      simp [UInt8.or_eq_zero_iff, and_assoc]

/-- The two bytes of a word, the high one first. -/
def writeU16BE (value : UInt16) : Bytes :=
  [(value >>> 8).toUInt8, value.toUInt8]

/-- The four bytes of a word, the high one first. -/
def writeU32BE (value : UInt32) : Bytes :=
  [(value >>> 24).toUInt8, (value >>> 16).toUInt8, (value >>> 8).toUInt8, value.toUInt8]

/-- The eight bytes of a word, the high one first. -/
def writeU64BE (value : UInt64) : Bytes :=
  [(value >>> 56).toUInt8, (value >>> 48).toUInt8, (value >>> 40).toUInt8,
    (value >>> 32).toUInt8, (value >>> 24).toUInt8, (value >>> 16).toUInt8,
    (value >>> 8).toUInt8, value.toUInt8]

/-- Shifting and casting writes the base-256 digits of the number. -/
theorem writeU16BE_eq_bigEndian (value : UInt16) :
    writeU16BE value = bigEndian 2 value.toNat := by
  simp only [writeU16BE, bigEndian, List.nil_append, List.cons_append, List.cons.injEq, and_true]
  constructor <;>
    · apply UInt8.toNat_inj.mp
      simp [Nat.shiftRight_eq_div_pow]

/-- The same of four bytes. -/
theorem writeU32BE_eq_bigEndian (value : UInt32) :
    writeU32BE value = bigEndian 4 value.toNat := by
  simp only [writeU32BE, bigEndian, List.nil_append, List.cons_append, List.cons.injEq, and_true]
  refine ⟨?_, ?_, ?_, ?_⟩ <;>
    · apply UInt8.toNat_inj.mp
      simp [Nat.shiftRight_eq_div_pow, Nat.div_div_eq_div_mul]

/-- The same of eight bytes. -/
theorem writeU64BE_eq_bigEndian (value : UInt64) :
    writeU64BE value = bigEndian 8 value.toNat := by
  simp only [writeU64BE, bigEndian, List.nil_append, List.cons_append, List.cons.injEq, and_true]
  refine ⟨?_, ?_, ?_, ?_, ?_, ?_, ?_, ?_⟩ <;>
    · apply UInt8.toNat_inj.mp
      simp [Nat.shiftRight_eq_div_pow, Nat.div_div_eq_div_mul]

/-- A word survives the cast to a byte and back exactly when it fits a byte. -/
theorem toUInt8_toUInt32_eq_iff {value : UInt32} :
    value.toUInt8.toUInt32 = value ↔ value.toNat < 256 := by
  rw [← UInt32.toNat_inj, UInt8.toNat_toUInt32, UInt32.toNat_toUInt8]
  exact Nat.mod_eq_iff_lt (by decide)

/-- The word of the first two bytes. -/
def readU16BE (input : Bytes) : UInt16 :=
  (byteAt input 0).toUInt16 <<< 8 ||| (byteAt input 1).toUInt16

/-- The word of the first four bytes. -/
def readU32BE (input : Bytes) : UInt32 :=
  (byteAt input 0).toUInt32 <<< 24 ||| (byteAt input 1).toUInt32 <<< 16 |||
    (byteAt input 2).toUInt32 <<< 8 ||| (byteAt input 3).toUInt32

/-- The word of the first eight bytes. -/
def readU64BE (input : Bytes) : UInt64 :=
  (byteAt input 0).toUInt64 <<< 56 ||| (byteAt input 1).toUInt64 <<< 48 |||
    (byteAt input 2).toUInt64 <<< 40 ||| (byteAt input 3).toUInt64 <<< 32 |||
    (byteAt input 4).toUInt64 <<< 24 ||| (byteAt input 5).toUInt64 <<< 16 |||
    (byteAt input 6).toUInt64 <<< 8 ||| (byteAt input 7).toUInt64

/-- Or-ing a byte in directly below a shifted number appends one digit to it. -/
private theorem shiftLeft_or_digit {high digit : ℕ} (top shift : ℕ) (htop : top = shift + 8)
    (hdigit : digit < 2 ^ 8) :
    high * 2 ^ top ||| digit * 2 ^ shift = (high * 256 + digit) * 2 ^ shift := by
  have hlow : digit * 2 ^ shift < 2 ^ top := by
    rw [htop, pow_add, Nat.mul_comm (2 ^ shift)]
    exact Nat.mul_lt_mul_of_pos_right hdigit (Nat.two_pow_pos shift)
  rw [Nat.mul_comm high, ← Nat.two_pow_add_eq_or_of_lt hlow high, htop, pow_add]
  ring

/-- The unshifted case of the last byte. -/
private theorem shiftLeft_or_last {high digit : ℕ} (hdigit : digit < 2 ^ 8) :
    high * 2 ^ 8 ||| digit = high * 256 + digit := by
  simpa using shiftLeft_or_digit 8 0 rfl hdigit

/-- Casting and shifting reads the number that the bytes are the base-256 digits of. -/
theorem toNat_readU16BE (input : Bytes) :
    (readU16BE input).toNat = ofBigEndian [byteAt input 0, byteAt input 1] := by
  have h0 := (byteAt input 0).toNat_lt
  have h1 := (byteAt input 1).toNat_lt
  simp only [readU16BE, UInt16.toNat_or, UInt16.toNat_shiftLeft, UInt8.toNat_toUInt16,
    Nat.shiftLeft_eq, show (8 : UInt16).toNat % 16 = 8 from rfl]
  rw [Nat.mod_eq_of_lt (by omega), shiftLeft_or_last h1]
  simp [ofBigEndian]

/-- The same of four bytes. -/
theorem toNat_readU32BE (input : Bytes) :
    (readU32BE input).toNat =
      ofBigEndian [byteAt input 0, byteAt input 1, byteAt input 2, byteAt input 3] := by
  have h0 := (byteAt input 0).toNat_lt
  have h1 := (byteAt input 1).toNat_lt
  have h2 := (byteAt input 2).toNat_lt
  have h3 := (byteAt input 3).toNat_lt
  simp only [readU32BE, UInt32.toNat_or, UInt32.toNat_shiftLeft, UInt8.toNat_toUInt32,
    Nat.shiftLeft_eq, show (24 : UInt32).toNat % 32 = 24 from rfl,
    show (16 : UInt32).toNat % 32 = 16 from rfl, show (8 : UInt32).toNat % 32 = 8 from rfl]
  rw [Nat.mod_eq_of_lt (by omega), Nat.mod_eq_of_lt (by omega), Nat.mod_eq_of_lt (by omega),
    shiftLeft_or_digit 24 16 rfl h1, shiftLeft_or_digit 16 8 rfl h2, shiftLeft_or_last h3]
  simp [ofBigEndian]

/-- The same of eight bytes. -/
theorem toNat_readU64BE (input : Bytes) :
    (readU64BE input).toNat =
      ofBigEndian [byteAt input 0, byteAt input 1, byteAt input 2, byteAt input 3,
        byteAt input 4, byteAt input 5, byteAt input 6, byteAt input 7] := by
  have h0 := (byteAt input 0).toNat_lt
  have h1 := (byteAt input 1).toNat_lt
  have h2 := (byteAt input 2).toNat_lt
  have h3 := (byteAt input 3).toNat_lt
  have h4 := (byteAt input 4).toNat_lt
  have h5 := (byteAt input 5).toNat_lt
  have h6 := (byteAt input 6).toNat_lt
  have h7 := (byteAt input 7).toNat_lt
  simp only [readU64BE, UInt64.toNat_or, UInt64.toNat_shiftLeft, UInt8.toNat_toUInt64,
    Nat.shiftLeft_eq, show (56 : UInt64).toNat % 64 = 56 from rfl,
    show (48 : UInt64).toNat % 64 = 48 from rfl, show (40 : UInt64).toNat % 64 = 40 from rfl,
    show (32 : UInt64).toNat % 64 = 32 from rfl, show (24 : UInt64).toNat % 64 = 24 from rfl,
    show (16 : UInt64).toNat % 64 = 16 from rfl, show (8 : UInt64).toNat % 64 = 8 from rfl]
  rw [Nat.mod_eq_of_lt (by omega), Nat.mod_eq_of_lt (by omega), Nat.mod_eq_of_lt (by omega),
    Nat.mod_eq_of_lt (by omega), Nat.mod_eq_of_lt (by omega), Nat.mod_eq_of_lt (by omega),
    Nat.mod_eq_of_lt (by omega), shiftLeft_or_digit 56 48 rfl h1,
    shiftLeft_or_digit 48 40 rfl h2, shiftLeft_or_digit 40 32 rfl h3,
    shiftLeft_or_digit 32 24 rfl h4, shiftLeft_or_digit 24 16 rfl h5,
    shiftLeft_or_digit 16 8 rfl h6, shiftLeft_or_last h7]
  simp [ofBigEndian]

/-! ## Round trips

Each reader undoes its writer, whatever follows the written bytes. -/

/-- A word of two bytes is read as it was written. -/
theorem readU16BE_writeU16BE (value : UInt16) (rest : Bytes) :
    readU16BE (writeU16BE value ++ rest) = value := by
  apply UInt16.toNat_inj.mp
  rw [toNat_readU16BE]
  show ofBigEndian (writeU16BE value) = value.toNat
  rw [writeU16BE_eq_bigEndian, ofBigEndian_bigEndian_of_lt value.toNat_lt]

/-- A word of four bytes is read as it was written. -/
theorem readU32BE_writeU32BE (value : UInt32) (rest : Bytes) :
    readU32BE (writeU32BE value ++ rest) = value := by
  apply UInt32.toNat_inj.mp
  rw [toNat_readU32BE]
  show ofBigEndian (writeU32BE value) = value.toNat
  rw [writeU32BE_eq_bigEndian, ofBigEndian_bigEndian_of_lt value.toNat_lt]

/-- A word of eight bytes is read as it was written. -/
theorem readU64BE_writeU64BE (value : UInt64) (rest : Bytes) :
    readU64BE (writeU64BE value ++ rest) = value := by
  apply UInt64.toNat_inj.mp
  rw [toNat_readU64BE]
  show ofBigEndian (writeU64BE value) = value.toNat
  rw [writeU64BE_eq_bigEndian, ofBigEndian_bigEndian_of_lt value.toNat_lt]

/-- The accesses to the first bytes of a string give those bytes. -/
theorem map_byteAt_range {input : Bytes} {count : ℕ} (hcount : count ≤ input.length) :
    (List.range count).map (byteAt input) = input.take count := by
  apply List.ext_getElem
  · simp [hcount]
  · intro index hleft hright
    have hindex : index < input.length := by
      rw [List.length_take] at hright
      omega
    simp [byteAt, List.getElem?_eq_getElem hindex]

/-! Each writer undoes its reader. -/

/-- Two bytes that were read as a word are written as they were. -/
theorem writeU16BE_readU16BE {input : Bytes} (hlength : 2 ≤ input.length) :
    writeU16BE (readU16BE input) = input.take 2 := by
  rw [writeU16BE_eq_bigEndian, toNat_readU16BE, ← map_byteAt_range hlength]
  exact bigEndian_ofBigEndian [byteAt input 0, byteAt input 1]

/-- Four bytes that were read as a word are written as they were. -/
theorem writeU32BE_readU32BE {input : Bytes} (hlength : 4 ≤ input.length) :
    writeU32BE (readU32BE input) = input.take 4 := by
  rw [writeU32BE_eq_bigEndian, toNat_readU32BE, ← map_byteAt_range hlength]
  exact bigEndian_ofBigEndian
    [byteAt input 0, byteAt input 1, byteAt input 2, byteAt input 3]

/-- Eight bytes that were read as a word are written as they were. -/
theorem writeU64BE_readU64BE {input : Bytes} (hlength : 8 ≤ input.length) :
    writeU64BE (readU64BE input) = input.take 8 := by
  rw [writeU64BE_eq_bigEndian, toNat_readU64BE, ← map_byteAt_range hlength]
  exact bigEndian_ofBigEndian
    [byteAt input 0, byteAt input 1, byteAt input 2, byteAt input 3,
      byteAt input 4, byteAt input 5, byteAt input 6, byteAt input 7]

end PrintDrop
