/-
# Big-endian numerals over bytes

A fixed-width base-256 numeral, most significant digit first, and its reading.
The two are inverse to each other: on numbers below `256 ^ width` one way, on
byte strings of exactly `width` bytes the other way.
-/

import Mathlib.Data.List.Induction
import Mathlib.Tactic.Ring

namespace PrintDrop.Math

/-- The `width` low base-256 digits of a number, most significant first. -/
def bigEndian : ℕ → ℕ → List UInt8
  | 0, _ => []
  | width + 1, value => bigEndian width (value / 256) ++ [UInt8.ofNat value]

/-- The number a list of base-256 digits denotes, most significant first. -/
def ofBigEndian (digits : List UInt8) : ℕ :=
  digits.foldl (fun value digit => value * 256 + digit.toNat) 0

@[simp]
theorem length_bigEndian (width value : ℕ) : (bigEndian width value).length = width := by
  induction width generalizing value with
  | zero => rfl
  | succ width ih => simp [bigEndian, ih]

@[simp]
theorem ofBigEndian_nil : ofBigEndian [] = 0 := rfl

/-- The last digit is the least significant one. -/
@[simp]
theorem ofBigEndian_concat (digits : List UInt8) (digit : UInt8) :
    ofBigEndian (digits ++ [digit]) = ofBigEndian digits * 256 + digit.toNat := by
  simp [ofBigEndian]

/-- Reading a numeral back gives the number modulo what its width can hold. -/
theorem ofBigEndian_bigEndian (width value : ℕ) :
    ofBigEndian (bigEndian width value) = value % 256 ^ width := by
  induction width generalizing value with
  | zero => simp [bigEndian, Nat.mod_one]
  | succ width ih =>
      have hdigit : (UInt8.ofNat value).toNat = value % 256 := by simp
      rw [bigEndian, ofBigEndian_concat, ih, hdigit, pow_succ, Nat.mul_comm (256 ^ width),
        Nat.mod_mul]
      ring

/-- A number that fits is read back exactly. -/
theorem ofBigEndian_bigEndian_of_lt {width value : ℕ} (hfits : value < 256 ^ width) :
    ofBigEndian (bigEndian width value) = value := by
  rw [ofBigEndian_bigEndian, Nat.mod_eq_of_lt hfits]

/-- Writing what was read gives the digits back. -/
theorem bigEndian_ofBigEndian (digits : List UInt8) :
    bigEndian digits.length (ofBigEndian digits) = digits := by
  induction digits using List.reverseRecOn with
  | nil => rfl
  | append_singleton digits digit ih =>
      have hlow : digit.toNat < 256 := digit.toNat_lt
      have hquotient : (ofBigEndian digits * 256 + digit.toNat) / 256 = ofBigEndian digits := by
        omega
      have hdigit : UInt8.ofNat (ofBigEndian digits * 256 + digit.toNat) = digit := by
        apply UInt8.toNat_inj.mp
        simp only [UInt8.toNat_ofNat']
        omega
      rw [List.length_append, List.length_singleton, bigEndian, ofBigEndian_concat, hquotient,
        hdigit, ih]

end PrintDrop.Math
