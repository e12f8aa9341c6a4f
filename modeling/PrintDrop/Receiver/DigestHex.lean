/-
# Digests as text

The part of `integrity.c` that reads and writes a digest as hexadecimal digits. The reader
takes upper-case digits too, and writes each byte of the digest as soon as it has read it.
-/

import PrintDrop.Receiver.Session
import PrintDrop.Wire.FileBegin

namespace PrintDrop

def sha256HexChars : ℕ := 64

inductive DigestResult
  | ok
  | invalidArgument
  | invalidHex
  deriving DecidableEq, Repr

/-- `pd_hex_value`. -/
def hexValue (character : UInt8) : ℤ :=
  if Char.toUInt8 '0' ≤ character ∧ character ≤ Char.toUInt8 '9' then
    (character.toNat : ℤ) - '0'.toNat
  else if Char.toUInt8 'a' ≤ character ∧ character ≤ Char.toUInt8 'f' then
    10 + ((character.toNat : ℤ) - 'a'.toNat)
  else if Char.toUInt8 'A' ≤ character ∧ character ≤ Char.toUInt8 'F' then
    10 + ((character.toNat : ℤ) - 'A'.toNat)
  else -1

/-- The byte of two digits. -/
def hexByte (high low : ℤ) : UInt8 := UInt8.ofNat (high.toNat <<< 4 ||| low.toNat)

def highDigit (hex : CString) (index : Fin 32) : ℤ := hexValue (byteAt hex.val (index.val * 2))
def lowDigit (hex : CString) (index : Fin 32) : ℤ := hexValue (byteAt hex.val (index.val * 2 + 1))

/-- The loop of `pd_sha256_from_hex`. -/
def sha256FromHexLoop (hex : CString) : List (Fin 32) → Digest → DigestResult × Digest
  | [], digest => (.ok, digest)
  | index :: rest, digest =>
    let high := highDigit hex index
    let low := lowDigit hex index
    if high < 0 ∨ low < 0 then (.invalidHex, digest)
    else sha256FromHexLoop hex rest (digest.setIfInBounds index.val (hexByte high low))

/-- `pd_sha256_from_hex`, with the digest that it leaves behind. -/
def sha256FromHex (hex : Option CString) (digest : Option Digest) :
    DigestResult × Option Digest :=
  match hex, digest with
  | some hex, some digest =>
    if hex.val.length ≠ sha256HexChars then (.invalidHex, some digest)
    else
      let (result, digest) := sha256FromHexLoop hex (List.finRange 32) digest
      (result, some digest)
  | _, digest => (.invalidArgument, digest)

/-- `pd_sha256_to_hex`. -/
def sha256ToHex (digest : Digest) : CString :=
  ⟨hexText digest.toList, zero_not_mem_hexText _⟩

theorem hexValue_hexDigit (value : UInt8) : hexValue (hexDigit value) = (value.toNat % 16 : ℕ) := by
  have hdigits : ∀ index < 16, hexValue
      ((ascii ['0', '1', '2', '3', '4', '5', '6', '7', '8', '9', 'a', 'b', 'c', 'd', 'e',
        'f']).getD index 0) = (index : ℤ) := by decide
  have hlow : (value &&& 0x0f).toNat = value.toNat % 16 := by
    rw [UInt8.toNat_and]
    exact Nat.and_two_pow_sub_one_eq_mod value.toNat 4
  rw [hexDigit, jobHexDigit, hlow]
  exact hdigits _ (Nat.mod_lt _ (by decide))

/-- The digits of a byte are read as this byte. -/
theorem hexByte_hexDigit (value : UInt8) :
    hexByte (hexValue (hexDigit (value >>> 4))) (hexValue (hexDigit value)) = value := by
  have hvalue := value.toNat_lt
  have hhigh : (value >>> 4).toNat = value.toNat / 16 := by
    rw [UInt8.toNat_shiftRight]
    exact Nat.shiftRight_eq_div_pow value.toNat 4
  rw [hexValue_hexDigit, hexValue_hexDigit, hhigh, hexByte, Int.toNat_natCast, Int.toNat_natCast,
    ← Nat.shiftLeft_add_eq_or_of_lt (Nat.mod_lt _ (by decide)), Nat.shiftLeft_eq]
  apply UInt8.toNat_inj.mp
  rw [UInt8.toNat_ofNat']
  omega

/-- Different bytes have different texts. -/
theorem hexText_injective : Function.Injective hexText := by
  intro first
  induction first with
  | nil =>
      intro second hsame
      cases second with
      | nil => rfl
      | cons value rest => cases hsame
  | cons value rest ih =>
      intro second hsame
      cases second with
      | nil => cases hsame
      | cons other others =>
          simp only [hexText, List.flatMap_cons, List.cons_append, List.nil_append,
            List.cons.injEq] at hsame
          obtain ⟨hhigh, hlow, hrest⟩ := hsame
          rw [ih hrest, ← hexByte_hexDigit value, ← hexByte_hexDigit other, hhigh, hlow]

/-- The pair of digits at an index is one. -/
def pairIsHex (hex : CString) (index : Fin 32) : Bool :=
  0 ≤ highDigit hex index && 0 ≤ lowDigit hex index

/-- The byte of the pair at an index. -/
def pairByte (hex : CString) (index : Fin 32) : UInt8 :=
  hexByte (highDigit hex index) (lowDigit hex index)

section Loop

variable (hex : CString)

def writePair (digest : Digest) (index : Fin 32) : Digest :=
  digest.setIfInBounds index.val (pairByte hex index)

/-- The loop writes the pairs before the first that is not one. -/
theorem sha256FromHexLoop_eq (indices : List (Fin 32)) (digest : Digest) :
    sha256FromHexLoop hex indices digest =
      (if indices.all (pairIsHex hex) then .ok else .invalidHex,
        (indices.takeWhile (pairIsHex hex)).foldl (writePair hex) digest) := by
  induction indices generalizing digest with
  | nil => rfl
  | cons index rest ih =>
      unfold sha256FromHexLoop
      by_cases hpair : pairIsHex hex index = true
      · have hdigits : ¬(highDigit hex index < 0 ∨ lowDigit hex index < 0) := by
          simpa [pairIsHex, not_or] using hpair
        rw [List.all_cons, List.takeWhile_cons_of_pos hpair, hpair, Bool.true_and]
        dsimp only
        rw [if_neg hdigits, ih]
        rfl
      · have hdigits : highDigit hex index < 0 ∨ lowDigit hex index < 0 := by
          simp only [pairIsHex, Bool.and_eq_true, decide_eq_true_eq] at hpair
          omega
        rw [List.all_cons, List.takeWhile_cons_of_neg hpair, Bool.eq_false_iff.mpr hpair,
          Bool.false_and]
        dsimp only
        rw [if_pos hdigits]
        rfl

theorem get_writePair_self (digest : Digest) (index : Fin 32) :
    (writePair hex digest index).get index = pairByte hex index :=
  Vector.getElem_setIfInBounds_self index.isLt

theorem get_writePair_ne (digest : Digest) {index other : Fin 32} (hne : other ≠ index) :
    (writePair hex digest other).get index = digest.get index :=
  Vector.getElem_setIfInBounds_ne index.isLt fun hval => hne (Fin.ext hval)

/-- Other bytes than those of the pairs are left as they are. -/
theorem get_foldl_writePair_of_not_mem {indices : List (Fin 32)} {index : Fin 32}
    (hindex : index ∉ indices) (digest : Digest) :
    (indices.foldl (writePair hex) digest).get index = digest.get index := by
  induction indices generalizing digest with
  | nil => rfl
  | cons first rest ih =>
      rw [List.mem_cons, not_or] at hindex
      rw [List.foldl_cons, ih hindex.2]
      exact get_writePair_ne hex digest (Ne.symm hindex.1)

theorem get_foldl_writePair_of_mem {indices : List (Fin 32)} {index : Fin 32}
    (hindex : index ∈ indices) (digest : Digest) :
    (indices.foldl (writePair hex) digest).get index = pairByte hex index := by
  induction indices generalizing digest with
  | nil => cases hindex
  | cons first rest ih =>
      rw [List.foldl_cons]
      by_cases hrest : index ∈ rest
      · exact ih hrest _
      · rw [get_foldl_writePair_of_not_mem hex hrest]
        obtain rfl := (List.mem_cons.mp hindex).resolve_right hrest
        exact get_writePair_self hex digest index

/-- The elements of a sorted list that are taken are those with no failure up to them. -/
theorem mem_takeWhile_iff {p : Fin 32 → Bool} {indices : List (Fin 32)}
    (hsorted : indices.Pairwise (· < ·)) {index : Fin 32} :
    index ∈ indices.takeWhile p ↔
      index ∈ indices ∧ ∀ earlier ∈ indices, earlier ≤ index → p earlier = true := by
  induction indices with
  | nil => simp
  | cons first rest ih =>
      obtain ⟨hfirst, hrest⟩ := List.pairwise_cons.mp hsorted
      by_cases hp : p first = true
      · rw [List.takeWhile_cons_of_pos hp, List.mem_cons, List.mem_cons, ih hrest]
        constructor
        · rintro (rfl | ⟨hmem, hearlier⟩)
          · refine ⟨.inl rfl, fun earlier hmem hle => ?_⟩
            rcases List.mem_cons.mp hmem with rfl | hmem
            · exact hp
            · exact absurd hle (Fin.not_le.mpr (hfirst earlier hmem))
          · refine ⟨.inr hmem, fun earlier hmem hle => ?_⟩
            rcases List.mem_cons.mp hmem with rfl | hmem
            · exact hp
            · exact hearlier earlier hmem hle
        · rintro ⟨hmem | hmem, hearlier⟩
          · exact .inl hmem
          · exact .inr ⟨hmem, fun earlier hmem => hearlier earlier (List.mem_cons_of_mem _ hmem)⟩
      · rw [List.takeWhile_cons_of_neg hp]
        refine iff_of_false List.not_mem_nil fun hall => hp ?_
        have hle : first ≤ index := by
          rcases List.mem_cons.mp hall.1 with rfl | hmem
          · exact Fin.le_refl _
          · exact Fin.le_of_lt (hfirst index hmem)
        exact hall.2 first (List.mem_cons_self ..) hle

theorem mem_readPairs_iff {index : Fin 32} :
    index ∈ (List.finRange 32).takeWhile (pairIsHex hex) ↔
      ∀ earlier ≤ index, pairIsHex hex earlier = true := by
  have hsorted : (List.finRange 32).Pairwise (· < ·) := List.pairwise_lt_finRange 32
  rw [mem_takeWhile_iff hsorted]
  simp only [List.mem_finRange, true_and, forall_const]

end Loop

/-- Where the digits of a byte are. -/
theorem byteAt_hexText {input : Bytes} {index : ℕ} (hindex : index < input.length) :
    byteAt (hexText input) (index * 2) = hexDigit (input[index] >>> 4) ∧
      byteAt (hexText input) (index * 2 + 1) = hexDigit input[index] := by
  induction input generalizing index with
  | nil => cases hindex
  | cons value rest ih =>
      cases index with
      | zero => exact ⟨rfl, rfl⟩
      | succ index =>
          rw [Nat.succ_mul]
          exact ih (Nat.lt_of_succ_lt_succ hindex)

/-- A digest is read back from its text, whatever was there before. -/
theorem sha256FromHex_sha256ToHex (digest before : Digest) :
    sha256FromHex (some (sha256ToHex digest)) (some before) = (.ok, some digest) := by
  have hlength : (sha256ToHex digest).val.length = sha256HexChars := by
    show (hexText digest.toList).length = _
    rw [length_hexText, Vector.length_toList]
    rfl
  have hdigits : ∀ index : Fin 32, highDigit (sha256ToHex digest) index =
      hexValue (hexDigit (digest[index] >>> 4)) ∧
        lowDigit (sha256ToHex digest) index = hexValue (hexDigit digest[index]) := by
    intro index
    have hindex : index.val < digest.toList.length := by
      rw [Vector.length_toList]
      exact index.isLt
    obtain ⟨hhigh, hlow⟩ := byteAt_hexText hindex
    exact ⟨congrArg hexValue hhigh, congrArg hexValue hlow⟩
  have hpairs : (List.finRange 32).all (pairIsHex (sha256ToHex digest)) = true := by
    refine List.all_eq_true.mpr fun index _ => ?_
    rw [pairIsHex, (hdigits index).1, (hdigits index).2, hexValue_hexDigit, hexValue_hexDigit,
      Bool.and_eq_true, decide_eq_true_eq, decide_eq_true_eq]
    exact ⟨Int.natCast_nonneg _, Int.natCast_nonneg _⟩
  have hread : (List.finRange 32).foldl (writePair (sha256ToHex digest)) before = digest := by
    apply Vector.ext
    intro index hindex
    refine (get_foldl_writePair_of_mem _ (List.mem_finRange ⟨index, hindex⟩) before).trans ?_
    rw [pairByte, (hdigits _).1, (hdigits _).2]
    exact hexByte_hexDigit _
  have htaken : (List.finRange 32).takeWhile (pairIsHex (sha256ToHex digest)) =
      List.finRange 32 := List.takeWhile_eq_self_iff.mpr (List.all_eq_true.mp hpairs)
  simp only [sha256FromHex, hlength, ne_eq, not_true_eq_false, if_false, sha256FromHexLoop_eq,
    hpairs, if_true, htaken, hread]

end PrintDrop
