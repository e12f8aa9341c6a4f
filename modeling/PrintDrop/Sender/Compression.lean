/-
# The compression function

`processBlock` computes the compression function of SHA-256. Its signed and unsigned
numbers are compared by the 32 bits that the operators read: on these every operator is
the operation on words.
-/

import PrintDrop.Sender.Sha256

namespace PrintDrop.Web

open Math

@[simp]
theorem toInt32_bitAnd (x y : ℤ) : toInt32 (bitAnd x y) = toInt32 x &&& toInt32 y :=
  BitVec.ofInt_toInt

@[simp]
theorem toInt32_bitOr (x y : ℤ) : toInt32 (bitOr x y) = toInt32 x ||| toInt32 y :=
  BitVec.ofInt_toInt

@[simp]
theorem toInt32_bitXor (x y : ℤ) : toInt32 (bitXor x y) = toInt32 x ^^^ toInt32 y :=
  BitVec.ofInt_toInt

@[simp]
theorem toInt32_bitNot (x : ℤ) : toInt32 (bitNot x) = ~~~toInt32 x :=
  BitVec.ofInt_toInt

@[simp]
theorem toInt32_shiftLeft (x : ℤ) (bits : ℕ) :
    toInt32 (shiftLeft x bits) = toInt32 x <<< (bits % 32) :=
  BitVec.ofInt_toInt

@[simp]
theorem toInt32_natCast (n : ℕ) : toInt32 n = BitVec.ofNat 32 n :=
  BitVec.ofInt_natCast 32 n

@[simp]
theorem toInt32_shiftRight (x : ℤ) (bits : ℕ) :
    toInt32 (shiftRight x bits) = toInt32 x >>> (bits % 32) := by
  rw [shiftRight, toInt32_natCast, BitVec.ofNat_toNat, BitVec.setWidth_eq]

@[simp]
theorem toInt32_add (x y : ℤ) : toInt32 (x + y) = toInt32 x + toInt32 y :=
  BitVec.ofInt_add x y

theorem toInt32_rotr (x : ℤ) {bits : ℕ} (hpositive : 0 < bits) (hbits : bits < 32) :
    toInt32 (rotr x bits) = (toInt32 x).rotateRight bits := by
  have hleft : (32 - bits) % 32 = 32 - bits := Nat.mod_eq_of_lt (by omega)
  rw [rotr, toInt32_bitOr, toInt32_shiftRight, toInt32_shiftLeft, hleft,
    Nat.mod_eq_of_lt hbits, BitVec.rotateRight_eq_rotateRightAux_of_lt hbits,
    BitVec.rotateRightAux]

namespace Uint32Array

variable {length : ℕ}

@[simp]
theorem toInt32_read (words : Uint32Array length) (index : ℕ) :
    toInt32 (words.read index) = words.toList.getD index 0 := by
  rw [read, toInt32_natCast, BitVec.ofNat_toNat, BitVec.setWidth_eq]

@[simp]
theorem toList_write (words : Uint32Array length) (index : ℕ) (value : ℤ) :
    (words.write index value).toList = words.toList.set index (toInt32 value) := by
  rw [write, Vector.toList_setIfInBounds]

/-- A loop that stores word after word, each computed from those before it. -/
theorem take_foldl_write (turn : Uint32Array length → ℕ → Uint32Array length)
    (next : List (BitVec 32) → BitVec 32) (first count : ℕ) (words : Uint32Array length)
    (hroom : first + count ≤ length)
    (hturn : ∀ (w : Uint32Array length) (i : ℕ), first ≤ i → i < first + count →
      (turn w i).toList = w.toList.set i (next (w.toList.take i))) :
    (((List.range' first count).foldl turn words).toList.take (first + count)) =
      (fun w => w ++ [next w])^[count] (words.toList.take first) := by
  induction count with
  | zero => rfl
  | succ count ih =>
      have hstored := ih (by omega) fun w i hfirst hi => hturn w i hfirst (by omega)
      rw [List.range'_1_concat, List.foldl_append, List.foldl_cons, List.foldl_nil,
        Function.iterate_succ_apply', ← hstored, ← Nat.add_assoc]
      generalize (List.range' first count).foldl turn words = w
      have hindex : first + count < w.toList.length := by
        rw [Vector.length_toList]
        omega
      rw [hturn w _ (by omega) (by omega), List.take_add_one, List.take_set_of_le le_rfl,
        List.getElem?_set_self hindex, Option.toList_some]

end Uint32Array

namespace IncrementalSha256

/-- A number below a power of two is or-ed into a multiple of it by adding it. -/
private theorem shiftLeft_or {bits low : ℕ} (hlow : low < 2 ^ bits) (high : ℕ) :
    BitVec.ofNat 32 high <<< bits ||| BitVec.ofNat 32 low =
      BitVec.ofNat 32 (high * 2 ^ bits + low) := by
  have hshift : BitVec.ofNat 32 high <<< bits = BitVec.ofNat 32 (high <<< bits) := by
    apply BitVec.eq_of_toNat_eq
    simp [Nat.shiftLeft_eq]
  rw [hshift, ← BitVec.ofNat_or, ← Nat.shiftLeft_add_eq_or_of_lt hlow, Nat.shiftLeft_eq]

/-- Four bytes, or-ed together, are the word they denote. -/
private theorem joinBytes (b0 b1 b2 b3 : UInt8) :
    BitVec.ofNat 32 b0.toNat <<< 24 ||| BitVec.ofNat 32 b1.toNat <<< 16 |||
        BitVec.ofNat 32 b2.toNat <<< 8 ||| BitVec.ofNat 32 b3.toNat =
      BitVec.ofNat 32 (ofBigEndian [b0, b1, b2, b3]) := by
  have h1 := b1.toNat_lt
  have h2 := b2.toNat_lt
  have h3 := b3.toNat_lt
  have hvalue : ofBigEndian [b0, b1, b2, b3] =
      b0.toNat * 2 ^ 24 + (b1.toNat * 2 ^ 16 + (b2.toNat * 2 ^ 8 + b3.toNat)) := by
    simp only [ofBigEndian, List.foldl_cons, List.foldl_nil]
    omega
  rw [hvalue, BitVec.or_assoc, BitVec.or_assoc, shiftLeft_or h3, shiftLeft_or (by omega),
    shiftLeft_or (by omega)]

/-- What the first loop stores is a word of the block. -/
theorem toList_loadWord (bytes : Bytes) (offset : ℕ) (w : Uint32Array 64) (i : ℕ)
    (hblock : offset + 64 ≤ bytes.length) (hi : i < 16) :
    (loadWord bytes offset w i).toList =
      w.toList.set i (Sha256.blockWord ((bytes.drop offset).take 64) i) := by
  have hword : (((bytes.drop offset).take 64).drop (4 * i)).take 4 =
      [byteAt bytes (offset + i * 4), byteAt bytes (offset + i * 4 + 1),
        byteAt bytes (offset + i * 4 + 2), byteAt bytes (offset + i * 4 + 3)] := by
    have hlength : 4 ≤ (((bytes.drop offset).take 64).drop (4 * i)).length := by
      simp only [List.length_drop, List.length_take]
      omega
    have hbyte (k : ℕ) (hk : k < 4) :
        byteAt (((bytes.drop offset).take 64).drop (4 * i)) k =
          byteAt bytes (offset + i * 4 + k) := by
      have hin : 4 * i + k < 64 := by omega
      have hindex : offset + (4 * i + k) = offset + i * 4 + k := by omega
      simp only [byteAt, List.getD_eq_getElem?_getD, List.getElem?_drop, List.getElem?_take, hin,
        hindex, if_true]
    rw [← map_byteAt_range hlength]
    simp [List.range_succ, hbyte]
  rw [loadWord, Uint32Array.toList_write]
  simp only [toInt32_shiftRight, toInt32_bitOr, toInt32_shiftLeft, toInt32_natCast]
  rw [Sha256.blockWord, hword, ← joinBytes]
  rfl

/-- What the second loop stores is the next word of the schedule. -/
theorem toList_expandWord (w : Uint32Array 64) (i : ℕ) (hi : 16 ≤ i) (hend : i < 64) :
    (expandWord w i).toList = w.toList.set i (Sha256.scheduleNext (w.toList.take i)) := by
  have hlength : (w.toList.take i).length = i := by
    rw [List.length_take, Vector.length_toList]
    omega
  have hread (k : ℕ) (hk : 0 < k) (hki : k ≤ 16) :
      (w.toList.take i).getD (i - k) 0 = w.toList.getD (i - k) 0 := by
    have hbefore : i - k < i := by omega
    simp only [List.getD_eq_getElem?_getD, List.getElem?_take, hbefore, if_true]
  rw [expandWord, Uint32Array.toList_write, Sha256.scheduleNext, hlength,
    hread 2 (by decide) (by decide), hread 7 (by decide) (by decide),
    hread 15 (by decide) (by decide), hread 16 (by decide) (by decide)]
  congr 1
  simp only [toInt32_shiftRight, toInt32_add, toInt32_bitXor, Uint32Array.toInt32_read,
    toInt32_rotr, Nat.reduceLT, Sha256.smallSigma0, Sha256.smallSigma1, Nat.reduceMod,
    BitVec.ushiftRight_zero]
  ac_rfl

/-- The words are the message schedule of the block, whatever the array held before. -/
theorem toList_processWords (words : Uint32Array 64) {bytes : Bytes} {offset : ℕ}
    (hblock : offset + 64 ≤ bytes.length) :
    (processWords words bytes offset).toList =
      Sha256.messageSchedule ((bytes.drop offset).take 64) := by
  let block := (bytes.drop offset).take 64
  let nextWord (w : List (BitVec 32)) : BitVec 32 := Sha256.blockWord block w.length
  let loaded := (List.range' 0 16).foldl (loadWord bytes offset) words
  have hprefix : ∀ count, (fun w => w ++ [nextWord w])^[count] [] =
      (List.range count).map (Sha256.blockWord block) := by
    intro count
    induction count with
    | zero => rfl
    | succ count ih =>
        rw [Function.iterate_succ_apply', ih, List.range_succ, List.map_append]
        simp [nextWord]
  have hloaded : loaded.toList.take 16 = (List.range 16).map (Sha256.blockWord block) := by
    rw [← hprefix]
    apply Uint32Array.take_foldl_write _ nextWord 0 16 words (by decide)
    intro w i _ hi
    have hlength : (w.toList.take i).length = i := by
      rw [List.length_take, Vector.length_toList]
      omega
    rw [toList_loadWord bytes offset w i hblock (by omega)]
    simp only [nextWord, hlength, block]
  have hall : (processWords words bytes offset).toList.take 64 =
      Sha256.messageSchedule block := by
    rw [Sha256.messageSchedule, ← hloaded]
    exact Uint32Array.take_foldl_write _ Sha256.scheduleNext 16 48 loaded (by decide)
      fun w i hfirst hi => toList_expandWord w i hfirst hi
  rw [← hall, List.take_of_length_le (by rw [Vector.length_toList])]

/-- The table of the source has the constants of the standard. -/
theorem toList_K : K.toList = Sha256.roundConstants := by decide +kernel

/-- The words that the variables stand for. -/
def Variables.registers (v : Variables) : Sha256.Registers :=
  ⟨toInt32 v.a, toInt32 v.b, toInt32 v.c, toInt32 v.d, toInt32 v.e, toInt32 v.f, toInt32 v.g,
    toInt32 v.h⟩

/-- The hash value in `this.state`. -/
def registersOf (state : Uint32Array 8) : Sha256.Registers :=
  let word (i : ℕ) := state.toList.getD i 0
  ⟨word 0, word 1, word 2, word 3, word 4, word 5, word 6, word 7⟩

theorem registersOf_new : registersOf new.state = Sha256.initialHash := by decide +kernel

theorem registers_mixWord (w : Uint32Array 64) (v : Variables) (i : ℕ) :
    (mixWord w v i).registers =
      Sha256.round v.registers (Sha256.roundConstants.getD i 0) (w.toList.getD i 0) := by
  simp only [mixWord, Variables.registers, Sha256.round, Sha256.bigSigma0, Sha256.bigSigma1,
    Sha256.ch, Sha256.maj, toInt32_shiftRight, toInt32_add, toInt32_bitXor, toInt32_bitAnd,
    toInt32_bitNot, toInt32_rotr, Uint32Array.toInt32_read, toList_K, Nat.reduceLT,
    Nat.reduceMod, BitVec.ushiftRight_zero]

theorem registers_foldl_mixWord (w : Uint32Array 64) (v : Variables) (rounds : List ℕ) :
    (rounds.foldl (mixWord w) v).registers =
      rounds.foldl (fun r t =>
        Sha256.round r (Sha256.roundConstants.getD t 0) (w.toList.getD t 0)) v.registers := by
  induction rounds generalizing v with
  | nil => rfl
  | cons i rounds ih => rw [List.foldl_cons, List.foldl_cons, ih, registers_mixWord]

/-- The rounds on the words of the schedule, added to the hash value before them. -/
theorem registersOf_processState (state : Uint32Array 8) (w : Uint32Array 64) :
    registersOf (processState state w) =
      (registersOf state).add ((List.range 64).foldl (fun r t =>
        Sha256.round r (Sha256.roundConstants.getD t 0) (w.toList.getD t 0))
          (registersOf state)) := by
  have hstart : (registersOf state) = Variables.registers ⟨state.read 0, state.read 1,
      state.read 2, state.read 3, state.read 4, state.read 5, state.read 6, state.read 7⟩ := by
    simp only [registersOf, Variables.registers, Uint32Array.toInt32_read]
  conv_rhs => rw [hstart, ← registers_foldl_mixWord, ← hstart]
  unfold processState
  generalize (List.range 64).foldl (mixWord w) _ = v
  simp [registersOf, Variables.registers, Sha256.Registers.add]

/-- `processBlock` is the compression function. -/
theorem registersOf_processBlock (s : IncrementalSha256) {bytes : Bytes} {offset : ℕ}
    (hblock : offset + 64 ≤ bytes.length) :
    registersOf (s.processBlock bytes offset).state =
      Sha256.compress (registersOf s.state) ((bytes.drop offset).take 64) := by
  show registersOf (processState s.state (processWords s.words bytes offset)) = _
  rw [registersOf_processState, toList_processWords s.words hblock, Sha256.compress]

end IncrementalSha256

end PrintDrop.Web
