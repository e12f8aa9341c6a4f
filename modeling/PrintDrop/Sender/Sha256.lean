/-
# The incremental hasher

`web/sha256.js`. Its numbers are integers: the bitwise operators read the low 32 bits of
an operand and give a signed result, `>>>` gives an unsigned one, and a sum of a few of
them is exact. An element of a `Uint32Array` is a 32-bit word, and a store keeps the low
bits of the number.
-/

import PrintDrop.Math.Sha256
import PrintDrop.Sender.SendFile

namespace PrintDrop.Web

open Math

/-- The bits of a number that a bitwise operator reads. -/
def toInt32 (value : ℤ) : BitVec 32 := BitVec.ofInt 32 value

def bitAnd (x y : ℤ) : ℤ := (toInt32 x &&& toInt32 y).toInt
def bitOr (x y : ℤ) : ℤ := (toInt32 x ||| toInt32 y).toInt
def bitXor (x y : ℤ) : ℤ := (toInt32 x ^^^ toInt32 y).toInt
def bitNot (x : ℤ) : ℤ := (~~~toInt32 x).toInt

/-- `x << bits`. -/
def shiftLeft (x : ℤ) (bits : ℕ) : ℤ := (toInt32 x <<< (bits % 32)).toInt

/-- `x >>> bits`. -/
def shiftRight (x : ℤ) (bits : ℕ) : ℤ := (toInt32 x >>> (bits % 32)).toNat

abbrev Uint32Array (length : ℕ) := Vector (BitVec 32) length

namespace Uint32Array

variable {length : ℕ}

def read (words : Uint32Array length) (index : ℕ) : ℤ := (words.toList.getD index 0).toNat

def write (words : Uint32Array length) (index : ℕ) (value : ℤ) : Uint32Array length :=
  words.setIfInBounds index (toInt32 value)

end Uint32Array

/-- `buffer.set(input, offset)`. -/
def setBytes (buffer input : Bytes) (offset : ℕ) : Bytes :=
  buffer.take offset ++ input ++ buffer.drop (offset + input.length)

/-- `buffer.fill(value, first, last)`. -/
def fillBytes (buffer : Bytes) (value : UInt8) (first last : ℕ) : Bytes :=
  setBytes buffer (List.replicate (last - first) value) first

theorem length_setBytes {buffer input : Bytes} {offset : ℕ}
    (hfits : offset + input.length ≤ buffer.length) :
    (setBytes buffer input offset).length = buffer.length := by
  simp only [setBytes, List.length_append, List.length_take, List.length_drop]
  omega

theorem length_fillBytes {buffer : Bytes} (value : UInt8) {first last : ℕ}
    (hfirst : first ≤ last) (hlast : last ≤ buffer.length) :
    (fillBytes buffer value first last).length = buffer.length := by
  apply length_setBytes
  rw [List.length_replicate]
  omega

/-! ## The hasher -/

def K : Uint32Array 64 := #v[
  0x428a2f98, 0x71374491, 0xb5c0fbcf, 0xe9b5dba5,
  0x3956c25b, 0x59f111f1, 0x923f82a4, 0xab1c5ed5,
  0xd807aa98, 0x12835b01, 0x243185be, 0x550c7dc3,
  0x72be5d74, 0x80deb1fe, 0x9bdc06a7, 0xc19bf174,
  0xe49b69c1, 0xefbe4786, 0x0fc19dc6, 0x240ca1cc,
  0x2de92c6f, 0x4a7484aa, 0x5cb0a9dc, 0x76f988da,
  0x983e5152, 0xa831c66d, 0xb00327c8, 0xbf597fc7,
  0xc6e00bf3, 0xd5a79147, 0x06ca6351, 0x14292967,
  0x27b70a85, 0x2e1b2138, 0x4d2c6dfc, 0x53380d13,
  0x650a7354, 0x766a0abb, 0x81c2c92e, 0x92722c85,
  0xa2bfe8a1, 0xa81a664b, 0xc24b8b70, 0xc76c51a3,
  0xd192e819, 0xd6990624, 0xf40e3585, 0x106aa070,
  0x19a4c116, 0x1e376c08, 0x2748774c, 0x34b0bcb5,
  0x391c0cb3, 0x4ed8aa4a, 0x5b9cca4f, 0x682e6ff3,
  0x748f82ee, 0x78a5636f, 0x84c87814, 0x8cc70208,
  0x90befffa, 0xa4506ceb, 0xbef9a3f7, 0xc67178f2]

def rotr (value : ℤ) (bits : ℕ) : ℤ :=
  bitOr (shiftRight value bits) (shiftLeft value (32 - bits))

/-- The fields of an `IncrementalSha256`. Between two calls its buffer is never full. -/
structure IncrementalSha256 where
  state : Uint32Array 8
  buffer : Bytes
  bufferLength : ℕ
  bytesHashed : ℕ
  finished : Bool
  words : Uint32Array 64
  buffer_length : buffer.length = 64
  bufferLength_lt : bufferLength < 64

namespace IncrementalSha256

def new : IncrementalSha256 where
  state := #v[0x6a09e667, 0xbb67ae85, 0x3c6ef372, 0xa54ff53a, 0x510e527f, 0x9b05688c,
    0x1f83d9ab, 0x5be0cd19]
  buffer := List.replicate 64 0
  bufferLength := 0
  bytesHashed := 0
  finished := false
  words := Vector.replicate 64 0
  buffer_length := rfl
  bufferLength_lt := by decide

/-! ### One block -/

/-- The first loop of `processBlock`. -/
def loadWord (bytes : Bytes) (offset : ℕ) (w : Uint32Array 64) (i : ℕ) : Uint32Array 64 :=
  let j := offset + i * 4
  w.write i (shiftRight (bitOr (bitOr (bitOr (shiftLeft (byteAt bytes j).toNat 24)
    (shiftLeft (byteAt bytes (j + 1)).toNat 16)) (shiftLeft (byteAt bytes (j + 2)).toNat 8))
    (byteAt bytes (j + 3)).toNat) 0)

/-- The second loop of `processBlock`. -/
def expandWord (w : Uint32Array 64) (i : ℕ) : Uint32Array 64 :=
  let x := w.read (i - 15)
  let y := w.read (i - 2)
  let s0 := bitXor (bitXor (rotr x 7) (rotr x 18)) (shiftRight x 3)
  let s1 := bitXor (bitXor (rotr y 17) (rotr y 19)) (shiftRight y 10)
  w.write i (shiftRight (w.read (i - 16) + s0 + w.read (i - 7) + s1) 0)

/-- The variables `a` to `h` of `processBlock`. -/
structure Variables where
  a : ℤ
  b : ℤ
  c : ℤ
  d : ℤ
  e : ℤ
  f : ℤ
  g : ℤ
  h : ℤ

/-- The third loop of `processBlock`. -/
def mixWord (w : Uint32Array 64) (v : Variables) (i : ℕ) : Variables :=
  let s1 := bitXor (bitXor (rotr v.e 6) (rotr v.e 11)) (rotr v.e 25)
  let ch := bitXor (bitAnd v.e v.f) (bitAnd (bitNot v.e) v.g)
  let t1 := shiftRight (v.h + s1 + ch + K.read i + w.read i) 0
  let s0 := bitXor (bitXor (rotr v.a 2) (rotr v.a 13)) (rotr v.a 22)
  let maj := bitXor (bitXor (bitAnd v.a v.b) (bitAnd v.a v.c)) (bitAnd v.b v.c)
  let t2 := shiftRight (s0 + maj) 0
  { h := v.g
    g := v.f
    f := v.e
    e := shiftRight (v.d + t1) 0
    d := v.c
    c := v.b
    b := v.a
    a := shiftRight (t1 + t2) 0 }

/-- What `processBlock` leaves in `this.words`. -/
def processWords (words : Uint32Array 64) (bytes : Bytes) (offset : ℕ) : Uint32Array 64 :=
  (List.range' 16 48).foldl expandWord ((List.range' 0 16).foldl (loadWord bytes offset) words)

/-- What `processBlock` leaves in `this.state`. -/
def processState (state : Uint32Array 8) (words : Uint32Array 64) : Uint32Array 8 :=
  let v := (List.range 64).foldl (mixWord words)
    ⟨state.read 0, state.read 1, state.read 2, state.read 3, state.read 4, state.read 5,
      state.read 6, state.read 7⟩
  let s0 := state.write 0 (shiftRight (state.read 0 + v.a) 0)
  let s1 := s0.write 1 (shiftRight (s0.read 1 + v.b) 0)
  let s2 := s1.write 2 (shiftRight (s1.read 2 + v.c) 0)
  let s3 := s2.write 3 (shiftRight (s2.read 3 + v.d) 0)
  let s4 := s3.write 4 (shiftRight (s3.read 4 + v.e) 0)
  let s5 := s4.write 5 (shiftRight (s4.read 5 + v.f) 0)
  let s6 := s5.write 6 (shiftRight (s5.read 6 + v.g) 0)
  s6.write 7 (shiftRight (s6.read 7 + v.h) 0)

def processBlock (s : IncrementalSha256) (bytes : Bytes) (offset : ℕ) : IncrementalSha256 :=
  let words := processWords s.words bytes offset
  { s with words, state := processState s.state words }

/-! ### Input -/

/-- The slow path of `update`: a piece goes behind the bytes in the buffer, and a buffer
that is full is processed. -/
def bufferPiece (s : IncrementalSha256) (piece : Bytes)
    (hroom : s.bufferLength + piece.length ≤ 64) : IncrementalSha256 :=
  let buffer := setBytes s.buffer piece s.bufferLength
  have hbuffer : buffer.length = 64 :=
    (length_setBytes (by rw [s.buffer_length]; exact hroom)).trans s.buffer_length
  if hfull : s.bufferLength + piece.length = 64 then
    { s with
      buffer
      bufferLength := 0
      buffer_length := hbuffer
      bufferLength_lt := by decide }.processBlock buffer 0
  else
    { s with
      buffer
      bufferLength := s.bufferLength + piece.length
      buffer_length := hbuffer
      bufferLength_lt := Nat.lt_of_le_of_ne hroom hfull }

/-- What the slow path takes of the input. -/
def takePiece (s : IncrementalSha256) (input : Bytes) (offset : ℕ) : Bytes :=
  (input.drop offset).take (min (64 - s.bufferLength) (input.length - offset))

theorem length_takePiece (s : IncrementalSha256) (input : Bytes) (offset : ℕ) :
    (s.takePiece input offset).length = min (64 - s.bufferLength) (input.length - offset) := by
  rw [takePiece, List.length_take, List.length_drop]
  omega

theorem takePiece_room (s : IncrementalSha256) (input : Bytes) (offset : ℕ) :
    s.bufferLength + (s.takePiece input offset).length ≤ 64 := by
  have hlength := s.length_takePiece input offset
  have hlt := s.bufferLength_lt
  omega

/-- One turn of the loop of `update`: the hasher and the next offset. -/
def updateTurn (s : IncrementalSha256) (input : Bytes) (offset : ℕ) : IncrementalSha256 × ℕ :=
  if s.bufferLength = 0 ∧ offset + 64 ≤ input.length then
    (s.processBlock input offset, offset + 64)
  else
    let piece := s.takePiece input offset
    (s.bufferPiece piece (s.takePiece_room input offset), offset + piece.length)

theorem lt_updateTurn (s : IncrementalSha256) {input : Bytes} {offset : ℕ}
    (hoffset : offset < input.length) : offset < (s.updateTurn input offset).2 := by
  have hlength := s.length_takePiece input offset
  have hlt := s.bufferLength_lt
  unfold updateTurn
  split
  · exact Nat.lt_add_of_pos_right (by decide)
  · show offset < offset + (s.takePiece input offset).length
    omega

/-- The loop of `update`. -/
def updateLoop (s : IncrementalSha256) (input : Bytes) (offset : ℕ) : IncrementalSha256 :=
  if _ : offset < input.length then
    updateLoop (s.updateTurn input offset).1 input (s.updateTurn input offset).2
  else s
termination_by input.length - offset
decreasing_by
  have hnext := s.lt_updateTurn ‹offset < input.length›
  omega

/-- A call of `update`, with the hasher it leaves behind also when it throws. A count
beyond the safe integers may be rounded, but never down to a safe one. -/
def update (s : IncrementalSha256) (input : Bytes) : Except JsError Unit × IncrementalSha256 :=
  if s.finished then (.error ⟨.error, "SHA-256 hasher is already finalized"⟩, s)
  else
    let s := { s with bytesHashed := s.bytesHashed + input.length }
    if maxSafeInteger < s.bytesHashed then
      (.error ⟨.rangeError, "SHA-256 input is too large"⟩, s)
    else (.ok (), s.updateLoop input 0)

/-! ### Output -/

/-- The bytes that `finalize` stores for the number of bits. -/
def storeBitLength (bytesHashed : ℕ) (buffer : Bytes) : Bytes :=
  let bitLength := bytesHashed * 8
  (List.range 8).foldl (fun buffer i =>
    buffer.set (63 - i) (UInt8.ofNat (bitLength >>> (i * 8) &&& 0xff))) buffer

theorem length_storeBitLength (bytesHashed : ℕ) (buffer : Bytes) :
    (storeBitLength bytesHashed buffer).length = buffer.length := by
  simp only [storeBitLength, List.range, List.range.loop, List.foldl_cons, List.foldl_nil,
    List.length_set]

/-- The last block of `finalize`: the buffer filled up from a length on, and the number of
bits behind it. -/
def finalBlock (s : IncrementalSha256) (buffer : Bytes) (length : ℕ) : Bytes :=
  storeBitLength s.bytesHashed (fillBytes buffer 0 length 56)

theorem length_finalBlock (s : IncrementalSha256) {buffer : Bytes} {length : ℕ}
    (hbuffer : buffer.length = 64) (hlength : length ≤ 56) :
    (s.finalBlock buffer length).length = 64 := by
  rw [finalBlock, length_storeBitLength, length_fillBytes 0 hlength (by omega), hbuffer]

def finalize (s : IncrementalSha256) : IncrementalSha256 :=
  if s.finished then s
  else
    let marked := setBytes s.buffer [0x80] s.bufferLength
    let length := s.bufferLength + 1
    have hlength : length ≤ 64 := s.bufferLength_lt
    have hmarked : marked.length = 64 :=
      (length_setBytes (by rw [s.buffer_length]; exact hlength)).trans s.buffer_length
    if hlong : 56 < length then
      let filled := fillBytes marked 0 length 64
      have hfilled : filled.length = 64 :=
        (length_fillBytes 0 hlength hmarked.ge).trans hmarked
      let s := s.processBlock filled 0
      let last := s.finalBlock filled 0
      { s with
        finished := true
        buffer := last
        bufferLength := 0
        buffer_length := s.length_finalBlock hfilled (by decide)
        bufferLength_lt := by decide }.processBlock last 0
    else
      let last := s.finalBlock marked length
      { s with
        finished := true
        buffer := last
        bufferLength := 0
        buffer_length := s.length_finalBlock hmarked (Nat.le_of_not_lt hlong)
        bufferLength_lt := by decide }.processBlock last 0

/-- The digest of the state: a store keeps the low eight bits of a number. -/
def digest (state : Uint32Array 8) : Bytes :=
  (List.range 8).flatMap fun i =>
    let value := state.read i
    let byte (number : ℤ) : UInt8 := UInt8.ofNat (toInt32 number).toNat
    [byte (shiftRight value 24), byte (shiftRight value 16), byte (shiftRight value 8),
      byte value]

/-- A call of `array`, with the hasher it leaves behind. -/
def array (s : IncrementalSha256) : Bytes × IncrementalSha256 :=
  let s := s.finalize
  (digest s.state, s)

end IncrementalSha256

def createSha256 : IncrementalSha256 := IncrementalSha256.new

end PrintDrop.Web
