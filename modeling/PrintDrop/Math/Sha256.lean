/-
# SHA-256

The hash function of FIPS 180-4, for messages that are a whole number of bytes. Words are
32-bit vectors. The constants are what the standard says they are, the first bits of the
fractional parts of roots of primes, and not a copied table.
-/

import Mathlib.Data.Nat.NthRoot.Defs
import Mathlib.Data.Nat.Prime.Defs
import PrintDrop.Math.BigEndian
import PrintDrop.Math.BlockFold

namespace PrintDrop.Math.Sha256

abbrev Word := BitVec 32

def ch (x y z : Word) : Word := (x &&& y) ^^^ (~~~x &&& z)

def maj (x y z : Word) : Word := (x &&& y) ^^^ (x &&& z) ^^^ (y &&& z)

def bigSigma0 (x : Word) : Word := x.rotateRight 2 ^^^ x.rotateRight 13 ^^^ x.rotateRight 22

def bigSigma1 (x : Word) : Word := x.rotateRight 6 ^^^ x.rotateRight 11 ^^^ x.rotateRight 25

def smallSigma0 (x : Word) : Word := x.rotateRight 7 ^^^ x.rotateRight 18 ^^^ x >>> 3

def smallSigma1 (x : Word) : Word := x.rotateRight 17 ^^^ x.rotateRight 19 ^^^ x >>> 10

/-- The first sixty-four primes. -/
def primes : List ℕ := (List.range 312).filter Nat.Prime

/-- The first 32 bits of the fractional part of a number's square root. -/
def squareRootBits (n : ℕ) : Word := BitVec.ofNat 32 (Nat.nthRoot 2 (n * 2 ^ 64))

/-- The first 32 bits of the fractional part of a number's cube root. -/
def cubeRootBits (n : ℕ) : Word := BitVec.ofNat 32 (Nat.nthRoot 3 (n * 2 ^ 96))

/-- The words `K` of the rounds. -/
def roundConstants : List Word := primes.map cubeRootBits

/-- The working variables, and the hash value between two blocks. -/
structure Registers where
  a : Word
  b : Word
  c : Word
  d : Word
  e : Word
  f : Word
  g : Word
  h : Word
  deriving DecidableEq

namespace Registers

def add (r s : Registers) : Registers :=
  ⟨r.a + s.a, r.b + s.b, r.c + s.c, r.d + s.d, r.e + s.e, r.f + s.f, r.g + s.g, r.h + s.h⟩

def words (r : Registers) : List Word := [r.a, r.b, r.c, r.d, r.e, r.f, r.g, r.h]

end Registers

def initialHash : Registers :=
  ⟨squareRootBits 2, squareRootBits 3, squareRootBits 5, squareRootBits 7, squareRootBits 11,
    squareRootBits 13, squareRootBits 17, squareRootBits 19⟩

/-- A word of a block, from its four bytes. -/
def blockWord (block : List UInt8) (t : ℕ) : Word :=
  BitVec.ofNat 32 (ofBigEndian ((block.drop (4 * t)).take 4))

/-- The word of the message schedule that follows those before it. -/
def scheduleNext (w : List Word) : Word :=
  let t := w.length
  smallSigma1 (w.getD (t - 2) 0) + w.getD (t - 7) 0 + smallSigma0 (w.getD (t - 15) 0) +
    w.getD (t - 16) 0

/-- The message schedule of a block: its sixteen words, and forty-eight more. -/
def messageSchedule (block : List UInt8) : List Word :=
  (fun w => w ++ [scheduleNext w])^[48] ((List.range 16).map (blockWord block))

/-- One round, with the round's constant and word of the schedule. -/
def round (r : Registers) (k w : Word) : Registers :=
  let t1 := r.h + bigSigma1 r.e + ch r.e r.f r.g + k + w
  let t2 := bigSigma0 r.a + maj r.a r.b r.c
  ⟨t1 + t2, r.a, r.b, r.c, r.d + t1, r.e, r.f, r.g⟩

/-- The next hash value. -/
def compress (hash : Registers) (block : List UInt8) : Registers :=
  let schedule := messageSchedule block
  hash.add ((List.range 64).foldl
    (fun r t => round r (roundConstants.getD t 0) (schedule.getD t 0)) hash)

/-- What the standard appends to a message of some bytes: a one bit, zeros up to eight
bytes before the end of a block, and the number of bits. -/
def padding (length : ℕ) : List UInt8 :=
  0x80 :: List.replicate ((119 - length % 64) % 64) 0 ++ bigEndian 8 (8 * length)

theorem length_padding (length : ℕ) :
    (padding length).length = (119 - length % 64) % 64 + 9 := by
  simp only [padding, List.cons_append, List.length_cons, List.length_append,
    List.length_replicate, length_bigEndian]

/-- The digest of a message. -/
def hash (message : List UInt8) : List UInt8 :=
  let padded := message ++ padding message.length
  (foldBlocks 64 compress (padded.length / 64) initialHash padded).words.flatMap
    fun word => bigEndian 4 word.toNat

/-- The standard's own example, the message `abc`. -/
example : hash [0x61, 0x62, 0x63] =
    [0xba, 0x78, 0x16, 0xbf, 0x8f, 0x01, 0xcf, 0xea, 0x41, 0x41, 0x40, 0xde, 0x5d, 0xae,
      0x22, 0x23, 0xb0, 0x03, 0x61, 0xa3, 0x96, 0x17, 0x7a, 0x9c, 0xb4, 0x10, 0xff, 0x61,
      0xf2, 0x00, 0x15, 0xad] := by
  decide +kernel

end PrintDrop.Math.Sha256
