/-
# What decoders leave behind on errors

The decoders of the wire's records overwrite the caller's record once every check has
passed. The reader of a digest writes while it checks, so that a bad digit leaves behind
the bytes that were read before it.
-/

import PrintDrop.Receiver.DigestHex
import PrintDrop.Wire.Ack

namespace PrintDrop

/-- A call of a decoder, with what the caller's pointer to the output points to. -/
inductive DecoderCall
  | frameDecodeHeader (input : Option Bytes) (header : Option FrameHeader)
  | fileBeginDecode (payload : Buffer) (metadata : Option FileBegin)
  | ackDecode (input : Buffer) (ack : Option Ack)
  | relayMessageDecode (message : Buffer) (view : Option RelayMessageView)
  | sha256FromHex (hex : Option CString) (digest : Option Digest)

/-- A decoder on a pointer to its output: it refuses a null one. -/
def decodeInto {Result Output : Type} (decode : Output → Result × Output)
    (invalidArgument : Result) : Option Output → Result × Option Output
  | none => (invalidArgument, none)
  | some output =>
    let (result, written) := decode output
    (result, some written)

/-- Unless the result is the one of success, the output is as it was. -/
def AtomicOnError {Result Output : Type} (ok : Result) (output : Output)
    (decoded : Result × Output) : Prop :=
  decoded.1 ≠ ok → decoded.2 = output

def DecoderCall.IsAtomic : DecoderCall → Prop
  | .frameDecodeHeader input header => AtomicOnError .ok header
    (decodeInto (PrintDrop.frameDecodeHeader input) .invalidArgument header)
  | .fileBeginDecode payload metadata => AtomicOnError .ok metadata
    (decodeInto (PrintDrop.fileBeginDecode payload) .invalidArgument metadata)
  | .ackDecode input ack => AtomicOnError .ok ack
    (decodeInto (PrintDrop.ackDecode input) .invalidArgument ack)
  | .relayMessageDecode message view => AtomicOnError .ok view
    (decodeInto (PrintDrop.relayMessageDecode message) .invalidArgument view)
  | .sha256FromHex hex digest => AtomicOnError .ok digest (PrintDrop.sha256FromHex hex digest)

/-- A text of a digest's length has digits only, or the pairs before the first that is not
one are those of the bytes that are there already. -/
def SpellsOver (hex : CString) (digest : Digest) : Prop :=
  hex.val.length = sha256HexChars → (∀ index, pairIsHex hex index = true) ∨
    ∀ index : Fin 32, (∀ earlier ≤ index, pairIsHex hex earlier = true) →
      pairByte hex index = digest.get index

/-- The reader of a digest is called so that it writes nothing new before an error. -/
def DecoderCall.SpellsOver : DecoderCall → Prop
  | .sha256FromHex (some hex) (some digest) => PrintDrop.SpellsOver hex digest
  | _ => True

theorem atomicOnError_decodeInto {Result Output : Type} {decode : Output → Result × Output}
    {ok invalidArgument : Result} {output : Option Output}
    (hdecode : ∀ output, AtomicOnError ok output (decode output)) :
    AtomicOnError ok output (decodeInto decode invalidArgument output) := by
  intro hfailed
  cases output with
  | none => rfl
  | some output => exact congrArg some (hdecode output hfailed)

theorem frameDecodeHeader_atomic (input : Option Bytes) (header : FrameHeader) :
    AtomicOnError .ok header (frameDecodeHeader input header) := by
  intro hfailed
  unfold frameDecodeHeader at hfailed ⊢
  cases input with
  | none => rfl
  | some input =>
      dsimp only at hfailed ⊢
      split_ifs at hfailed ⊢
      all_goals first | rfl | exact absurd rfl hfailed

theorem fileBeginDecode_atomic (payload : Buffer) (metadata : FileBegin) :
    AtomicOnError .ok metadata (fileBeginDecode payload metadata) := by
  intro hfailed
  unfold fileBeginDecode at hfailed ⊢
  cases payload with
  | null size => rfl
  | bytes payload =>
      dsimp only at hfailed ⊢
      split_ifs at hfailed ⊢
      all_goals first | rfl | exact absurd rfl hfailed

theorem ackDecode_atomic (input : Buffer) (ack : Ack) :
    AtomicOnError .ok ack (ackDecode input ack) := by
  intro hfailed
  unfold ackDecode at hfailed ⊢
  cases input with
  | null size => rfl
  | bytes input =>
      dsimp only at hfailed ⊢
      split_ifs at hfailed ⊢
      all_goals first | rfl | exact absurd rfl hfailed

theorem relayMessageDecode_atomic (message : Buffer) (view : RelayMessageView) :
    AtomicOnError .ok view (relayMessageDecode message view) := by
  intro hfailed
  unfold relayMessageDecode at hfailed ⊢
  cases message with
  | null size => rfl
  | bytes message =>
      dsimp only at hfailed ⊢
      split at hfailed
      · rename_i hsize
        rw [if_pos hsize]
      rename_i hsize
      rw [if_neg hsize]
      cases hheader : frameDecodeHeader (some message) default with
      | mk result header =>
          rw [hheader] at hfailed
          cases result with
          | ok =>
              dsimp only at hfailed ⊢
              split_ifs at hfailed ⊢
              · rfl
              · exact absurd rfl hfailed
          | _ => rfl

/-- The reader of a digest leaves it as it was exactly if it writes nothing new before an
error. -/
theorem sha256FromHex_atomic_iff (hex : CString) (digest : Digest) :
    AtomicOnError .ok (some digest) (sha256FromHex (some hex) (some digest)) ↔
      SpellsOver hex digest := by
  by_cases hlength : hex.val.length = sha256HexChars
  swap
  · have hresult : sha256FromHex (some hex) (some digest) = (.invalidHex, some digest) :=
      if_pos hlength
    rw [hresult]
    exact iff_of_true (fun _ => rfl) fun hsame => absurd hsame hlength
  have hresult : sha256FromHex (some hex) (some digest) =
      (if (List.finRange 32).all (pairIsHex hex) then .ok else .invalidHex,
        some (((List.finRange 32).takeWhile (pairIsHex hex)).foldl (writePair hex) digest)) := by
    simp only [sha256FromHex, hlength, ne_eq, not_true_eq_false, if_false, sha256FromHexLoop_eq]
  have hall : (List.finRange 32).all (pairIsHex hex) = true ↔
      ∀ index, pairIsHex hex index = true := by simp
  have hwritten : ((List.finRange 32).takeWhile (pairIsHex hex)).foldl (writePair hex) digest =
      digest ↔ ∀ index : Fin 32, (∀ earlier ≤ index, pairIsHex hex earlier = true) →
        pairByte hex index = digest.get index := by
    constructor
    · intro hsame index hread
      have hbyte := get_foldl_writePair_of_mem hex ((mem_readPairs_iff hex).mpr hread) digest
      rw [hsame] at hbyte
      exact hbyte.symm
    · intro hspells
      apply Vector.ext
      intro index hindex
      by_cases hread : ⟨index, hindex⟩ ∈ (List.finRange 32).takeWhile (pairIsHex hex)
      · exact (get_foldl_writePair_of_mem hex hread digest).trans
          (hspells _ ((mem_readPairs_iff hex).mp hread))
      · exact get_foldl_writePair_of_not_mem hex hread digest
  rw [hresult, AtomicOnError, SpellsOver, forall_prop_of_true hlength, ← hall, ← hwritten,
    Option.some_inj]
  by_cases hdigits : (List.finRange 32).all (pairIsHex hex) = true
  · rw [if_pos hdigits]
    exact iff_of_true (fun hfailed => absurd rfl hfailed) (.inl hdigits)
  · rw [if_neg hdigits, or_iff_right hdigits]
    exact forall_prop_of_true (by simp)

/-- Whatever a decoder is given, it leaves the output as it was on every error exactly if it
is not the reader of a digest, or one that writes nothing new before the error. -/
theorem decoderCall_isAtomic_iff (call : DecoderCall) : call.IsAtomic ↔ call.SpellsOver := by
  cases call with
  | frameDecodeHeader input header =>
      exact iff_of_true (atomicOnError_decodeInto (frameDecodeHeader_atomic input)) trivial
  | fileBeginDecode payload metadata =>
      exact iff_of_true (atomicOnError_decodeInto (fileBeginDecode_atomic payload)) trivial
  | ackDecode input ack =>
      exact iff_of_true (atomicOnError_decodeInto (ackDecode_atomic input)) trivial
  | relayMessageDecode message view =>
      exact iff_of_true (atomicOnError_decodeInto (relayMessageDecode_atomic message)) trivial
  | sha256FromHex hex digest =>
      cases hex with
      | none => exact iff_of_true (fun _ => rfl) trivial
      | some hex =>
          cases digest with
          | none => exact iff_of_true (fun _ => rfl) trivial
          | some digest => exact sha256FromHex_atomic_iff hex digest

/-- 63 digits and a letter that is none, read into a digest of zeros. -/
def endsInBadDigit : CString := ⟨ascii (List.replicate 63 '1' ++ ['g']), by decide⟩

def badDigitCall : DecoderCall :=
  .sha256FromHex (some endsInBadDigit) (some (Vector.replicate 32 0))

/-- The digest has been overwritten but for its last byte. -/
theorem badDigitCall_not_atomic :
    sha256FromHex (some endsInBadDigit) (some (Vector.replicate 32 0)) =
        (.invalidHex, some ((Vector.replicate 32 0x11).set 31 0)) ∧
      ¬badDigitCall.IsAtomic := by
  have hresult : sha256FromHex (some endsInBadDigit) (some (Vector.replicate 32 0)) =
      (.invalidHex, some ((Vector.replicate 32 0x11).set 31 0)) := by decide +kernel
  refine ⟨hresult, fun hatomic => ?_⟩
  have hsame : AtomicOnError .ok (some (Vector.replicate 32 0))
      (sha256FromHex (some endsInBadDigit) (some (Vector.replicate 32 0))) := hatomic
  rw [hresult] at hsame
  exact absurd (hsame (by decide)) (by decide +kernel)

end PrintDrop
