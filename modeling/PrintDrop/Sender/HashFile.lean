/-
# The hash of a file

Whatever pieces a message was cut into, `array` returns its SHA-256 digest, and so
`hashFileIncremental` returns a file's for every size of the chunks.
-/

import PrintDrop.Sender.Compression

namespace PrintDrop.Web

open Math

theorem take_setBytes {buffer input : Bytes} {offset : ℕ} (hoffset : offset ≤ buffer.length) :
    (setBytes buffer input offset).take (offset + input.length) =
      buffer.take offset ++ input := by
  have hlength : (buffer.take offset ++ input).length = offset + input.length := by
    rw [List.length_append, List.length_take, Nat.min_eq_left hoffset]
  rw [setBytes, ← hlength, List.take_left]

/-- Storing up to the end leaves nothing of the buffer behind. -/
theorem setBytes_of_full {buffer input : Bytes} {offset : ℕ}
    (hfull : buffer.length ≤ offset + input.length) :
    setBytes buffer input offset = buffer.take offset ++ input := by
  rw [setBytes, List.drop_of_length_le hfull, List.append_nil]

namespace IncrementalSha256

variable {s : IncrementalSha256} {message : Bytes}

/-- The bytes that wait in the buffer. -/
def pending (s : IncrementalSha256) : Bytes := s.buffer.take s.bufferLength

theorem length_pending (s : IncrementalSha256) : s.pending.length = s.bufferLength := by
  have hlength := s.buffer_length
  have hroom := s.bufferLength_lt
  rw [pending, List.length_take]
  omega

@[simp]
theorem bytesHashed_processBlock (s : IncrementalSha256) (bytes : Bytes) (offset : ℕ) :
    (s.processBlock bytes offset).bytesHashed = s.bytesHashed := by
  simp only [processBlock]

@[simp]
theorem finished_processBlock (s : IncrementalSha256) (bytes : Bytes) (offset : ℕ) :
    (s.processBlock bytes offset).finished = s.finished := by
  simp only [processBlock]

@[simp]
theorem pending_processBlock (s : IncrementalSha256) (bytes : Bytes) (offset : ℕ) :
    (s.processBlock bytes offset).pending = s.pending := by
  simp only [pending, processBlock]

/-- The hasher was given a message. -/
def Holds (s : IncrementalSha256) (message : Bytes) : Prop :=
  Absorbed 64 Sha256.compress Sha256.initialHash message s.pending (registersOf s.state)

theorem holds_new : new.Holds [] := by
  have hregisters := registersOf_new
  unfold Holds
  rw [hregisters]
  exact Absorbed.nil (by decide)

theorem holds_bufferPiece (h : s.Holds message) {piece : Bytes}
    (hroom : s.bufferLength + piece.length ≤ 64) :
    (s.bufferPiece piece hroom).Holds (message ++ piece) := by
  have hlength := s.buffer_length
  have htake := @take_setBytes s.buffer piece s.bufferLength
    (by rw [hlength]; exact s.bufferLength_lt.le)
  have hpending : (s.pending ++ piece).length = s.bufferLength + piece.length := by
    rw [List.length_append, s.length_pending]
  unfold bufferPiece
  simp only
  split
  case isTrue hfull =>
    have hwhole : setBytes s.buffer piece s.bufferLength = s.pending ++ piece :=
      setBytes_of_full (by omega)
    have hbuffer : (setBytes s.buffer piece s.bufferLength).length = 64 := by
      rw [hwhole, hpending, hfull]
    have hnext := Absorbed.fill h piece (hpending.trans hfull)
    rw [← hwhole] at hnext
    unfold Holds
    rw [registersOf_processBlock _ hbuffer.ge, List.drop_zero,
      List.take_of_length_le hbuffer.le]
    exact hnext
  case isFalse hshort =>
    unfold Holds
    have hnext := Absorbed.keep h piece (by omega)
    rw [pending, ← htake] at hnext
    exact hnext

/-- A turn of the loop takes the input up to the next offset. -/
theorem holds_updateTurn {input : Bytes} {offset : ℕ} (h : s.Holds (message ++ input.take offset))
    (hoffset : offset < input.length) :
    (s.updateTurn input offset).1.Holds
        (message ++ input.take (s.updateTurn input offset).2) ∧
      (s.updateTurn input offset).2 ≤ input.length := by
  unfold updateTurn
  split
  case isTrue hdirect =>
    have hempty : s.pending = [] := List.eq_nil_of_length_eq_zero (by
      rw [s.length_pending, hdirect.1])
    have hblock : ((input.drop offset).take 64).length = 64 := by
      rw [List.length_take, List.length_drop]
      omega
    have hnext := Absorbed.fill h ((input.drop offset).take 64) (by
      rw [hempty]
      exact hblock)
    rw [hempty, List.nil_append, List.append_assoc, ← List.take_add,
      ← registersOf_processBlock s hdirect.2] at hnext
    refine ⟨?_, hdirect.2⟩
    unfold Holds
    rw [pending_processBlock, hempty]
    exact hnext
  case isFalse =>
    have hpiece : input.take (offset + (s.takePiece input offset).length) =
        input.take offset ++ s.takePiece input offset := by
      have hprefix : (s.takePiece input offset) =
          (input.drop offset).take (s.takePiece input offset).length := by
        rw [length_takePiece, takePiece]
      rw [List.take_add, ← hprefix]
    have hnext := holds_bufferPiece h (s.takePiece_room input offset)
    have hlength := s.length_takePiece input offset
    refine ⟨?_, ?_⟩
    · simp only
      rw [hpiece, ← List.append_assoc]
      exact hnext
    · simp only
      omega

theorem holds_updateLoop {input : Bytes} {offset : ℕ} (h : s.Holds (message ++ input.take offset))
    (hoffset : offset ≤ input.length) : (s.updateLoop input offset).Holds (message ++ input) := by
  induction s, offset using updateLoop.induct input with
  | case1 s offset hlt ih =>
      rw [updateLoop, dif_pos hlt]
      obtain ⟨hnext, hle⟩ := holds_updateTurn h hlt
      exact ih hnext hle
  | case2 s offset hnot =>
      have hend : offset = input.length := Nat.le_antisymm hoffset (Nat.le_of_not_lt hnot)
      rw [updateLoop, dif_neg hnot]
      rwa [hend, List.take_length] at h

theorem frame_updateTurn (s : IncrementalSha256) (input : Bytes) (offset : ℕ) :
    (s.updateTurn input offset).1.bytesHashed = s.bytesHashed ∧
      (s.updateTurn input offset).1.finished = s.finished := by
  unfold updateTurn
  split
  · simp
  · simp only [bufferPiece]
    split
    · simp
    · exact ⟨rfl, rfl⟩

theorem frame_updateLoop (s : IncrementalSha256) (input : Bytes) (offset : ℕ) :
    (s.updateLoop input offset).bytesHashed = s.bytesHashed ∧
      (s.updateLoop input offset).finished = s.finished := by
  induction s, offset using updateLoop.induct input with
  | case1 s offset hlt ih =>
      obtain ⟨hbytes, hfinished⟩ := s.frame_updateTurn input offset
      rw [updateLoop, dif_pos hlt, ih.1, ih.2]
      exact ⟨hbytes, hfinished⟩
  | case2 s offset hnot =>
      rw [updateLoop, dif_neg hnot]
      exact ⟨rfl, rfl⟩

/-- The hasher takes more of a message that it was given. -/
structure Running (s : IncrementalSha256) (message : Bytes) : Prop where
  finished : s.finished = false
  count : s.bytesHashed = message.length
  holds : s.Holds message

theorem running_new : new.Running [] := ⟨rfl, rfl, holds_new⟩

theorem update_ok (h : s.Running message) (piece : Bytes)
    (hsafe : message.length + piece.length ≤ maxSafeInteger) :
    ∃ s', s.update piece = (.ok (), s') ∧ s'.Running (message ++ piece) := by
  let counted := { s with bytesHashed := s.bytesHashed + piece.length }
  have hcount : counted.bytesHashed = message.length + piece.length := by
    rw [← h.count]
  refine ⟨counted.updateLoop piece 0, ?_, ?_, ?_, ?_⟩
  · rw [update, if_neg (by rw [h.finished]; exact Bool.false_ne_true)]
    exact if_neg (by
      show ¬ maxSafeInteger < counted.bytesHashed
      omega)
  · rw [(counted.frame_updateLoop piece 0).2]
    exact h.finished
  · rw [(counted.frame_updateLoop piece 0).1, hcount, List.length_append]
  · have hstart : counted.Holds (message ++ piece.take 0) := by
      rw [List.take_zero, List.append_nil]
      exact h.holds
    exact holds_updateLoop hstart (Nat.zero_le _)

/-- The eight stores of `finalize` write the number of bits. -/
theorem storeBitLength_eq (count : ℕ) {buffer : Bytes} (hlength : buffer.length = 64) :
    storeBitLength count buffer = buffer.take 56 ++ bigEndian 8 (8 * count) := by
  have hfront : (buffer.take 56).length = 56 := by
    rw [List.length_take, hlength]
    rfl
  have hback : (buffer.drop 56).length = 8 := by
    rw [List.length_drop, hlength]
  have hbyte (n : ℕ) : UInt8.ofNat (n &&& 0xff) = UInt8.ofNat n := by
    apply UInt8.toNat_inj.mp
    rw [UInt8.toNat_ofNat', UInt8.toNat_ofNat', Nat.and_two_pow_sub_one_eq_mod n 8]
    simp
  rw [← List.take_append_drop 56 buffer]
  generalize buffer.take 56 = front at *
  generalize buffer.drop 56 = back at *
  match back, hback with
  | [b0, b1, b2, b3, b4, b5, b6, b7], _ =>
    simp [storeBitLength, List.range, List.range.loop, hfront, hbyte, bigEndian,
      Nat.shiftRight_eq_div_pow, Nat.div_div_eq_div_mul, Nat.mul_comm]

/-- Filling the buffer from a length on to the number of bits. -/
theorem finalBlock_eq (s : IncrementalSha256) {buffer : Bytes} {length : ℕ}
    (hbuffer : buffer.length = 64) (hlength : length ≤ 56) :
    s.finalBlock buffer length =
      buffer.take length ++ List.replicate (56 - length) 0 ++ bigEndian 8 (8 * s.bytesHashed) := by
  have hfilled : (fillBytes buffer 0 length 56).length = 64 :=
    (length_fillBytes 0 hlength (by omega)).trans hbuffer
  have htake : (fillBytes buffer 0 length 56).take 56 =
      buffer.take length ++ List.replicate (56 - length) 0 := by
    have hend : 56 = length + (List.replicate (56 - length) (0 : UInt8)).length := by
      rw [List.length_replicate]
      omega
    have hstored := @take_setBytes buffer (List.replicate (56 - length) 0) length (by omega)
    rwa [← hend] at hstored
  rw [finalBlock, storeBitLength_eq _ hfilled, htake]

/-- The buffer with the byte that ends the message. -/
theorem take_marked (s : IncrementalSha256) :
    (setBytes s.buffer [0x80] s.bufferLength).take (s.bufferLength + 1) =
      s.pending ++ [0x80] := by
  have hlength := s.buffer_length
  have hroom := s.bufferLength_lt
  exact @take_setBytes s.buffer [0x80] s.bufferLength (by omega)

/-- Processing a buffer that is a block. -/
theorem registersOf_processBuffer (s : IncrementalSha256) {block : Bytes}
    (hblock : block.length = 64) :
    registersOf (s.processBlock block 0).state =
      Sha256.compress (registersOf s.state) block := by
  rw [registersOf_processBlock s hblock.ge, List.drop_zero, List.take_of_length_le hblock.le]

/-- After `finalize` the state has the whole padded message behind it. -/
theorem registersOf_finalize (h : s.Running message) :
    registersOf s.finalize.state =
      foldBlocks 64 Sha256.compress ((message ++ Sha256.padding message.length).length / 64)
        Sha256.initialHash (message ++ Sha256.padding message.length) := by
  have hroom := s.bufferLength_lt
  have hmod : message.length % 64 = s.bufferLength :=
    (Absorbed.length_pending h.holds).trans s.length_pending
  have hmarked : (setBytes s.buffer [0x80] s.bufferLength).length = 64 :=
    (length_setBytes (by rw [s.buffer_length]; exact hroom)).trans s.buffer_length
  have hlength : (s.pending ++ Sha256.padding message.length).length =
      s.bufferLength + ((119 - s.bufferLength) % 64 + 9) := by
    rw [List.length_append, s.length_pending, Sha256.length_padding, hmod]
  unfold finalize
  rw [if_neg (by rw [h.finished]; exact Bool.false_ne_true)]
  simp only
  split
  case isTrue hlong =>
    -- the zeros up to the end of the block, then a block of zeros and the number of bits
    let filled := fillBytes (setBytes s.buffer [0x80] s.bufferLength) 0 (s.bufferLength + 1) 64
    let last := (s.processBlock filled 0).finalBlock filled 0
    have hfilled : filled = s.pending ++ [0x80] ++ List.replicate (63 - s.bufferLength) 0 := by
      show fillBytes _ _ _ _ = _
      rw [fillBytes, setBytes_of_full, take_marked]
      · congr 2
        omega
      · rw [hmarked, List.length_replicate]
        omega
    have hfirst : filled.length = 64 := (length_fillBytes 0 hroom hmarked.ge).trans hmarked
    have hlast : last = List.replicate 56 0 ++ bigEndian 8 (8 * message.length) := by
      show finalBlock _ _ _ = _
      rw [finalBlock_eq _ hfirst (by decide), bytesHashed_processBlock, h.count]
      simp
    have hblocks : s.pending ++ Sha256.padding message.length = filled ++ last := by
      have hzeros : (119 - message.length % 64) % 64 = 63 - s.bufferLength + 56 := by omega
      rw [Sha256.padding, hzeros, List.replicate_add, hfilled, hlast]
      simp
    have hsecond : last.length = 64 := by
      rw [hlast, List.length_append, List.length_replicate, length_bigEndian]
    rw [Absorbed.finish h.holds (1 + 1) (by rw [hlength]; omega), hblocks,
      foldBlocks_append 1 1 _ _ (by rw [hfirst]), foldBlocks_one _ hfirst,
      foldBlocks_one _ hsecond, registersOf_processBuffer _ hsecond,
      ← registersOf_processBuffer s hfirst]
  case isFalse hshort =>
    have hblock : s.finalBlock (setBytes s.buffer [0x80] s.bufferLength) (s.bufferLength + 1) =
        s.pending ++ Sha256.padding message.length := by
      have hzeros : (119 - message.length % 64) % 64 = 56 - (s.bufferLength + 1) := by omega
      rw [finalBlock_eq s hmarked (by omega), take_marked, Sha256.padding, hzeros, h.count]
      simp
    have hone : (s.pending ++ Sha256.padding message.length).length = 64 := by
      rw [hlength]
      omega
    rw [Absorbed.finish h.holds 1 (by rw [hone]), foldBlocks_one _ hone,
      registersOf_processBuffer _ (by rw [hblock, hone])]
    exact congrArg (Sha256.compress (registersOf s.state)) hblock

/-- The digest is that of the hash value. -/
theorem digest_eq (state : Uint32Array 8) :
    digest state = (registersOf state).words.flatMap fun word => bigEndian 4 word.toNat := by
  simp [digest, registersOf, Sha256.Registers.words, List.range, List.range.loop, bigEndian,
    Uint32Array.read, Nat.shiftRight_eq_div_pow, Nat.div_div_eq_div_mul]

theorem array_eq (h : s.Running message) : s.array.1 = Sha256.hash message := by
  show digest s.finalize.state = _
  rw [digest_eq, registersOf_finalize h, Sha256.hash]

theorem finished_finalize (s : IncrementalSha256) : s.finalize.finished = true := by
  unfold finalize
  split
  case isTrue hfinished => exact hfinished
  case isFalse =>
    simp only
    split
    all_goals exact finished_processBlock _ _ _

/-- A finalized hasher gives the same bytes again. -/
theorem array_array (s : IncrementalSha256) : s.array.2.array.1 = s.array.1 := by
  have hagain : s.finalize.finalize = s.finalize := by
    conv_lhs => rw [finalize, if_pos s.finished_finalize]
  show digest s.finalize.finalize.state = digest s.finalize.state
  rw [hagain]

/-- Calls of `update` with one piece after another, up to the first that throws. -/
def updates (s : IncrementalSha256) : List Bytes → Except JsError IncrementalSha256
  | [] => .ok s
  | piece :: pieces =>
    match s.update piece with
    | (.ok (), s') => s'.updates pieces
    | (.error error, _) => .error error

theorem updates_ok (h : s.Running message) (pieces : List Bytes)
    (hsafe : message.length + pieces.flatten.length ≤ maxSafeInteger) :
    ∃ s', s.updates pieces = .ok s' ∧ s'.Running (message ++ pieces.flatten) := by
  induction pieces generalizing s message with
  | nil => exact ⟨s, rfl, by simpa using h⟩
  | cons piece pieces ih =>
      rw [List.flatten_cons, List.length_append] at hsafe
      obtain ⟨next, hupdate, hnext⟩ := update_ok h piece (by omega)
      obtain ⟨last, hupdates, hlast⟩ := ih hnext (by
        rw [List.length_append]
        omega)
      refine ⟨last, ?_, ?_⟩
      · rw [updates, hupdate]
        exact hupdates
      · rwa [List.append_assoc] at hlast

end IncrementalSha256

/-! ## Files -/

universe u

/-- A `hasherFactory`: the hasher it returns, and the calls of it that are made. -/
structure HasherFactory (η : Type u) where
  create : η
  update : η → Bytes → Except JsError Unit × η
  array : η → Bytes × η

def sha256Factory : HasherFactory IncrementalSha256 :=
  ⟨createSha256, IncrementalSha256.update, IncrementalSha256.array⟩

variable {η : Type u}

/-- The loop of `hashFileIncremental`, from a number of processed bytes on, with the calls
of `onProgress`. Between safe integers a rounded sum does not change the minimum. -/
def hashFileLoop (file : File) (factory : HasherFactory η) (chunkSize : ℕ)
    (hpositive : 0 < chunkSize) (hasher : η) (processed : ℕ) (reports : List (ℕ × ℕ)) :
    Except JsError η × List (ℕ × ℕ) :=
  if processed < file.size then
    let last := min (processed + chunkSize) file.size
    match factory.update hasher (file.slice processed last) with
    | (.error error, _) => (.error error, reports)
    | (.ok (), hasher) =>
      hashFileLoop file factory chunkSize hpositive hasher last (reports ++ [(last, file.size)])
  else (.ok hasher, reports)
termination_by file.size - processed

/-- `hashFileIncremental`, with the calls of `onProgress`. -/
def hashFileIncremental (file : File) (factory : HasherFactory η) (chunkSize : ℕ) :
    Except JsError Bytes × List (ℕ × ℕ) :=
  if maxSafeInteger < file.size then (.error ⟨.typeError, "invalid file"⟩, [])
  else if hchunk : maxSafeInteger < chunkSize ∨ chunkSize = 0 then
    (.error ⟨.typeError, "invalid hash configuration"⟩, [])
  else
    match hashFileLoop file factory chunkSize (by omega) factory.create 0 [] with
    | (.error error, reports) => (.error error, reports)
    | (.ok hasher, reports) =>
      let reports := if file.size = 0 then reports ++ [(0, 0)] else reports
      let digest := (factory.array hasher).1
      if digest.length ≠ 32 then
        (.error ⟨.error, "SHA-256 implementation returned an invalid digest"⟩, reports)
      else (.ok digest, reports)

/-- The loop gives the hasher the rest of the file. -/
theorem hashFileLoop_ok {file : File} {chunkSize : ℕ} (hpositive : 0 < chunkSize)
    (hsize : file.size ≤ maxSafeInteger) {s : IncrementalSha256} {processed : ℕ}
    (reports : List (ℕ × ℕ)) (hs : s.Running (file.content.take processed))
    (hprocessed : processed ≤ file.size) :
    ∃ last, (hashFileLoop file sha256Factory chunkSize hpositive s processed reports).1 =
      .ok last ∧ last.Running file.content := by
  induction hleft : file.size - processed using Nat.strong_induction_on
    generalizing s processed reports with
  | _ left ih =>
      rw [hashFileLoop]
      by_cases hmore : processed < file.size
      · have hlast : processed < min (processed + chunkSize) file.size := by omega
        let piece := file.slice processed (min (processed + chunkSize) file.size)
        have hpiece : file.content.take processed ++ piece =
            file.content.take (min (processed + chunkSize) file.size) := by
          show _ ++ (file.content.drop processed).take _ = _
          rw [← List.take_add, Nat.add_sub_cancel' hlast.le]
        have hlength : (file.content.take processed).length + piece.length ≤ maxSafeInteger := by
          rw [← List.length_append, hpiece]
          exact (List.length_take_le _ _).trans ((Nat.min_le_right _ _).trans hsize)
        obtain ⟨next, hupdate, hnext⟩ := IncrementalSha256.update_ok hs piece hlength
        rw [hpiece] at hnext
        rw [if_pos hmore]
        simp only
        rw [show sha256Factory.update s piece = (.ok (), next) from hupdate]
        exact ih _ (by omega) _ hnext (Nat.min_le_right _ _) rfl
      · have hend : file.content.length ≤ processed := Nat.le_of_not_lt hmore
        rw [if_neg hmore]
        rw [List.take_of_length_le hend] at hs
        exact ⟨s, rfl, hs⟩

/-- The incremental hasher as the hasher of `sendFile`. -/
def incrementalHasher : Hasher IncrementalSha256 where
  create := createSha256
  update s piece := (s.update piece).2
  array s := s.array.1

/-- Whatever pieces it is given of a message that is short enough, it has that message. -/
theorem running_foldl_update (pieces : List Bytes) {s : IncrementalSha256} {message : Bytes}
    (h : s.Running message)
    (hsafe : message.length + pieces.flatten.length ≤ maxSafeInteger) :
    (pieces.foldl incrementalHasher.update s).Running (message ++ pieces.flatten) := by
  induction pieces generalizing s message with
  | nil => simpa using h
  | cons piece pieces ih =>
      rw [List.flatten_cons, List.length_append] at hsafe
      obtain ⟨next, hupdate, hnext⟩ := IncrementalSha256.update_ok h piece (by omega)
      have hupdated : incrementalHasher.update s piece = next := congrArg Prod.snd hupdate
      rw [List.foldl_cons, hupdated, List.flatten_cons, ← List.append_assoc]
      apply ih hnext
      rw [List.length_append]
      omega

/-- It computes the digest of a file. -/
theorem incrementalHasher_array {content : Bytes} {pieces : List Bytes}
    (hpieces : pieces.flatten = content) (hsafe : content.length ≤ maxSafeInteger) :
    incrementalHasher.array (pieces.foldl incrementalHasher.update incrementalHasher.create) =
      Sha256.hash content := by
  have hrunning := running_foldl_update pieces IncrementalSha256.running_new (by
    rw [hpieces]
    simpa using hsafe)
  rw [hpieces] at hrunning
  exact IncrementalSha256.array_eq hrunning

theorem length_hash (message : Bytes) : (Sha256.hash message).length = 32 := by
  simp [Sha256.hash, Sha256.Registers.words]

theorem hashFileIncremental_ok {file : File} {chunkSize : ℕ} (hpositive : 0 < chunkSize)
    (hchunk : chunkSize ≤ maxSafeInteger) (hsize : file.size ≤ maxSafeInteger) :
    (hashFileIncremental file sha256Factory chunkSize).1 = .ok (Sha256.hash file.content) := by
  obtain ⟨last, hloop, hlast⟩ :=
    @hashFileLoop_ok file chunkSize hpositive hsize createSha256 0 []
      IncrementalSha256.running_new (Nat.zero_le _)
  have hdigest : (sha256Factory.array last).1 = Sha256.hash file.content :=
    IncrementalSha256.array_eq hlast
  have hthirtyTwo : ¬ (sha256Factory.array last).1.length ≠ 32 := by
    rw [hdigest, length_hash]
    decide
  rw [hashFileIncremental, if_neg (Nat.not_lt.mpr hsize), dif_neg (by omega)]
  generalize hresult : hashFileLoop file sha256Factory chunkSize _ sha256Factory.create 0 [] =
    result at *
  obtain ⟨hasher, reports⟩ := result
  have hhasher : hasher = .ok last := by
    rw [← hloop]
    exact (congrArg Prod.fst hresult).symm
  subst hhasher
  simp only
  rw [if_neg hthirtyTwo, hdigest]

/-- The incremental hasher is SHA-256. However a message of less than 2^53 bytes is cut
into pieces, every `update` is accepted, `array` returns the digest of the message, and
once more when it is called again; so the hash of a file is its digest for every size of
the chunks that is a positive safe integer. -/
theorem incrementalSha256_isSha256 :
    (∀ pieces : List Bytes, pieces.flatten.length < 2 ^ 53 →
      ∃ s, createSha256.updates pieces = .ok s ∧
        s.array.1 = Sha256.hash pieces.flatten ∧ s.array.2.array.1 = s.array.1) ∧
    ∀ (file : File) (chunkSize : ℕ), file.size < 2 ^ 53 → 0 < chunkSize → chunkSize < 2 ^ 53 →
      (hashFileIncremental file sha256Factory chunkSize).1 =
        .ok (Sha256.hash file.content) := by
  have hsafe {n : ℕ} (hn : n < 2 ^ 53) : n ≤ maxSafeInteger := Nat.le_sub_one_of_lt hn
  constructor
  · intro pieces hlength
    obtain ⟨s, hupdates, hs⟩ := IncrementalSha256.updates_ok IncrementalSha256.running_new
      pieces (by simpa using hsafe hlength)
    exact ⟨s, hupdates, IncrementalSha256.array_eq hs, s.array_array⟩
  · intro file chunkSize hsize hpositive hchunk
    exact hashFileIncremental_ok hpositive (hsafe hchunk) (hsafe hsize)

/-- The hypotheses hold of a message in three pieces, one of them empty, and of a file. -/
theorem incrementalSha256_isSha256_abc :
    (∃ s, createSha256.updates [[0x61], [], [0x62, 0x63]] = .ok s ∧
      s.array.1 = Sha256.hash [0x61, 0x62, 0x63] ∧ s.array.2.array.1 = s.array.1) ∧
    (hashFileIncremental ⟨[0x61], [0x61, 0x62, 0x63]⟩ sha256Factory 2).1 =
      .ok (Sha256.hash [0x61, 0x62, 0x63]) :=
  ⟨incrementalSha256_isSha256.1 [[0x61], [], [0x62, 0x63]] (by decide),
    incrementalSha256_isSha256.2 ⟨[0x61], [0x61, 0x62, 0x63]⟩ 2 (by decide) (by decide)
      (by decide)⟩

end PrintDrop.Web
