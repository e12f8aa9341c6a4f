/-
# A receiver on a platform that does not fail

Where neither setting up nor any call of the sink and of the hash fails, beginning, writing
and finishing succeed whenever the announced size and digest let them.
-/

import PrintDrop.Receiver.Handler

namespace PrintDrop

universe u v

variable {σ : Type u} {τ : Type v}

/-- A platform whose sink and hash keep `R` and `Q` and never fail where the receiver may
call them; the hash returns `digestOf` the data it was fed. -/
structure ReceivePlatform.Reliable (platform : ReceivePlatform σ τ) (R : SinkPhase → σ → Prop)
    (Q : HashPhase → τ → Prop) (digestOf : Bytes → Digest) : Prop where
  toImplements : platform.Implements R Q
  sinkInit : ∀ {sink root jobId name}, R .idle sink →
    (platform.sinkInit sink root jobId name).1 = true
  sinkBegin : ∀ {sink expected}, R .idle sink → (platform.sinkOps.begin sink expected).1 = .ok
  sinkWrite : ∀ {sink expected data chunk}, R (.writing expected data) sink →
    (platform.sinkOps.write sink chunk).1 = (.ok, chunk.length)
  sinkCommit : ∀ {sink expected data}, R (.writing expected data) sink →
    (platform.sinkOps.commit sink).1 = .ok
  hashBegin : ∀ {hash}, Q .idle hash → (platform.sha256Ops.begin hash).1 = .ok
  hashUpdate : ∀ {hash data chunk}, Q (.running data) hash →
    (platform.sha256Ops.update hash chunk).1 = .ok
  hashFinish : ∀ {hash data}, Q (.running data) hash →
    (platform.sha256Ops.finish hash).1 = (.ok, digestOf data)

variable {platform : ReceivePlatform σ τ} {R : SinkPhase → σ → Prop} {Q : HashPhase → τ → Prop}
  {digestOf : Bytes → Digest}

/-- Logging the sink's calls does not make it fail. -/
theorem ReceivePlatform.Reliable.recorded (hplatform : platform.Reliable R Q digestOf) :
    platform.recorded.Reliable (fun phase sink => R phase sink.1 ∧ SinkLog phase sink.2) Q
      digestOf where
  toImplements := hplatform.toImplements.recorded
  sinkInit hsink := hplatform.sinkInit hsink.1
  sinkBegin hsink := hplatform.sinkBegin hsink.1
  sinkWrite hsink := hplatform.sinkWrite hsink.1
  sinkCommit hsink := hplatform.sinkCommit hsink.1
  hashBegin := hplatform.hashBegin
  hashUpdate := hplatform.hashUpdate
  hashFinish := hplatform.hashFinish

variable {announced : Announced} {m : ReceiverState σ τ}

/-- A receiver that has been set up begins if its sink and its hash do. -/
theorem fileReceiverBegin_eq_ok (sinkOps : FileSinkOps σ) (integrityOps : IntegrityOps τ)
    (hstate : m.receiver.state = .idle)
    (hsink : (sinkOps.begin m.sink m.receiver.expectedBytes).1 = .ok)
    (hhash : m.receiver.integrityConfigured = true → (integrityOps.begin m.integrity).1 = .ok) :
    (fileReceiverBegin sinkOps integrityOps m).1 = .ok := by
  unfold fileReceiverBegin
  simp only [hstate, hsink, ne_eq, not_true_eq_false, if_false]
  split
  · rename_i hsome
    simp [hhash hsome]
  · rfl

theorem fileReceiverBegin_ok (hplatform : platform.Reliable R Q digestOf)
    (hrep : Represents R Q announced .idle m) :
    (fileReceiverBegin platform.sinkOps platform.sha256Ops m).1 = .ok := by
  refine fileReceiverBegin_eq_ok _ _ hrep.state (hplatform.sinkBegin hrep.sink) fun hsome => ?_
  obtain ⟨digest, hdigest⟩ := Option.isSome_iff_exists.mp (hrep.setUp.configured.symm.trans hsome)
  exact hplatform.hashBegin (hrep.hash digest hdigest)

/-- A receiver writes what fits if its sink and its hash take it. -/
theorem fileReceiverWrite_eq_ok (sinkOps : FileSinkOps σ) (integrityOps : IntegrityOps τ)
    {data chunk : Bytes}
    (hrep : Represents R Q announced (.receiving data) m) (hchunk : chunk ≠ [])
    (hsize : chunk.length ≤ frameMaxPayload)
    (hfits : data.length + chunk.length ≤ announced.bytes.toNat)
    (hwritten : (sinkOps.write m.sink chunk).1 = (.ok, chunk.length))
    (hupdated : ∀ digest ∈ announced.sha256, (integrityOps.update m.integrity chunk).1 = .ok) :
    (fileReceiverWrite sinkOps integrityOps m (.bytes chunk)).1 = .ok := by
  have hreceived := hrep.received
  have hbounded := hrep.bounded
  simp only [TransferPhase.data] at hreceived hbounded
  have hlength : (UInt64.ofNat chunk.length).toNat = chunk.length :=
    toNat_ofNat_of_le_frameMaxPayload hsize
  have hroom : ¬(m.receiver.expectedBytes < m.receiver.receivedBytes ∨
      m.receiver.expectedBytes - m.receiver.receivedBytes < UInt64.ofNat chunk.length) := by
    rw [hrep.setUp.bytes, exceeds_iff (by omega), hreceived, hlength]
    omega
  unfold fileReceiverWrite
  simp only [Buffer.isInvalid_bytes, hrep.state, TransferPhase.state, Buffer.size_bytes,
    Buffer.data?_bytes, Option.getD_some, ne_eq, not_true_eq_false, if_false,
    Bool.false_eq_true, List.length_eq_zero_iff, hchunk, Nat.not_lt.mpr hsize, hroom, hwritten,
    or_self]
  split
  · rename_i hsome
    obtain ⟨digest, hdigest⟩ := Option.isSome_iff_exists.mp
      (hrep.setUp.configured.symm.trans hsome)
    simp [hupdated digest hdigest]
  · rfl

theorem fileReceiverWrite_ok (hplatform : platform.Reliable R Q digestOf) {data chunk : Bytes}
    (hrep : Represents R Q announced (.receiving data) m) (hchunk : chunk ≠ [])
    (hsize : chunk.length ≤ frameMaxPayload)
    (hfits : data.length + chunk.length ≤ announced.bytes.toNat) :
    (fileReceiverWrite platform.sinkOps platform.sha256Ops m (.bytes chunk)).1 = .ok :=
  fileReceiverWrite_eq_ok _ _ hrep hchunk hsize hfits (hplatform.sinkWrite hrep.sink)
    fun digest hdigest => hplatform.hashUpdate (hrep.hash digest hdigest)

/-- A receiver that has all its bytes finishes if its hash returns the announced digest and
its sink commits. -/
theorem fileReceiverFinish_eq_ok (sinkOps : FileSinkOps σ) (integrityOps : IntegrityOps τ)
    {data : Bytes} (hrep : Represents R Q announced (.receiving data) m)
    (hlength : data.length = announced.bytes.toNat)
    (hfinished : ∀ digest ∈ announced.sha256,
      (integrityOps.finish m.integrity).1 = (.ok, digest))
    (hcommitted : (sinkOps.commit m.sink).1 = .ok) :
    (fileReceiverFinish sinkOps integrityOps m).1 = .ok := by
  have hreceived : m.receiver.receivedBytes = m.receiver.expectedBytes := by
    apply UInt64.toNat_inj.mp
    rw [hrep.received, hrep.setUp.bytes]
    exact hlength
  unfold fileReceiverFinish
  simp only [hrep.state, TransferPhase.state, hreceived, ne_eq, not_true_eq_false, if_false]
  split
  · rename_i hsome
    obtain ⟨digest, hsha256⟩ := Option.isSome_iff_exists.mp
      (hrep.setUp.configured.symm.trans hsome)
    have hstarted : m.receiver.integrityStarted = true := by
      rw [hrep.integrityStarted, hsha256]
      rfl
    have hequal : digestEqual digest m.receiver.expectedSha256 = true := by
      rw [digestEqual_iff, hrep.setUp.sha256 digest hsha256]
    simp [hstarted, hfinished digest hsha256, hequal, fileReceiverCommit, hcommitted]
  · simp [fileReceiverCommit, hcommitted]

theorem fileReceiverFinish_ok (hplatform : platform.Reliable R Q digestOf) {data : Bytes}
    (hrep : Represents R Q announced (.receiving data) m)
    (hlength : data.length = announced.bytes.toNat)
    (hdigest : ∀ digest ∈ announced.sha256, digestOf data = digest) :
    (fileReceiverFinish platform.sinkOps platform.sha256Ops m).1 = .ok := by
  refine fileReceiverFinish_eq_ok _ _ hrep hlength ?_ (hplatform.sinkCommit hrep.sink)
  intro digest hsha256
  rw [hplatform.hashFinish (hrep.hash digest hsha256), hdigest digest hsha256]

variable {leaks : Prop} {h : Win32ReceiveHandler σ τ} {file : FileBegin} {name : Bytes}
  {chunks : List Bytes}

/-- An initialised handler begins a file if its random source has a draw left. -/
theorem win32ReceiveBegin_ok (hplatform : platform.Reliable R Q digestOf)
    (hwaiting : HandlerAt R Q leaks .waiting h) (hinitialized : h.initialized = true)
    (hentropy : (jobIdCreate h.entropy.head?.join).1 = .ok) (file : FileBegin) (name : Bytes) :
    (win32ReceiveBegin platform h file name).1 = true := by
  obtain ⟨hactive, -, hsink, hhash⟩ := hwaiting
  have hinit : (platform.sinkInit h.sink h.rootDirectory
      (jobIdCreate h.entropy.head?.join).2 name).1 = true := hplatform.sinkInit hsink
  have hrep : Represents R Q (announcedBy file) .idle
      { receiver := (fileReceiverConfigureIntegrity (fileReceiverInit file.fileSize)
          file.sha256).2
        sink := (platform.sinkInit h.sink h.rootDirectory
          (jobIdCreate h.entropy.head?.join).2 name).2
        integrity := platform.sha256Init h.integrity } :=
    represents_idle (.inr ⟨file.sha256, rfl, rfl⟩) (hplatform.toImplements.sinkInit hsink)
      (hplatform.toImplements.sha256Init hhash)
  have hbegun := fileReceiverBegin_ok hplatform hrep
  have hconfigured : (fileReceiverConfigureIntegrity (fileReceiverInit file.fileSize)
      file.sha256).1 = .ok := rfl
  simp [win32ReceiveBegin, hinitialized, hactive, hentropy, hinit, hconfigured, hbegun]

theorem win32ReceiveChunk_ok (hplatform : platform.Reliable R Q digestOf)
    (hphase : HandlerAt R Q leaks (.active file name chunks) h) {chunk : Bytes}
    (hchunk : chunk ≠ []) (hsize : chunk.length ≤ frameMaxPayload)
    (hfits : chunks.flatten.length + chunk.length ≤ file.fileSize.toNat) :
    (win32ReceiveChunk platform h chunk).1 = true := by
  obtain ⟨hactive, hrep⟩ := hphase
  have hwritten := fileReceiverWrite_ok hplatform hrep hchunk hsize hfits
  simp [win32ReceiveChunk, hactive, hwritten]

theorem win32ReceiveFinish_ok (hplatform : platform.Reliable R Q digestOf)
    (hphase : HandlerAt R Q leaks (.active file name chunks) h)
    (hlength : chunks.flatten.length = file.fileSize.toNat)
    (hdigest : digestOf chunks.flatten = file.sha256) :
    (win32ReceiveFinish platform h).1 = true := by
  obtain ⟨hactive, hrep⟩ := hphase
  have hfinished := fileReceiverFinish_ok hplatform hrep hlength fun digest hsha256 =>
    hdigest.trans (Option.some.inj hsha256)
  simp [win32ReceiveFinish, hactive, hfinished]

/-- How many bytes a handler in its file has received. -/
theorem toNat_receivedBytes (hphase : HandlerAt R Q leaks (.active file name chunks) h ∨
      HandlerAt R Q leaks (.finished file name chunks) h) :
    h.receiver.receivedBytes.toNat = chunks.flatten.length := by
  rcases hphase with hphase | hphase
  · exact hphase.2.received
  · exact hphase.2.received

end PrintDrop
