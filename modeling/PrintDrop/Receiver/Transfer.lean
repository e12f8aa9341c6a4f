/-
# What a file receiver is for

The abstract side of `file_receive.c`. A transfer is a phase and the bytes it has
accepted. A sink and a hash are described by the phases their callers may bring
them through; an operation table implements such a description when every
function, called where the discipline allows it, leads to the phase its status
announces.

The results at the end say that the receiver keeps its counters, its flags and
both contexts in step with the abstract transfer, for every description the
tables implement. What is wanted of a sink or a hash (a log of its calls, the
files on a disk, the handles that are open) is a choice of description.
-/

import PrintDrop.Receiver.FileReceive

namespace PrintDrop

universe u v

/-- Where a sink is between its creation and its release. -/
inductive SinkPhase
  /-- Not begun. -/
  | idle
  /-- Asked to begin, without success. -/
  | refused
  /-- Begun; every write so far was complete. -/
  | writing (expected : UInt64) (data : Bytes)
  /-- Begun, and a write or the commit failed. -/
  | broken
  | committed (expected : UInt64) (data : Bytes)
  | aborted

/-- Where a hash is between its creation and its release. -/
inductive HashPhase
  | idle
  | refused
  | running (data : Bytes)
  | broken
  | finished (data : Bytes) (digest : Digest)
  | aborted

/-- Where a transfer is, with the bytes it has accepted. -/
inductive TransferPhase
  | idle
  | receiving (data : Bytes)
  | complete (data : Bytes)
  | failed (data : Bytes)
  | aborted (data : Bytes)

namespace TransferPhase

@[simp]
def data : TransferPhase → Bytes
  | .idle => []
  | .receiving data | .complete data | .failed data | .aborted data => data

@[simp]
def state : TransferPhase → FileReceiveState
  | .idle => .idle
  | .receiving _ => .receiving
  | .complete _ => .complete
  | .failed _ => .failed
  | .aborted _ => .aborted

@[simp]
def isReceiving : TransferPhase → Bool
  | .receiving _ => true
  | _ => false

end TransferPhase

variable {σ : Type u} {τ : Type v}

/-- A sink table keeps `R` along the phases. A receiver writes only what fits the
announced size and commits only when all of it has been written, so no more is
asked of the table. -/
structure FileSinkOps.Implements (ops : FileSinkOps σ) (R : SinkPhase → σ → Prop) : Prop where
  begin_ok : ∀ {sink expected}, R .idle sink → (ops.begin sink expected).1 = .ok →
    R (.writing expected []) (ops.begin sink expected).2
  begin_error : ∀ {sink expected}, R .idle sink → (ops.begin sink expected).1 ≠ .ok →
    R .refused (ops.begin sink expected).2
  write_ok : ∀ {sink expected data chunk}, R (.writing expected data) sink → chunk ≠ [] →
    chunk.length ≤ frameMaxPayload → data.length + chunk.length ≤ expected.toNat →
    (ops.write sink chunk).1.1 = .ok → (ops.write sink chunk).1.2 = chunk.length →
    R (.writing expected (data ++ chunk)) (ops.write sink chunk).2
  write_error : ∀ {sink expected data chunk}, R (.writing expected data) sink → chunk ≠ [] →
    chunk.length ≤ frameMaxPayload → data.length + chunk.length ≤ expected.toNat →
    ((ops.write sink chunk).1.1 ≠ .ok ∨ (ops.write sink chunk).1.2 ≠ chunk.length) →
    R .broken (ops.write sink chunk).2
  commit_ok : ∀ {sink expected data}, R (.writing expected data) sink →
    data.length = expected.toNat → (ops.commit sink).1 = .ok →
    R (.committed expected data) (ops.commit sink).2
  commit_error : ∀ {sink expected data}, R (.writing expected data) sink →
    data.length = expected.toNat → (ops.commit sink).1 ≠ .ok → R .broken (ops.commit sink).2
  abort_writing : ∀ {sink expected data}, R (.writing expected data) sink →
    R .aborted (ops.abort sink)
  abort_broken : ∀ {sink}, R .broken sink → R .aborted (ops.abort sink)

/-- A hash table keeps `Q` along the phases. -/
structure IntegrityOps.Implements (ops : IntegrityOps τ) (Q : HashPhase → τ → Prop) : Prop where
  begin_ok : ∀ {hash}, Q .idle hash → (ops.begin hash).1 = .ok → Q (.running []) (ops.begin hash).2
  begin_error : ∀ {hash}, Q .idle hash → (ops.begin hash).1 ≠ .ok → Q .refused (ops.begin hash).2
  update_ok : ∀ {hash data chunk}, Q (.running data) hash → chunk ≠ [] →
    (ops.update hash chunk).1 = .ok → Q (.running (data ++ chunk)) (ops.update hash chunk).2
  update_error : ∀ {hash data chunk}, Q (.running data) hash → chunk ≠ [] →
    (ops.update hash chunk).1 ≠ .ok → Q .broken (ops.update hash chunk).2
  finish_ok : ∀ {hash data}, Q (.running data) hash → (ops.finish hash).1.1 = .ok →
    Q (.finished data (ops.finish hash).1.2) (ops.finish hash).2
  finish_error : ∀ {hash data}, Q (.running data) hash → (ops.finish hash).1.1 ≠ .ok →
    Q .broken (ops.finish hash).2
  abort_running : ∀ {hash data}, Q (.running data) hash → Q .aborted (ops.abort hash)
  abort_broken : ∀ {hash}, Q .broken hash → Q .aborted (ops.abort hash)

variable (R : SinkPhase → σ → Prop) (Q : HashPhase → τ → Prop)

/-- The sink of a transfer that announced `expected` bytes. -/
def SinkAt (expected : UInt64) : TransferPhase → σ → Prop
  | .idle, sink => R .idle sink
  | .receiving data, sink => R (.writing expected data) sink
  | .complete data, sink => R (.committed expected data) sink ∧ data.length = expected.toNat
  | .failed _, sink => R .refused sink ∨ R .aborted sink
  | .aborted _, sink => R .aborted sink

/-- The sink of a transfer is in one phase; it has committed only where the transfer
is complete, and is written or broken only while it receives. -/
theorem SinkAt.exists_phase {expected : UInt64} {phase : TransferPhase} {sink : σ}
    (hsink : SinkAt R expected phase sink) : ∃ sinkPhase, R sinkPhase sink ∧
      ((∃ announced data, sinkPhase = .committed announced data) → ∃ data, phase = .complete data) ∧
      ((∃ announced data, sinkPhase = .writing announced data) ∨ sinkPhase = .broken →
        ∃ data, phase = .receiving data) := by
  cases phase with
  | idle => exact ⟨.idle, hsink, by simp, by simp⟩
  | receiving data => exact ⟨.writing expected data, hsink, by simp, by simp⟩
  | complete data => exact ⟨.committed expected data, hsink.1, by simp, by simp⟩
  | failed data =>
      rcases hsink with hsink | hsink
      · exact ⟨.refused, hsink, by simp, by simp⟩
      · exact ⟨.aborted, hsink, by simp, by simp⟩
  | aborted data => exact ⟨.aborted, hsink, by simp, by simp⟩

/-- The hash of a transfer that announced the digest `expected`. Where the transfer
failed, the hash was not reached, refused to begin, was aborted, or finished before
the transfer failed. -/
def HashAt (expected : Digest) : TransferPhase → τ → Prop
  | .idle, hash => Q .idle hash
  | .receiving data, hash => Q (.running data) hash
  | .complete data, hash => Q (.finished data expected) hash
  | .failed data, hash => Q .idle hash ∨ Q .refused hash ∨ Q .aborted hash ∨
      ∃ digest, Q (.finished data digest) hash
  | .aborted _, hash => Q .aborted hash

/-- What was announced of a file: its size and, when integrity is configured, its
digest. -/
structure Announced where
  bytes : UInt64
  sha256 : Option Digest

/-- A receiver was set up for what was announced. -/
structure SetUpFor (announced : Announced) (receiver : FileReceiver) : Prop where
  bytes : receiver.expectedBytes = announced.bytes
  configured : receiver.integrityConfigured = announced.sha256.isSome
  sha256 : ∀ digest ∈ announced.sha256, receiver.expectedSha256 = digest

/-- The receiver's fields and contexts say what the transfer says. -/
structure Represents (announced : Announced) (phase : TransferPhase) (m : ReceiverState σ τ) :
    Prop where
  setUp : SetUpFor announced m.receiver
  state : m.receiver.state = phase.state
  sinkStarted : m.receiver.sinkStarted = phase.isReceiving
  integrityStarted : m.receiver.integrityStarted = (phase.isReceiving && announced.sha256.isSome)
  received : m.receiver.receivedBytes.toNat = phase.data.length
  bounded : phase.data.length ≤ announced.bytes.toNat
  sink : SinkAt R announced.bytes phase m.sink
  hash : ∀ digest ∈ announced.sha256, HashAt Q digest phase m.integrity

/-! ## Giving up

A receiver that fails or aborts while its sink is begun hands both contexts their
abort, the hash only if it was begun and has not been finished. -/

variable {R Q} {sinkOps : FileSinkOps σ} {integrityOps : IntegrityOps τ}

variable (sinkOps integrityOps) in
theorem fileReceiverAbortResources_receiver (m : ReceiverState σ τ) :
    (fileReceiverAbortResources sinkOps integrityOps m).receiver =
      { m.receiver with integrityStarted := false, sinkStarted := false } := by
  obtain ⟨⟨_, _, _, _, sinkStarted, _, integrityStarted⟩, _, _⟩ := m
  cases integrityStarted <;> cases sinkStarted <;> rfl

theorem fileReceiverAbortResources_sink {m : ReceiverState σ τ}
    (hsink : m.receiver.sinkStarted = true) :
    (fileReceiverAbortResources sinkOps integrityOps m).sink = sinkOps.abort m.sink := by
  unfold fileReceiverAbortResources
  cases hhash : m.receiver.integrityStarted <;> simp [hhash, hsink]

theorem fileReceiverAbortResources_integrity (m : ReceiverState σ τ) :
    (fileReceiverAbortResources sinkOps integrityOps m).integrity =
      if m.receiver.integrityStarted then integrityOps.abort m.integrity else m.integrity := by
  unfold fileReceiverAbortResources
  cases hhash : m.receiver.integrityStarted <;> cases hsink : m.receiver.sinkStarted <;>
    simp [hhash, hsink]

/-- Failing a transfer that is being received: the sink is aborted, the hash too
unless it has been finished. -/
theorem fileReceiverFail_represents {announced : Announced} {data : Bytes}
    {receiver : FileReceiver} {sink : σ} {integrity : τ} (hsetUp : SetUpFor announced receiver)
    (hsinkStarted : receiver.sinkStarted = true)
    (hreceived : receiver.receivedBytes.toNat = data.length)
    (hbounded : data.length ≤ announced.bytes.toNat)
    (hsink : R .aborted (sinkOps.abort sink))
    (hhash : ∀ digest ∈ announced.sha256, HashAt Q digest (.failed data)
      (if receiver.integrityStarted then integrityOps.abort integrity else integrity))
    (result : FileReceiveResult) :
    Represents R Q announced (.failed data)
      (fileReceiverFail sinkOps integrityOps ⟨receiver, sink, integrity⟩ result).2 := by
  have hreceiver := fileReceiverAbortResources_receiver sinkOps integrityOps
    ⟨receiver, sink, integrity⟩
  refine ⟨?_, rfl, ?_, ?_, ?_, hbounded, ?_, ?_⟩
  · simp only [fileReceiverFail, hreceiver]
    exact ⟨hsetUp.bytes, hsetUp.configured, hsetUp.sha256⟩
  · simp [fileReceiverFail, hreceiver]
  · simp [fileReceiverFail, hreceiver]
  · simpa [fileReceiverFail, hreceiver] using hreceived
  · right
    simpa [fileReceiverFail, fileReceiverAbortResources_sink (m := ⟨receiver, sink, integrity⟩)
      hsinkStarted] using hsink
  · intro digest hdigest
    simpa [fileReceiverFail, fileReceiverAbortResources_integrity] using hhash digest hdigest

@[simp]
theorem fileReceiverFail_result (m : ReceiverState σ τ) (result : FileReceiveResult) :
    (fileReceiverFail sinkOps integrityOps m result).1 = result := rfl

variable {announced : Announced}

/-- What beginning an idle receiver comes to. -/
inductive BeginOutcome (R : SinkPhase → σ → Prop) (Q : HashPhase → τ → Prop)
    (announced : Announced) (outcome : FileReceiveResult × ReceiverState σ τ) : Prop
  | receiving (hresult : outcome.1 = .ok)
    (hrep : Represents R Q announced (.receiving []) outcome.2)
  | failed (hresult : outcome.1 ≠ .ok) (hrep : Represents R Q announced (.failed []) outcome.2)

theorem fileReceiverBegin_outcome (hsinkOps : sinkOps.Implements R)
    (hintegrityOps : integrityOps.Implements Q) {m : ReceiverState σ τ}
    (hrep : Represents R Q announced .idle m) :
    BeginOutcome R Q announced (fileReceiverBegin sinkOps integrityOps m) := by
  obtain ⟨hsetUp, hstate, hsinkStarted, hintegrityStarted, hreceived, hbounded, hsink, hhash⟩ :=
    hrep
  obtain ⟨hbytes, hconfigured, hsha256⟩ := hsetUp
  have hidle : ¬m.receiver.state ≠ .idle := not_not.mpr hstate
  unfold fileReceiverBegin
  rw [if_neg hidle, hbytes]
  dsimp only
  split
  · rename_i hbegun
    have hrefused := hsinkOps.begin_error hsink hbegun
    exact .failed (by simp) ⟨⟨hbytes, hconfigured, hsha256⟩, rfl, hsinkStarted,
      hintegrityStarted, hreceived, hbounded, .inl hrefused,
      fun digest hdigest => .inl (hhash digest hdigest)⟩
  rename_i hbegun
  have hwriting := hsinkOps.begin_ok hsink (not_not.mp hbegun)
  split
  · rename_i hsome
    rw [hconfigured] at hsome
    obtain ⟨digest, hdigest⟩ := Option.isSome_iff_exists.mp hsome
    have hhashIdle := hhash digest hdigest
    split
    · rename_i hstarted
      have hrefused := hintegrityOps.begin_error hhashIdle hstarted
      refine .failed (by simp) (fileReceiverFail_represents ?_ rfl ?_ hbounded ?_ ?_ _)
      · exact ⟨hbytes, hconfigured, hsha256⟩
      · exact hreceived
      · exact hsinkOps.abort_writing hwriting
      · intro digest' _
        rw [if_neg (by simp [hintegrityStarted])]
        exact .inr (.inl hrefused)
    · rename_i hstarted
      have hrunning := hintegrityOps.begin_ok hhashIdle (not_not.mp hstarted)
      exact .receiving rfl ⟨⟨hbytes, hconfigured, hsha256⟩, rfl, rfl, by simp [hsome],
        hreceived, hbounded, hwriting, fun _ _ => hrunning⟩
  · rename_i hnone
    rw [hconfigured] at hnone
    refine .receiving rfl ⟨⟨hbytes, hconfigured, hsha256⟩, rfl, rfl, ?_, hreceived, hbounded,
      hwriting, ?_⟩
    · simpa [hnone] using hintegrityStarted
    · intro digest hdigest
      exact absurd (Option.isSome_iff_exists.mpr ⟨digest, hdigest⟩) hnone

/-- What writing a chunk to a receiver that has accepted `data` comes to: the chunk is
accepted, refused without any effect, or ends the transfer. -/
inductive WriteOutcome (R : SinkPhase → σ → Prop) (Q : HashPhase → τ → Prop)
    (announced : Announced) (m : ReceiverState σ τ) (data chunk : Bytes)
    (outcome : FileReceiveResult × ReceiverState σ τ) : Prop
  | accepted (hresult : outcome.1 = .ok) (hsize : chunk.length ≤ frameMaxPayload)
    (hrep : Represents R Q announced (.receiving (data ++ chunk)) outcome.2)
  | refused (hresult : outcome.1 = .chunkTooLarge ∧ frameMaxPayload < chunk.length ∨
      outcome.1 = .exceedsExpectedSize ∧ announced.bytes.toNat < data.length + chunk.length)
    (hsame : outcome.2 = m)
  | failed (hresult : outcome.1 = .sinkError ∨ outcome.1 = .integrityError)
    (hrep : Represents R Q announced (.failed data) outcome.2)

/-- The size of a chunk fits the counter. -/
theorem toNat_ofNat_of_le_frameMaxPayload {size : ℕ} (hsize : size ≤ frameMaxPayload) :
    (UInt64.ofNat size).toNat = size := by
  rw [UInt64.toNat_ofNat']
  simp only [frameMaxPayload] at hsize
  omega

/-- The source's overflow-safe comparison says that the chunk does not fit. -/
theorem exceeds_iff {expected received size : UInt64}
    (hle : received.toNat ≤ expected.toNat) :
    expected < received ∨ expected - received < size ↔
      expected.toNat < received.toNat + size.toNat := by
  rw [UInt64.lt_iff_toNat_lt, UInt64.lt_iff_toNat_lt,
    UInt64.toNat_sub_of_le _ _ (UInt64.le_iff_toNat_le.mpr hle)]
  omega

/-- The source's comparisons let through what fits, whatever the counter. -/
theorem fits_of_not_exceeds {expected received size : UInt64}
    (hfits : ¬(expected < received ∨ expected - received < size)) :
    received.toNat + size.toNat ≤ expected.toNat := by
  have hle : received.toNat ≤ expected.toNat := by
    rw [← UInt64.le_iff_toNat_le]
    exact UInt64.not_lt.mp fun hlt => hfits (.inl hlt)
  rw [exceeds_iff hle] at hfits
  exact not_lt.mp hfits

/-- What fits is added without overflow. -/
theorem toNat_add_of_fits {expected received size : UInt64}
    (hfits : received.toNat + size.toNat ≤ expected.toNat) :
    (received + size).toNat = received.toNat + size.toNat := by
  have hmax := expected.toNat_lt
  rw [UInt64.toNat_add]
  omega

theorem fileReceiverWrite_outcome (hsinkOps : sinkOps.Implements R)
    (hintegrityOps : integrityOps.Implements Q) {m : ReceiverState σ τ} {data chunk : Bytes}
    (hrep : Represents R Q announced (.receiving data) m) (hchunk : chunk ≠ []) :
    WriteOutcome R Q announced m data chunk
      (fileReceiverWrite sinkOps integrityOps m (.bytes chunk)) := by
  obtain ⟨hsetUp, hstate, hsinkStarted, hintegrityStarted, hreceived, hbounded, hsink, hhash⟩ :=
    hrep
  obtain ⟨hbytes, hconfigured, hsha256⟩ := hsetUp
  simp only [TransferPhase.data] at hreceived hbounded
  have hreceiving : ¬m.receiver.state ≠ .receiving := not_not.mpr hstate
  have hnonempty : chunk.length ≠ 0 := fun hzero => hchunk (List.length_eq_zero_iff.mp hzero)
  have hstarted : ∀ digest ∈ announced.sha256, m.receiver.integrityStarted = true := by
    intro digest hdigest
    simpa [Option.isSome_iff_exists.mpr ⟨digest, hdigest⟩] using hintegrityStarted
  unfold fileReceiverWrite
  rw [Buffer.isInvalid_bytes, if_neg Bool.false_ne_true, if_neg hreceiving, Buffer.size_bytes,
    if_neg hnonempty, hbytes]
  dsimp only [Buffer.data?_bytes, Option.getD_some]
  split
  · rename_i hlarge
    exact .refused (.inl ⟨rfl, hlarge⟩) rfl
  rename_i hsmall
  have hsize : (UInt64.ofNat chunk.length).toNat = chunk.length :=
    toNat_ofNat_of_le_frameMaxPayload (not_lt.mp hsmall)
  split
  · rename_i hexceeds
    rw [exceeds_iff (by omega), hreceived, hsize] at hexceeds
    exact .refused (.inr ⟨rfl, hexceeds⟩) rfl
  rename_i hfits
  rw [exceeds_iff (by omega), hreceived, hsize] at hfits
  have hsum : (m.receiver.receivedBytes + UInt64.ofNat chunk.length).toNat =
      (data ++ chunk).length := by
    have hmax := announced.bytes.toNat_lt
    rw [UInt64.toNat_add, hreceived, hsize, List.length_append]
    omega
  split
  · rename_i hwritten
    have hbroken := hsinkOps.write_error hsink hchunk (not_lt.mp hsmall) (not_lt.mp hfits) hwritten
    refine .failed (.inl rfl) (fileReceiverFail_represents ?_ hsinkStarted hreceived hbounded ?_
      ?_ _)
    · exact ⟨hbytes, hconfigured, hsha256⟩
    · exact hsinkOps.abort_broken hbroken
    · intro digest hdigest
      rw [if_pos (hstarted digest hdigest)]
      exact .inr (.inr (.inl (hintegrityOps.abort_running (hhash digest hdigest))))
  rename_i hwritten
  rw [not_or, not_not, not_not] at hwritten
  have hwriting := hsinkOps.write_ok hsink hchunk (not_lt.mp hsmall) (not_lt.mp hfits)
    hwritten.1 hwritten.2
  have hbounded' : (data ++ chunk).length ≤ announced.bytes.toNat := by
    rw [List.length_append]
    exact not_lt.mp hfits
  split
  · rename_i hsome
    rw [hconfigured] at hsome
    obtain ⟨digest, hdigest⟩ := Option.isSome_iff_exists.mp hsome
    split
    · rename_i hupdated
      have hbroken := hintegrityOps.update_error (hhash digest hdigest) hchunk hupdated
      refine .failed (.inr rfl) (fileReceiverFail_represents ?_ hsinkStarted hreceived hbounded ?_
        ?_ _)
      · exact ⟨hbytes, hconfigured, hsha256⟩
      · exact hsinkOps.abort_writing hwriting
      · intro digest' hdigest'
        rw [if_pos (hstarted digest' hdigest')]
        exact .inr (.inr (.inl (hintegrityOps.abort_broken hbroken)))
    · rename_i hupdated
      have hrunning := hintegrityOps.update_ok (hhash digest hdigest) hchunk (not_not.mp hupdated)
      exact .accepted rfl (not_lt.mp hsmall) ⟨⟨hbytes, hconfigured, hsha256⟩, hstate, hsinkStarted,
        hintegrityStarted, hsum, hbounded', hwriting, fun _ _ => hrunning⟩
  · rename_i hnone
    rw [hconfigured] at hnone
    refine .accepted rfl (not_lt.mp hsmall) ⟨⟨hbytes, hconfigured, hsha256⟩, hstate, hsinkStarted,
      hintegrityStarted, hsum, hbounded', hwriting, ?_⟩
    intro digest hdigest
    exact absurd (Option.isSome_iff_exists.mpr ⟨digest, hdigest⟩) hnone

/-- What finishing a receiver that has accepted `data` comes to. Without all of the
announced bytes nothing happens at all. -/
inductive FinishOutcome (R : SinkPhase → σ → Prop) (Q : HashPhase → τ → Prop)
    (announced : Announced) (m : ReceiverState σ τ) (data : Bytes)
    (outcome : FileReceiveResult × ReceiverState σ τ) : Prop
  | complete (hresult : outcome.1 = .ok) (hlength : data.length = announced.bytes.toNat)
    (hrep : Represents R Q announced (.complete data) outcome.2)
  | incomplete (hresult : outcome.1 = .incomplete) (hlength : data.length ≠ announced.bytes.toNat)
    (hsame : outcome.2 = m)
  | failed (hresult : outcome.1 = .sinkError ∨ outcome.1 = .integrityError ∨
      outcome.1 = .integrityMismatch) (hlength : data.length = announced.bytes.toNat)
    (hrep : Represents R Q announced (.failed data) outcome.2)

/-- Committing a transfer whose bytes are all there and whose hash, if it has one, has
finished with the announced digest. -/
private theorem fileReceiverCommit_outcome (hsinkOps : sinkOps.Implements R)
    {receiver : FileReceiver} {sink : σ} {integrity : τ} {data : Bytes}
    (hsetUp : SetUpFor announced receiver) (hsinkStarted : receiver.sinkStarted = true)
    (hintegrityStarted : receiver.integrityStarted = false)
    (hreceived : receiver.receivedBytes.toNat = data.length)
    (hlength : data.length = announced.bytes.toNat)
    (hsink : R (.writing announced.bytes data) sink)
    (hhash : ∀ digest ∈ announced.sha256, HashAt Q digest (.complete data) integrity)
    (origin : ReceiverState σ τ) :
    FinishOutcome R Q announced origin data
      (fileReceiverCommit sinkOps integrityOps ⟨receiver, sink, integrity⟩) := by
  unfold fileReceiverCommit
  dsimp only
  split
  · rename_i hcommitted
    have hbroken := hsinkOps.commit_error hsink hlength hcommitted
    refine .failed (.inl rfl) hlength (fileReceiverFail_represents ?_ hsinkStarted hreceived
      hlength.le ?_ ?_ _)
    · exact hsetUp
    · exact hsinkOps.abort_broken hbroken
    · intro digest hdigest
      rw [if_neg (by simp [hintegrityStarted])]
      exact .inr (.inr (.inr ⟨digest, hhash digest hdigest⟩))
  · rename_i hcommitted
    have hdone := hsinkOps.commit_ok hsink hlength (not_not.mp hcommitted)
    exact .complete rfl hlength ⟨⟨hsetUp.bytes, hsetUp.configured, hsetUp.sha256⟩, rfl, rfl,
      hintegrityStarted, hreceived, hlength.le, ⟨hdone, hlength⟩, hhash⟩

theorem fileReceiverFinish_outcome (hsinkOps : sinkOps.Implements R)
    (hintegrityOps : integrityOps.Implements Q) {m : ReceiverState σ τ} {data : Bytes}
    (hrep : Represents R Q announced (.receiving data) m) :
    FinishOutcome R Q announced m data (fileReceiverFinish sinkOps integrityOps m) := by
  obtain ⟨hsetUp, hstate, hsinkStarted, hintegrityStarted, hreceived, hbounded, hsink, hhash⟩ :=
    hrep
  have hbytes := hsetUp.bytes
  have hconfigured := hsetUp.configured
  simp only [TransferPhase.data] at hreceived hbounded
  have hreceiving : ¬m.receiver.state ≠ .receiving := not_not.mpr hstate
  unfold fileReceiverFinish
  rw [if_neg hreceiving]
  split
  · rename_i hdifferent
    refine .incomplete rfl ?_ rfl
    rw [← hreceived, ← hbytes]
    exact fun hequal => hdifferent (UInt64.toNat_inj.mp hequal)
  rename_i hequal
  have hlength : data.length = announced.bytes.toNat := by
    rw [← hreceived, not_not.mp hequal, hbytes]
  split
  swap
  · rename_i hnone
    rw [hconfigured] at hnone
    refine fileReceiverCommit_outcome hsinkOps hsetUp hsinkStarted ?_ hreceived hlength hsink ?_ m
    · simpa [hnone] using hintegrityStarted
    · intro digest hdigest
      exact absurd (Option.isSome_iff_exists.mpr ⟨digest, hdigest⟩) hnone
  rename_i hsome
  rw [hconfigured] at hsome
  obtain ⟨digest, hdigest⟩ := Option.isSome_iff_exists.mp hsome
  have hstarted : m.receiver.integrityStarted = true := by simpa [hsome] using hintegrityStarted
  have honly : ∀ digest' ∈ announced.sha256, digest' = digest := fun digest' hdigest' =>
    Option.some.inj (hdigest'.symm.trans hdigest)
  rw [if_neg (by simp [hstarted])]
  dsimp only
  split
  · rename_i hfinished
    have hbroken := hintegrityOps.finish_error (hhash digest hdigest) hfinished
    refine .failed (.inr (.inl rfl)) hlength (fileReceiverFail_represents ?_ hsinkStarted
      hreceived hbounded ?_ ?_ _)
    · exact hsetUp
    · exact hsinkOps.abort_writing hsink
    · intro _ _
      rw [if_pos hstarted]
      exact .inr (.inr (.inl (hintegrityOps.abort_broken hbroken)))
  rename_i hfinished
  have hdone := hintegrityOps.finish_ok (hhash digest hdigest) (not_not.mp hfinished)
  split
  · -- another digest: the sink is aborted, the hash has released itself
    rename_i hmismatch
    rw [if_pos (show m.receiver.sinkStarted = true from hsinkStarted)]
    exact .failed (.inr (.inr rfl)) hlength ⟨⟨hbytes, hconfigured, hsetUp.sha256⟩, rfl, rfl, rfl,
      hreceived, hbounded, .inr (hsinkOps.abort_writing hsink),
      fun _ _ => .inr (.inr (.inr ⟨_, hdone⟩))⟩
  · rename_i hmatch
    have hdigestEq : (integrityOps.finish m.integrity).1.2 = digest := by
      rw [Bool.not_eq_true, Bool.not_eq_false', digestEqual_iff, hsetUp.sha256 digest hdigest]
        at hmatch
      exact hmatch
    refine fileReceiverCommit_outcome hsinkOps ?_ ?_ ?_ ?_ hlength hsink ?_ m
    · exact ⟨hbytes, hconfigured, hsetUp.sha256⟩
    · exact hsinkStarted
    · rfl
    · exact hreceived
    · intro digest' hdigest'
      rw [honly digest' hdigest', ← hdigestEq]
      exact hdone

/-- Aborting a receiver that is receiving gives up both its contexts. -/
theorem fileReceiverAbort_represents (hsinkOps : sinkOps.Implements R)
    (hintegrityOps : integrityOps.Implements Q) {m : ReceiverState σ τ} {data : Bytes}
    (hrep : Represents R Q announced (.receiving data) m) :
    Represents R Q announced (.aborted data) (fileReceiverAbort sinkOps integrityOps m) := by
  obtain ⟨hsetUp, hstate, hsinkStarted, hintegrityStarted, hreceived, hbounded, hsink, hhash⟩ :=
    hrep
  have hreceiving : ¬m.receiver.state ≠ .receiving := not_not.mpr hstate
  have hreceiver := fileReceiverAbortResources_receiver sinkOps integrityOps m
  unfold fileReceiverAbort
  rw [if_neg hreceiving]
  refine ⟨?_, rfl, ?_, ?_, ?_, hbounded, ?_, ?_⟩
  · simp only [hreceiver]
    exact ⟨hsetUp.bytes, hsetUp.configured, hsetUp.sha256⟩
  · simp [hreceiver]
  · simp [hreceiver]
  · simpa [hreceiver] using hreceived
  · show R .aborted (fileReceiverAbortResources sinkOps integrityOps m).sink
    rw [fileReceiverAbortResources_sink hsinkStarted]
    exact hsinkOps.abort_writing hsink
  · intro digest hdigest
    show Q .aborted (fileReceiverAbortResources sinkOps integrityOps m).integrity
    rw [fileReceiverAbortResources_integrity, if_pos]
    · exact hintegrityOps.abort_running (hhash digest hdigest)
    · simpa [Option.isSome_iff_exists.mpr ⟨digest, hdigest⟩] using hintegrityStarted

end PrintDrop
