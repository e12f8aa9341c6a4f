/-
# The receive handler

`win32_receive_handler.c`: the handler behind the receiver protocol. It draws a job
identifier, sets up a sink and a hash and runs a file receiver over them.

The sink, the hash and the random source are parameters, so that the handler can
be run over the Win32 sink, over recording tables, or over any others.
-/

import PrintDrop.Receiver.JobId
import PrintDrop.Receiver.Recording
import PrintDrop.Receiver.Discipline

namespace PrintDrop

universe u v

/-- A NUL-terminated wide string: its code units before the terminator. -/
abbrev WideString := List UInt16

def win32PathCapacity : ℕ := 260

/-- What the handler calls: `pd_win32_file_sink_init` (the root directory, the job
identifier and the file name), `pd_win32_sha256_init` and the two tables. -/
structure ReceivePlatform (σ : Type u) (τ : Type v) where
  sinkInit : σ → WideString → Bytes → Bytes → Bool × σ
  sinkOps : FileSinkOps σ
  sha256Init : τ → τ
  sha256Ops : IntegrityOps τ

/-- A platform on which nothing fails and whose hash always returns the same digest. -/
def constantPlatform (digest : Digest) : ReceivePlatform Unit Unit where
  sinkInit sink _ _ _ := (true, sink)
  sinkOps := {
    begin := fun sink _ => (.ok, sink)
    write := fun sink data => ((.ok, data.length), sink)
    commit := fun sink => (.ok, sink)
    abort := fun sink => sink }
  sha256Init hash := hash
  sha256Ops := fixedHashOps digest

/-- `pd_win32_receive_handler`. The draws its random source is going to make are part
of the state; once they are used up it fails. -/
structure Win32ReceiveHandler (σ : Type u) (τ : Type v) extends ReceiverState σ τ where
  rootDirectory : WideString
  jobId : Bytes
  entropy : List RandomDraw
  initialized : Bool
  active : Bool

inductive Win32ReceiveHandlerResult
  | ok
  | invalidArgument
  | pathTooLong
  deriving DecidableEq, Repr

variable {σ : Type u} {τ : Type v}

/-- A handler as initialisation leaves it. The contexts are the zeroed ones. -/
def Win32ReceiveHandler.fresh (rootDirectory : WideString) (sink : σ) (sha256 : τ)
    (entropy : List RandomDraw) : Win32ReceiveHandler σ τ where
  receiver := fileReceiverInit 0
  sink := sink
  integrity := sha256
  rootDirectory := rootDirectory
  jobId := []
  entropy := entropy
  initialized := true
  active := false

/-- `pd_win32_receive_handler_init`. -/
def win32ReceiveHandlerInit (rootDirectory : WideString) (sink : σ) (sha256 : τ)
    (entropy : List RandomDraw) : Except Win32ReceiveHandlerResult (Win32ReceiveHandler σ τ) :=
  if rootDirectory = [] then .error .invalidArgument
  else if win32PathCapacity < rootDirectory.length + 1 then .error .pathTooLong
  else .ok (.fresh rootDirectory sink sha256 entropy)

variable (platform : ReceivePlatform σ τ)

/-- The file receiver's operations on the handler. -/
def Win32ReceiveHandler.withReceiver (h : Win32ReceiveHandler σ τ) (m : ReceiverState σ τ) :
    Win32ReceiveHandler σ τ :=
  { h with toReceiverState := m }

def win32ReceiveBegin (h : Win32ReceiveHandler σ τ) (metadata : FileBegin) (name : Bytes) :
    Bool × Win32ReceiveHandler σ τ :=
  if !h.initialized || h.active then (false, h)
  else
    let created := jobIdCreate h.entropy.head?.join
    let h := { h with entropy := h.entropy.tail, jobId := created.2 }
    if created.1 ≠ .ok then (false, h)
    else
      let initialized := platform.sinkInit h.sink h.rootDirectory h.jobId name
      let h := { h with sink := initialized.2 }
      if !initialized.1 then (false, h)
      else
        let h := { h with
          integrity := platform.sha256Init h.integrity
          receiver := fileReceiverInit metadata.fileSize }
        let configured := fileReceiverConfigureIntegrity h.receiver metadata.sha256
        let h := { h with receiver := configured.2 }
        if configured.1 ≠ .ok then (false, h)
        else
          let begun := fileReceiverBegin platform.sinkOps platform.sha256Ops h.toReceiverState
          if begun.1 ≠ .ok then (false, h.withReceiver begun.2)
          else (true, { h.withReceiver begun.2 with active := true })

def win32ReceiveChunk (h : Win32ReceiveHandler σ τ) (data : Bytes) :
    Bool × Win32ReceiveHandler σ τ :=
  if !h.active then (false, h)
  else
    let written :=
      fileReceiverWrite platform.sinkOps platform.sha256Ops h.toReceiverState (.bytes data)
    (written.1 == .ok, h.withReceiver written.2)

/-- Finishing clears `active` whatever the receiver answers. -/
def win32ReceiveFinish (h : Win32ReceiveHandler σ τ) : Bool × Win32ReceiveHandler σ τ :=
  if !h.active then (false, h)
  else
    let finished := fileReceiverFinish platform.sinkOps platform.sha256Ops h.toReceiverState
    (finished.1 == .ok, { h.withReceiver finished.2 with active := false })

def win32ReceiveAbort (h : Win32ReceiveHandler σ τ) : Win32ReceiveHandler σ τ :=
  if !h.active then h
  else
    let m := fileReceiverAbort platform.sinkOps platform.sha256Ops h.toReceiverState
    { h.withReceiver m with active := false }

/-- `pd_win32_receive_handler_ops`. -/
def win32ReceiveHandlerOps : ReceiverProtocolOps (Win32ReceiveHandler σ τ) where
  beginFile := win32ReceiveBegin platform
  writeChunk := win32ReceiveChunk platform
  finishFile := win32ReceiveFinish platform
  abortFile := win32ReceiveAbort platform

/-- A platform keeps `R` and `Q` along the phases of its sink and its hash. Setting
up a sink or a hash leaves it idle, whether it succeeds or not. -/
structure ReceivePlatform.Implements (platform : ReceivePlatform σ τ) (R : SinkPhase → σ → Prop)
    (Q : HashPhase → τ → Prop) : Prop where
  sink : platform.sinkOps.Implements R
  hash : platform.sha256Ops.Implements Q
  sinkInit : ∀ {sink root jobId name}, R .idle sink →
    R .idle (platform.sinkInit sink root jobId name).2
  sha256Init : ∀ {hash}, Q .idle hash → Q .idle (platform.sha256Init hash)

/-- What a FILE_BEGIN announces to the file receiver. -/
def announcedBy (file : FileBegin) : Announced where
  bytes := file.fileSize
  sha256 := some file.sha256

/-- The handler in a phase. Where `leaks` holds, finishing may have left a receiver
that still receives behind a handler that is no longer active. -/
def HandlerAt (R : SinkPhase → σ → Prop) (Q : HashPhase → τ → Prop) (leaks : Prop) :
    HandlerPhase → Win32ReceiveHandler σ τ → Prop
  | .waiting, h => h.active = false ∧ h.receiver = fileReceiverInit 0 ∧ R .idle h.sink ∧
      Q .idle h.integrity
  | .refused, h => h.active = false ∧ ∃ announced,
      Represents R Q announced .idle h.toReceiverState ∨
        Represents R Q announced (.failed []) h.toReceiverState
  | .active file _ chunks, h => h.active = true ∧
      Represents R Q (announcedBy file) (.receiving chunks.flatten) h.toReceiverState
  | .broken file _ _, h => ∃ data,
      Represents R Q (announcedBy file) (.failed data) h.toReceiverState ∨
        (h.active = true ∨ leaks) ∧
          Represents R Q (announcedBy file) (.receiving data) h.toReceiverState
  | .finished file _ chunks, h => h.active = false ∧
      Represents R Q (announcedBy file) (.complete chunks.flatten) h.toReceiverState
  | .aborted file _ _, h => h.active = false ∧ ∃ data,
      Represents R Q (announcedBy file) (.failed data) h.toReceiverState ∨
        Represents R Q (announcedBy file) (.aborted data) h.toReceiverState ∨
          leaks ∧ Represents R Q (announcedBy file) (.receiving data) h.toReceiverState

variable {platform} {R : SinkPhase → σ → Prop} {Q : HashPhase → τ → Prop} {leaks : Prop}

/-- A receiver that has been set up and not begun. -/
theorem represents_idle {announced : Announced} {m : ReceiverState σ τ}
    (hreceiver : m.receiver = fileReceiverInit announced.bytes ∧ announced.sha256 = none ∨
      ∃ digest, announced.sha256 = some digest ∧ m.receiver =
        { fileReceiverInit announced.bytes with
          expectedSha256 := digest, integrityConfigured := true })
    (hsink : R .idle m.sink) (hhash : Q .idle m.integrity) :
    Represents R Q announced .idle m := by
  rcases hreceiver with ⟨hreceiver, hnone⟩ | ⟨digest, hsome, hreceiver⟩
  · refine ⟨⟨?_, ?_, ?_⟩, ?_, ?_, ?_, ?_, ?_, hsink, fun _ _ => hhash⟩ <;>
      simp [hreceiver, hnone, fileReceiverInit]
  · refine ⟨⟨?_, ?_, ?_⟩, ?_, ?_, ?_, ?_, ?_, hsink, fun _ _ => hhash⟩ <;>
      simp [hreceiver, hsome, fileReceiverInit]

/-- A handler whose receiver has not been touched since it was zeroed. -/
private theorem handlerAt_refused_untouched {h : Win32ReceiveHandler σ τ}
    (hactive : h.active = false) (hreceiver : h.receiver = fileReceiverInit 0)
    (hsink : R .idle h.sink) (hhash : Q .idle h.integrity) : HandlerAt R Q leaks .refused h :=
  ⟨hactive, ⟨0, none⟩, .inl (represents_idle (.inl ⟨hreceiver, rfl⟩) hsink hhash)⟩

/-- What beginning a file comes to: a handler that receives it, or one that holds
nothing. -/
inductive HandlerBeginOutcome (R : SinkPhase → σ → Prop) (Q : HashPhase → τ → Prop) (leaks : Prop)
    (file : FileBegin) (name : Bytes) (outcome : Bool × Win32ReceiveHandler σ τ) : Prop
  | active (hresult : outcome.1 = true)
    (hphase : HandlerAt R Q leaks (.active file name []) outcome.2)
  | refused (hresult : outcome.1 = false) (hphase : HandlerAt R Q leaks .refused outcome.2)

theorem win32ReceiveBegin_outcome (hplatform : platform.Implements R Q)
    {h : Win32ReceiveHandler σ τ} (hwaiting : HandlerAt R Q leaks .waiting h)
    (file : FileBegin) (name : Bytes) :
    HandlerBeginOutcome R Q leaks file name (win32ReceiveBegin platform h file name) := by
  obtain ⟨hactive, hreceiver, hsink, hhash⟩ := hwaiting
  unfold win32ReceiveBegin
  dsimp only
  split
  · exact .refused rfl (handlerAt_refused_untouched hactive hreceiver hsink hhash)
  split
  · exact .refused rfl (handlerAt_refused_untouched hactive hreceiver hsink hhash)
  have hsink' : R .idle (platform.sinkInit h.sink h.rootDirectory
      (jobIdCreate h.entropy.head?.join).2 name).2 := hplatform.sinkInit hsink
  split
  · exact .refused rfl (handlerAt_refused_untouched hactive hreceiver hsink' hhash)
  rw [if_neg (by simp [fileReceiverConfigureIntegrity, fileReceiverInit])]
  have hidle : Represents R Q (announcedBy file) .idle
      { receiver := (fileReceiverConfigureIntegrity (fileReceiverInit file.fileSize)
          file.sha256).2
        sink := (platform.sinkInit h.sink h.rootDirectory
          (jobIdCreate h.entropy.head?.join).2 name).2
        integrity := platform.sha256Init h.integrity } :=
    represents_idle (.inr ⟨file.sha256, rfl, rfl⟩) hsink' (hplatform.sha256Init hhash)
  cases fileReceiverBegin_outcome hplatform.sink hplatform.hash hidle with
  | receiving hresult hrep =>
      rw [if_neg (not_not.mpr hresult)]
      exact .active rfl ⟨rfl, hrep⟩
  | failed hresult hrep =>
      rw [if_pos hresult]
      exact .refused rfl ⟨hactive, announcedBy file, .inr hrep⟩

/-- A protocol over a fresh handler is in step with it. -/
theorem handlerInv_fresh (root : WideString) {sink : σ} {hash : τ} (hsink : R .idle sink)
    (hhash : Q .idle hash) (entropy : List RandomDraw) :
    HandlerInv (HandlerAt R Q leaks) []
      (receiverProtocolInit (Win32ReceiveHandler.fresh root sink hash entropy)) :=
  .waiting rfl rfl ⟨rfl, rfl, hsink, hhash⟩

/-- A receiver that is not receiving is not aborted. -/
theorem fileReceiverAbort_eq_self {sinkOps : FileSinkOps σ} {integrityOps : IntegrityOps τ}
    {m : ReceiverState σ τ} (hstate : m.receiver.state ≠ .receiving) :
    fileReceiverAbort sinkOps integrityOps m = m := by
  rw [fileReceiverAbort, if_pos hstate]

variable (leaks) in
/-- The receive handler keeps its phases. Finishing leaks unless all announced bytes
have arrived. -/
theorem win32ReceiveHandlerOps_implements (hplatform : platform.Implements R Q) :
    (win32ReceiveHandlerOps platform).Implements (HandlerAt R Q leaks)
      fun h => leaks ∨ h.receiver.receivedBytes = h.receiver.expectedBytes := by
  constructor
  case begin_ok =>
    intro h file name hwaiting hok
    cases win32ReceiveBegin_outcome hplatform hwaiting file name with
    | active _ hphase => exact hphase
    | refused hresult _ => exact absurd (hok.symm.trans hresult) (by decide)
  case begin_error =>
    intro h file name hwaiting hok
    cases win32ReceiveBegin_outcome hplatform hwaiting file name with
    | active hresult _ => exact absurd (hok.symm.trans hresult) (by decide)
    | refused _ hphase => exact hphase
  case write_ok =>
    intro h file name chunks chunk hphase hne _ hok
    obtain ⟨hactive, hrep⟩ := hphase
    simp only [win32ReceiveHandlerOps, win32ReceiveChunk, hactive, Bool.not_true,
      Bool.false_eq_true, if_false, beq_iff_eq] at hok ⊢
    cases fileReceiverWrite_outcome hplatform.sink hplatform.hash hrep hne with
    | accepted _ _ hrep' =>
        refine ⟨hactive, ?_⟩
        rw [List.flatten_append, List.flatten_singleton]
        exact hrep'
    | refused hresult _ => rcases hresult with ⟨hresult, -⟩ | ⟨hresult, -⟩ <;> simp [hok] at hresult
    | failed hresult _ => rcases hresult with hresult | hresult <;> simp [hok] at hresult
  case write_error =>
    intro h file name chunks chunk hphase hne _ hok
    obtain ⟨hactive, hrep⟩ := hphase
    simp only [win32ReceiveHandlerOps, win32ReceiveChunk, hactive, Bool.not_true,
      Bool.false_eq_true, if_false, beq_eq_false_iff_ne] at hok ⊢
    cases fileReceiverWrite_outcome hplatform.sink hplatform.hash hrep hne with
    | accepted hresult _ _ => exact absurd hresult hok
    | refused _ hsame =>
        refine ⟨chunks.flatten, .inr ⟨.inl hactive, ?_⟩⟩
        rw [hsame]
        exact hrep
    | failed _ hrep' => exact ⟨chunks.flatten, .inl hrep'⟩
  case finish_ok =>
    intro h file name chunks hphase hok
    obtain ⟨hactive, hrep⟩ := hphase
    simp only [win32ReceiveHandlerOps, win32ReceiveFinish, hactive, Bool.not_true,
      Bool.false_eq_true, if_false, beq_iff_eq] at hok ⊢
    cases fileReceiverFinish_outcome hplatform.sink hplatform.hash hrep with
    | complete _ _ hrep' => exact ⟨rfl, hrep'⟩
    | incomplete hresult _ _ => simp [hok] at hresult
    | failed hresult _ _ =>
        rcases hresult with hresult | hresult | hresult <;> simp [hok] at hresult
  case finish_error =>
    intro h file name chunks hphase hready hok
    obtain ⟨hactive, hrep⟩ := hphase
    simp only [win32ReceiveHandlerOps, win32ReceiveFinish, hactive, Bool.not_true,
      Bool.false_eq_true, if_false, beq_eq_false_iff_ne] at hok ⊢
    cases fileReceiverFinish_outcome hplatform.sink hplatform.hash hrep with
    | complete hresult _ _ => exact absurd hresult hok
    | incomplete _ hlength hsame =>
        refine ⟨chunks.flatten, .inr ⟨.inr ?_, ?_⟩⟩
        · rcases hready with hleaks | hreceived
          · exact hleaks
          · refine absurd ?_ hlength
            rw [← hrep.setUp.bytes, ← hreceived]
            exact hrep.received.symm
        · rw [hsame]
          exact hrep
    | failed _ _ hrep' => exact ⟨chunks.flatten, .inl hrep'⟩
  case abort_active =>
    intro h file name chunks hphase
    obtain ⟨hactive, hrep⟩ := hphase
    simp only [win32ReceiveHandlerOps, win32ReceiveAbort, hactive, Bool.not_true,
      Bool.false_eq_true, if_false]
    exact ⟨rfl, chunks.flatten,
      .inr (.inl (fileReceiverAbort_represents hplatform.sink hplatform.hash hrep))⟩
  case abort_broken =>
    intro h file name chunks hphase
    simp only [win32ReceiveHandlerOps, win32ReceiveAbort]
    obtain ⟨data, hrep | ⟨hcause, hrep⟩⟩ := hphase
    · have hfailed : h.receiver.state ≠ .receiving := by simp [hrep.state]
      cases hactive : h.active with
      | false => exact ⟨hactive, data, .inl hrep⟩
      | true =>
          simp only [Bool.not_true, Bool.false_eq_true, if_false]
          rw [fileReceiverAbort_eq_self hfailed]
          exact ⟨rfl, data, .inl hrep⟩
    · cases hactive : h.active with
      | false =>
          have hleaks : leaks := hcause.resolve_left (by simp [hactive])
          exact ⟨hactive, data, .inr (.inr ⟨hleaks, hrep⟩)⟩
      | true =>
          simp only [Bool.not_true, Bool.false_eq_true, if_false]
          exact ⟨rfl, data,
            .inr (.inl (fileReceiverAbort_represents hplatform.sink hplatform.hash hrep))⟩

/-- Where leaks are let pass, finishing may be asked of the handler at any time. -/
theorem win32ReceiveHandlerOps_implements_leaking (hplatform : platform.Implements R Q) :
    (win32ReceiveHandlerOps platform).Implements (HandlerAt R Q True) fun _ => True := by
  simpa using win32ReceiveHandlerOps_implements True hplatform

/-- The platform whose sink also logs its calls. -/
def ReceivePlatform.recorded (platform : ReceivePlatform σ τ) :
    ReceivePlatform (σ × List SinkCall) τ where
  sinkInit sink root jobId name :=
    let initialized := platform.sinkInit sink.1 root jobId name
    (initialized.1, initialized.2, sink.2)
  sinkOps := platform.sinkOps.recorded
  sha256Init := platform.sha256Init
  sha256Ops := platform.sha256Ops

theorem ReceivePlatform.Implements.recorded {platform : ReceivePlatform σ τ}
    {R : SinkPhase → σ → Prop} {Q : HashPhase → τ → Prop} (hplatform : platform.Implements R Q) :
    platform.recorded.Implements (fun phase sink => R phase sink.1 ∧ SinkLog phase sink.2) Q where
  sink := hplatform.sink.recorded
  hash := hplatform.hash
  sinkInit hidle := ⟨hplatform.sinkInit hidle.1, hidle.2⟩
  sha256Init := hplatform.sha256Init

end PrintDrop
