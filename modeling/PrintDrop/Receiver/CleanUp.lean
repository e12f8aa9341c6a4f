/-
# Clean-up of a transfer

Whether a transfer that is over has given back what it took: the file receiver's
two contexts, the open handle and the staging file.

The protocol, the handler and the receiver each keep a flag of their own, and the
handler drops its flag on FILE_END even where the receiver only answers that bytes
are missing. The protocol's abort then finds an inactive handler. Runs without such
a premature FILE_END release everything.
-/

import PrintDrop.Math.TransitionSystem
import PrintDrop.Receiver.Atomicity

namespace PrintDrop

open Math

universe u v

variable {κ : Type u} {τ : Type v}

/-- The protocol under any calls, as a transition system. -/
def protocolSystem (ops : ReceiverProtocolOps κ) (start : ReceiverProtocol κ) :
    TransitionSystem (ReceiverProtocol κ) ProtocolCall where
  init := start
  step p call := some (protocolCall ops p call)

/-- The Win32 platform with a log of the sink's calls. -/
def recordedPlatform (multiByteToWideChar : Bytes → Option WideString) (sha256Init : τ → τ)
    (sha256Ops : IntegrityOps τ) : ReceivePlatform (Win32SinkContext × List SinkCall) τ :=
  (win32Platform multiByteToWideChar sha256Init sha256Ops).recorded

/-- The receive handler over the logged Win32 sink, before any frame. -/
def recordedStart (root : WideString) (hash : τ) (entropy : List RandomDraw)
    (files : Path → Option Bytes) (outcomes : ℕ → ApiOutcome) :
    ReceiverProtocol (Win32ReceiveHandler (Win32SinkContext × List SinkCall) τ) :=
  receiverProtocolInit
    (Win32ReceiveHandler.fresh root (Win32SinkContext.start files outcomes, []) hash entropy)

/-- A handler holds nothing any more: its receiver is not receiving and has neither of
its contexts begun, a sink that was begun has been committed or aborted, and, unless
a staging file could not be deleted, no handle is open and the staging path is as it
was before. -/
structure Released (files : Path → Option Bytes)
    (h : Win32ReceiveHandler (Win32SinkContext × List SinkCall) τ) : Prop where
  notReceiving : h.receiver.state ≠ .receiving
  sinkStarted : h.receiver.sinkStarted = false
  integrityStarted : h.receiver.integrityStarted = false
  sink : ReleasesSink h.sink.2
  system : h.sink.1.world.deleteFailed = false → h.sink.1.world.openHandles = [] ∧
    h.sink.1.world.files.get h.sink.1.sink.stagingPath = files h.sink.1.sink.stagingPath

/-- FILE_END for a file whose announced bytes have not all arrived. -/
def PrematureEnd {σ : Type u} (p : ReceiverProtocol (Win32ReceiveHandler σ τ))
    (call : ProtocolCall) : Prop :=
  p.state = .receiving ∧ isWellFormedEnd call = true ∧
    p.context.receiver.receivedBytes ≠ p.context.receiver.expectedBytes

variable {files : Path → Option Bytes}

/-- A Win32 sink at rest holds no handle and no staging file. -/
private theorem win32At_resting {phase : SinkPhase} {c : Win32SinkContext}
    (hphase : Win32At files phase c)
    (hresting : (∀ expected data, phase ≠ .writing expected data) ∧ phase ≠ .broken)
    (hdeleted : c.world.deleteFailed = false) : c.world.openHandles = [] ∧
      c.world.files.get c.sink.stagingPath = files c.sink.stagingPath := by
  cases phase with
  | idle =>
      obtain ⟨hfiles, ⟨-, hopen⟩, -, -⟩ := hphase
      exact ⟨hopen, by rw [hfiles]; rfl⟩
  | refused =>
      obtain ⟨hfiles, -, hopen⟩ := hphase
      exact ⟨hopen, by rw [hfiles]; rfl⟩
  | writing expected data => exact absurd rfl (hresting.1 expected data)
  | broken => exact absurd rfl hresting.2
  | committed expected data => exact ⟨hphase.closed, hphase.staged.trans hphase.free.symm⟩
  | aborted =>
      obtain ⟨hstaged, hclean⟩ := hphase
      obtain ⟨⟨-, hopen⟩, hgone⟩ := hclean hdeleted
      exact ⟨hopen, hgone.trans hstaged.free.symm⟩

/-- A transfer that does not receive any more holds nothing. -/
private theorem released_of_represents {Q : HashPhase → τ → Prop} {announced : Announced}
    {phase : TransferPhase} {h : Win32ReceiveHandler (Win32SinkContext × List SinkCall) τ}
    (hrep : Represents (fun phase sink => Win32At files phase sink.1 ∧ SinkLog phase sink.2) Q
      announced phase h.toReceiverState)
    (hover : ∀ data, phase ≠ .receiving data) : Released files h := by
  have hnot : phase.isReceiving = false := by
    cases phase with
    | receiving data => exact absurd rfl (hover data)
    | idle | complete data | failed data | aborted data => rfl
  obtain ⟨sinkPhase, ⟨hsink, hlog⟩, -, hreceiving⟩ := hrep.sink.exists_phase
  have hresting : (∀ expected data, sinkPhase ≠ .writing expected data) ∧
      sinkPhase ≠ .broken := by
    constructor
    · intro expected data hequal
      obtain ⟨content, hphase⟩ := hreceiving (.inl ⟨expected, data, hequal⟩)
      exact hover content hphase
    · intro hequal
      obtain ⟨content, hphase⟩ := hreceiving (.inr hequal)
      exact hover content hphase
  refine ⟨?_, ?_, ?_, releasesSink_of_resting hlog hresting, win32At_resting hsink hresting⟩
  · rw [hrep.state]
    cases phase with
    | receiving data => exact absurd rfl (hover data)
    | idle | complete data | failed data | aborted data => simp
  · rw [hrep.sinkStarted, hnot]
  · rw [hrep.integrityStarted, hnot, Bool.false_and]

/-- **Clean-up.** In a run without a premature FILE_END, a protocol that is complete or
has failed has a handler that holds nothing. -/
theorem receive_released (multiByteToWideChar : Bytes → Option WideString)
    (sha256Init : τ → τ) (sha256Ops : IntegrityOps τ) (root : WideString) (hash : τ)
    (entropy : List RandomDraw) (files : Path → Option Bytes) (outcomes : ℕ → ApiOutcome)
    {p : ReceiverProtocol (Win32ReceiveHandler (Win32SinkContext × List SinkCall) τ)}
    (hrun : (protocolSystem
      (win32ReceiveHandlerOps (recordedPlatform multiByteToWideChar sha256Init sha256Ops))
      (recordedStart root hash entropy files outcomes)).RunWithin
        (fun p call => ¬PrematureEnd p call) p)
    (hover : p.state = .complete ∨ p.state = .failed) : Released files p.context := by
  let R : SinkPhase → Win32SinkContext × List SinkCall → Prop :=
    fun phase sink => Win32At files phase sink.1 ∧ SinkLog phase sink.2
  have hplatform : (recordedPlatform multiByteToWideChar sha256Init sha256Ops).Implements R
      sha256Ops.FedAt := (win32Platform_implements files _ _ _).recorded
  have hinv : ∃ chunks, HandlerInv (HandlerAt R sha256Ops.FedAt False) chunks p := by
    refine TransitionSystem.RunWithin.invariant
      (P := fun state => ∃ chunks, HandlerInv (HandlerAt R sha256Ops.FedAt False) chunks state)
      ?_ ?_ hrun
    · exact ⟨[], handlerInv_fresh root ⟨win32At_start files outcomes, rfl⟩ trivial entropy⟩
    · intro state target call _ hstate hallowed hstep
      obtain ⟨chunks, hstate⟩ := hstate
      obtain rfl := Option.some.inj hstep
      refine ⟨_, hstate.step (win32ReceiveHandlerOps_implements False hplatform) call ?_⟩
      intro hreceiving hend
      right
      by_contra hmissing
      exact hallowed ⟨hreceiving, hend, hmissing⟩
  obtain ⟨chunks, hinv⟩ := hinv
  cases hinv with
  | waiting hstate _ _ => simp [hstate] at hover
  | receiving hstate _ _ => simp [hstate] at hover
  | complete _ _ hcontext => exact released_of_represents hcontext.2 (by simp)
  | rejected _ _ hcontext =>
      rcases hcontext with ⟨-, hreceiver, hsink, hhash⟩ | ⟨-, announced, hrep | hrep⟩
      · have hidle : Represents R sha256Ops.FedAt ⟨0, none⟩ .idle p.context.toReceiverState :=
          represents_idle (.inl ⟨hreceiver, rfl⟩) hsink hhash
        exact released_of_represents hidle (by simp)
      · exact released_of_represents hrep (by simp)
      · exact released_of_represents hrep (by simp)
  | aborted _ _ hcontext =>
      obtain ⟨-, data, hrep | hrep | ⟨hleaks, -⟩⟩ := hcontext
      · exact released_of_represents hrep (by simp)
      · exact released_of_represents hrep (by simp)
      · exact absurd hleaks id

instance {σ : Type u} (p : ReceiverProtocol (Win32ReceiveHandler σ τ)) (call : ProtocolCall) :
    Decidable (PrematureEnd p call) :=
  inferInstanceAs (Decidable (_ ∧ _ ∧ _))

/-- FILE_BEGIN for so many bytes under the name `a` and, without any chunk, FILE_END. -/
def beginEnd (fileSize : UInt64) : List ProtocolCall :=
  [.handle (some (plainHeader MessageType.fileBegin
      (fileBeginPayload fileSize (List.replicate 32 0) (ascii ['a']))))
      (.bytes (fileBeginPayload fileSize (List.replicate 32 0) (ascii ['a']))),
    .handle (some (plainHeader MessageType.fileEnd [])) (.null 0)]

/-- Receivers over an empty file system where every system call succeeds. -/
def smoothReceiver : TransitionSystem
    (ReceiverProtocol (Win32ReceiveHandler (Win32SinkContext × List SinkCall) Unit))
    ProtocolCall :=
  protocolSystem
    (win32ReceiveHandlerOps (recordedPlatform (fun name => some (name.map UInt8.toUInt16)) id
      (fixedHashOps (Vector.replicate 32 0))))
    (recordedStart [0x43] () [some (Vector.replicate 16 0)] (fun _ => none)
      fun _ => { succeeds := true, written := 0, isDirectory := false })

/-- The receiver of an empty file. -/
def emptied : ReceiverProtocol (Win32ReceiveHandler (Win32SinkContext × List SinkCall) Unit) :=
  (smoothReceiver.run smoothReceiver.init (beginEnd 0)).getD smoothReceiver.init

/-- The receiver after a FILE_END that comes three bytes early. -/
def leaked : ReceiverProtocol (Win32ReceiveHandler (Win32SinkContext × List SinkCall) Unit) :=
  (smoothReceiver.run smoothReceiver.init (beginEnd 3)).getD smoothReceiver.init

/-- The empty file is received and everything is given back. -/
theorem emptied_released :
    emptied.state = .complete ∧ Released (fun _ => none) emptied.context := by
  have hcomplete : emptied.state = .complete := by decide +kernel
  have hrun : smoothReceiver.RunWithin (fun p call => ¬PrematureEnd p call) emptied :=
    TransitionSystem.RunWithin.runWhile .init (beginEnd 0) (by rfl)
  exact ⟨hcomplete, receive_released (fun name => some (name.map UInt8.toUInt16)) id
    (fixedHashOps (Vector.replicate 32 0)) [0x43] () [some (Vector.replicate 16 0)]
    (fun _ => none) _ hrun (.inl hcomplete)⟩

/-- A premature FILE_END ends the transfer and leaves the receiver receiving, its sink
and its hash begun, the handle open and the staging file in place. -/
theorem leaked_not_released :
    smoothReceiver.run smoothReceiver.init (beginEnd 3) = some leaked ∧
    leaked.state = .failed ∧ ¬Released (fun _ => none) leaked.context ∧
    leaked.context.receiver.state = .receiving ∧ leaked.context.receiver.sinkStarted = true ∧
    leaked.context.receiver.integrityStarted = true ∧
    leaked.context.sink.2 = [.begin 3 .ok] ∧
    leaked.context.sink.1.world.deleteFailed = false ∧
    leaked.context.sink.1.world.openHandles =
      [(0, leaked.context.sink.1.sink.stagingPath)] ∧
    leaked.context.sink.1.world.files.get leaked.context.sink.1.sink.stagingPath = some [] := by
  have hreceiving : leaked.context.receiver.state = .receiving := by decide +kernel
  refine ⟨rfl, by decide +kernel, fun hreleased => hreleased.notReceiving hreceiving,
    hreceiving, ?_⟩
  decide +kernel

end PrintDrop
