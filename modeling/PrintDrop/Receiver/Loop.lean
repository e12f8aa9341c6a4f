/-
# The receiver loop

`receiver_loop.c`: one pass of the endless loop of `pd_receiver_loop_run`. A pass
receives a frame, gives it to the protocol and answers it, and either goes on or
ends the loop with a result.

The event callback logs what it is called with. A null loop, protocol or operation
table does not occur.
-/

import PrintDrop.Receiver.Protocol
import PrintDrop.Wire.Ack

namespace PrintDrop

universe u v

/-- `pd_receiver_loop_io_ops` on a context of type `ι`. -/
structure ReceiverLoopIoOps (ι : Type v) where
  receiveFrame : ι → Option (FrameHeader × Buffer) × ι
  sendFrame : ι → FrameHeader → Buffer → Bool × ι

inductive ReceiverLoopEvent
  | ready
  | fileStarted
  | progress
  | verifying
  | complete
  | failed
  deriving DecidableEq, Repr

inductive ReceiverLoopResult
  | ok
  | receiveError
  | protocolError
  | sendError
  deriving DecidableEq, Repr

/-- A call of the event callback. -/
structure ReceiverLoopReport where
  event : ReceiverLoopEvent
  receivedBytes : UInt64
  totalBytes : UInt64
  deriving DecidableEq, Repr

/-- The functions a loop is run with. The progress function reads the handler's context. -/
structure ReceiverLoopOps (κ : Type u) (ι : Type v) where
  io : ReceiverLoopIoOps ι
  handler : ReceiverProtocolOps κ
  progress : Option (κ → UInt64)

/-- `pd_receiver_loop`, with its contexts and the reports made so far. -/
structure ReceiverLoop (κ : Type u) (ι : Type v) where
  io : ι
  protocol : ReceiverProtocol κ
  reports : List ReceiverLoopReport

variable {κ : Type u} {ι : Type v} (ops : ReceiverLoopOps κ ι)

def loopReceivedBytes (loop : ReceiverLoop κ ι) : UInt64 :=
  match ops.progress with
  | none => 0
  | some progress => progress loop.protocol.context

def loopTotalBytes (loop : ReceiverLoop κ ι) : UInt64 :=
  if loop.protocol.state = .waitFile then 0 else loop.protocol.currentFile.fileSize

def loopEmit (loop : ReceiverLoop κ ι) (event : ReceiverLoopEvent) : ReceiverLoop κ ι :=
  { loop with
    reports := loop.reports ++ [⟨event, loopReceivedBytes ops loop, loopTotalBytes loop⟩] }

def loopSendAck (loop : ReceiverLoop κ ι) (acknowledgedType : MessageType) (status : AckStatus) :
    Bool × ReceiverLoop κ ι :=
  match ackEncode (some ⟨acknowledgedType, status, loopReceivedBytes ops loop⟩) with
  | .error _ => (false, loop)
  | .ok payload =>
    let sent := ops.io.sendFrame loop.io ⟨MessageType.ack, 0, UInt32.ofNat ackPayloadSize⟩
      (.bytes payload)
    (sent.1, { loop with io := sent.2 })

def loopShouldAck (type : MessageType) : Bool :=
  type == MessageType.fileBegin || type == MessageType.chunk || type == MessageType.fileEnd

def loopErrorStatus (result : ReceiverProtocolResult) : AckStatus :=
  if result = .handlerError then AckStatus.storageError
  else if result = .invalidMetadata then AckStatus.rejected
  else AckStatus.protocolError

/-- The three error exits: the protocol is aborted and the failure reported. -/
def loopGiveUp (loop : ReceiverLoop κ ι) (result : ReceiverLoopResult) :
    Option ReceiverLoopResult × ReceiverLoop κ ι :=
  let loop := { loop with protocol := receiverProtocolAbort ops.handler loop.protocol }
  (some result, loopEmit ops loop .failed)

/-- What precedes the loop. -/
def receiverLoopStart (loop : ReceiverLoop κ ι) : ReceiverLoop κ ι :=
  loopEmit ops loop .ready

/-- A pass of the loop of `pd_receiver_loop_run`, with the result it returns, if it does. -/
def receiverLoopTurn (loop : ReceiverLoop κ ι) :
    Option ReceiverLoopResult × ReceiverLoop κ ι :=
  let received := ops.io.receiveFrame loop.io
  let loop := { loop with io := received.2 }
  match received.1 with
  | none => loopGiveUp ops loop .receiveError
  | some (header, payload) =>
    let loop := if header.type = MessageType.fileEnd then loopEmit ops loop .verifying else loop
    let handled := receiverProtocolHandle ops.handler loop.protocol (some header) payload
    let loop := { loop with protocol := handled.2 }
    if handled.1 ≠ .ok then
      let loop :=
        if loopShouldAck header.type then
          (loopSendAck ops loop header.type (loopErrorStatus handled.1)).2
        else loop
      loopGiveUp ops loop .protocolError
    else
      let acked :=
        if loopShouldAck header.type then loopSendAck ops loop header.type AckStatus.ok
        else (true, loop)
      let loop := acked.2
      if !acked.1 then loopGiveUp ops loop .sendError
      else if header.type = MessageType.fileBegin then (none, loopEmit ops loop .fileStarted)
      else if header.type = MessageType.chunk then (none, loopEmit ops loop .progress)
      else if header.type = MessageType.fileEnd then (some .ok, loopEmit ops loop .complete)
      else (none, loop)

variable {ops}

@[simp]
theorem loopEmit_protocol (loop : ReceiverLoop κ ι) (event : ReceiverLoopEvent) :
    (loopEmit ops loop event).protocol = loop.protocol := rfl

@[simp]
theorem loopEmit_io (loop : ReceiverLoop κ ι) (event : ReceiverLoopEvent) :
    (loopEmit ops loop event).io = loop.io := rfl

/-- The frame of an acknowledgement. -/
def ackFrame (ack : Ack) : FrameHeader × Buffer :=
  (⟨MessageType.ack, 0, UInt32.ofNat ackPayloadSize⟩, .bytes (ackPayload ack))

/-- The answer to a frame of an acknowledged type. -/
theorem loopSendAck_eq {loop : ReceiverLoop κ ι} {type : MessageType} {status : AckStatus}
    (htype : loopShouldAck type = true) (hstatus : ackStatusIsValid status.toUInt8 = true) :
    loopSendAck ops loop type status =
      let frame := ackFrame ⟨type, status, loopReceivedBytes ops loop⟩
      let sent := ops.io.sendFrame loop.io frame.1 frame.2
      (sent.1, { loop with io := sent.2 }) := by
  have hencoded : ackEncode (some ⟨type, status, loopReceivedBytes ops loop⟩) =
      .ok (ackPayload ⟨type, status, loopReceivedBytes ops loop⟩) := ackEncode_eq_ok htype hstatus
  simp only [loopSendAck, hencoded, ackFrame]

theorem ackStatusIsValid_loopErrorStatus (result : ReceiverProtocolResult) :
    ackStatusIsValid (loopErrorStatus result).toUInt8 = true := by
  cases result <;> decide

theorem loopErrorStatus_ne_ok (result : ReceiverProtocolResult) :
    loopErrorStatus result ≠ AckStatus.ok := by
  cases result <;> decide

/-- What a pass comes to that has received a frame of an acknowledged type. In each case
one answer is handed to the link, whose context `sent` then is. -/
inductive TurnOutcome (ops : ReceiverLoopOps κ ι) (loop : ReceiverLoop κ ι) (io : ι)
    (header : FrameHeader) (payload : Buffer)
    (outcome : Option ReceiverLoopResult × ReceiverLoop κ ι) : Prop
  | accepted {next : ReceiverProtocol κ} {sent : ι}
    (hhandled : receiverProtocolHandle ops.handler loop.protocol (some header) payload =
      (.ok, next))
    (hsent : ops.io.sendFrame io
      (ackFrame ⟨header.type, AckStatus.ok, loopReceivedBytes ops ⟨io, next, []⟩⟩).1
      (ackFrame ⟨header.type, AckStatus.ok, loopReceivedBytes ops ⟨io, next, []⟩⟩).2 =
        (true, sent))
    (hresult : outcome.1 = if header.type = MessageType.fileEnd then some .ok else none)
    (hprotocol : outcome.2.protocol = next) (hio : outcome.2.io = sent)
  | unanswered {next : ReceiverProtocol κ} {sent : ι}
    (hhandled : receiverProtocolHandle ops.handler loop.protocol (some header) payload =
      (.ok, next))
    (hsent : ops.io.sendFrame io
      (ackFrame ⟨header.type, AckStatus.ok, loopReceivedBytes ops ⟨io, next, []⟩⟩).1
      (ackFrame ⟨header.type, AckStatus.ok, loopReceivedBytes ops ⟨io, next, []⟩⟩).2 =
        (false, sent))
    (hresult : outcome.1 = some .sendError)
    (hprotocol : outcome.2.protocol = receiverProtocolAbort ops.handler next)
    (hio : outcome.2.io = sent)
  | refused {result : ReceiverProtocolResult} {next : ReceiverProtocol κ} {sent : Bool × ι}
    (hhandled : receiverProtocolHandle ops.handler loop.protocol (some header) payload =
      (result, next)) (hnotOk : result ≠ .ok)
    (hsent : ops.io.sendFrame io
      (ackFrame ⟨header.type, loopErrorStatus result, loopReceivedBytes ops ⟨io, next, []⟩⟩).1
      (ackFrame ⟨header.type, loopErrorStatus result, loopReceivedBytes ops ⟨io, next, []⟩⟩).2 =
        sent)
    (hresult : outcome.1 = some .protocolError)
    (hprotocol : outcome.2.protocol = receiverProtocolAbort ops.handler next)
    (hio : outcome.2.io = sent.2)

variable (ops) in
theorem receiverLoopTurn_outcome (loop : ReceiverLoop κ ι) {io : ι} {header : FrameHeader}
    {payload : Buffer} (hreceived : ops.io.receiveFrame loop.io = (some (header, payload), io))
    (htype : loopShouldAck header.type = true) :
    TurnOutcome ops loop io header payload (receiverLoopTurn ops loop) := by
  unfold receiverLoopTurn
  simp only [hreceived, htype, if_true]
  -- The report that precedes the last frame changes neither the protocol nor the link.
  have hverifying : ∃ reports, (if header.type = MessageType.fileEnd then
      loopEmit ops { loop with io := io } .verifying else { loop with io := io }) =
        ⟨io, loop.protocol, reports⟩ := by
    split
    · exact ⟨_, rfl⟩
    · exact ⟨_, rfl⟩
  obtain ⟨reports, hverifying⟩ := hverifying
  rw [hverifying]
  dsimp only
  cases hhandled : receiverProtocolHandle ops.handler loop.protocol (some header) payload with
  | mk result next =>
      dsimp only
      split
      · rename_i hnotOk
        rw [loopSendAck_eq htype (ackStatusIsValid_loopErrorStatus result)]
        exact .refused hhandled hnotOk rfl rfl rfl rfl
      rename_i hok
      obtain rfl := not_not.mp hok
      rw [loopSendAck_eq htype (by decide)]
      dsimp only
      split
      · rename_i hsent
        rw [Bool.not_eq_true'] at hsent
        exact .unanswered hhandled (Prod.ext hsent rfl) rfl rfl rfl
      rename_i hsent
      rw [Bool.not_eq_true', Bool.not_eq_false] at hsent
      refine .accepted hhandled (Prod.ext hsent rfl) ?_ ?_ ?_
      · simp only [loopShouldAck, Bool.or_eq_true, beq_iff_eq] at htype
        rcases htype with (htype | htype) | htype <;> rw [htype] <;> rfl
      all_goals split_ifs <;> rfl

variable (ops) in
/-- A pass that receives nothing ends the loop. -/
theorem receiverLoopTurn_receiveError (loop : ReceiverLoop κ ι) {io : ι}
    (hreceived : ops.io.receiveFrame loop.io = (none, io)) :
    (receiverLoopTurn ops loop).1 = some .receiveError ∧
      (receiverLoopTurn ops loop).2.protocol =
        receiverProtocolAbort ops.handler loop.protocol ∧
      (receiverLoopTurn ops loop).2.io = io := by
  simp [receiverLoopTurn, hreceived, loopGiveUp]

end PrintDrop
