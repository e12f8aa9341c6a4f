/-
# Runs of the receiver loop

The passes of `pd_receiver_loop_run` one after another, over any link and any handler.
The link can be given a log of its calls, as the handler can, so that what a run has done
to both can be read off afterwards.
-/

import PrintDrop.Receiver.Loop
import PrintDrop.Receiver.Discipline

namespace PrintDrop

universe u v

variable {κ : Type u} {ι : Type v}

/-- A call of one of the loop's two link functions, with its answer. -/
inductive LinkCall
  | receive (frame : Option (FrameHeader × Buffer))
  | send (header : FrameHeader) (payload : Buffer) (ok : Bool)
  deriving DecidableEq

/-- The link table that also logs every call. -/
def ReceiverLoopIoOps.recorded (ops : ReceiverLoopIoOps ι) :
    ReceiverLoopIoOps (ι × List LinkCall) where
  receiveFrame io :=
    let received := ops.receiveFrame io.1
    (received.1, received.2, io.2 ++ [.receive received.1])
  sendFrame io header payload :=
    let sent := ops.sendFrame io.1 header payload
    (sent.1, sent.2, io.2 ++ [.send header payload sent.1])

theorem ReceiverLoopIoOps.recorded_receive {ops : ReceiverLoopIoOps ι}
    {io next : ι × List LinkCall} {frame : Option (FrameHeader × Buffer)}
    (hreceived : ops.recorded.receiveFrame io = (frame, next)) :
    next.2 = io.2 ++ [.receive frame] := by
  obtain ⟨rfl, rfl⟩ := Prod.mk.inj hreceived
  rfl

theorem ReceiverLoopIoOps.recorded_send {ops : ReceiverLoopIoOps ι} {io : ι × List LinkCall}
    {header : FrameHeader} {payload : Buffer} {sent : Bool × ι × List LinkCall}
    (hsent : ops.recorded.sendFrame io header payload = sent) :
    sent.2.2 = io.2 ++ [.send header payload sent.1] := by
  subst hsent
  rfl

/-- A frame that is received and answered is two calls. -/
theorem ReceiverLoopIoOps.recorded_answer {ops : ReceiverLoopIoOps ι}
    {io next : ι × List LinkCall} {frame : Option (FrameHeader × Buffer)} {header : FrameHeader}
    {payload : Buffer}
    {sent : Bool × ι × List LinkCall} (hreceived : ops.recorded.receiveFrame io = (frame, next))
    (hsent : ops.recorded.sendFrame next header payload = sent) :
    sent.2.2 = io.2 ++ [.receive frame, .send header payload sent.1] := by
  rw [ReceiverLoopIoOps.recorded_send hsent, ReceiverLoopIoOps.recorded_receive hreceived,
    List.append_assoc]
  rfl

/-- The functions of a loop, with a log of the calls of the link. -/
def ReceiverLoopOps.recordedLink (ops : ReceiverLoopOps κ ι) :
    ReceiverLoopOps κ (ι × List LinkCall) where
  io := ops.io.recorded
  handler := ops.handler
  progress := ops.progress

/-- The loop after a number of passes, or after the pass that ended it. -/
def receiverLoopTurns (ops : ReceiverLoopOps κ ι) :
    ℕ → ReceiverLoop κ ι → Option ReceiverLoopResult × ReceiverLoop κ ι
  | 0, loop => (none, loop)
  | count + 1, loop =>
    match receiverLoopTurn ops loop with
    | (none, next) => receiverLoopTurns ops count next
    | (some result, next) => (some result, next)

/-- A loop over a protocol that has just been initialised. -/
def ReceiverLoop.fresh (context : κ) (io : ι) : ReceiverLoop κ ι where
  io := io
  protocol := receiverProtocolInit context
  reports := []

variable {ops : ReceiverProtocolOps κ} {p : ReceiverProtocol κ} {header : FrameHeader}
  {payload : Buffer}

theorem frameEvent_eq_begin {state : ReceiverProtocolState} {file : FileBegin} {name : Bytes}
    (hevent : frameEvent state header payload = .begin file name) :
    header.type = MessageType.fileBegin ∧ frameMetadata payload = some (file, name) := by
  have hstate := frameEvent_begin_state hevent
  subst hstate
  unfold frameEvent at hevent
  split at hevent
  · cases hevent
  rw [if_pos rfl] at hevent
  split at hevent
  · cases hevent
  rename_i htype
  refine ⟨not_not.mp htype, ?_⟩
  cases hmetadata : frameMetadata payload with
  | none =>
      rw [hmetadata] at hevent
      cases hevent
  | some metadata =>
      rw [hmetadata] at hevent
      obtain ⟨rfl, rfl⟩ := FrameEvent.begin.inj hevent
      rfl

/-- What a live protocol makes of a frame: it is accepted, with one successful call of the
handler, or refused. -/
inductive HandleOutcome (ops : ReceiverProtocolOps κ) (p : ReceiverProtocol κ)
    (header : FrameHeader) (payload : Buffer)
    (outcome : ReceiverProtocolResult × ReceiverProtocol κ) : Prop
  | began {file : FileBegin} {name : Bytes} (hstate : p.state = .waitFile)
    (htype : header.type = MessageType.fileBegin)
    (hmetadata : frameMetadata payload = some (file, name))
    (hbegun : (ops.beginFile p.context file name).1 = true) (hresult : outcome.1 = .ok)
    (hcontext : outcome.2.context = (ops.beginFile p.context file name).2)
    (hnext : outcome.2.state = .receiving)
  | wrote {data : Bytes} (hstate : p.state = .receiving)
    (htype : header.type = MessageType.chunk) (hpayload : payload = .bytes data)
    (hwritten : (ops.writeChunk p.context data).1 = true) (hresult : outcome.1 = .ok)
    (hcontext : outcome.2.context = (ops.writeChunk p.context data).2)
    (hnext : outcome.2.state = .receiving)
  | finished (hstate : p.state = .receiving) (htype : header.type = MessageType.fileEnd)
    (hfinished : (ops.finishFile p.context).1 = true) (hresult : outcome.1 = .ok)
    (hcontext : outcome.2.context = (ops.finishFile p.context).2)
    (hnext : outcome.2.state = .complete)
  | refused (hresult : outcome.1 ≠ .ok) (hnext : outcome.2.state = .failed ∨ outcome.2 = p)

/-- A frame is never refused with the result of success. -/
theorem frameEvent_refused_ne_ok {state : ReceiverProtocolState} {result : ReceiverProtocolResult}
    (hevent : frameEvent state header payload = .refused result) : result ≠ .ok := by
  rintro rfl
  unfold frameEvent at hevent
  split at hevent
  · cases hevent
  split at hevent
  · split at hevent
    · cases hevent
    · split at hevent <;> cases hevent
  split at hevent
  · split at hevent <;> cases hevent
  split at hevent
  · split at hevent <;> cases hevent
  · cases hevent

theorem receiverProtocolHandle_outcome (ops : ReceiverProtocolOps κ) (header : FrameHeader)
    (payload : Buffer) (hlive : p.state = .waitFile ∨ p.state = .receiving) :
    HandleOutcome ops p header payload (receiverProtocolHandle ops p (some header) payload) := by
  cases hpayload : payload.isInvalid with
  | true =>
      have hself : (receiverProtocolHandle ops p (some header) payload).1 ≠ .ok ∧
          (receiverProtocolHandle ops p (some header) payload).2 = p :=
        receiverProtocolHandle_eq_self (.inr (.inl hpayload))
      exact .refused hself.1 (.inr hself.2)
  | false =>
      rw [receiverProtocolHandle_eq_actOn hpayload hlive]
      cases hevent : frameEvent p.state header payload with
      | refused result => exact .refused (frameEvent_refused_ne_ok hevent) (.inl rfl)
      | begin file name =>
          obtain ⟨htype, hmetadata⟩ := frameEvent_eq_begin hevent
          simp only [actOn]
          split
          · rename_i hbegun
            exact .began (frameEvent_begin_state hevent) htype hmetadata hbegun rfl rfl rfl
          · exact .refused (by rintro ⟨⟩) (.inl rfl)
      | chunk data =>
          have hstate : p.state = .receiving :=
            hlive.resolve_left (frameEvent_receiving_state (.inl ⟨data, hevent⟩))
          rw [hstate, frameEvent_eq_chunk_iff] at hevent
          obtain ⟨htype, -, -, hdata, -, -⟩ := hevent
          simp only [actOn]
          split
          · rename_i hwritten
            exact .wrote hstate htype hdata hwritten rfl rfl hstate
          · exact .refused (by rintro ⟨⟩) (.inl rfl)
      | finish =>
          have hstate : p.state = .receiving :=
            hlive.resolve_left (frameEvent_receiving_state (.inr hevent))
          rw [hstate] at hevent
          simp only [actOn]
          split
          · rename_i hfinished
            exact .finished hstate (frameEvent_eq_finish hevent).2.1 hfinished rfl rfl rfl
          · exact .refused (by rintro ⟨⟩) (.inl rfl)

/-- What failing calls and aborts of the handler keep, a refused frame keeps. -/
theorem receiverProtocolHandle_refused {N : κ → Prop}
    (hbegin : ∀ {context file name}, p.state = .waitFile → N context →
      (ops.beginFile context file name).1 = false → N (ops.beginFile context file name).2)
    (hwrite : ∀ {context data}, N context → (ops.writeChunk context data).1 = false →
      N (ops.writeChunk context data).2)
    (hfinish : ∀ {context}, N context → (ops.finishFile context).1 = false →
      N (ops.finishFile context).2)
    (habort : ∀ {context}, N context → N (ops.abortFile context))
    (hlive : p.state = .waitFile ∨ p.state = .receiving) (hp : N p.context)
    (hrefused : (receiverProtocolHandle ops p (some header) payload).1 ≠ .ok) :
    N (receiverProtocolHandle ops p (some header) payload).2.context := by
  have hgiveUp : ∀ {q : ReceiverProtocol κ}, N q.context →
      N (receiverProtocolGiveUp ops q).context := by
    intro q hq
    unfold receiverProtocolGiveUp
    split
    · exact habort hq
    · exact hq
  cases hpayload : payload.isInvalid with
  | true =>
      have hself : (receiverProtocolHandle ops p (some header) payload).2 = p :=
        (receiverProtocolHandle_eq_self (.inr (.inl hpayload))).2
      rw [hself]
      exact hp
  | false =>
      rw [receiverProtocolHandle_eq_actOn hpayload hlive] at hrefused ⊢
      cases hevent : frameEvent p.state header payload with
      | refused result => exact hgiveUp hp
      | begin file name =>
          rw [hevent] at hrefused
          simp only [actOn] at hrefused ⊢
          split
          · rename_i hbegun
            rw [if_pos hbegun] at hrefused
            exact absurd rfl hrefused
          · rename_i hbegun
            exact hgiveUp (hbegin (frameEvent_begin_state hevent) hp (Bool.eq_false_iff.mpr hbegun))
      | chunk data =>
          rw [hevent] at hrefused
          simp only [actOn] at hrefused ⊢
          split
          · rename_i hwritten
            rw [if_pos hwritten] at hrefused
            exact absurd rfl hrefused
          · rename_i hwritten
            exact hgiveUp (hwrite hp (Bool.eq_false_iff.mpr hwritten))
      | finish =>
          rw [hevent] at hrefused
          simp only [actOn] at hrefused ⊢
          split
          · rename_i hfinished
            rw [if_pos hfinished] at hrefused
            exact absurd rfl hrefused
          · rename_i hfinished
            exact hgiveUp (hfinish hp (Bool.eq_false_iff.mpr hfinished))

/-- A frame that is accepted is of an acknowledged type. -/
theorem HandleOutcome.shouldAck {outcome : ReceiverProtocolResult × ReceiverProtocol κ}
    (houtcome : HandleOutcome ops p header payload outcome) (hok : outcome.1 = .ok) :
    loopShouldAck header.type = true := by
  cases houtcome with
  | began _ htype => simp [loopShouldAck, htype]
  | wrote _ htype => simp [loopShouldAck, htype]
  | finished _ htype => simp [loopShouldAck, htype]
  | refused hresult => exact absurd hok hresult

/-- The state that an accepted frame leads to. -/
theorem HandleOutcome.accepted_state {outcome : ReceiverProtocolResult × ReceiverProtocol κ}
    (houtcome : HandleOutcome ops p header payload outcome) (hok : outcome.1 = .ok) :
    outcome.2.state = if header.type = MessageType.fileEnd then .complete else .receiving := by
  cases houtcome with
  | began _ htype _ _ _ _ hnext => rw [hnext, if_neg (by rw [htype]; decide)]
  | wrote _ htype _ _ _ _ hnext => rw [hnext, if_neg (by rw [htype]; decide)]
  | finished _ htype _ _ _ hnext => rw [hnext, if_pos htype]
  | refused hresult => exact absurd hok hresult

/-- A refused frame does not complete a live protocol. -/
theorem HandleOutcome.refused_state {outcome : ReceiverProtocolResult × ReceiverProtocol κ}
    (houtcome : HandleOutcome ops p header payload outcome)
    (hlive : p.state = .waitFile ∨ p.state = .receiving) (hrefused : outcome.1 ≠ .ok) :
    outcome.2.state ≠ .complete := by
  cases houtcome with
  | began _ _ _ _ hresult => exact absurd hresult hrefused
  | wrote _ _ _ _ hresult => exact absurd hresult hrefused
  | finished _ _ _ hresult => exact absurd hresult hrefused
  | refused _ hnext =>
      rcases hnext with hfailed | rfl
      · simp [hfailed]
      · rcases hlive with hstate | hstate <;> simp [hstate]

/-! ## What a pass comes to -/

variable (loopOps : ReceiverLoopOps κ ι)

/-- The answer of a loop to a frame, once the protocol has handled it. -/
def answerFrame (header : FrameHeader) (status : AckStatus) (next : ReceiverProtocol κ) (io : ι) :
    FrameHeader × Buffer :=
  ackFrame ⟨header.type, status, loopReceivedBytes loopOps ⟨io, next, []⟩⟩

/-- What a pass over a live protocol comes to. An accepted frame is answered, and so is a
refused one of an acknowledged type. -/
inductive PassOutcome (loop : ReceiverLoop κ ι)
    (outcome : Option ReceiverLoopResult × ReceiverLoop κ ι) : Prop
  | nothing {io : ι} (hreceived : loopOps.io.receiveFrame loop.io = (none, io))
    (hresult : outcome.1 = some .receiveError)
    (hprotocol : outcome.2.protocol = receiverProtocolAbort loopOps.handler loop.protocol)
    (hio : outcome.2.io = io)
  | accepted {io : ι} {header : FrameHeader} {payload : Buffer} {next : ReceiverProtocol κ}
    {sent : Bool × ι} (hreceived : loopOps.io.receiveFrame loop.io = (some (header, payload), io))
    (hhandled : receiverProtocolHandle loopOps.handler loop.protocol (some header) payload =
      (.ok, next)) (htype : loopShouldAck header.type = true)
    (hsent : loopOps.io.sendFrame io (answerFrame loopOps header AckStatus.ok next io).1
      (answerFrame loopOps header AckStatus.ok next io).2 = sent)
    (hresult : outcome.1 = if sent.1 then
        if header.type = MessageType.fileEnd then some .ok else none
      else some .sendError)
    (hprotocol : outcome.2.protocol =
      if sent.1 then next else receiverProtocolAbort loopOps.handler next)
    (hio : outcome.2.io = sent.2)
  | answered {io : ι} {header : FrameHeader} {payload : Buffer}
    {result : ReceiverProtocolResult} {next : ReceiverProtocol κ} {sent : Bool × ι}
    (hreceived : loopOps.io.receiveFrame loop.io = (some (header, payload), io))
    (hhandled : receiverProtocolHandle loopOps.handler loop.protocol (some header) payload =
      (result, next)) (hrefused : result ≠ .ok) (htype : loopShouldAck header.type = true)
    (hsent : loopOps.io.sendFrame io
      (answerFrame loopOps header (loopErrorStatus result) next io).1
      (answerFrame loopOps header (loopErrorStatus result) next io).2 = sent)
    (hresult : outcome.1 = some .protocolError)
    (hprotocol : outcome.2.protocol = receiverProtocolAbort loopOps.handler next)
    (hio : outcome.2.io = sent.2)
  | unanswered {io : ι} {header : FrameHeader} {payload : Buffer}
    {result : ReceiverProtocolResult} {next : ReceiverProtocol κ}
    (hreceived : loopOps.io.receiveFrame loop.io = (some (header, payload), io))
    (hhandled : receiverProtocolHandle loopOps.handler loop.protocol (some header) payload =
      (result, next)) (hrefused : result ≠ .ok)
    (hresult : outcome.1 = some .protocolError)
    (hprotocol : outcome.2.protocol = receiverProtocolAbort loopOps.handler next)
    (hio : outcome.2.io = io)

/-- **Step lemma.** The pass of a loop whose protocol is live. -/
theorem receiverLoopTurn_pass {loop : ReceiverLoop κ ι}
    (hlive : loop.protocol.state = .waitFile ∨ loop.protocol.state = .receiving) :
    PassOutcome loopOps loop (receiverLoopTurn loopOps loop) := by
  cases hreceived : loopOps.io.receiveFrame loop.io with
  | mk received io =>
  cases received with
  | none =>
      obtain ⟨hresult, hprotocol, hio⟩ := receiverLoopTurn_receiveError loopOps loop hreceived
      exact .nothing hreceived hresult hprotocol hio
  | some frame =>
      obtain ⟨header, payload⟩ := frame
      cases htype : loopShouldAck header.type with
      | true =>
          cases receiverLoopTurn_outcome loopOps loop hreceived htype with
          | accepted hhandled hsent hresult hprotocol hio =>
              exact .accepted hreceived hhandled htype hsent hresult hprotocol hio
          | unanswered hhandled hsent hresult hprotocol hio =>
              exact .accepted hreceived hhandled htype hsent hresult hprotocol hio
          | refused hhandled hrefused hsent hresult hprotocol hio =>
              exact .answered hreceived hhandled hrefused htype hsent hresult hprotocol hio
      | false =>
          have houtcome := receiverProtocolHandle_outcome loopOps.handler header payload hlive
          cases hhandled : receiverProtocolHandle loopOps.handler loop.protocol (some header)
            payload with
          | mk result next =>
              rw [hhandled] at houtcome
              have hrefused : result ≠ .ok := by
                intro hok
                rw [houtcome.shouldAck hok] at htype
                cases htype
              have hend : header.type ≠ MessageType.fileEnd := by
                intro hend
                rw [hend] at htype
                cases htype
              have hturn : receiverLoopTurn loopOps loop =
                  loopGiveUp loopOps ⟨io, next, loop.reports⟩ .protocolError := by
                simp [receiverLoopTurn, hreceived, hend, hhandled, hrefused, htype]
              rw [hturn]
              exact .unanswered hreceived hhandled hrefused rfl rfl rfl

/-- The last report of a loop. -/
def lastEvent (loop : ReceiverLoop κ ι) : Option ReceiverLoopEvent :=
  loop.reports.getLast?.map ReceiverLoopReport.event

theorem lastEvent_loopEmit (loop : ReceiverLoop κ ι) (event : ReceiverLoopEvent) :
    lastEvent (loopEmit loopOps loop event) = some event := by
  simp [lastEvent, loopEmit]

/-- A pass that ends the loop has reported how. -/
def EndReported (outcome : Option ReceiverLoopResult × ReceiverLoop κ ι) : Prop :=
  ∀ result, outcome.1 = some result →
    lastEvent outcome.2 = some (if result = .ok then .complete else .failed)

theorem endReported_loopGiveUp (loop : ReceiverLoop κ ι) {result : ReceiverLoopResult}
    (hresult : result ≠ .ok) : EndReported (loopGiveUp loopOps loop result) := by
  intro given hgiven
  obtain rfl := Option.some.inj hgiven
  rw [if_neg hresult]
  exact lastEvent_loopEmit _ _ _

/-- The loop reports how it ends. -/
theorem endReported_receiverLoopTurn (loop : ReceiverLoop κ ι) :
    EndReported (receiverLoopTurn loopOps loop) := by
  unfold receiverLoopTurn
  extract_lets received loop'
  split
  · exact endReported_loopGiveUp loopOps _ (by decide)
  extract_lets verified handled next refused acked loop''
  split
  · exact endReported_loopGiveUp loopOps _ (by decide)
  split
  · exact endReported_loopGiveUp loopOps _ (by decide)
  split
  · exact fun _ hresult => nomatch hresult
  split
  · exact fun _ hresult => nomatch hresult
  split
  · intro result hresult
    obtain rfl := Option.some.inj hresult
    exact lastEvent_loopEmit _ _ _
  · exact fun _ hresult => nomatch hresult

/-- What can be seen of a pass: the calls of the link, and whether the protocol accepted the
frame that was received. -/
structure LoopPass where
  calls : List LinkCall
  accepted : Bool
  deriving DecidableEq

/-- The frame that a pass received. -/
def LoopPass.frame (pass : LoopPass) : Option (FrameHeader × Buffer) :=
  match pass.calls with
  | .receive frame :: _ => frame
  | _ => none

def loopPass (loop : ReceiverLoop κ (ι × List LinkCall)) : LoopPass where
  calls := (receiverLoopTurn loopOps.recordedLink loop).2.io.2.drop loop.io.2.length
  accepted :=
    match (loopOps.recordedLink.io.receiveFrame loop.io).1 with
    | none => false
    | some (header, payload) =>
      (receiverProtocolHandle loopOps.handler loop.protocol (some header) payload).1 == .ok

/-- The passes of a run, up to the one that ends it. -/
def loopPasses : ℕ → ReceiverLoop κ (ι × List LinkCall) → List LoopPass
  | 0, _ => []
  | count + 1, loop =>
    loopPass loopOps loop ::
      match receiverLoopTurn loopOps.recordedLink loop with
      | (none, next) => loopPasses count next
      | (some _, _) => []

/-- The call that sends an acknowledgement. -/
def ackCall (ack : Ack) (ok : Bool) : LinkCall := .send (ackFrame ack).1 (ackFrame ack).2 ok

/-- What the progress function of a loop says of a protocol. -/
def progressOf (protocol : ReceiverProtocol κ) : UInt64 :=
  match loopOps.progress with
  | none => 0
  | some progress => progress protocol.context

/-- What a pass over a live protocol is seen to be. -/
inductive PassSeen (loop : ReceiverLoop κ (ι × List LinkCall))
    (outcome : Option ReceiverLoopResult × ReceiverLoop κ (ι × List LinkCall))
    (pass : LoopPass) : Prop
  | nothing (hpass : pass = ⟨[.receive none], false⟩) (hresult : outcome.1 = some .receiveError)
  | accepted {header : FrameHeader} {payload : Buffer} {next : ReceiverProtocol κ} {ok : Bool}
    (houtcome : HandleOutcome loopOps.handler loop.protocol header payload (.ok, next))
    (hpass : pass = ⟨[.receive (some (header, payload)),
      ackCall ⟨header.type, AckStatus.ok, progressOf loopOps next⟩ ok], true⟩)
    (hresult : outcome.1 =
      if ok then if header.type = MessageType.fileEnd then some .ok else none
      else some .sendError)
    (hprotocol : outcome.1 = none → outcome.2.protocol = next)
  | answered {header : FrameHeader} {payload : Buffer} {result : ReceiverProtocolResult}
    {next : ReceiverProtocol κ} {ok : Bool}
    (hhandled : receiverProtocolHandle loopOps.handler loop.protocol (some header) payload =
      (result, next)) (hrefused : result ≠ .ok) (htype : loopShouldAck header.type = true)
    (hpass : pass = ⟨[.receive (some (header, payload)),
      ackCall ⟨header.type, loopErrorStatus result, progressOf loopOps next⟩ ok], false⟩)
    (hresult : outcome.1 = some .protocolError)
  | unanswered {header : FrameHeader} {payload : Buffer}
    (hpass : pass = ⟨[.receive (some (header, payload))], false⟩)
    (hresult : outcome.1 = some .protocolError)

/-- **Step lemma**, for a loop over a recorded link. -/
theorem passSeen_receiverLoopTurn {loop : ReceiverLoop κ (ι × List LinkCall)}
    (hlive : loop.protocol.state = .waitFile ∨ loop.protocol.state = .receiving) :
    PassSeen loopOps loop (receiverLoopTurn loopOps.recordedLink loop) (loopPass loopOps loop) := by
  have hcalls : ∀ {calls : List LinkCall} {accepted : Bool},
      (receiverLoopTurn loopOps.recordedLink loop).2.io.2 = loop.io.2 ++ calls →
        (loopPass loopOps loop).accepted = accepted →
          loopPass loopOps loop = ⟨calls, accepted⟩ := by
    intro calls accepted hlog haccepted
    have hdropped : (loopPass loopOps loop).calls = calls := by
      rw [loopPass, hlog, List.drop_left]
    cases hpass : loopPass loopOps loop with
    | mk calls' accepted' =>
        rw [hpass] at hdropped haccepted
        rw [← hdropped, ← haccepted]
  cases receiverLoopTurn_pass loopOps.recordedLink hlive with
  | nothing hreceived hresult _ hio =>
      refine .nothing (hcalls ?_ ?_) hresult
      · rw [hio, ReceiverLoopIoOps.recorded_receive hreceived]
      · rw [loopPass, hreceived]
  | @accepted io header payload next sent hreceived hhandled _ hsent hresult hprotocol hio =>
      have houtcome := receiverProtocolHandle_outcome loopOps.handler header payload hlive
      have hhandled' : receiverProtocolHandle loopOps.handler loop.protocol (some header) payload =
          (.ok, next) := hhandled
      rw [hhandled'] at houtcome
      have hpass : loopPass loopOps loop = ⟨[.receive (some (header, payload)),
          ackCall ⟨header.type, AckStatus.ok, progressOf loopOps next⟩ sent.1], true⟩ := by
        refine hcalls ?_ ?_
        · rw [hio]
          exact ReceiverLoopIoOps.recorded_answer hreceived hsent
        · rw [loopPass, hreceived]
          simp [hhandled']
      refine .accepted houtcome hpass hresult ?_
      intro hnone
      rw [hresult] at hnone
      split at hnone
      · rename_i hok
        rw [hprotocol, if_pos hok]
      · cases hnone
  | @answered io header payload result next sent hreceived hhandled hrefused htype hsent hresult
      _ hio =>
      have hhandled' : receiverProtocolHandle loopOps.handler loop.protocol (some header) payload =
          (result, next) := hhandled
      have hpass : loopPass loopOps loop = ⟨[.receive (some (header, payload)),
          ackCall ⟨header.type, loopErrorStatus result, progressOf loopOps next⟩ sent.1],
          false⟩ := by
        refine hcalls ?_ ?_
        · rw [hio]
          exact ReceiverLoopIoOps.recorded_answer hreceived hsent
        · rw [loopPass, hreceived]
          simp [hhandled', hrefused]
      exact .answered hhandled' hrefused htype hpass hresult
  | @unanswered io header payload result next hreceived hhandled hrefused hresult _ hio =>
      have hhandled' : receiverProtocolHandle loopOps.handler loop.protocol (some header) payload =
          (result, next) := hhandled
      have hpass : loopPass loopOps loop = ⟨[.receive (some (header, payload))], false⟩ := by
        refine hcalls ?_ ?_
        · rw [hio, ReceiverLoopIoOps.recorded_receive hreceived]
        · rw [loopPass, hreceived]
          simp [hhandled', hrefused]
      exact .unanswered hpass hresult

/-- A pass over a live protocol adds its calls to the log of the link. -/
theorem linkLog_receiverLoopTurn {loop : ReceiverLoop κ (ι × List LinkCall)}
    (hlive : loop.protocol.state = .waitFile ∨ loop.protocol.state = .receiving) :
    (receiverLoopTurn loopOps.recordedLink loop).2.io.2 =
      loop.io.2 ++ (loopPass loopOps loop).calls := by
  have hextends : ∀ {calls : List LinkCall},
      (receiverLoopTurn loopOps.recordedLink loop).2.io.2 = loop.io.2 ++ calls →
        (receiverLoopTurn loopOps.recordedLink loop).2.io.2 =
          loop.io.2 ++ (loopPass loopOps loop).calls := by
    intro calls hlog
    rw [loopPass, hlog, List.drop_left]
  cases receiverLoopTurn_pass loopOps.recordedLink hlive with
  | nothing hreceived _ _ hio =>
      exact hextends (by rw [hio, ReceiverLoopIoOps.recorded_receive hreceived])
  | accepted hreceived _ _ hsent _ _ hio =>
      exact hextends (by rw [hio, ReceiverLoopIoOps.recorded_answer hreceived hsent])
  | answered hreceived _ _ _ hsent _ _ hio =>
      exact hextends (by rw [hio, ReceiverLoopIoOps.recorded_answer hreceived hsent])
  | unanswered hreceived _ _ _ _ hio =>
      exact hextends (by rw [hio, ReceiverLoopIoOps.recorded_receive hreceived])

end PrintDrop
