/-
# Agreement of sender and receiver

An invariant of the transfers: what is in flight and what the receiver has, for each
place the sender can be in. There is one request at a time, and while its answer is on
its way, an answer that says OK means that the receiver has what the sender takes it to
have. A sender that resolves has therefore delivered the file.
-/

import PrintDrop.Transfer.Request

namespace PrintDrop

open Math

universe u v w

variable {η : Type u} {σ : Type v} {τ : Type w} {setup : TransferSetup η σ τ}

/-- The message of an acknowledgement. -/
def ackMessage (ack : Ack) : Bytes :=
  frameMessage MessageType.ack.toUInt8 (ackPayload ack)

theorem linkIoOps_sendFrame (link : LinkEnd) (ack : Ack) :
    linkIoOps.sendFrame link (ackFrame ack).1 (ackFrame ack).2 =
      if link.sendSucceeds || link.failedArrives then
        (link.sendSucceeds, { link with sent := link.sent ++ [ackMessage ack] })
      else (false, link) := by
  have hencoded : relayMessageEncode (some (ackFrame ack).1) (ackFrame ack).2
      relayWsMessageMaxSize = .ok (ackMessage ack) :=
    relayMessageEncode_eq_frameMessage (by decide) (by rw [length_ackPayload]; decide)
      (by rw [length_ackPayload]; decide)
  simp only [linkIoOps, hencoded]

/-- What is in flight to the sender after a pass that put `sent` on the link. -/
def TransferState.downWith (s : TransferState η σ τ) (sent : List Bytes) : List Bytes :=
  if s.downCut then s.down else s.down ++ sent

/-- What a pass that takes a request comes to. -/
inductive ReceiveOutcome (setup : TransferSetup η σ τ) (s : TransferState η σ τ)
    (request : Request) (payload : Bytes) (sendSucceeds : Bool) (t : TransferState η σ τ) : Prop
  | accepted {next : ReceiverProtocol (LoggedHandler σ τ)}
    (hhandled : receiverProtocolHandle (win32ReceiveHandlerOps setup.platform.recorded)
      s.loop.protocol (some (plainHeader request.messageType payload)) (payloadBuffer payload) =
        (.ok, next))
    (hprotocol : t.loop.protocol = next)
    (hresult : t.result = if request.messageType = MessageType.fileEnd then some .ok else none)
    (hdown : t.down = s.downWith
      [ackMessage ⟨request.messageType, AckStatus.ok, next.context.receiver.receivedBytes⟩])
  | unanswered {next : ReceiverProtocol (LoggedHandler σ τ)} (hfails : sendSucceeds = false)
    (hhandled : receiverProtocolHandle (win32ReceiveHandlerOps setup.platform.recorded)
      s.loop.protocol (some (plainHeader request.messageType payload)) (payloadBuffer payload) =
        (.ok, next))
    (hprotocol : t.loop.protocol =
      receiverProtocolAbort (win32ReceiveHandlerOps setup.platform.recorded) next)
    (hresult : t.result = some .sendError)
    (hdown : t.down = s.downWith [] ∨ t.down = s.downWith
      [ackMessage ⟨request.messageType, AckStatus.ok, next.context.receiver.receivedBytes⟩])
  | refused {result : ReceiverProtocolResult} {next : ReceiverProtocol (LoggedHandler σ τ)}
    (hhandled : receiverProtocolHandle (win32ReceiveHandlerOps setup.platform.recorded)
      s.loop.protocol (some (plainHeader request.messageType payload)) (payloadBuffer payload) =
        (result, next)) (hnotOk : result ≠ .ok)
    (hresult : t.result = some .protocolError)
    (hdown : t.down = s.downWith [] ∨ t.down = s.downWith
      [ackMessage ⟨request.messageType, loopErrorStatus result,
        next.context.receiver.receivedBytes⟩])

variable (setup) in
theorem turn_outcome (s : TransferState η σ τ) (request : Request) (payload : Bytes)
    (sendSucceeds failedArrives : Bool) :
    ReceiveOutcome setup s request payload sendSucceeds
      (setup.turn s (some (plainHeader request.messageType payload, payloadBuffer payload))
        sendSucceeds failedArrives) := by
  have houtcome := receiverLoopTurn_outcome (receiverLoopOps setup.platform)
    { s.loop with io := ⟨some (plainHeader request.messageType payload,
      payloadBuffer payload), sendSucceeds, failedArrives, []⟩ }
    rfl request.loopShouldAck_messageType
  cases houtcome with
  | accepted hhandled hsent hresult hprotocol hio =>
      rw [receiverLoopOps, linkIoOps_sendFrame] at hsent
      refine .accepted hhandled hprotocol hresult ?_
      split at hsent
      · obtain ⟨-, rfl⟩ := Prod.mk.inj hsent
        simp only [TransferSetup.turn, TransferState.downWith, hio]
        rfl
      · cases (Prod.mk.inj hsent).1
  | unanswered hhandled hsent hresult hprotocol hio =>
      rw [receiverLoopOps, linkIoOps_sendFrame] at hsent
      split at hsent
      · obtain ⟨hfails, rfl⟩ := Prod.mk.inj hsent
        refine .unanswered hfails hhandled hprotocol hresult (.inr ?_)
        simp only [TransferSetup.turn, TransferState.downWith, hio]
        rfl
      · rename_i hfails
        obtain ⟨-, rfl⟩ := Prod.mk.inj hsent
        rw [Bool.not_eq_true, Bool.or_eq_false_iff] at hfails
        refine .unanswered hfails.1 hhandled hprotocol hresult (.inl ?_)
        simp only [TransferSetup.turn, TransferState.downWith, hio]
  | refused hhandled hnotOk hsent hresult hprotocol hio =>
      rw [receiverLoopOps, linkIoOps_sendFrame] at hsent
      refine .refused hhandled hnotOk hresult ?_
      split at hsent
      · subst hsent
        right
        simp only [TransferSetup.turn, TransferState.downWith, hio]
        rfl
      · subst hsent
        left
        simp only [TransferSetup.turn, TransferState.downWith, hio]

variable (setup) in
/-- A pass that receives nothing ends the loop and leaves the link alone. -/
theorem turn_receiveError (s : TransferState η σ τ) :
    (setup.turn s none false false).result = some .receiveError ∧
      (setup.turn s none false false).down = s.down := by
  have hfailed := receiverLoopTurn_receiveError (receiverLoopOps setup.platform)
    { s.loop with io := ⟨none, false, false, []⟩ } rfl
  refine ⟨hfailed.1, ?_⟩
  simp [TransferSetup.turn, hfailed.2.2]

/-- The sender that has just made a request. -/
def Web.Sender.requested (sender : Web.Sender η) (file : Web.File) (digest : Bytes)
    (request : Request) : Web.Sender η :=
  { sender with
    phase := .waiting request.type (request.expected file) (request.next file)
    sent := sender.sent ++ [request.message file digest] }

section Sender

variable {options : Web.SendFileOptions η} {digest : Bytes}

/-- Making a request comes off, or `sendFile` rejects. -/
theorem sendFrameAndWait_request (sender : Web.Sender η)
    (hbegin : Web.EncodableFileBegin options.file.size digest options.file.name)
    (request : Request) :
    sender.sendFrameAndWait request.type (request.payload options.file digest)
        (request.expected options.file) (request.next options.file) =
      if sender.readyState ≠ 1 then sender.reject ⟨.error, "WebSocket is not connected"⟩
      else sender.requested options.file digest request := by
  rw [Web.Sender.sendFrameAndWait, Request.encodeFrame_eq_message hbegin]
  rfl

theorem sendFrom_eq (sender : Web.Sender η)
    (hbegin : Web.EncodableFileBegin options.file.size digest options.file.name) (offset : ℕ) :
    sender.sendFrom options offset =
      if offset < options.file.size then { sender with phase := .reading offset }
      else if sender.readyState ≠ 1 then sender.reject ⟨.error, "WebSocket is not connected"⟩
      else sender.requested options.file digest .finish := by
  rw [← sendFrameAndWait_request sender hbegin .finish]
  rfl

/-- Sending FILE_BEGIN for an announcement that can be encoded. -/
theorem sendBegin_of_encodable (sender : Web.Sender η)
    (hbegin : Web.EncodableFileBegin options.file.size digest options.file.name) :
    sender.sendBegin options digest =
      if sender.readyState ≠ 1 then sender.reject ⟨.error, "WebSocket is not connected"⟩
      else sender.requested options.file digest .begin := by
  have hencoded := Web.encodeFileBegin_eq_ok_iff.mpr ⟨hbegin, rfl⟩
  rw [← sendFrameAndWait_request sender hbegin .begin, Web.Sender.sendBegin, hencoded,
    Web.ofInt_natCast]
  rfl

/-- Sending FILE_BEGIN rejects, or makes the first request. -/
theorem sendBegin_eq (sender : Web.Sender η) (digest : Bytes) :
    (∃ error, sender.sendBegin options digest = sender.reject error) ∨
      Web.EncodableFileBegin options.file.size digest options.file.name ∧
        sender.sendBegin options digest = sender.requested options.file digest .begin := by
  cases hencoded : Web.encodeFileBegin options.file.size digest options.file.name with
  | error error => exact .inl ⟨error, by rw [Web.Sender.sendBegin, hencoded]⟩
  | ok payload =>
      obtain ⟨hbegin, -⟩ := Web.encodeFileBegin_eq_ok_iff.mp hencoded
      rw [sendBegin_of_encodable sender hbegin]
      split
      · exact .inl ⟨_, rfl⟩
      · exact .inr ⟨hbegin, rfl⟩

variable (options) in
/-- Going on with the hash comes to more reading, a rejection or FILE_BEGIN. -/
theorem hashFrom_eq (sender : Web.Sender η) (hasher : η) (processed : ℕ) :
    sender.hashFrom options hasher processed =
        { sender with phase := .hashing hasher processed } ∨
      (∃ error, sender.hashFrom options hasher processed = sender.reject error) ∨
        ∃ digest, Web.EncodableFileBegin options.file.size digest options.file.name ∧
          sender.hashFrom options hasher processed =
            sender.requested options.file digest .begin := by
  unfold Web.Sender.hashFrom
  split
  · exact .inl rfl
  dsimp only
  split
  · exact .inr (.inl ⟨_, rfl⟩)
  · rcases sendBegin_eq sender (options.hasher.array hasher) with hrejected | ⟨hbegin, hbegun⟩
    · exact .inr (.inl hrejected)
    · exact .inr (.inr ⟨_, hbegin, hbegun⟩)

/-- Which acknowledgements pass the sender's checks. -/
theorem checkAck_ackMessage {expectedType expectedReceivedBytes : ℕ} {ack : Ack}
    (htype : ackTypeIsAllowed ack.acknowledgedType = true)
    (hstatus : ack.status.toNat ≤ Web.AckStatus.rejected) :
    Web.Sender.checkAck expectedType expectedReceivedBytes (ackMessage ack) = .ok () ↔
      ack.acknowledgedType.toNat = expectedType ∧ ack.status = AckStatus.ok ∧
        ack.receivedBytes.toNat = expectedReceivedBytes := by
  have hdecoded : Web.decodeAck (ackMessage ack) = _ := Web.decodeAck_frameMessage htype hstatus
  have hzero : ack.status.toNat = Web.AckStatus.ok ↔ ack.status = AckStatus.ok :=
    UInt32.toNat_inj (b := 0)
  simp only [Web.Sender.checkAck, hdecoded, bind, Except.bind, ← hzero]
  split_ifs <;> simp_all

end Sender

/-! ## The invariant -/

section Invariant

variable (H : HandlerPhase → LoggedHandler σ τ → Prop) (setup : TransferSetup η σ τ)

/-- The receiver has this much of the file, unless its loop has ended early. -/
def Standing (digest : Bytes) (s : TransferState η σ τ) : Progress → Prop
  | .done => s.result ≠ none ∧
      ReceiverAt H setup.options.file digest setup.protocol .done s.loop.protocol
  | progress => s.result = none →
      ReceiverAt H setup.options.file digest setup.protocol progress s.loop.protocol

/-- The sender has announced its file with this digest. -/
structure AnnouncedWith (digest : Bytes) (s : TransferState η σ τ) : Prop where
  encodable : Web.EncodableFileBegin setup.options.file.size digest setup.options.file.name
  sent : s.sender.sent.head? = some (Request.begin.message setup.options.file digest)

/-- The sender waits for the answer to a request. -/
structure WaitsFor (digest : Bytes) (request : Request) (s : TransferState η σ τ) : Prop where
  phase : s.sender.phase = .waiting request.type (request.expected setup.options.file)
    (request.next setup.options.file)
  valid : request.Valid setup.options.file
  announced : AnnouncedWith setup digest s

/-- Sender, link and receiver are in step. -/
inductive Linked (s : TransferState η σ τ) : Prop
  | rejected {error : Web.JsError} (hphase : s.sender.phase = .rejected error)
  | resolved {digest : Bytes} (hphase : s.sender.phase = .resolved)
    (hannounced : AnnouncedWith setup digest s) (hreceiver : Standing H setup digest s .done)
  | hashing {hasher : η} {processed : ℕ} (hphase : s.sender.phase = .hashing hasher processed)
    (hsent : s.sender.sent = []) (hup : s.up = []) (hdown : s.down = [])
    (hreceiver : Standing H setup [] s .fresh)
  | reading {digest : Bytes} {offset : ℕ} (hphase : s.sender.phase = .reading offset)
    (hoffset : offset < setup.options.file.size) (hannounced : AnnouncedWith setup digest s)
    (hup : s.up = []) (hdown : s.down = [])
    (hreceiver : Standing H setup digest s (.received offset))
  | pending {digest : Bytes} {request : Request} (hwaits : WaitsFor setup digest request s)
    (hup : s.up = [] ∨ s.up = [request.message setup.options.file digest]) (hdown : s.down = [])
    (hreceiver : Standing H setup digest s (request.before setup.options.file))
  | answered {digest : Bytes} {request : Request} (ack : Ack)
    (hwaits : WaitsFor setup digest request s) (hup : s.up = [])
    (htype : ack.acknowledgedType = request.messageType)
    (hstatus : ack.status.toNat ≤ Web.AckStatus.rejected)
    (hdown : s.down = [] ∨ s.down = [ackMessage ack])
    (hreceiver : ack.status = AckStatus.ok →
      Standing H setup digest s (request.after setup.options.file))

variable {H} {setup}

/-- A receiver whose loop has ended stands anywhere but at the end of the file. -/
theorem standing_of_ended {digest : Bytes} {s : TransferState η σ τ} {progress : Progress}
    (hresult : s.result ≠ none) (hprogress : progress ≠ .done) :
    Standing H setup digest s progress := by
  cases progress with
  | done => exact absurd rfl hprogress
  | fresh | received offset => exact fun hnone => absurd hnone hresult

/-- Standing depends on the loop alone. -/
theorem Standing.congr {digest : Bytes} {s t : TransferState η σ τ} {progress : Progress}
    (hstanding : Standing H setup digest s progress) (hresult : t.result = s.result)
    (hprotocol : t.loop.protocol = s.loop.protocol) : Standing H setup digest t progress := by
  cases progress with
  | done | fresh | received offset =>
      simp only [Standing, hresult, hprotocol] at *
      exact hstanding

/-- A fresh receiver stands the same for every digest. -/
theorem Standing.fresh {digest digest' : Bytes} {s : TransferState η σ τ}
    (hstanding : Standing H setup digest s .fresh) : Standing H setup digest' s .fresh :=
  hstanding

theorem Request.before_ne_done (request : Request) (file : Web.File) :
    request.before file ≠ .done := by
  cases request <;> simp [Request.before]

/-- A sender that has come to the point of its next request makes it, or rejects. -/
private theorem linked_requested {digest : Bytes} {request : Request} {s : TransferState η σ τ}
    {sender : Web.Sender η} (hencodable : Web.EncodableFileBegin setup.options.file.size digest
      setup.options.file.name)
    (hsent : sender.sent = s.sender.sent)
    (hhead : (sender.sent ++ [request.message setup.options.file digest]).head? =
      some (Request.begin.message setup.options.file digest))
    (hvalid : request.Valid setup.options.file) (hup : s.up = []) (hdown : s.down = [])
    (hreceiver : Standing H setup digest s (request.before setup.options.file)) :
    Linked H setup (TransferSetup.withSender s
      (sender.requested setup.options.file digest request)) := by
  refine .pending ⟨rfl, hvalid, hencodable, hhead⟩ ?_ hdown (hreceiver.congr rfl rfl)
  simp only [TransferSetup.withSender, Web.Sender.requested, hsent, hup, List.drop_left,
    List.nil_append]
  split
  · exact .inl rfl
  · exact .inr rfl

/-- What changes neither the sender's phase, nor what it has sent, nor the link, nor the
loop keeps everything in step. -/
private theorem Linked.congr {s t : TransferState η σ τ} (hlinked : Linked H setup s)
    (hphase : t.sender.phase = s.sender.phase) (hsent : t.sender.sent = s.sender.sent)
    (hup : t.up = s.up) (hdown : t.down = s.down) (hresult : t.result = s.result)
    (hprotocol : t.loop.protocol = s.loop.protocol) : Linked H setup t := by
  have hannounced : ∀ {digest}, AnnouncedWith setup digest s → AnnouncedWith setup digest t :=
    fun h => ⟨h.encodable, by rw [hsent]; exact h.sent⟩
  have hwaits : ∀ {digest request}, WaitsFor setup digest request s →
      WaitsFor setup digest request t :=
    fun h => ⟨by rw [hphase]; exact h.phase, h.valid, hannounced h.announced⟩
  cases hlinked with
  | rejected hrejected => exact .rejected (by rw [hphase]; exact hrejected)
  | resolved hresolved hann hreceiver =>
      exact .resolved (by rw [hphase]; exact hresolved) (hannounced hann)
        (hreceiver.congr hresult hprotocol)
  | hashing hhashing hnothing hup' hdown' hreceiver =>
      exact .hashing (by rw [hphase]; exact hhashing) (hsent.trans hnothing) (hup.trans hup')
        (hdown.trans hdown') (hreceiver.congr hresult hprotocol)
  | reading hreading hoffset hann hup' hdown' hreceiver =>
      exact .reading (by rw [hphase]; exact hreading) hoffset (hannounced hann) (hup.trans hup')
        (hdown.trans hdown') (hreceiver.congr hresult hprotocol)
  | pending hwait hup' hdown' hreceiver =>
      exact .pending (hwaits hwait) (by rw [hup]; exact hup') (hdown.trans hdown')
        (hreceiver.congr hresult hprotocol)
  | answered ack hwait hup' htype hstatus hdown' hreceiver =>
      exact .answered _ (hwaits hwait) (hup.trans hup') htype hstatus (by rw [hdown]; exact hdown')
        fun hok => (hreceiver hok).congr hresult hprotocol

/-- The sender's state has changed, but not its phase. -/
private theorem Linked.sameSender {s : TransferState η σ τ} {sender : Web.Sender η}
    (hlinked : Linked H setup s) (hphase : sender.phase = s.sender.phase)
    (hsent : sender.sent = s.sender.sent) : Linked H setup (TransferSetup.withSender s sender) := by
  refine hlinked.congr hphase hsent ?_ rfl rfl rfl
  simp [TransferSetup.withSender, hsent]

/-- An event that only a waiting sender minds. -/
private theorem Linked.failWait {s : TransferState η σ τ} {sender : Web.Sender η}
    (hlinked : Linked H setup s) (hphase : sender.phase = s.sender.phase)
    (hsent : sender.sent = s.sender.sent) (message : String) :
    Linked H setup (TransferSetup.withSender s (sender.failWait message)) := by
  unfold Web.Sender.failWait
  split
  · exact .rejected rfl
  · exact hlinked.sameSender hphase hsent

/-- Every event but a message keeps the sender in step. -/
private theorem Linked.sender {s : TransferState η σ τ} {sender : Web.Sender η}
    {event : Web.SenderEvent} (hlinked : Linked H setup s)
    (hevent : ∀ data, event ≠ .message data)
    (hstep : s.sender.step setup.options event = some sender) :
    Linked H setup (TransferSetup.withSender s sender) := by
  cases event with
  | message data => exact absurd rfl (hevent data)
  | closing =>
      obtain rfl := Option.some.inj hstep
      exact hlinked.sameSender rfl rfl
  | socketError =>
      obtain rfl := Option.some.inj hstep
      exact hlinked.failWait rfl rfl _
  | socketClose =>
      obtain rfl := Option.some.inj hstep
      refine hlinked.failWait ?_ ?_ _ <;> rfl
  | ackTimeout =>
      simp only [Web.Sender.step] at hstep
      split at hstep
      · obtain rfl := Option.some.inj hstep
        exact hlinked.failWait rfl rfl _
      · cases hstep
  | sliceFailed error =>
      simp only [Web.Sender.step] at hstep
      split at hstep
      · obtain rfl := Option.some.inj hstep
        exact .rejected rfl
      · obtain rfl := Option.some.inj hstep
        exact .rejected rfl
      · cases hstep
  | sliceRead =>
      simp only [Web.Sender.step] at hstep
      cases hlinked with
      | hashing hphase hsent hup hdown hreceiver =>
          simp only [hphase] at hstep
          obtain rfl := Option.some.inj hstep
          rcases hashFrom_eq setup.options s.sender _ _ with
            hmore | ⟨error, hrejected⟩ | ⟨digest, hencodable, hbegun⟩
          · rw [hmore]
            exact .hashing rfl hsent (by simp [TransferSetup.withSender, hup]) hdown
              (hreceiver.congr rfl rfl)
          · rw [hrejected]
            exact .rejected rfl
          · rw [hbegun]
            exact linked_requested hencodable rfl (by simp [hsent]) trivial hup hdown
              hreceiver.fresh
      | reading hphase hoffset hannounced hup hdown hreceiver =>
          rename_i digest offset
          simp only [hphase] at hstep
          obtain rfl := Option.some.inj hstep
          have hrequest := sendFrameAndWait_request s.sender hannounced.encodable (.chunk offset)
          simp only [Request.type, Request.payload, Request.expected, Request.next,
            Request.chunkEnd] at hrequest
          rw [hrequest]
          split
          · exact .rejected rfl
          · refine linked_requested hannounced.encodable rfl ?_ hoffset hup hdown hreceiver
            rw [List.head?_append, hannounced.sent, Option.some_or]
      | rejected hphase => simp [hphase] at hstep
      | resolved hphase => simp [hphase] at hstep
      | pending hwaits => simp [hwaits.phase] at hstep
      | answered ack hwaits => simp [hwaits.phase] at hstep

/-- Where the sender goes on once its checks are passed. -/
theorem onMessage_request {request : Request} {s : TransferState η σ τ}
    (hphase : s.sender.phase = .waiting request.type (request.expected setup.options.file)
      (request.next setup.options.file)) (message : Bytes) :
    s.sender.onMessage setup.options message =
      match Web.Sender.checkAck request.type (request.expected setup.options.file) message with
      | .error error => s.sender.reject error
      | .ok () =>
        match request.next setup.options.file with
        | some offset => s.sender.sendFrom setup.options offset
        | none => { s.sender with phase := .resolved } := by
  cases hcheck : Web.Sender.checkAck request.type (request.expected setup.options.file) message with
  | error error => simp [Web.Sender.onMessage, hphase, hcheck]
  | ok _ =>
      cases hnext : request.next setup.options.file with
      | none => simp [Web.Sender.onMessage, hphase, hcheck, hnext]
      | some offset => simp [Web.Sender.onMessage, hphase, hcheck, hnext]

/-- A message that is handed to the sender keeps everything in step. -/
private theorem Linked.deliver {s : TransferState η σ τ} {message : Bytes} {rest : List Bytes}
    (hlinked : Linked H setup s) (hmessage : s.down = message :: rest) :
    Linked H setup (TransferSetup.withSender { s with down := rest }
      (s.sender.onMessage setup.options message)) := by
  cases hlinked with
  | rejected hphase =>
      have hsame : s.sender.onMessage setup.options message = s.sender := by
        rw [Web.Sender.onMessage, hphase]
      rw [hsame]
      exact .rejected hphase
  | resolved hphase hannounced hreceiver =>
      have hsame : s.sender.onMessage setup.options message = s.sender := by
        rw [Web.Sender.onMessage, hphase]
      rw [hsame]
      exact .resolved hphase ⟨hannounced.encodable, hannounced.sent⟩ (hreceiver.congr rfl rfl)
  | hashing _ _ _ hdown => simp [hdown] at hmessage
  | reading _ _ _ _ hdown => simp [hdown] at hmessage
  | pending _ _ hdown => simp [hdown] at hmessage
  | answered ack hwaits hup htype hstatus hdown hreceiver =>
      rename_i digest request
      obtain ⟨rfl, rfl⟩ : message = ackMessage ack ∧ rest = [] := by
        rcases hdown with hdown | hdown
        · simp [hdown] at hmessage
        · rw [hdown, List.cons.injEq] at hmessage
          exact ⟨hmessage.1.symm, hmessage.2.symm⟩
      rw [onMessage_request hwaits.phase]
      split
      · exact .rejected rfl
      rename_i hchecked
      have hallowed : ackTypeIsAllowed ack.acknowledgedType = true := by
        rw [htype]
        exact request.loopShouldAck_messageType
      obtain ⟨-, hok, -⟩ := (checkAck_ackMessage hallowed hstatus).mp hchecked
      have hafter := hreceiver hok
      have hencodable := hwaits.announced.encodable
      -- Behind FILE_BEGIN and behind a chunk the sender is at an offset that the receiver has.
      have hgoOn : ∀ {offset}, Standing H setup digest s (.received offset) →
          (offset < setup.options.file.size ∨ offset = setup.options.file.size) →
          Linked H setup (TransferSetup.withSender { s with down := [] }
            (s.sender.sendFrom setup.options offset)) := by
        intro offset hstanding hoffset
        rw [sendFrom_eq s.sender hencodable]
        split
        · rename_i hinside
          exact .reading rfl hinside ⟨hencodable, hwaits.announced.sent⟩
            (by simp [TransferSetup.withSender, hup]) rfl (hstanding.congr rfl rfl)
        · rename_i houtside
          split
          · exact .rejected rfl
          · obtain rfl := hoffset.resolve_left houtside
            refine linked_requested (s := { s with down := [] }) hencodable rfl ?_ trivial hup rfl
              (hstanding.congr rfl rfl)
            rw [List.head?_append, hwaits.announced.sent, Option.some_or]
      cases request with
      | begin => exact hgoOn hafter ((Nat.eq_zero_or_pos _).symm.imp_right Eq.symm)
      | chunk offset =>
          refine hgoOn hafter ?_
          simp only [Request.chunkEnd]
          omega
      | finish =>
          exact .resolved rfl ⟨hencodable, hwaits.announced.sent⟩ (hafter.congr rfl rfl)

/-- A message that the loop takes keeps everything in step. -/
private theorem Linked.receive
    (hops : (win32ReceiveHandlerOps setup.platform.recorded).Implements H fun _ => True)
    (hfresh : H .waiting setup.protocol.context) {s : TransferState η σ τ} {message : Bytes}
    {rest : List Bytes} (hlinked : Linked H setup s) (hrunning : s.result = none)
    (hmessage : s.up = message :: rest) (sendSucceeds failedArrives : Bool) :
    Linked H setup (setup.turn { s with up := rest } (arrivedFrame message) sendSucceeds
      failedArrives) := by
  cases hlinked with
  | rejected hphase => exact .rejected hphase
  | resolved hphase hannounced hreceiver => exact absurd hrunning hreceiver.1
  | hashing _ _ hup => simp [hup] at hmessage
  | reading _ _ _ hup => simp [hup] at hmessage
  | answered ack _ hup => simp [hup] at hmessage
  | pending hwaits hup hdown hreceiver =>
      rename_i digest request
      have hencodable := hwaits.announced.encodable
      obtain ⟨rfl, rfl⟩ : message = request.message setup.options.file digest ∧ rest = [] := by
        rcases hup with hup | hup
        · simp [hup] at hmessage
        · rw [hup, List.cons.injEq] at hmessage
          exact ⟨hmessage.1.symm, hmessage.2.symm⟩
      have hbefore : ReceiverAt H setup.options.file digest setup.protocol
          (request.before setup.options.file) s.loop.protocol := by
        cases hprogress : request.before setup.options.file with
        | done => exact absurd hprogress (request.before_ne_done _)
        | fresh | received offset =>
            rw [hprogress] at hreceiver
            exact hreceiver hrunning
      rw [Request.arrivedFrame_message hencodable]
      have hempty : ({ s with up := [] } : TransferState η σ τ).downWith [] = [] := by
        simp [TransferState.downWith, hdown]
      have honly : ∀ ack, ({ s with up := [] } : TransferState η σ τ).downWith [ackMessage ack] =
          [] ∨ ({ s with up := [] } : TransferState η σ τ).downWith [ackMessage ack] =
            [ackMessage ack] := by
        intro ack
        simp only [TransferState.downWith, hdown]
        split
        · exact .inl rfl
        · exact .inr rfl
      have houtcome := turn_outcome setup { s with up := [] } request
        (request.payload setup.options.file digest) sendSucceeds failedArrives
      have hwaits' : WaitsFor setup digest request (setup.turn { s with up := [] }
          (some (plainHeader request.messageType (request.payload setup.options.file digest),
            payloadBuffer (request.payload setup.options.file digest)))
          sendSucceeds failedArrives) :=
        ⟨hwaits.phase, hwaits.valid, hencodable, hwaits.announced.sent⟩
      cases houtcome with
      | accepted hhandled hprotocol hresult hdown' =>
          rename_i next
          have hafter := hbefore.accept hops hfresh hencodable hwaits.valid hhandled
          refine .answered ⟨request.messageType, AckStatus.ok,
            next.context.receiver.receivedBytes⟩ hwaits' rfl rfl (Nat.zero_le _)
            (by rw [hdown']; exact honly _) fun _ => ?_
          cases request with
          | begin | chunk offset =>
              intro _
              rw [hprotocol]
              exact hafter
          | finish =>
              refine ⟨by rw [hresult]; decide, ?_⟩
              rw [hprotocol]
              exact hafter
      | unanswered hfails hhandled hprotocol hresult hdown' =>
          rename_i next
          have hafter := hbefore.accept hops hfresh hencodable hwaits.valid hhandled
          refine .answered ⟨request.messageType, AckStatus.ok,
            next.context.receiver.receivedBytes⟩ hwaits' rfl rfl (Nat.zero_le _) ?_ fun _ => ?_
          · rcases hdown' with hdown' | hdown'
            · exact .inl (hdown'.trans hempty)
            · rw [hdown']
              exact honly _
          · cases request with
            | begin => exact standing_of_ended (by simp [hresult]) (by simp [Request.after])
            | chunk offset => exact standing_of_ended (by simp [hresult]) (by simp [Request.after])
            | finish =>
                refine ⟨by simp [hresult], ?_⟩
                rw [hprotocol, receiverProtocolAbort_complete hafter.1]
                exact hafter
      | refused hhandled hnotOk hresult hdown' =>
          rename_i result next
          refine .answered ⟨request.messageType, loopErrorStatus result,
            next.context.receiver.receivedBytes⟩ hwaits' rfl rfl ?_ ?_ ?_
          · show (loopErrorStatus result).toNat ≤ Web.AckStatus.rejected
            cases result <;> decide
          · rcases hdown' with hdown' | hdown'
            · exact .inl (hdown'.trans hempty)
            · rw [hdown']
              exact honly _
          · exact fun hok => absurd hok (loopErrorStatus_ne_ok result)

/-- A loop that receives nothing has ended; the rest is as before. -/
private theorem Linked.receiveFails {s : TransferState η σ τ} (hlinked : Linked H setup s)
    (hrunning : s.result = none) : Linked H setup (setup.turn s none false false) := by
  obtain ⟨hresult, hdown⟩ := turn_receiveError setup s
  have hended : (setup.turn s none false false).result ≠ none := by simp [hresult]
  cases hlinked with
  | rejected hphase => exact .rejected hphase
  | resolved hphase hannounced hreceiver => exact absurd hrunning hreceiver.1
  | hashing hphase hsent hup hdown' _ =>
      exact .hashing hphase hsent hup (hdown.trans hdown') (standing_of_ended hended (by simp))
  | reading hphase hoffset hannounced hup hdown' _ =>
      exact .reading hphase hoffset ⟨hannounced.encodable, hannounced.sent⟩ hup
        (hdown.trans hdown') (standing_of_ended hended (by simp))
  | pending hwaits hup hdown' _ =>
      exact .pending ⟨hwaits.phase, hwaits.valid, hwaits.announced.encodable,
        hwaits.announced.sent⟩ hup (hdown.trans hdown')
        (standing_of_ended hended (Request.before_ne_done _ _))
  | answered ack hwaits hup htype hstatus hdown' hreceiver =>
      rename_i digest request
      refine .answered ack ⟨hwaits.phase, hwaits.valid, hwaits.announced.encodable,
        hwaits.announced.sent⟩ hup htype hstatus (by rw [hdown]; exact hdown') fun hok => ?_
      cases request with
      | begin => exact standing_of_ended hended (by simp [Request.after])
      | chunk offset => exact standing_of_ended hended (by simp [Request.after])
      | finish => exact absurd hrunning (hreceiver hok).1

private theorem take_singleton {α : Type} {items : List α} {item : α} (keep : ℕ)
    (hitems : items = [] ∨ items = [item]) : items.take keep = [] ∨ items.take keep = [item] := by
  rcases hitems with rfl | rfl
  · simp
  · cases keep <;> simp

/-- Cutting the link loses messages and nothing else. -/
private theorem Linked.cut {s : TransferState η σ τ} (hlinked : Linked H setup s)
    (keepUp keepDown : ℕ) (upCut downCut : Bool) :
    Linked H setup { s with
      up := s.up.take keepUp, upCut := upCut, down := s.down.take keepDown,
      downCut := downCut } := by
  cases hlinked with
  | rejected hphase => exact .rejected hphase
  | resolved hphase hannounced hreceiver =>
      exact .resolved hphase ⟨hannounced.encodable, hannounced.sent⟩ (hreceiver.congr rfl rfl)
  | hashing hphase hsent hup hdown hreceiver =>
      exact .hashing hphase hsent (by simp [hup]) (by simp [hdown]) (hreceiver.congr rfl rfl)
  | reading hphase hoffset hannounced hup hdown hreceiver =>
      exact .reading hphase hoffset ⟨hannounced.encodable, hannounced.sent⟩ (by simp [hup])
        (by simp [hdown]) (hreceiver.congr rfl rfl)
  | pending hwaits hup hdown hreceiver =>
      exact .pending ⟨hwaits.phase, hwaits.valid, hwaits.announced.encodable,
        hwaits.announced.sent⟩ (take_singleton keepUp hup) (by simp [hdown])
        (hreceiver.congr rfl rfl)
  | answered ack hwaits hup htype hstatus hdown hreceiver =>
      exact .answered _ ⟨hwaits.phase, hwaits.valid, hwaits.announced.encodable,
        hwaits.announced.sent⟩ (by simp [hup]) htype hstatus (take_singleton keepDown hdown)
        fun hok => (hreceiver hok).congr rfl rfl

theorem step_sender {s : TransferState η σ τ} {event : Web.SenderEvent}
    (hevent : ∀ data, event ≠ .message data) :
    setup.step s (.sender event) =
      (s.sender.step setup.options event).map (TransferSetup.withSender s) := by
  cases event with
  | message data => exact absurd rfl (hevent data)
  | sliceRead | sliceFailed error | closing | socketError | socketClose | ackTimeout => rfl

/-- **Step lemma.** Every step keeps sender, link and receiver in step. -/
theorem Linked.step
    (hops : (win32ReceiveHandlerOps setup.platform.recorded).Implements H fun _ => True)
    (hfresh : H .waiting setup.protocol.context) {s t : TransferState η σ τ}
    {action : TransferAction} (hlinked : Linked H setup s)
    (hstep : setup.step s action = some t) : Linked H setup t := by
  cases action with
  | sender event =>
      have hevent : ∀ data, event ≠ .message data := by
        rintro data rfl
        cases hstep
      rw [step_sender hevent] at hstep
      obtain ⟨sender, hsender, rfl⟩ := Option.map_eq_some_iff.mp hstep
      exact hlinked.sender hevent hsender
  | deliver =>
      simp only [TransferSetup.step] at hstep
      split at hstep
      · cases hstep
      · rename_i message rest hmessage
        obtain rfl := Option.some.inj hstep
        exact hlinked.deliver hmessage
  | receive sendSucceeds failedArrives =>
      simp only [TransferSetup.step] at hstep
      split at hstep
      · rename_i message rest hrunning hmessage
        obtain rfl := Option.some.inj hstep
        exact hlinked.receive hops hfresh hrunning hmessage sendSucceeds failedArrives
      · cases hstep
  | receiveFails =>
      simp only [TransferSetup.step] at hstep
      split at hstep
      · rename_i hrunning
        obtain rfl := Option.some.inj hstep
        exact hlinked.receiveFails hrunning
      · cases hstep
  | cutUp keep =>
      obtain rfl := Option.some.inj hstep
      have hcut := hlinked.cut keep s.down.length true s.downCut
      rwa [List.take_length] at hcut
  | cutDown keep =>
      obtain rfl := Option.some.inj hstep
      have hcut := hlinked.cut s.up.length keep s.upCut true
      rwa [List.take_length] at hcut

variable (setup) in
/-- The sender before it has checked its arguments. -/
def uncheckedSender : Web.Sender η where
  phase := .hashing setup.options.hasher.create 0
  readyState := setup.readyState
  sent := []

variable (setup) in
/-- What a sender comes to that starts on its checked arguments. -/
theorem start_eq :
    (∃ error, Web.Sender.start setup.options setup.readyState =
        (uncheckedSender setup).reject error) ∨
      (∃ hasher processed, Web.Sender.start setup.options setup.readyState =
        { uncheckedSender setup with phase := .hashing hasher processed }) ∨
      ∃ digest, Web.EncodableFileBegin setup.options.file.size digest setup.options.file.name ∧
        Web.Sender.start setup.options setup.readyState =
          (uncheckedSender setup).requested setup.options.file digest .begin := by
  unfold Web.Sender.start
  dsimp only
  split
  · exact .inl ⟨_, rfl⟩
  split
  · exact .inl ⟨_, rfl⟩
  split
  · rcases hashFrom_eq setup.options (uncheckedSender setup) setup.options.hasher.create 0 with
      hmore | hrejected | hbegun
    · exact .inr (.inl ⟨_, _, hmore⟩)
    · exact .inl hrejected
    · exact .inr (.inr hbegun)
  split
  · exact .inl ⟨_, rfl⟩
  · rename_i digest _ _
    rcases sendBegin_eq (uncheckedSender setup) digest with hrejected | ⟨hbegin, hbegun⟩
    · exact .inl hrejected
    · exact .inr (.inr ⟨_, hbegin, hbegun⟩)

/-- The start is what the sender's first step makes of a state with an empty link. -/
theorem start_eq_withSender (setup : TransferSetup η σ τ) :
    setup.start = TransferSetup.withSender
      { setup.start with sender := uncheckedSender setup, up := [] }
      (Web.Sender.start setup.options setup.readyState) := by
  simp [TransferSetup.withSender, TransferSetup.start, uncheckedSender]

/-- At the start no one has done anything but the sender, which may have made its first
request. -/
theorem linked_start : Linked H setup setup.start := by
  have hfresh : Standing H setup []
      { setup.start with sender := uncheckedSender setup, up := [] } .fresh := fun _ => rfl
  rw [start_eq_withSender]
  rcases start_eq setup with ⟨error, hrejected⟩ | ⟨hasher, processed, hhashing⟩ |
    ⟨digest, hencodable, hbegun⟩
  · rw [hrejected]
    exact .rejected rfl
  · rw [hhashing]
    exact .hashing rfl rfl rfl rfl (hfresh.congr rfl rfl)
  · rw [hbegun]
    exact linked_requested hencodable rfl rfl trivial rfl rfl hfresh.fresh

end Invariant

/-- **Agreement.** Where the receiver's hash computes a function of the bytes it is fed, a
sender that has resolved has announced its file's size and a digest, and the receiver's
sink has been written exactly the file's bytes, in order, and committed once, the digest
of the bytes being the announced one. -/
theorem sendFile_agreement (setup : TransferSetup η σ τ) {digestOf : Bytes → Digest}
    (hcomputes : setup.platform.sha256Ops.Computes digestOf) {s : TransferState η σ τ}
    (hreachable : setup.system.Reachable s) (hresolved : s.sender.phase = .resolved) :
    ∃ (declared : UInt64) (digest : Bytes) (chunks : List Bytes),
      s.sender.sent.head? = some (frameMessage (UInt8.ofNat Web.MessageType.fileBegin)
        (fileBeginPayload declared digest (Web.textEncode setup.options.file.name))) ∧
      declared.toNat = setup.options.file.size ∧
      chunks.flatten = setup.options.file.content ∧
      s.loop.protocol.context.sink.2 = writtenLog declared chunks ++ [.commit .ok] ∧
      (digestOf setup.options.file.content).toList = digest := by
  have hplatform : setup.platform.Implements (fun _ _ => True) setup.platform.sha256Ops.FedAt :=
    ⟨FileSinkOps.implements_trivial _, IntegrityOps.implements_fedAt _, fun _ => trivial,
      fun _ => trivial⟩
  have hops := win32ReceiveHandlerOps_implements_leaking hplatform.recorded
  have hlinked : Linked (HandlerAt _ setup.platform.sha256Ops.FedAt True) setup s :=
    TransitionSystem.RunWithin.invariant (P := Linked _ setup) linked_start
      (fun _ hlinked _ hstep =>
        hlinked.step hops ⟨rfl, rfl, ⟨trivial, rfl⟩, trivial⟩ hstep) hreachable
  cases hlinked with
  | resolved hphase hannounced hreceiver =>
      rename_i digest
      obtain ⟨-, hcomplete, hfile, chunks, hchunks, hinv⟩ := hreceiver
      obtain ⟨-, hrep⟩ := hinv.complete_context hcomplete
      obtain ⟨⟨-, written, hwritten, hlog⟩, -⟩ := hrep.sink
      obtain ⟨running, hfed, hfinish⟩ := hrep.hash _ rfl
      have hdigest := hcomputes hfed (by rw [hfinish])
      rw [hfinish, hchunks, hfile] at hdigest
      rw [hfile] at hlog
      refine ⟨_, digest, written, hannounced.sent, ?_, hwritten.trans hchunks, hlog, ?_⟩
      · have hlt := hannounced.encodable.sizeLt
        rw [UInt64.toNat_ofNat']
        omega
      · rw [← hdigest]
        exact Digest.toList_ofBytes hannounced.encodable.digestLength
  | rejected hphase => simp [hphase] at hresolved
  | hashing hphase => simp [hphase] at hresolved
  | reading hphase => simp [hphase] at hresolved
  | pending hwaits => simp [hwaits.phase] at hresolved
  | answered ack hwaits => simp [hwaits.phase] at hresolved

/-- The SHA-256 digest of the single byte 1. -/
def oneByteDigest : Digest :=
  #v[75, 245, 18, 47, 52, 69, 84, 197, 59, 222, 46, 187, 140, 210, 183, 227, 209, 96, 10, 214,
    49, 195, 133, 165, 215, 204, 226, 60, 119, 133, 69, 154]

/-- A platform on which nothing fails: a sink that stores nothing and a hash that is right
for the single byte 1. -/
def smoothPlatform : ReceivePlatform Unit Unit := constantPlatform oneByteDigest

/-- The transfer of the single byte 1 under the name `a`, with its digest given. -/
def smoothTransfer : TransferSetup Unit Unit Unit where
  options := {
    file := ⟨[97], [1]⟩
    hasher := ⟨(), fun _ _ => (), fun _ => []⟩
    sha256Digest := some oneByteDigest.toList }
  readyState := 1
  platform := smoothPlatform
  root := [67]
  sink := ()
  hash := ()
  entropy := [some (Vector.replicate 16 0)]

/-- Each request is taken and its answer handed over; the chunk is read in between. -/
def smoothRun : List TransferAction :=
  [.receive true false, .deliver, .sender .sliceRead, .receive true false, .deliver,
    .receive true false, .deliver]

def smoothEnd : TransferState Unit Unit Unit :=
  (smoothTransfer.system.run smoothTransfer.start smoothRun).getD smoothTransfer.start

/-- The transfer of one byte resolves, and the byte has been stored. -/
theorem smoothEnd_agreement :
    ∃ (declared : UInt64) (digest : Bytes) (chunks : List Bytes),
      smoothEnd.sender.sent.head? = some (frameMessage (UInt8.ofNat Web.MessageType.fileBegin)
        (fileBeginPayload declared digest (Web.textEncode [97]))) ∧
      declared.toNat = smoothTransfer.options.file.size ∧ chunks.flatten = [1] ∧
      smoothEnd.loop.protocol.context.sink.2 = writtenLog declared chunks ++ [.commit .ok] ∧
      oneByteDigest.toList = digest :=
  sendFile_agreement smoothTransfer (fixedHashOps_computes oneByteDigest)
    (TransitionSystem.reachable_of_run smoothRun rfl) rfl

end PrintDrop
