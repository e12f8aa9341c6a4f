/-
# A receiver's last words

When a receiver closes its connection its handler cancels the bridge, and the select of the
sender's writer may take the cancellation before a message that is still in the channel. In
every run in which the bridge is cancelled only after what the receiver sent has been
written, everything the receiver sent before a clean close is written to the sender before
the relay ends the sender's connection.
-/

import PrintDrop.Relay.Forwarding
import PrintDrop.Relay.Slots

namespace PrintDrop.Relay

open Math

universe u

variable {Hash : Type u}

namespace RelayState

variable (s : RelayState Hash) (bridge : ℕ)

/-- A handler of the bridge on this side. -/
def handlerOf (side : Side) (pointer : ℕ) : Option Handler :=
  (s.handlers[pointer]?).filter fun handler =>
    decide (handler.side = side ∧ handler.bridge = bridge)

/-- The bridge is the active one of a session that has expired. -/
def sessionLapsed : Bool :=
  s.server.records.any fun record =>
    decide (record.active = some bridge ∧ record.expiresAt ≤ s.server.now)

/-- A sender's connection fails or is closed by the sender, or its idle timeout fires. A
read that is cancelled and a write after the cancellation are the relay's own doing. -/
def senderFails : RelayAction → Bool
  | .serve pointer (.readError error) =>
    (s.handlerOf bridge .sender pointer).isSome && decide (error ≠ .cancelled)
  | .serve pointer (.write false) =>
    (s.handlerOf bridge .sender pointer).any fun handler =>
      (s.server.bridges[bridge]?).any fun object => !handler.peer.done object
  | _ => false

/-- Some of what the receiver has sent has not been written to a sender. -/
def pending : Bool :=
  ((s.server.bridges[bridge]?).any fun object => !object.toSender.buffer.isEmpty) ||
    s.handlers.any fun handler =>
      decide (handler.side = .sender ∧ handler.bridge = bridge) && handler.connected &&
        !handler.peer.writer.held.isEmpty

/-- The receiver's handler cancels the bridge after a clean close while a message is still
pending, or a sender sends what the relay does not forward. -/
def losesWords : RelayAction → Bool
  | .deferred pointer =>
    ((s.handlerOf bridge .receiver pointer).any fun handler =>
      decide (handler.phase = .serving ∧ handler.peer.reader = .returned (.error .closed))) &&
        s.pending bridge
  | .serve pointer (.readMessage message) =>
    (s.handlerOf bridge .sender pointer).isSome &&
      decide (message.type ≠ .binary ∨ maxWSMessageBytes < message.data.length)
  | _ => false

/-- The sender's connections hold, the session lasts, and nothing is cut off. -/
def undisturbed (action : RelayAction) : Bool :=
  !s.sessionLapsed bridge && !s.senderFails bridge action && !s.losesWords bridge action

end RelayState

section Conditions

variable {s : RelayState Hash} {bridge pointer : ℕ} {handler : Handler}

/-- A handler is found on its side of its bridge. -/
theorem handlerOf_eq (hhandler : s.handlers[pointer]? = some handler)
    (hbridge : handler.bridge = bridge) {side : Side} (hside : handler.side = side) :
    s.handlerOf bridge side pointer = some handler := by
  simp [RelayState.handlerOf, hhandler, hbridge, hside]

/-- What an undisturbed step is not. -/
theorem undisturbed_iff {action : RelayAction} : s.undisturbed bridge action = true ↔
    s.sessionLapsed bridge = false ∧ s.senderFails bridge action = false ∧
      s.losesWords bridge action = false := by
  simp [RelayState.undisturbed, and_assoc]

theorem not_lapsed (hlapsed : s.sessionLapsed bridge = false) : ¬s.server.Lapsed bridge := by
  rintro ⟨stored, record, hrecord, hactive, hexpired⟩
  have hlapsed' : s.sessionLapsed bridge = true :=
    List.any_eq_true.mpr ⟨record, List.mem_of_getElem? hrecord, decide_eq_true ⟨hactive, hexpired⟩⟩
  rw [hlapsed] at hlapsed'
  cases hlapsed'

/-- With nothing pending the channel to the sender is empty, and a sender's writer holds
nothing. -/
theorem not_pending (hpending : s.pending bridge = false) :
    (∀ object : RelayBridge, s.server.bridges[bridge]? = some object →
      object.toSender.buffer = []) ∧
    ∀ (sender : ℕ) (handler : Handler), s.handlers[sender]? = some handler →
      handler.side = .sender → handler.bridge = bridge → handler.connected = true →
        handler.peer.writer.held = [] := by
  obtain ⟨hchannel, hwriters⟩ := Bool.or_eq_false_iff.mp hpending
  constructor
  · intro object hobject
    simpa [hobject] using hchannel
  · intro sender handler hhandler hside hbridge hconnected
    have hwriter := List.any_eq_false.mp hwriters handler (List.mem_of_getElem? hhandler)
    simpa [hside, hbridge, hconnected] using hwriter

end Conditions

/-! ## The invariant -/

/-- Nothing has happened to the connection of a peer. -/
structure Peer.Unharmed (peer : Peer) : Prop where
  reader : ∀ cause, peer.reader ≠ .returned cause
  writer : ∀ unwritten, peer.writer ≠ .returned unwritten
  cancelled : peer.cancelled = false
  ended : peer.ended = false

/-- The life of a bridge between a receiver and one sender whose connection holds. -/
structure Orderly (pointer : ℕ) (s : RelayState Hash) : Prop where
  inactive : ∀ {bridge : RelayBridge}, s.server.bridges[pointer]? = some bridge →
    bridge.cancelled = true → ¬s.server.Active pointer
  unharmed : ∀ {bridge : RelayBridge} {sender : ℕ} {handler : Handler},
    s.server.bridges[pointer]? = some bridge → bridge.cancelled = false →
      s.handlers[sender]? = some handler → handler.side = .sender → handler.bridge = pointer →
        handler.connected = true → handler.phase = .serving ∧ handler.peer.Unharmed
  sole : ∀ {first second : ℕ} {handler handler' : Handler},
    s.handlers[first]? = some handler → s.handlers[second]? = some handler' →
      handler.side = .sender → handler'.side = .sender → handler.bridge = pointer →
        handler'.bridge = pointer → handler.phase ≠ .refused → handler'.phase ≠ .refused →
          first = second
  left : ∀ {bridge : RelayBridge} {receiver : ℕ} {handler : Handler},
    s.server.bridges[pointer]? = some bridge → bridge.cancelled = true →
      s.handlers[receiver]? = some handler → handler.side = .receiver →
        handler.bridge = pointer → ¬handler.phase.attached
  empty : ∀ {bridge : RelayBridge} {receiver : ℕ} {handler : Handler},
    s.server.bridges[pointer]? = some bridge → bridge.cancelled = true →
      s.handlers[receiver]? = some handler → handler.side = .receiver →
        handler.bridge = pointer → handler.peer.reader = .returned (.error .closed) →
          bridge.toSender.buffer = []
  idle : ∀ {bridge : RelayBridge} {receiver sender : ℕ} {handler handler' : Handler},
    s.server.bridges[pointer]? = some bridge → bridge.cancelled = true →
      s.handlers[receiver]? = some handler → handler.side = .receiver →
        handler.bridge = pointer → handler.peer.reader = .returned (.error .closed) →
          s.handlers[sender]? = some handler' → handler'.side = .sender →
            handler'.bridge = pointer → handler'.connected = true →
              handler'.peer.writer.held = []

section Steps

variable {hash : Bytes → Hash} {s t : RelayState Hash} {action : RelayAction} {pointer : ℕ}

/-- The receiver's handler has just let go of the bridge. -/
structure Cancellation (s t : RelayState Hash) (action : RelayAction) (pointer : ℕ)
    (bridge bridge' : RelayBridge) : Prop where
  bridge : bridge' = bridge.cancel
  inactive : ¬t.server.Active pointer
  receiver : ∃ (receiver : ℕ) (handler handler' : Handler),
    s.handlers[receiver]? = some handler ∧ t.handlers[receiver]? = some handler' ∧
      handler.side = .receiver ∧ handler.bridge = pointer ∧ handler'.peer = handler.peer ∧
      ¬handler'.phase.attached ∧
      (handler.phase = .accepting ∨ action = .deferred receiver ∧ handler.phase = .serving)

/-- On an orderly bridge only the receiver's handler cancels. -/
theorem Orderly.cancellation (hslots : Slots s) (hs : Orderly pointer s)
    (hlapsed : ¬s.server.Lapsed pointer) {bridge bridge' : RelayBridge}
    (hbridge : s.server.bridges[pointer]? = some bridge)
    (hstep : BridgeStep s t action pointer bridge bridge') (hlive : bridge.cancelled = false)
    (hcancelled : bridge'.cancelled = true) : Cancellation s t action pointer bridge bridge' := by
  have hkept : bridge'.cancelled ≠ bridge.cancelled := by
    rw [hlive, hcancelled]
    decide
  cases hstep with
  | same | granted => exact absurd rfl hkept
  | lapsed h => exact absurd h hlapsed
  | serve _ _ _ _ houtcome =>
      rw [houtcome.bridge_eq] at hkept
      exact absurd rfl hkept
  | @turn other handler phase _ hhandler hturn hsame hhandler' hactive =>
      cases hturn with
      | accept => exact absurd rfl hkept
      | refuse hphase =>
          have hnot : ¬HandlerPhase.refused.attached := by simp [HandlerPhase.attached]
          cases hside : handler.side with
          | sender =>
              rw [hside] at hkept
              exact absurd rfl hkept
          | receiver =>
              exact ⟨rfl, fun h => (hactive h).2 hside (.inl hphase) hnot rfl, other, handler, _,
                hhandler, hhandler', hside, hsame, rfl, hnot, .inl hphase⟩
      | leave hphase =>
          cases hside : handler.side with
          | sender =>
              rw [hside] at hkept
              exact absurd rfl hkept
          | receiver =>
              have hnot : ¬handler.side.left.attached := by
                simp [HandlerPhase.attached, hside, Side.left]
              exact ⟨rfl, fun h => (hactive h).2 hside (.inr hphase) hnot rfl, other, handler, _,
                hhandler, hhandler', hside, hsame, rfl, hnot, .inr ⟨rfl, hphase⟩⟩
      | cancel hphase =>
          -- The sender's handler is past its read loop, which is still running.
          have hside := hslots.detached hhandler hphase
          have hserving := (hs.unharmed hbridge hlive hhandler hside hsame
            (by simp [Handler.connected, hphase])).1
          rw [hphase] at hserving
          cases hserving

/-- A bridge that has been cancelled stays so. -/
theorem BridgeStep.cancelled {bridge bridge' : RelayBridge}
    (hstep : BridgeStep s t action pointer bridge bridge') (hcancelled : bridge.cancelled = true) :
    bridge'.cancelled = true := by
  cases hstep with
  | same | granted => exact hcancelled
  | lapsed => rfl
  | serve _ _ _ _ houtcome =>
      rw [houtcome.bridge_eq]
      exact hcancelled
  | @turn _ handler _ _ _ hturn =>
      cases hturn with
      | accept => exact hcancelled
      | refuse | leave =>
          cases handler.side with
          | receiver => rfl
          | sender => exact hcancelled
      | cancel => rfl

/-- Only a bridge that is made becomes active. -/
theorem Effect.active (heffect : Effect s t action) {active : ℕ}
    (hactive : t.server.Active active) :
    s.server.Active active ∨ s.server.bridges[active]? = none := by
  cases heffect with
  | table hserver => exact .inl (hserver.active hactive)
  | grantReceiver _ _ hgrant =>
      rcases hgrant hactive with hbefore | rfl
      · exact .inl hbefore
      · exact .inr (List.getElem?_eq_none (le_refl _))
  | grantSender _ _ _ _ _ _ _ hsame => exact .inl (hsame hactive)
  | turn _ _ _ _ hsame => exact .inl (hsame hactive).1
  | close _ _ hserver => exact .inl (by rw [← hserver]; exact hactive)
  | serve _ _ _ _ _ _ hsame => exact .inl (hsame hactive)

/-- A step of an unharmed peer of a live bridge. -/
theorem PeerOutcome.unharmed {party : ℕ} {peer peer' : Peer} {bridge bridge' : RelayBridge}
    {peerAction : PeerAction}
    (houtcome : PeerOutcome party .sender peer bridge peerAction peer' bridge')
    (hpeer : peer.Unharmed) (hlive : bridge.cancelled = false)
    (herror : ∀ error, peerAction = .readError error → error = .cancelled)
    (hwrite : peerAction ≠ .write false)
    (hmessage : ∀ message, peerAction = .readMessage message →
      message.type = .binary ∧ message.data.length ≤ maxWSMessageBytes) : peer'.Unharmed := by
  obtain ⟨hreader, hwriter, hcancelled, hended⟩ := hpeer
  have hdone : peer.done bridge = false := by simp [Peer.done, hlive, hcancelled]
  cases houtcome with
  | read | sent => exact ⟨(fun _ h => nomatch h), hwriter, hcancelled, hended⟩
  | invalid _ _ hinvalid =>
      obtain ⟨htype, hsize⟩ := hmessage _ rfl
      rcases hinvalid with hinvalid | hinvalid
      · exact absurd htype hinvalid
      · omega
  | readFailed _ hfails =>
      obtain rfl := herror _ rfl
      rw [Peer.canFail, hdone] at hfails
      cases hfails
  | readerDone _ h | writerDone _ h =>
      rw [hdone] at h
      cases h
  | received | wrote => exact ⟨hreader, (fun _ h => nomatch h), hcancelled, hended⟩
  | writeFailed => exact absurd rfl hwrite

/-- What the steps of a sender do while they are undisturbed. -/
theorem PeerOutcome.unharmed_of_undisturbed {sender : ℕ} {handler : Handler} {peer : Peer}
    {bridge bridge' : RelayBridge} {peerAction : PeerAction}
    (hallowed : s.undisturbed pointer (.serve sender peerAction) = true)
    (hhandler : s.handlers[sender]? = some handler) (hside : handler.side = .sender)
    (hsame : handler.bridge = pointer) (hbridge : s.server.bridges[pointer]? = some bridge)
    (houtcome : PeerOutcome sender handler.side handler.peer bridge peerAction peer bridge')
    (hpeer : handler.peer.Unharmed) (hlive : bridge.cancelled = false) : peer.Unharmed := by
  obtain ⟨-, hfails, hloses⟩ := undisturbed_iff.mp hallowed
  have hfound := handlerOf_eq hhandler hsame hside
  have hdone : handler.peer.done bridge = false := by simp [Peer.done, hlive, hpeer.cancelled]
  rw [hside] at houtcome
  refine houtcome.unharmed hpeer hlive ?_ ?_ ?_
  · rintro error rfl
    simpa [RelayState.senderFails, hfound] using hfails
  · rintro rfl
    simp [RelayState.senderFails, hfound, hbridge, hdone] at hfails
  · rintro message rfl
    simpa [RelayState.losesWords, hfound] using hloses

/-- A read loop that is over was over before, for a handler that has let go. -/
private theorem HandlerStep.reader_of_left (hslots : Slots s) {other : ℕ}
    {handler handler' : Handler} (hhandler : s.handlers[other]? = some handler)
    (hstep : HandlerStep s action other handler handler') (hleft : ¬handler.phase.attached) :
    handler'.peer.reader = handler.peer.reader := by
  cases hstep with
  | same | turn | close => rfl
  | serve _ hconnected _ houtcome =>
      obtain ⟨cause, hreader⟩ := hslots.ended hhandler hconnected hleft
      exact (houtcome.reader_returned hreader).trans hreader.symm

/-- A drained channel stays drained once the receivers have let go. -/
private theorem BridgeStep.drained (hslots : Slots s) {bridge bridge' : RelayBridge}
    (hstep : BridgeStep s t action pointer bridge bridge')
    (hleft : ∀ {receiver : ℕ} {handler : Handler}, s.handlers[receiver]? = some handler →
      handler.side = .receiver → handler.bridge = pointer → ¬handler.phase.attached)
    (hempty : bridge.toSender.buffer = []) : bridge'.toSender.buffer = [] := by
  cases hstep with
  | same | lapsed | granted => exact hempty
  | turn _ hturn =>
      rw [RelayBridge.toSender, (hturn.keeps bridge).2]
      exact hempty
  | @serve other handler _ _ _ _ hhandler hconnected hbridge houtcome =>
      generalize hparty : handler.peer = peer at houtcome
      cases hside : handler.side with
      | receiver =>
          obtain ⟨cause, hreader⟩ := hslots.ended hhandler hconnected (hleft hhandler hside hbridge)
          rw [hparty] at hreader
          rw [hside] at houtcome
          cases houtcome with
          | sent hsending =>
              rw [hreader] at hsending
              cases hsending
          | received | read | invalid | readFailed | readerDone | writerDone | wrote
          | writeFailed => exact hempty
      | sender =>
          rw [hside] at houtcome
          cases houtcome with
          | received _ hreceive =>
              obtain ⟨hbuffer, -⟩ := Channel.receive_eq_some hreceive
              rw [show (bridge.channel .sender).buffer = [] from hempty] at hbuffer
              cases hbuffer
          | sent | read | invalid | readFailed | readerDone | writerDone | wrote
          | writeFailed => exact hempty

/-- The writer of a sender stays idle when there is nothing to receive. -/
private theorem HandlerStep.idle (hslots : Slots s) {sender : ℕ} {handler handler' : Handler}
    {bridge : RelayBridge} (hhandler : s.handlers[sender]? = some handler)
    (hside : handler.side = .sender) (hbridge : s.server.bridges[handler.bridge]? = some bridge)
    (hempty : bridge.toSender.buffer = [])
    (hidle : handler.connected = true → handler.peer.writer.held = [])
    (hstep : HandlerStep s action sender handler handler') :
    handler'.peer.writer.held = [] := by
  have hheld : handler.peer.writer.held = [] := by
    cases hconnected : handler.connected with
    | true => exact hidle hconnected
    | false =>
        rw [hslots.fresh hhandler hconnected]
        rfl
  cases hstep with
  | same | turn | close => exact hheld
  | serve _ _ hsame houtcome =>
      obtain rfl := Option.some.inj (hsame.symm.trans hbridge)
      rw [hside] at houtcome
      generalize handler.peer = peer at houtcome hheld
      change Writer.held _ = []
      cases houtcome with
      | received _ hreceive =>
          obtain ⟨hbuffer, -⟩ := Channel.receive_eq_some hreceive
          rw [show (_ : RelayBridge).toSender.buffer = [] from hempty] at hbuffer
          cases hbuffer
      | wrote hwriter | writeFailed hwriter =>
          rw [hwriter] at hheld
          cases hheld
      | writerDone => rfl
      | sent | read | invalid | readFailed | readerDone => exact hheld

/-- What a receiver's handler that lets go after a clean close leaves behind is drained. -/
private theorem Cancellation.drained {bridge bridge' : RelayBridge}
    (hcancel : Cancellation s t action pointer bridge bridge') (hwired : Wired s)
    (hslots : Slots s) (hallowed : s.undisturbed pointer action = true)
    {receiver : ℕ} {handler : Handler} (hhandler : t.handlers[receiver]? = some handler)
    (hside : handler.side = .receiver) (hsame : handler.bridge = pointer)
    (hreader : handler.peer.reader = .returned (.error .closed))
    (hkept : ∃ before, s.handlers[receiver]? = some before ∧ before.side = handler.side ∧
      before.bridge = handler.bridge) :
    ∃ leaving, action = .deferred leaving ∧ s.pending pointer = false := by
  obtain ⟨leaving, before, after, hbefore, hafter, hside', hbridge', hpeer, -, hphase⟩ :=
    hcancel.receiver
  obtain ⟨old, hold, holdSide, holdBridge⟩ := hkept
  -- The receiver of the bridge is the one that lets go.
  obtain rfl := hwired.receiver hold hbefore (holdSide.trans hside) hside'
    (holdBridge.trans (hsame.trans hbridge'.symm))
  obtain rfl := Option.some.inj (hafter.symm.trans hhandler)
  rw [hpeer] at hreader
  rcases hphase with hphase | ⟨rfl, hphase⟩
  · rw [hslots.fresh hbefore (by simp [Handler.connected, hphase])] at hreader
    cases hreader
  · obtain ⟨-, -, hloses⟩ := undisturbed_iff.mp hallowed
    have hfound := handlerOf_eq hbefore hbridge' hside'
    refine ⟨receiver, rfl, ?_⟩
    simpa [RelayState.losesWords, hfound, hphase, hreader] using hloses

/-- A handler that is connected was there before. -/
private theorem Effect.connected (heffect : Effect s t action) {other : ℕ} {handler' : Handler}
    (hhandler' : t.handlers[other]? = some handler') (hconnected : handler'.connected = true) :
    ∃ handler, s.handlers[other]? = some handler ∧ HandlerStep s action other handler handler' := by
  rcases heffect.handler_step hhandler' with hbefore | ⟨-, hnew⟩
  · exact hbefore
  · cases hnew <;> cases hconnected

/-- The receiver of a bridge that was there before was there before. -/
private theorem Effect.receiver (heffect : Effect s t action) {other : ℕ} {handler' : Handler}
    {bridge : RelayBridge} (hbridge : s.server.bridges[handler'.bridge]? = some bridge)
    (hhandler' : t.handlers[other]? = some handler') (hside : handler'.side = .receiver) :
    ∃ handler, s.handlers[other]? = some handler ∧ HandlerStep s action other handler handler' := by
  rcases heffect.handler_step hhandler' with hbefore | ⟨-, hnew⟩
  · exact hbefore
  · cases hnew with
    | receiver =>
        rw [List.getElem?_eq_none (le_refl _)] at hbridge
        cases hbridge
    | sender => cases hside

/-- A sender that has a connection, or will have one, holds the place of a live bridge. -/
private theorem Orderly.attached (hs : Orderly pointer s) {bridge : RelayBridge} {sender : ℕ}
    {handler : Handler} (hbridge : s.server.bridges[pointer]? = some bridge)
    (hlive : bridge.cancelled = false) (hhandler : s.handlers[sender]? = some handler)
    (hside : handler.side = .sender) (hsame : handler.bridge = pointer)
    (hphase : handler.phase ≠ .refused) : handler.phase.attached := by
  by_cases haccepting : handler.phase = .accepting
  · exact .inl haccepting
  · have hconnected : handler.connected = true := decide_eq_true ⟨haccepting, hphase⟩
    exact .inr (hs.unharmed hbridge hlive hhandler hside hsame hconnected).1

/-- A handler that was refused stays so. -/
private theorem HandlerStep.refused {other : ℕ} {handler handler' : Handler}
    (hstep : HandlerStep s action other handler handler') (hphase : handler.phase = .refused) :
    handler'.phase = .refused := by
  cases hstep with
  | same | serve => exact hphase
  | turn hturn =>
      cases hturn with
      | refuse => rfl
      | accept h | leave h | cancel h =>
          rw [hphase] at h
          cases h
  | close _ h =>
      rw [hphase] at h
      cases h

/-- A new sender finds no other that has a connection or will have one. -/
private theorem Orderly.refused_of_newHandler (hs : Orderly pointer s) (hslots : Slots s)
    {other : ℕ} {new old : Handler} (hnew : NewHandler s t action new) (hside : new.side = .sender)
    (hsame : new.bridge = pointer) (hbefore : s.handlers[other]? = some old)
    (hside' : old.side = .sender) (hsame' : old.bridge = pointer) : old.phase = .refused := by
  by_contra hphase
  cases hnew with
  | receiver => cases hside
  | sender hstored _ hrecord hobject hfree _ =>
      obtain rfl := hsame
      have hactive : s.server.Active _ := ⟨_, _, (stored_eq_some.mp hstored).2, hrecord⟩
      have hlive : ¬_ = true := fun h => hs.inactive hobject h hactive
      have hattached := hs.attached hobject (Bool.eq_false_iff.mpr hlive) hbefore hside' hsame'
        hphase
      have htaken := hslots.taken hbefore hside' hattached (by rw [hsame']; exact hobject)
      rw [hfree] at htaken
      cases htaken

/-- A sender of a live bridge serves an unharmed peer after every undisturbed step. -/
private theorem HandlerStep.unharmed (hslots : Slots s)
    (hallowed : s.undisturbed pointer action = true) {sender : ℕ} {handler handler' : Handler}
    {bridge : RelayBridge} (hhandler : s.handlers[sender]? = some handler)
    (hside : handler.side = .sender) (hsame : handler.bridge = pointer)
    (hbridge : s.server.bridges[pointer]? = some bridge) (hlive : bridge.cancelled = false)
    (hbefore : handler.connected = true → handler.phase = .serving ∧ handler.peer.Unharmed)
    (hconnected : handler'.connected = true)
    (hstep : HandlerStep s action sender handler handler') :
    handler'.phase = .serving ∧ handler'.peer.Unharmed := by
  cases hstep with
  | same => exact hbefore hconnected
  | turn hturn =>
      cases hturn with
      | accept hphase =>
          have hpeer := hslots.fresh hhandler (by simp [Handler.connected, hphase])
          refine ⟨rfl, ?_⟩
          rw [show ({ handler with phase := .serving } : Handler).peer = .start from hpeer]
          exact ⟨by rintro _ ⟨⟩, by rintro _ ⟨⟩, rfl, rfl⟩
      | refuse => simp [Handler.connected] at hconnected
      | leave hphase hreader =>
          have hpeer := (hbefore (by simp [Handler.connected, hphase])).2
          exact absurd hreader (hpeer.reader _)
      | cancel hphase =>
          have hserving := (hbefore (by simp [Handler.connected, hphase])).1
          rw [hphase] at hserving
          cases hserving
  | close _ hphase =>
      have hserving := (hbefore (by simp [Handler.connected, hphase])).1
      rw [hphase] at hserving
      cases hserving
  | serve haction hconnected' hobject houtcome =>
      subst haction
      rw [hsame] at hobject
      obtain rfl := Option.some.inj (hobject.symm.trans hbridge)
      obtain ⟨hserving, hpeer⟩ := hbefore hconnected'
      exact ⟨hserving, houtcome.unharmed_of_undisturbed hallowed hhandler hside hsame hbridge
        hpeer hlive⟩

/-- A bridge that a step leaves cancelled was cancelled before, or its receiver has just let
go. -/
private theorem Orderly.cancelled_step (hslots : Slots s) (hs : Orderly pointer s)
    (hlapsed : ¬s.server.Lapsed pointer) (heffect : Effect s t action) {bridge' : RelayBridge}
    (hbridge' : t.server.bridges[pointer]? = some bridge')
    (hcancelled' : bridge'.cancelled = true) :
    ∃ bridge : RelayBridge, s.server.bridges[pointer]? = some bridge ∧
      BridgeStep s t action pointer bridge bridge' ∧
        (bridge.cancelled = true ∨ Cancellation s t action pointer bridge bridge') := by
  rcases heffect.bridge_step hbridge' with ⟨bridge, hbridge, hchanged⟩ | ⟨-, id, rfl⟩
  · refine ⟨bridge, hbridge, hchanged, ?_⟩
    cases hlive : bridge.cancelled with
    | true => exact .inl rfl
    | false => exact .inr (hs.cancellation hslots hlapsed hbridge hchanged hlive hcancelled')
  · cases hcancelled'

/-- A sender of a bridge that a step leaves alive serves an unharmed peer. -/
private theorem Orderly.unharmed_step (hinv : RelayInv hash s) (hslots : Slots s)
    (hs : Orderly pointer s) (hallowed : s.undisturbed pointer action = true)
    (heffect : Effect s t action) {bridge' : RelayBridge} {sender : ℕ} {handler' : Handler}
    (hbridge' : t.server.bridges[pointer]? = some bridge') (hlive' : bridge'.cancelled = false)
    (hhandler' : t.handlers[sender]? = some handler') (hside : handler'.side = .sender)
    (hsame : handler'.bridge = pointer) (hconnected : handler'.connected = true) :
    handler'.phase = .serving ∧ handler'.peer.Unharmed := by
  obtain ⟨handler, hhandler, hturned⟩ := heffect.connected hhandler' hconnected
  obtain ⟨hkeptSide, hkeptBridge⟩ := hturned.keeps
  obtain ⟨_, hobject, -⟩ := hinv.handlers hhandler
  rcases heffect.bridge_step hbridge' with ⟨bridge, hbridge, hchanged⟩ | ⟨hnone, -⟩
  · have hlive : bridge.cancelled = false := by
      by_contra hcancelled
      rw [hchanged.cancelled (Bool.of_not_eq_false hcancelled)] at hlive'
      cases hlive'
    have hsender := hkeptSide.symm.trans hside
    have hpointer := hkeptBridge.symm.trans hsame
    have hbefore := hs.unharmed hbridge hlive hhandler hsender hpointer
    exact hturned.unharmed hslots hallowed hhandler hsender hpointer hbridge hlive hbefore
      hconnected
  · rw [← hkeptBridge, hsame, hnone] at hobject
    cases hobject

/-- A step gives a bridge no second sender that was not refused. -/
private theorem Orderly.sole_step (hslots : Slots s) (hs : Orderly pointer s)
    (heffect : Effect s t action) {first second : ℕ} {handler₁ handler₂ : Handler}
    (hhandler₁ : t.handlers[first]? = some handler₁)
    (hhandler₂ : t.handlers[second]? = some handler₂) (hside₁ : handler₁.side = .sender)
    (hside₂ : handler₂.side = .sender) (hsame₁ : handler₁.bridge = pointer)
    (hsame₂ : handler₂.bridge = pointer) (hphase₁ : handler₁.phase ≠ .refused)
    (hphase₂ : handler₂.phase ≠ .refused) : first = second := by
  refine heffect.exclusive (fun handler => handler.side = .sender ∧ handler.bridge = pointer ∧
    handler.phase ≠ .refused) ?_ ?_ ?_ hhandler₁ hhandler₂ ⟨hside₁, hsame₁, hphase₁⟩
    ⟨hside₂, hsame₂, hphase₂⟩
  · rintro _ _ _ hturned ⟨hside, hsame, hphase⟩
    obtain ⟨hkeptSide, hkeptBridge⟩ := hturned.keeps
    exact ⟨hkeptSide.symm.trans hside, hkeptBridge.symm.trans hsame,
      fun hrefused => hphase (hturned.refused hrefused)⟩
  · rintro new hnew ⟨hside, hsame, -⟩ _ old hold ⟨hside', hsame', hphase⟩
    exact hphase (hs.refused_of_newHandler hslots hnew hside hsame hold hside' hsame')
  · rintro _ _ _ _ hfirst hsecond ⟨hside, hsame, hphase⟩ ⟨hside', hsame', hphase'⟩
    exact hs.sole hfirst hsecond hside hside' hsame hsame' hphase hphase'

section Receiver

variable {bridge' : RelayBridge} {receiver : ℕ} {handler' : Handler}

/-- The receiver of a bridge that a step leaves cancelled, before the step. -/
private theorem Orderly.receiver_step (hslots : Slots s) (hs : Orderly pointer s)
    (hlapsed : ¬s.server.Lapsed pointer) (heffect : Effect s t action)
    (hbridge' : t.server.bridges[pointer]? = some bridge') (hcancelled' : bridge'.cancelled = true)
    (hhandler' : t.handlers[receiver]? = some handler') (hside : handler'.side = .receiver)
    (hsame : handler'.bridge = pointer) :
    ∃ (bridge : RelayBridge) (handler : Handler), s.server.bridges[pointer]? = some bridge ∧
      s.handlers[receiver]? = some handler ∧ handler.side = .receiver ∧ handler.bridge = pointer ∧
      BridgeStep s t action pointer bridge bridge' ∧
      HandlerStep s action receiver handler handler' ∧
      (bridge.cancelled = true ∨ Cancellation s t action pointer bridge bridge') := by
  obtain ⟨bridge, hbridge, hchanged, hbefore⟩ :=
    hs.cancelled_step hslots hlapsed heffect hbridge' hcancelled'
  obtain ⟨handler, hhandler, hturned⟩ :=
    heffect.receiver (by rw [hsame]; exact hbridge) hhandler' hside
  obtain ⟨hkeptSide, hkeptBridge⟩ := hturned.keeps
  exact ⟨bridge, handler, hbridge, hhandler, hkeptSide.symm.trans hside,
    hkeptBridge.symm.trans hsame, hchanged, hturned, hbefore⟩

/-- The receiver of a bridge that a step leaves cancelled does not hold it. -/
private theorem Orderly.left_step (hwired : Wired s) (hslots : Slots s) (hs : Orderly pointer s)
    (hlapsed : ¬s.server.Lapsed pointer) (heffect : Effect s t action)
    (hbridge' : t.server.bridges[pointer]? = some bridge') (hcancelled' : bridge'.cancelled = true)
    (hhandler' : t.handlers[receiver]? = some handler') (hside : handler'.side = .receiver)
    (hsame : handler'.bridge = pointer) : ¬handler'.phase.attached := by
  intro hattached
  obtain ⟨bridge, handler, hbridge, hhandler, hreceiver, hpointer, -, hturned, hbefore⟩ :=
    hs.receiver_step hslots hlapsed heffect hbridge' hcancelled' hhandler' hside hsame
  rcases hbefore with hbefore | hcancel
  · exact hs.left hbridge hbefore hhandler hreceiver hpointer (hturned.attached hattached)
  · obtain ⟨leaving, before, after, hbefore, hafter, hside', hbridge', -, hnot, -⟩ :=
      hcancel.receiver
    obtain rfl := hwired.receiver hhandler hbefore hreceiver hside'
      (hpointer.trans hbridge'.symm)
    obtain rfl := Option.some.inj (hafter.symm.trans hhandler')
    exact hnot hattached

/-- Where the receiver of a bridge that a step leaves cancelled has closed cleanly, the relay
held nothing for the sender before the step. -/
private theorem Orderly.drained_before (hwired : Wired s) (hslots : Slots s)
    (hs : Orderly pointer s) (hallowed : s.undisturbed pointer action = true)
    (heffect : Effect s t action) (hbridge' : t.server.bridges[pointer]? = some bridge')
    (hcancelled' : bridge'.cancelled = true) (hhandler' : t.handlers[receiver]? = some handler')
    (hside : handler'.side = .receiver) (hsame : handler'.bridge = pointer)
    (hreader : handler'.peer.reader = .returned (.error .closed)) :
    ∃ bridge : RelayBridge, s.server.bridges[pointer]? = some bridge ∧
      BridgeStep s t action pointer bridge bridge' ∧
      (bridge.cancelled = true ∨ bridge' = bridge.cancel) ∧ bridge.toSender.buffer = [] ∧
      ∀ (sender : ℕ) (sending : Handler), s.handlers[sender]? = some sending →
        sending.side = .sender → sending.bridge = pointer → sending.connected = true →
          sending.peer.writer.held = [] := by
  have hlapsed := not_lapsed (undisturbed_iff.mp hallowed).1
  obtain ⟨bridge, handler, hbridge, hhandler, hreceiver, hpointer, hchanged, hturned, hbefore⟩ :=
    hs.receiver_step hslots hlapsed heffect hbridge' hcancelled' hhandler' hside hsame
  refine ⟨bridge, hbridge, hchanged, ?_⟩
  rcases hbefore with hbefore | hcancel
  · have hleft := hs.left hbridge hbefore hhandler hreceiver hpointer
    rw [hturned.reader_of_left hslots hhandler hleft] at hreader
    exact ⟨.inl hbefore, hs.empty hbridge hbefore hhandler hreceiver hpointer hreader,
      fun _ _ hsending => hs.idle hbridge hbefore hhandler hreceiver hpointer hreader hsending⟩
  · obtain ⟨-, -, hpending⟩ := hcancel.drained hwired hslots hallowed hhandler' hside hsame
      hreader ⟨handler, hhandler, hreceiver.trans hside.symm, hpointer.trans hsame.symm⟩
    obtain ⟨hempty, hidle⟩ := not_pending hpending
    exact ⟨.inr hcancel.bridge, hempty bridge hbridge, hidle⟩

end Receiver

/-- Every undisturbed step keeps a bridge orderly. -/
theorem Orderly.step [DecidableEq Hash] (hinv : RelayInv hash s) (hwired : Wired s)
    (hslots : Slots s) (hs : Orderly pointer s) (hallowed : s.undisturbed pointer action = true)
    (hstep : step hash s action = some t) : Orderly pointer t := by
  have heffect := step_effect hinv hstep
  have hlapsed := not_lapsed (undisturbed_iff.mp hallowed).1
  constructor
  case inactive =>
    intro bridge' hbridge' hcancelled' hactive
    obtain ⟨bridge, hbridge, -, hbefore | hcancel⟩ :=
      hs.cancelled_step hslots hlapsed heffect hbridge' hcancelled'
    · rcases heffect.active hactive with hactive' | hnone
      · exact hs.inactive hbridge hbefore hactive'
      · rw [hnone] at hbridge
        cases hbridge
    · exact hcancel.inactive hactive
  case unharmed => exact hs.unharmed_step hinv hslots hallowed heffect
  case sole => exact hs.sole_step hslots heffect
  case left => exact hs.left_step hwired hslots hlapsed heffect
  case empty =>
    intro bridge' receiver handler' hbridge' hcancelled' hhandler' hside hsame hreader
    obtain ⟨bridge, hbridge, hchanged, hbefore, hempty, -⟩ := hs.drained_before hwired hslots
      hallowed heffect hbridge' hcancelled' hhandler' hside hsame hreader
    rcases hbefore with hbefore | rfl
    · exact hchanged.drained hslots (hs.left hbridge hbefore) hempty
    · exact hempty
  case idle =>
    intro bridge' receiver sender handler' sending' hbridge' hcancelled' hhandler' hside hsame
      hreader hsending' hside' hsame' hconnected
    obtain ⟨bridge, hbridge, -, -, hempty, hidle⟩ := hs.drained_before hwired hslots hallowed
      heffect hbridge' hcancelled' hhandler' hside hsame hreader
    obtain ⟨sending, hsending, hturned⟩ := heffect.connected hsending' hconnected
    obtain ⟨hkeptSide, hkeptBridge⟩ := hturned.keeps
    have hsender := hkeptSide.symm.trans hside'
    have hpointer := hkeptBridge.symm.trans hsame'
    have hobject : s.server.bridges[sending.bridge]? = some bridge := by
      rw [hpointer]
      exact hbridge
    exact hturned.idle hslots hsending hsender hobject hempty
      (hidle sender sending hsending hsender hpointer)

end Steps

theorem orderly_of_runWithin [DecidableEq Hash] {hash : Bytes → Hash} {ttl pointer : ℕ}
    {s : RelayState Hash} (hrun : (system hash ttl).RunWithin
      (fun s action => s.undisturbed pointer action = true) s) : Orderly pointer s := by
  have hstart : Orderly pointer (system hash ttl).init := {
    inactive := fun hbridge => nomatch hbridge
    unharmed := fun hbridge => nomatch hbridge
    sole := fun hhandler => nomatch hhandler
    left := fun hbridge => nomatch hbridge
    empty := fun hbridge => nomatch hbridge
    idle := fun hbridge => nomatch hbridge }
  exact TransitionSystem.RunWithin.invariant (P := Orderly pointer) hstart
    (fun prior hs hallowed hstep => hs.step (relayInv_of_runWithin prior)
      (wired_of_runWithin prior) (slots_of_runWithin prior) hallowed hstep) hrun

/-- What the receiver sent before a clean close has been written to the sender once the
relay has ended the sender's connection. -/
def LastWords (pointer : ℕ) (s : RelayState Hash) : Prop :=
  ∀ (receiver sender : ℕ) (receiving sending : Handler),
    s.handlers[receiver]? = some receiving → receiving.side = .receiver →
    receiving.bridge = pointer → receiving.peer.reader = .returned (.error .closed) →
    s.handlers[sender]? = some sending → sending.side = .sender → sending.bridge = pointer →
    sending.connected = true → sending.peer.ended = true →
      sending.peer.written = receiving.peer.read

/-- In every run that is undisturbed on a bridge the receiver's last words reach the
sender. -/
theorem lastWords_of_runWithin [DecidableEq Hash] {hash : Bytes → Hash} {ttl pointer : ℕ}
    {s : RelayState Hash} (hrun : (system hash ttl).RunWithin
      (fun s action => s.undisturbed pointer action = true) s) : LastWords pointer s := by
  intro receiver sender receiving sending hreceiver hreceiving hpointer hreader hsender hsending
    hpointer' hconnected hended
  have hs := orderly_of_runWithin hrun
  have hwired := wired_of_runWithin hrun
  obtain ⟨bridge, hbridge, -⟩ := (relayInv_of_runWithin hrun).handlers hreceiver
  have hbridge' : s.server.bridges[sending.bridge]? = some bridge := by
    rw [hpointer', ← hpointer]
    exact hbridge
  have hflow := hwired.flow hreceiver hbridge
  have hflow' := hwired.flow hsender hbridge'
  rw [hpointer] at hbridge
  cases hcancelled : bridge.cancelled with
  | false =>
      have hpeer := (hs.unharmed hbridge hcancelled hsender hsending hpointer' hconnected).2
      rw [hpeer.ended] at hended
      cases hended
  | true =>
      have hempty := hs.empty hbridge hcancelled hreceiver hreceiving hpointer hreader
      have hidle := hs.idle hbridge hcancelled hreceiver hreceiving hpointer hreader hsender
        hsending hpointer' hconnected
      -- The channel to the sender has been used by these two alone.
      have hsent : ∀ entry ∈ bridge.toSender.sent, entry.1 = receiver := by
        intro entry hentry
        obtain ⟨handler, hhandler, hsame, hside, -⟩ := hwired.sent hbridge hentry
        exact hwired.receiver hhandler hreceiver hside hreceiving (hsame.trans hpointer.symm)
      have hreceived : ∀ entry ∈ bridge.toSender.received, entry.1 = sender := by
        intro entry hentry
        obtain ⟨handler, hhandler, hsame, hside, hconnected'⟩ := hwired.received hbridge hentry
        exact hs.sole hhandler hsender hside hsending hsame hpointer'
          (of_decide_eq_true hconnected').2 (of_decide_eq_true hconnected).2
      have hread := hflow.read
      have hwritten := hflow'.written
      rw [hreceiving, hreader] at hread
      rw [hsending, hidle] at hwritten
      calc sending.peer.written
          = (Channel.itemsOf sender bridge.toSender.received).map binaryMessage := by
            rw [hwritten, List.map_nil, List.append_nil]
        _ = (Channel.itemsOf receiver bridge.toSender.sent).map binaryMessage := by
            rw [Channel.itemsOf_sent hsent hreceived, hempty, List.append_nil]
        _ = receiving.peer.read := by
            rw [hread]
            exact (List.append_nil _).symm

/-- A receiver and a sender are connected. -/
def meeting : List RelayAction :=
  [.register [1] [2] 0, .attachReceiver [1] [2], .accept 0 true, .attachSender [1],
    .accept 1 true]

/-- The receiver sends a message and closes; the message is written before the bridge is
cancelled and the sender's connection ended. -/
def heardActions : List RelayAction :=
  meeting ++ [.serve 0 (.readMessage (binaryMessage [7])), .serve 0 .send, .serve 1 .receive,
    .serve 1 (.write true), .serve 0 (.readError .closed), .deferred 0,
    .serve 1 (.readError .cancelled)]

def heard : RelayState Bytes :=
  ((system (id : Bytes → Bytes) 5).run (system id 5).init heardActions).getD (system id 5).init

theorem heard_lastWords : LastWords 0 heard := by
  have hrun : (system (id : Bytes → Bytes) 5).RunWithin
      (fun s action => s.undisturbed 0 action = true) heard :=
    TransitionSystem.RunWithin.runWhile .init heardActions rfl
  exact lastWords_of_runWithin hrun

/-- The receiver sends a message and closes, the bridge is cancelled, and the sender's
writer takes the cancellation before the message. -/
def unheardActions : List RelayAction :=
  meeting ++ [.serve 0 (.readMessage (binaryMessage [7])), .serve 0 .send,
    .serve 0 (.readError .closed), .deferred 0, .serve 1 .writerDone,
    .serve 1 (.readError .cancelled)]

def unheard : RelayState Bytes :=
  ((system (id : Bytes → Bytes) 5).run (system id 5).init unheardActions).getD (system id 5).init

/-- The sender's connection has held and the session lasts, but the message is lost. -/
theorem unheard_not_lastWords :
    (system (id : Bytes → Bytes) 5).RunWithin
      (fun s action => s.sessionLapsed 0 = false ∧ s.senderFails 0 action = false) unheard ∧
    ¬LastWords 0 unheard := by
  constructor
  · exact TransitionSystem.RunWithin.runWhile .init unheardActions rfl
  · intro hlast
    have hsame := hlast 0 1 _ _ rfl rfl rfl rfl rfl rfl rfl rfl rfl
    cases hsame

end PrintDrop.Relay
