/-
# One sender per bridge

A bridge is meant for one sender. The handler of a sender frees its place before it
cancels the bridge, so that between the two another sender can be let onto a bridge that
has already carried messages. In every run in which that does not happen, all messages
that enter the channel to the receiver come from one sender.
-/

import PrintDrop.Relay.Forwarding
import PrintDrop.Relay.Slots

namespace PrintDrop.Relay

open Math

universe u

variable {Hash : Type u}

/-- A sender is about to be let onto a bridge that has already carried messages to its
receiver. -/
def lateSender (s : RelayState Hash) : RelayAction → Bool
  | .attachSender id =>
    match s.server.stored id with
    | none => false
    | some (_, record) =>
      decide (s.server.now < record.expiresAt) &&
        (record.active.bind fun bridge => s.server.bridges[bridge]?).any fun bridge =>
          !bridge.sender && !bridge.toReceiver.sent.isEmpty
  | _ => false

/-- All messages that have entered a bridge's channel to the receiver are of one sender. -/
def OneSender (s : RelayState Hash) : Prop :=
  ∀ (pointer : ℕ) (bridge : RelayBridge), s.server.bridges[pointer]? = some bridge →
    ∀ first ∈ bridge.toReceiver.sent, ∀ second ∈ bridge.toReceiver.sent, first.1 = second.1

/-- The messages are of one sender, which is the one that is attached, if there is one. -/
structure OwnMessages (s : RelayState Hash) : Prop where
  own : ∀ {pointer : ℕ} {handler : Handler} {bridge : RelayBridge} {entry : ℕ × Bytes},
    s.handlers[pointer]? = some handler → handler.side = .sender → handler.phase.attached →
      s.server.bridges[handler.bridge]? = some bridge → entry ∈ bridge.toReceiver.sent →
        entry.1 = pointer
  one : OneSender s

section Steps

variable {hash : Bytes → Hash} {s t : RelayState Hash} {action : RelayAction}

/-- Only a sender that is attached sends to the receiver. -/
private theorem BridgeStep.record_sent (hslots : Slots s) {pointer : ℕ}
    {bridge bridge' : RelayBridge} (hstep : BridgeStep s t action pointer bridge bridge') :
    bridge'.toReceiver.sent = bridge.toReceiver.sent ∨
      ∃ (other : ℕ) (handler : Handler) (message : Bytes), s.handlers[other]? = some handler ∧
        handler.side = .sender ∧ handler.bridge = pointer ∧ handler.phase.attached ∧
        bridge'.toReceiver.sent = bridge.toReceiver.sent ++ [(other, message)] := by
  cases hstep with
  | same | lapsed | granted => exact .inl rfl
  | turn _ hturn =>
      refine .inl ?_
      rw [RelayBridge.toReceiver, (hturn.keeps bridge).2]
  | @serve other handler _ _ _ _ hhandler hconnected hbridge houtcome =>
      rcases houtcome.record_sent .receiver with hsame | ⟨hside, message, hreader, hmore⟩
      · exact .inl hsame
      · refine .inr ⟨other, handler, message, hhandler, ?_, hbridge, ?_, hmore⟩
        · cases hsender : handler.side with
          | receiver => simp [hsender, Side.other] at hside
          | sender => rfl
        · by_contra hleft
          obtain ⟨cause, hreturned⟩ := hslots.ended hhandler hconnected hleft
          rw [hreader] at hreturned
          cases hreturned

/-- A sender that is not late finds that nothing has been sent. -/
private theorem NewHandler.record_sent {new : Handler} (hnew : NewHandler s t action new)
    (hside : new.side = .sender) (hlate : lateSender s action = false)
    {bridge' : RelayBridge} (hbridge' : t.server.bridges[new.bridge]? = some bridge') :
    bridge'.toReceiver.sent = [] := by
  cases hnew with
  | receiver => cases hside
  | sender hstored hlive hrecord hobject hfree hobject' =>
      obtain rfl := Option.some.inj (hbridge'.symm.trans hobject')
      simpa [lateSender, hstored, hlive, hrecord, hobject, hfree] using hlate

/-- Every step that lets in no late sender keeps the messages of one sender. -/
theorem OwnMessages.step [DecidableEq Hash] (hinv : RelayInv hash s) (hslots : Slots s)
    (hs : OwnMessages s) (hlate : lateSender s action = false)
    (hstep : step hash s action = some t) : OwnMessages t := by
  have heffect := step_effect hinv hstep
  constructor
  case own =>
    intro pointer handler' bridge' entry hhandler' hside hattached hbridge' hentry
    rcases heffect.handler_step hhandler' with ⟨handler, hhandler, hturned⟩ | ⟨-, hnew⟩
    · obtain ⟨hsameSide, hsameBridge⟩ := hturned.keeps
      have hsender : handler.side = .sender := hsameSide.symm.trans hside
      have hbefore := hturned.attached hattached
      obtain ⟨_, hobject, -⟩ := hinv.handlers hhandler
      rw [hsameBridge] at hbridge'
      rcases heffect.bridge_step hbridge' with ⟨bridge, hbridge, hchanged⟩ | ⟨hnone, -⟩
      · rcases hchanged.record_sent hslots with hsame | ⟨other, sending, message, hsending, hside',
          hother, hattached', hmore⟩
        · exact hs.own hhandler hsender hbefore hbridge (hsame ▸ hentry)
        · rw [hmore, List.mem_append, List.mem_singleton] at hentry
          rcases hentry with hentry | rfl
          · exact hs.own hhandler hsender hbefore hbridge hentry
          · exact hslots.single hsending hhandler hside' hsender hattached' hbefore hother
      · rw [hnone] at hobject
        cases hobject
    · rw [hnew.record_sent hside hlate hbridge'] at hentry
      cases hentry
  case one =>
    intro pointer bridge' hbridge' first hfirst second hsecond
    rcases heffect.bridge_step hbridge' with ⟨bridge, hbridge, hchanged⟩ | ⟨-, id, rfl⟩
    · rcases hchanged.record_sent hslots with hsame | ⟨other, sending, message, hsending, hside',
        rfl, hattached, hmore⟩
      · rw [hsame] at hfirst hsecond
        exact hs.one pointer bridge hbridge first hfirst second hsecond
      · -- The sender that sends is the one that has sent before.
        have hother : ∀ entry ∈ bridge'.toReceiver.sent, entry.1 = other := by
          intro entry hentry
          rw [hmore, List.mem_append, List.mem_singleton] at hentry
          rcases hentry with hentry | rfl
          · exact hs.own hsending hside' hattached hbridge hentry
          · rfl
        exact (hother first hfirst).trans (hother second hsecond).symm
    · cases hfirst

end Steps

/-- In every run in which no sender is let onto a bridge that has carried messages to its
receiver, the messages of every bridge are of one sender. -/
theorem oneSender_of_runWithin [DecidableEq Hash] {hash : Bytes → Hash} {ttl : ℕ}
    {s : RelayState Hash}
    (hrun : (system hash ttl).RunWithin (fun s action => lateSender s action = false) s) :
    OneSender s := by
  have hstart : OwnMessages (system hash ttl).init :=
    ⟨(fun hhandler => nomatch hhandler), (fun _ _ hbridge => nomatch hbridge)⟩
  have hown : OwnMessages s := TransitionSystem.RunWithin.invariant (P := OwnMessages) hstart
    (fun prior hs hlate hstep =>
      hs.step (relayInv_of_runWithin prior) (slots_of_runWithin prior) hlate hstep) hrun
  exact hown.one

/-- A sender sends a message to the receiver. -/
def sendMessage (sender : ℕ) (message : Bytes) : List RelayAction :=
  [.serve sender (.readMessage (binaryMessage message)), .serve sender .send]

/-- A sender that is alone sends two messages. -/
def aloneActions : List RelayAction :=
  [.register [1] [2] 0, .attachReceiver [1] [2], .accept 0 true, .attachSender [1],
    .accept 1 true] ++ sendMessage 1 [7] ++ [.serve 0 .receive] ++ sendMessage 1 [8]

def alone : RelayState Bytes :=
  ((system (id : Bytes → Bytes) 5).run (system id 5).init aloneActions).getD (system id 5).init

theorem alone_oneSender : OneSender alone := by
  have hrun : (system (id : Bytes → Bytes) 5).RunWithin
      (fun s action => lateSender s action = false) alone :=
    TransitionSystem.RunWithin.runWhile .init aloneActions rfl
  exact oneSender_of_runWithin hrun

/-- Between the two deferred calls of a sender's handler another sender is let in. -/
def relayedActions : List RelayAction :=
  [.register [1] [2] 0, .attachReceiver [1] [2], .accept 0 true, .attachSender [1],
    .accept 1 true] ++ sendMessage 1 [7] ++ [.serve 0 .receive, .serve 1 (.readError .closed),
    .deferred 1, .attachSender [1], .accept 2 true] ++ sendMessage 2 [8]

def relayed : RelayState Bytes :=
  ((system (id : Bytes → Bytes) 5).run (system id 5).init relayedActions).getD (system id 5).init

/-- The receiver's channel has been used by two senders. -/
theorem relayed_not_oneSender :
    (system (id : Bytes → Bytes) 5).Reachable relayed ∧ ¬OneSender relayed := by
  refine ⟨TransitionSystem.reachable_of_run relayedActions rfl, fun hone => ?_⟩
  have hbridge : ∃ bridge : RelayBridge, relayed.server.bridges[0]? = some bridge ∧
      bridge.toReceiver.sent = [(1, [7]), (2, [8])] := ⟨_, rfl, rfl⟩
  obtain ⟨bridge, hbridge, hsent⟩ := hbridge
  have hsame := hone 0 bridge hbridge (1, [7]) (by simp [hsent]) (2, [8]) (by simp [hsent])
  cases hsame

end PrintDrop.Relay
