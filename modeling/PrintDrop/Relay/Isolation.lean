/-
# Isolation of the sessions

What the relay writes to the peers on one side of a bridge it has read from peers on the
other side, each message at most as often as it was read; the handlers on both sides are
those of one session. And a receiver is let in only with the secret that a registration of
its session has set before. So what a sender sends into a session comes to receivers alone
that have proved to know the session's secret, in every run and for any number of sessions,
handlers and registrations at once.
-/

import Mathlib.Data.List.Flatten
import PrintDrop.Relay.Pairing

namespace PrintDrop.Relay

open Math

universe u

variable {Hash : Type u}

namespace RelayState

/-- The handlers on a side of a bridge. -/
def users (s : RelayState Hash) (bridge : ℕ) (side : Side) : List ℕ :=
  (List.range s.handlers.length).filter fun pointer =>
    (s.handlers[pointer]?).any fun handler => handler.bridge = bridge ∧ handler.side = side

/-- All that has been written to the peers on a side of a bridge. -/
def writtenTo (s : RelayState Hash) (bridge : ℕ) (side : Side) : List WsMessage :=
  (s.users bridge side).flatMap fun pointer => (s.peer pointer).written

/-- All that has been read from the peers on a side of a bridge. -/
def readFrom (s : RelayState Hash) (bridge : ℕ) (side : Side) : List WsMessage :=
  (s.users bridge side).flatMap fun pointer => (s.peer pointer).read

variable {s : RelayState Hash} {bridge : ℕ} {side : Side}

theorem mem_users {pointer : ℕ} : pointer ∈ s.users bridge side ↔
    ∃ handler, s.handlers[pointer]? = some handler ∧ handler.bridge = bridge ∧
      handler.side = side := by
  simp only [users, List.mem_filter, List.mem_range, Option.any_eq_true, decide_eq_true_eq]
  constructor
  · rintro ⟨-, handler, hhandler, hfacts⟩
    exact ⟨handler, hhandler, hfacts⟩
  · rintro ⟨handler, hhandler, hfacts⟩
    exact ⟨(List.getElem?_eq_some_iff.mp hhandler).1, handler, hhandler, hfacts⟩

theorem nodup_users (s : RelayState Hash) (bridge : ℕ) (side : Side) :
    (s.users bridge side).Nodup :=
  List.nodup_range.filter _

end RelayState

section Bridge

variable {s : RelayState Hash} {bridge : ℕ} {side : Side}

/-- What has been written to a side has been received from the channel to it. -/
private theorem Wired.writtenTo (hs : Wired s) {object : RelayBridge}
    (hobject : s.server.bridges[bridge]? = some object) :
    (s.writtenTo bridge side).Subperm
      (((object.channel side).received.map Prod.snd).map binaryMessage) := by
  have hall : ∀ entry ∈ (object.channel side).received, entry.1 ∈ s.users bridge side := by
    intro entry hentry
    obtain ⟨handler, hhandler, hbridge, hside, -⟩ := hs.received hobject hentry
    exact RelayState.mem_users.mpr ⟨handler, hhandler, hbridge, hside⟩
  have hperm := Channel.flatMap_itemsOf_perm (s.nodup_users bridge side) hall
  have hsub : (s.writtenTo bridge side).Sublist ((s.users bridge side).flatMap fun pointer =>
      (Channel.itemsOf pointer (object.channel side).received).map binaryMessage) := by
    apply List.Sublist.flatMap_right
    intro pointer hpointer
    obtain ⟨handler, hhandler, rfl, rfl⟩ := RelayState.mem_users.mp hpointer
    rw [RelayState.peer_of_some hhandler, (hs.flow hhandler hobject).written]
    apply List.sublist_append_left
  rw [← List.map_flatMap] at hsub
  exact hsub.subperm.trans (hperm.map _).subperm

/-- What has been sent through the channel to a side has been read from the other side. -/
private theorem Wired.readFrom (hs : Wired s) {object : RelayBridge}
    (hobject : s.server.bridges[bridge]? = some object) :
    (((object.channel side).sent.map Prod.snd).map binaryMessage).Subperm
      (s.readFrom bridge side.other) := by
  have hother : side.other.other = side := by cases side <;> rfl
  have hall : ∀ entry ∈ (object.channel side).sent, entry.1 ∈ s.users bridge side.other := by
    intro entry hentry
    obtain ⟨handler, hhandler, hbridge, hside, -⟩ := hs.sent hobject hentry
    exact RelayState.mem_users.mpr ⟨handler, hhandler, hbridge, hside⟩
  have hperm := Channel.flatMap_itemsOf_perm (s.nodup_users bridge side.other) hall
  have hsub : ((s.users bridge side.other).flatMap fun pointer =>
      (Channel.itemsOf pointer (object.channel side).sent).map binaryMessage).Sublist
        (s.readFrom bridge side.other) := by
    apply List.Sublist.flatMap_right
    intro pointer hpointer
    obtain ⟨handler, hhandler, rfl, hside⟩ := RelayState.mem_users.mp hpointer
    rw [RelayState.peer_of_some hhandler, (hs.flow hhandler hobject).read, hside, hother]
    apply List.sublist_append_left
  rw [← List.map_flatMap] at hsub
  exact (hperm.map _).symm.subperm.trans hsub.subperm

/-- What has been written to one side of a bridge is, message for message, part of what has
been read from its other side, and all handlers of the bridge are those of one session. -/
private theorem Wired.isolated {hash : Bytes → Hash} (hs : Wired s) (hinv : RelayInv hash s)
    (bridge : ℕ) (side : Side) :
    (s.writtenTo bridge side).Subperm (s.readFrom bridge side.other) ∧
      ∃ session, ∀ (pointer : ℕ) (handler : Handler), s.handlers[pointer]? = some handler →
        handler.bridge = bridge → handler.id = session := by
  cases hobject : s.server.bridges[bridge]? with
  | some object =>
      constructor
      · have hsent : ((object.channel side).received.map Prod.snd).Sublist
            ((object.channel side).sent.map Prod.snd) := by
          rw [(object.channel side).inOrder]
          apply List.sublist_append_left
        exact (hs.writtenTo hobject).trans
          ((hsent.map binaryMessage).subperm.trans (hs.readFrom hobject))
      · refine ⟨object.session, fun pointer handler hhandler hbridge => ?_⟩
        obtain ⟨_, hsame, hsession⟩ := hinv.handlers hhandler
        rw [hbridge] at hsame
        rw [← hsession, Option.some.inj (hobject.symm.trans hsame)]
  | none =>
      -- No handler refers to a bridge that has not been made.
      have hnone : ∀ (pointer : ℕ) (handler : Handler), s.handlers[pointer]? = some handler →
          handler.bridge ≠ bridge := by
        rintro pointer handler hhandler rfl
        obtain ⟨_, hsome, -⟩ := hinv.handlers hhandler
        rw [hobject] at hsome
        cases hsome
      have husers : s.users bridge side = [] := by
        apply List.eq_nil_iff_forall_not_mem.mpr
        intro pointer hpointer
        obtain ⟨handler, hhandler, hbridge, -⟩ := RelayState.mem_users.mp hpointer
        exact hnone pointer handler hhandler hbridge
      refine ⟨?_, [], fun pointer handler hhandler hbridge => ?_⟩
      · rw [RelayState.writtenTo, husers]
        exact List.nil_subperm
      · exact absurd hbridge (hnone pointer handler hhandler)

end Bridge

variable [DecidableEq Hash] {hash : Bytes → Hash}

/-- **Isolation.** In every run, what has been written to one side of a bridge is, message for
message, part of what has been read from its other side, however many handlers have used
it, and all of these are handlers of one session. -/
theorem isolation_of_reachable {ttl : ℕ} {s : RelayState Hash}
    (hreachable : (system hash ttl).Reachable s) (bridge : ℕ) (side : Side) :
    (s.writtenTo bridge side).Subperm (s.readFrom bridge side.other) ∧
      ∃ session, ∀ (pointer : ℕ) (handler : Handler), s.handlers[pointer]? = some handler →
        handler.bridge = bridge → handler.id = session :=
  (wired_of_runWithin hreachable).isolated (relayInv_of_runWithin hreachable) bridge side

/-- After the exchange one message of two has been written to the receiver. -/
theorem exchanged_isolation :
    (exchanged.writtenTo 0 .receiver).Subperm (exchanged.readFrom 0 .sender) ∧
      ∃ session, ∀ (pointer : ℕ) (handler : Handler),
        exchanged.handlers[pointer]? = some handler → handler.bridge = 0 →
          handler.id = session :=
  isolation_of_reachable (TransitionSystem.reachable_getD_run exchange) 0 .receiver

/-! ## Secrets -/

/-- In the run of these actions the registration was a new one, and its record is stored at
this place: its step, after the actions before it, was answered so. -/
def Created (hash : Bytes → Hash) (ttl : ℕ) (actions : List RelayAction) (stored : ℕ)
    (registration : Registration) : Prop :=
  ∃ (before after : List RelayAction) (s : RelayState Hash) (server : RelayServer Hash),
    actions = before ++
        .register registration.id registration.secret registration.reading :: after ∧
      (system hash ttl).run (system hash ttl).init before = some s ∧
      s.server.register hash registration.id registration.secret registration.reading =
        (.ok (stored, true), server)

/-- In the run of these actions the handler was let in as a receiver: the step that made it,
after the actions before it, was granted its bridge, with a secret of the same hash as that of
the registration that had created the record stored for its session then. -/
def LetIn (hash : Bytes → Hash) (ttl : ℕ) (actions : List RelayAction) (pointer : ℕ)
    (handler : Handler) : Prop :=
  ∃ (before after : List RelayAction) (secret : Bytes) (s : RelayState Hash)
    (server : RelayServer Hash) (stored : ℕ) (registration : Registration),
    actions = before ++ .attachReceiver handler.id secret :: after ∧
      (system hash ttl).run (system hash ttl).init before = some s ∧
      s.handlers.length = pointer ∧
      s.server.attachReceiver hash handler.id secret = (.ok handler.bridge, server) ∧
      s.server.sessions handler.id = some stored ∧
      Created hash ttl before stored registration ∧ registration.id = handler.id ∧
      hash secret = hash registration.secret

theorem Created.append {ttl : ℕ} {actions : List RelayAction} {stored : ℕ}
    {registration : Registration} (hcreated : Created hash ttl actions stored registration)
    (more : List RelayAction) : Created hash ttl (actions ++ more) stored registration := by
  obtain ⟨before, after, s, server, rfl, hrest⟩ := hcreated
  exact ⟨before, after ++ more, s, server, by simp, hrest⟩

theorem LetIn.append {ttl : ℕ} {actions : List RelayAction} {pointer : ℕ} {handler : Handler}
    (hletIn : LetIn hash ttl actions pointer handler) (more : List RelayAction) :
    LetIn hash ttl (actions ++ more) pointer handler := by
  obtain ⟨before, after, secret, s, server, stored, registration, rfl, hrest⟩ := hletIn
  exact ⟨before, after ++ more, secret, s, server, stored, registration, by simp, hrest⟩

/-- The registrations of the table have created its records, and its receivers were let in. -/
private structure Admitted (hash : Bytes → Hash) (ttl : ℕ) (actions : List RelayAction)
    (s : RelayState Hash) : Prop where
  registered : ∀ {stored : ℕ} {registration : Registration},
    s.server.registrations[stored]? = some registration →
      Created hash ttl actions stored registration
  receiver : ∀ {pointer : ℕ} {handler : Handler}, s.handlers[pointer]? = some handler →
    handler.side = .receiver → LetIn hash ttl actions pointer handler

omit [DecidableEq Hash] in
@[simp]
theorem detach_registrations (s : RelayState Hash) (handler : Handler) :
    (s.detach handler).server.registrations = s.server.registrations := by
  obtain ⟨_, _, hdetach⟩ := detach_eq s handler
  rw [hdetach]

omit [DecidableEq Hash] in
@[simp]
theorem expire_registrations (s : RelayServer Hash) (id : Bytes) (pointer : ℕ) :
    (s.expire id pointer).registrations = s.registrations := by
  have houtcome := expire_outcome s id pointer
  generalize s.expire id pointer = t at houtcome ⊢
  cases houtcome <;> rfl

/-- A registration that a step leaves: one of before, or the step's own, which is a new one. -/
private theorem registrations_step {s t : RelayState Hash} {action : RelayAction}
    (hinv : RelayInv hash s) (hstep : step hash s action = some t) {stored : ℕ}
    {registration : Registration}
    (hregistration : t.server.registrations[stored]? = some registration) :
    s.server.registrations[stored]? = some registration ∨
      action = .register registration.id registration.secret registration.reading ∧
        ∃ server, s.server.register hash registration.id registration.secret
          registration.reading = (.ok (stored, true), server) := by
  cases step_cases hstep with
  | tick | accept | serve | cancel | close | timerFires => exact .inl hregistration
  | @register id secret reading hreading =>
      have hcounted := hinv.table.records.counted
      cases hregistered : s.server.register hash id secret reading with
      | mk result server =>
          have houtcome := register_outcome hash s.server id secret reading
          rw [hregistered] at houtcome hregistration
          cases houtcome with
          | created | replaced =>
              rcases getElem?_concat_eq_some.mp hregistration with hbefore | ⟨rfl, rfl⟩
              · exact .inl hbefore
              · rw [← hcounted] at hregistered
                exact .inr ⟨rfl, _, hregistered⟩
          | repeated | conflict => exact .inl hregistration
  | attachReceiver id secret =>
      have houtcome := attachReceiver_outcome hash s.server id secret
      generalize s.server.attachReceiver hash id secret = attached at houtcome hregistration
      cases houtcome <;> exact .inl hregistration
  | attachSender id =>
      have houtcome := attachSender_outcome s.server id
      generalize s.server.attachSender id = attached at houtcome hregistration
      cases houtcome <;> exact .inl hregistration
  | refuse | leave =>
      rw [RelayState.setPhase, detach_registrations] at hregistration
      exact .inl hregistration
  | expire =>
      rw [expire_registrations] at hregistration
      exact .inl hregistration

/-- A receiver that is granted a bridge has the secret of its session's registration. -/
private theorem attached_registration {s : RelayState Hash} (hinv : RelayInv hash s)
    {id secret : Bytes} {bridge : ℕ} {server : RelayServer Hash}
    (hattached : s.server.attachReceiver hash id secret = (.ok bridge, server)) :
    ∃ stored registration, s.server.sessions id = some stored ∧
      s.server.registrations[stored]? = some registration ∧ registration.id = id ∧
      hash secret = hash registration.secret := by
  have houtcome := attachReceiver_outcome hash s.server id secret
  rw [hattached] at houtcome
  cases houtcome with
  | granted hpointer hrecord _ hsecret =>
      obtain ⟨registration, hregistration, hid, hhash, -⟩ :=
        hinv.table.records.registration hpointer hrecord
      exact ⟨_, registration, hpointer, hregistration, hid, hsecret.symm.trans hhash⟩

/-- A step that makes a receiver's handler has been granted its bridge. -/
private theorem granted_of_new {s t : RelayState Hash} {id secret : Bytes} {handler : Handler}
    (hstep : step hash s (.attachReceiver id secret) = some t)
    (hhandler : t.handlers[s.handlers.length]? = some handler) :
    ∃ server, s.server.attachReceiver hash id secret = (.ok handler.bridge, server) := by
  obtain rfl := Option.some.inj hstep
  cases hattached : s.server.attachReceiver hash id secret with
  | mk result server =>
      rw [hattached] at hhandler
      cases result with
      | ok bridge =>
          obtain rfl := Option.some.inj (List.getElem?_concat_length.symm.trans hhandler)
          exact ⟨server, rfl⟩
      | error error =>
          rw [RelayState.attached, List.getElem?_eq_none (le_refl _)] at hhandler
          cases hhandler

private theorem Admitted.step {ttl : ℕ} {actions : List RelayAction} {s t : RelayState Hash}
    {action : RelayAction} (hrun : (system hash ttl).run (system hash ttl).init actions = some s)
    (hs : Admitted hash ttl actions s) (hstep : step hash s action = some t) :
    Admitted hash ttl (actions ++ [action]) t := by
  have hinv := relayInv_of_runWithin (TransitionSystem.reachable_of_run actions hrun)
  constructor
  case registered =>
    intro stored registration hregistration
    rcases registrations_step hinv hstep hregistration with hbefore | ⟨rfl, server, hregistered⟩
    · exact (hs.registered hbefore).append _
    · exact ⟨actions, [], s, server, rfl, hrun, hregistered⟩
  case receiver =>
    intro pointer handler' hhandler' hside
    have heffect := step_effect hinv hstep
    rcases heffect.handler_step hhandler' with ⟨handler, hhandler, hturned⟩ | ⟨rfl, hnew⟩
    · have hletIn := hs.receiver hhandler (hturned.keeps.1.symm.trans hside)
      have hsame : handler'.id = handler.id ∧ handler'.bridge = handler.bridge := by
        cases hturned <;> exact ⟨rfl, rfl⟩
      unfold LetIn at hletIn ⊢
      rw [hsame.1, hsame.2]
      exact LetIn.append hletIn _
    · cases hnew with
      | sender => cases hside
      | @receiver id secret =>
          obtain ⟨server, hattached⟩ := granted_of_new hstep hhandler'
          obtain ⟨stored, registration, hstored, hregistration, hid, hhash⟩ :=
            attached_registration hinv hattached
          exact ⟨actions, [], secret, s, server, stored, registration, rfl, hrun, rfl, hattached,
            hstored, hs.registered hregistration, hid, hhash⟩

/-- **Confidentiality.** In every run, a message that has been written to a receiver was
read from a sender of the same session, and the receiver was let in: the request that made
its handler had the secret of the registration that had created its session's record. -/
theorem confidential_of_run {ttl : ℕ} {actions : List RelayAction} {s : RelayState Hash}
    (hrun : (system hash ttl).run (system hash ttl).init actions = some s) {pointer : ℕ}
    {handler : Handler} (hhandler : s.handlers[pointer]? = some handler)
    (hside : handler.side = .receiver) :
    LetIn hash ttl actions pointer handler ∧
      ∀ message ∈ handler.peer.written, ∃ (source : ℕ) (sending : Handler),
        s.handlers[source]? = some sending ∧ sending.side = .sender ∧
          sending.id = handler.id ∧ message ∈ sending.peer.read := by
  have hreachable := TransitionSystem.reachable_of_run actions hrun
  constructor
  · have hstart : Admitted hash ttl [] (system hash ttl).init := {
      registered := fun hnone => nomatch hnone
      receiver := fun hnone => nomatch hnone }
    have hadmitted := TransitionSystem.run_invariant (P := Admitted hash ttl) hstart
      (fun hprior hs hstep => hs.step hprior hstep) actions hrun
    exact hadmitted.receiver hhandler hside
  · intro message hmessage
    obtain ⟨hsub, session, hsession⟩ :=
      (wired_of_runWithin hreachable).isolated (relayInv_of_runWithin hreachable) handler.bridge
        .receiver
    have hwritten : message ∈ s.writtenTo handler.bridge .receiver := by
      apply List.mem_flatMap.mpr
      refine ⟨pointer, RelayState.mem_users.mpr ⟨handler, hhandler, rfl, hside⟩, ?_⟩
      rw [RelayState.peer_of_some hhandler]
      exact hmessage
    obtain ⟨source, hsource, hread⟩ := List.mem_flatMap.mp (hsub.subset hwritten)
    obtain ⟨sending, hsending, hbridge, hsending'⟩ := RelayState.mem_users.mp hsource
    rw [RelayState.peer_of_some hsending] at hread
    refine ⟨source, sending, hsending, hsending', ?_, hread⟩
    rw [hsession source sending hsending hbridge, hsession pointer handler hhandler rfl]

/-- The receiver of the exchange had the secret its session was registered with, and was
written the sender's first message. -/
theorem exchanged_confidential : ∃ handler, exchanged.handlers[0]? = some handler ∧
    LetIn (id : Bytes → Bytes) 5 exchange 0 handler ∧
      ∀ message ∈ handler.peer.written, ∃ (source : ℕ) (sending : Handler),
        exchanged.handlers[source]? = some sending ∧ sending.side = .sender ∧
          sending.id = handler.id ∧ message ∈ sending.peer.read := by
  have hrun : (system (id : Bytes → Bytes) 5).run (system id 5).init exchange =
      some exchanged := rfl
  have hreceiver : (exchanged.handlers[0]?).isSome := rfl
  have hhandler := (Option.some_get hreceiver).symm
  exact ⟨_, hhandler, confidential_of_run hrun hhandler rfl⟩

end PrintDrop.Relay
