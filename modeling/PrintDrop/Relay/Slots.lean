/-
# The sender's place on a bridge

What a step does to one handler and to one bridge, and what follows for the place that a
bridge has for a sender: in every run it is taken while a sender is attached, by that
sender alone, and a handler lets go only after its read loop has returned.
-/

import PrintDrop.Relay.Effects

namespace PrintDrop.Relay

open Math

universe u

variable {Hash : Type u}

/-- What a step makes of a handler. -/
inductive HandlerStep (s : RelayState Hash) (action : RelayAction) (pointer : ℕ)
    (handler : Handler) : Handler → Prop
  | same : HandlerStep s action pointer handler handler
  | turn {phase : HandlerPhase} {change : RelayBridge → RelayBridge}
    (hturn : Turn pointer handler action phase change) :
    HandlerStep s action pointer handler { handler with phase := phase }
  | close (haction : action = .deferred pointer) (hphase : handler.phase = .released) :
    HandlerStep s action pointer handler
      { handler with phase := .returned, peer := { handler.peer with ended := true } }
  | serve {peerAction : PeerAction} {peer : Peer} {bridge bridge' : RelayBridge}
    (haction : action = .serve pointer peerAction) (hconnected : handler.connected = true)
    (hbridge : s.server.bridges[handler.bridge]? = some bridge)
    (houtcome : PeerOutcome pointer handler.side handler.peer bridge peerAction peer bridge') :
    HandlerStep s action pointer handler { handler with peer := peer }

/-- A handler that a step makes. -/
inductive NewHandler (s t : RelayState Hash) : RelayAction → Handler → Prop
  | receiver {id secret : Bytes} : NewHandler s t (.attachReceiver id secret)
    ⟨.receiver, id, s.server.bridges.length, .accepting, .start⟩
  | sender {id : Bytes} {stored bridge : ℕ} {record : SessionRecord Hash} {object : RelayBridge}
    (hstored : s.server.stored id = some (stored, record)) (hlive : s.server.now < record.expiresAt)
    (hrecord : record.active = some bridge) (hobject : s.server.bridges[bridge]? = some object)
    (hfree : object.sender = false)
    (hobject' : t.server.bridges[bridge]? = some { object with sender := true }) :
    NewHandler s t (.attachSender id) ⟨.sender, id, bridge, .accepting, .start⟩

/-- What a step makes of a bridge. -/
inductive BridgeStep (s t : RelayState Hash) (action : RelayAction) (pointer : ℕ)
    (bridge : RelayBridge) : RelayBridge → Prop
  | same : BridgeStep s t action pointer bridge bridge
  | lapsed (hlapsed : s.server.Lapsed pointer) : BridgeStep s t action pointer bridge bridge.cancel
  | granted {id : Bytes} {stored : ℕ} {record : SessionRecord Hash}
    (haction : action = .attachSender id)
    (hstored : s.server.stored id = some (stored, record)) (hrecord : record.active = some pointer)
    (hfree : bridge.sender = false) :
    BridgeStep s t action pointer bridge { bridge with sender := true }
  | turn {other : ℕ} {handler : Handler} {phase : HandlerPhase}
    {change : RelayBridge → RelayBridge} (hhandler : s.handlers[other]? = some handler)
    (hturn : Turn other handler action phase change) (hbridge : handler.bridge = pointer)
    (hhandler' : t.handlers[other]? = some { handler with phase := phase })
    (hactive : ∀ {active}, t.server.Active active → s.server.Active active ∧
      (handler.side = .receiver → handler.phase.attached → ¬phase.attached → active ≠ pointer)) :
    BridgeStep s t action pointer bridge (change bridge)
  | serve {other : ℕ} {handler : Handler} {peerAction : PeerAction} {peer : Peer}
    {bridge' : RelayBridge} (haction : action = .serve other peerAction)
    (hhandler : s.handlers[other]? = some handler) (hconnected : handler.connected = true)
    (hbridge : handler.bridge = pointer)
    (houtcome : PeerOutcome other handler.side handler.peer bridge peerAction peer bridge') :
    BridgeStep s t action pointer bridge bridge'

section Steps

variable {s t : RelayState Hash} {action : RelayAction}

/-- A handler comes from one that was there before, or has just attached itself. -/
theorem Effect.handler_step (heffect : Effect s t action) {pointer : ℕ} {handler' : Handler}
    (hhandler' : t.handlers[pointer]? = some handler') :
    (∃ handler, s.handlers[pointer]? = some handler ∧
      HandlerStep s action pointer handler handler') ∨
    pointer = s.handlers.length ∧ NewHandler s t action handler' := by
  have hmodify : ∀ {other : ℕ} {handler : Handler} {change : Handler → Handler},
      s.handlers[other]? = some handler → t.handlers = s.handlers.modify other change →
        HandlerStep s action other handler (change handler) →
        ∃ handler, s.handlers[pointer]? = some handler ∧
          HandlerStep s action pointer handler handler' := by
    intro other handler change hhandler hhandlers hchange
    rw [hhandlers] at hhandler'
    obtain ⟨before, hbefore, rfl⟩ := getElem?_modify_eq_some.mp hhandler'
    refine ⟨before, hbefore, ?_⟩
    split
    · rename_i hsame
      subst hsame
      obtain rfl := Option.some.inj (hbefore.symm.trans hhandler)
      exact hchange
    · exact .same
  cases heffect with
  | table _ hhandlers => exact .inl ⟨handler', by rw [← hhandlers]; exact hhandler', .same⟩
  | grantReceiver _ hhandlers =>
      rw [hhandlers] at hhandler'
      rcases getElem?_concat_eq_some.mp hhandler' with hbefore | ⟨hpointer, rfl⟩
      · exact .inl ⟨handler', hbefore, .same⟩
      · exact .inr ⟨hpointer, .receiver⟩
  | grantSender hstored hrecord hobject _ hfree hbridges hhandlers _ hlive =>
      rw [hhandlers] at hhandler'
      rcases getElem?_concat_eq_some.mp hhandler' with hbefore | ⟨hpointer, rfl⟩
      · exact .inl ⟨handler', hbefore, .same⟩
      · refine .inr ⟨hpointer, .sender hstored hlive hrecord hobject hfree ?_⟩
        rw [hbridges]
        exact getElem?_modify_self hobject
  | turn hhandler hturn _ hhandlers => exact .inl (hmodify hhandler hhandlers (.turn hturn))
  | close hhandler hphase _ hhandlers => exact .inl (hmodify hhandler hhandlers (.close rfl hphase))
  | serve hhandler hconnected hbridge houtcome _ hhandlers =>
      exact .inl (hmodify hhandler hhandlers (.serve rfl hconnected hbridge houtcome))

/-- Where at most one handler claims something, at most one does after a step, if no handler
starts to claim it but a new one, which finds no other. -/
theorem Effect.exclusive (heffect : Effect s t action) (Claims : Handler → Prop)
    (hkept : ∀ {pointer : ℕ} {handler handler' : Handler},
      HandlerStep s action pointer handler handler' → Claims handler' → Claims handler)
    (hnew : ∀ {new : Handler}, NewHandler s t action new → Claims new →
      ∀ {pointer : ℕ} {handler : Handler}, s.handlers[pointer]? = some handler → ¬Claims handler)
    (hbefore : ∀ {first second : ℕ} {handler handler' : Handler},
      s.handlers[first]? = some handler → s.handlers[second]? = some handler' →
        Claims handler → Claims handler' → first = second)
    {first second : ℕ} {handler handler' : Handler} (hfirst : t.handlers[first]? = some handler)
    (hsecond : t.handlers[second]? = some handler') (hclaims : Claims handler)
    (hclaims' : Claims handler') : first = second := by
  rcases heffect.handler_step hfirst with ⟨old, hold, hstep⟩ | ⟨hlength, hattaches⟩
  · rcases heffect.handler_step hsecond with ⟨old', hold', hstep'⟩ | ⟨-, hattaches'⟩
    · exact hbefore hold hold' (hkept hstep hclaims) (hkept hstep' hclaims')
    · exact absurd (hkept hstep hclaims) (hnew hattaches' hclaims' hold)
  · rcases heffect.handler_step hsecond with ⟨old', hold', hstep'⟩ | ⟨hlength', -⟩
    · exact absurd (hkept hstep' hclaims') (hnew hattaches hclaims hold')
    · exact hlength.trans hlength'.symm

/-- A bridge comes from one that was there before, or has just been made for a receiver. -/
theorem Effect.bridge_step (heffect : Effect s t action) {pointer : ℕ} {bridge' : RelayBridge}
    (hbridge' : t.server.bridges[pointer]? = some bridge') :
    (∃ bridge : RelayBridge, s.server.bridges[pointer]? = some bridge ∧
      BridgeStep s t action pointer bridge bridge') ∨
    s.server.bridges[pointer]? = none ∧ ∃ id, bridge' = ⟨false, fun _ => .empty, false, id⟩ := by
  have hmodify : ∀ {other : ℕ} {change : RelayBridge → RelayBridge},
      t.server.bridges = s.server.bridges.modify other change →
        (∀ bridge, s.server.bridges[other]? = some bridge →
          BridgeStep s t action other bridge (change bridge)) →
        ∃ bridge : RelayBridge, s.server.bridges[pointer]? = some bridge ∧
          BridgeStep s t action pointer bridge bridge' := by
    intro other change hbridges hchange
    rw [hbridges] at hbridge'
    obtain ⟨before, hbefore, rfl⟩ := getElem?_modify_eq_some.mp hbridge'
    refine ⟨before, hbefore, ?_⟩
    split
    · rename_i hsame
      subst hsame
      exact hchange before hbefore
    · exact .same
  cases heffect with
  | table hserver =>
      obtain ⟨bridge, hbridge, rfl | ⟨rfl, hlapsed⟩⟩ := hserver.earlier hbridge'
      · exact .inl ⟨_, hbridge, .same⟩
      · exact .inl ⟨_, hbridge, .lapsed hlapsed⟩
  | grantReceiver hbridges =>
      rw [hbridges] at hbridge'
      rcases getElem?_concat_eq_some.mp hbridge' with hbefore | ⟨rfl, rfl⟩
      · exact .inl ⟨_, hbefore, .same⟩
      · exact .inr ⟨List.getElem?_eq_none (le_refl _), _, rfl⟩
  | grantSender hstored hrecord hobject _ hfree hbridges =>
      refine .inl (hmodify hbridges fun bridge hbridge => ?_)
      obtain rfl := Option.some.inj (hbridge.symm.trans hobject)
      exact .granted rfl hstored hrecord hfree
  | turn hhandler hturn hbridges hhandlers hactive =>
      refine .inl (hmodify hbridges fun bridge _ => .turn hhandler hturn rfl ?_ hactive)
      rw [hhandlers]
      exact getElem?_modify_self hhandler
  | close _ _ hserver => exact .inl ⟨_, by rw [← hserver]; exact hbridge', .same⟩
  | serve hhandler hconnected hbridge houtcome hbridges =>
      refine .inl (hmodify hbridges fun bridge hobject => ?_)
      obtain rfl := Option.some.inj (hobject.symm.trans hbridge)
      exact .serve rfl hhandler hconnected rfl houtcome

end Steps

/-! ## The invariant -/

/-- A handler without a connection has not served, one lets go of its bridge only when its
read loop has returned, and a bridge's place for a sender is taken by the one sender that is
attached. -/
structure Slots (s : RelayState Hash) : Prop where
  fresh : ∀ {pointer : ℕ} {handler : Handler}, s.handlers[pointer]? = some handler →
    handler.connected = false → handler.peer = .start
  detached : ∀ {pointer : ℕ} {handler : Handler}, s.handlers[pointer]? = some handler →
    handler.phase = .detached → handler.side = .sender
  ended : ∀ {pointer : ℕ} {handler : Handler}, s.handlers[pointer]? = some handler →
    handler.connected = true → ¬handler.phase.attached →
      ∃ cause, handler.peer.reader = .returned cause
  taken : ∀ {pointer : ℕ} {handler : Handler} {bridge : RelayBridge},
    s.handlers[pointer]? = some handler → handler.side = .sender → handler.phase.attached →
      s.server.bridges[handler.bridge]? = some bridge → bridge.sender = true
  single : ∀ {first second : ℕ} {handler handler' : Handler},
    s.handlers[first]? = some handler → s.handlers[second]? = some handler' →
      handler.side = .sender → handler'.side = .sender → handler.phase.attached →
        handler'.phase.attached → handler.bridge = handler'.bridge → first = second

section Handlers

variable {s : RelayState Hash} {action : RelayAction} {pointer : ℕ} {handler handler' : Handler}

/-- A handler keeps its side and its bridge. -/
theorem HandlerStep.keeps (hhandler : HandlerStep s action pointer handler handler') :
    handler'.side = handler.side ∧ handler'.bridge = handler.bridge := by
  cases hhandler <;> exact ⟨rfl, rfl⟩

/-- No handler attaches itself again. -/
theorem HandlerStep.attached (hhandler : HandlerStep s action pointer handler handler')
    (hattached : handler'.phase.attached) : handler.phase.attached := by
  cases hhandler with
  | same | serve => exact hattached
  | turn hturn =>
      cases hturn with
      | accept hphase | refuse hphase => exact .inl hphase
      | leave hphase => exact .inr hphase
      | cancel => simp [HandlerPhase.attached] at hattached
  | close => simp [HandlerPhase.attached] at hattached

/-- A read loop that has returned does not go on. -/
theorem PeerOutcome.reader_returned {party : ℕ} {side : Side} {peer peer' : Peer}
    {bridge bridge' : RelayBridge} {peerAction : PeerAction} {cause : ReaderEnd}
    (houtcome : PeerOutcome party side peer bridge peerAction peer' bridge')
    (hreader : peer.reader = .returned cause) : peer'.reader = .returned cause := by
  cases houtcome with
  | read hreading | invalid hreading | readFailed hreading | sent hreading
  | readerDone hreading =>
      rw [hreading] at hreader
      cases hreader
  | received | writerDone | wrote | writeFailed => exact hreader

end Handlers

section Invariant

variable {hash : Bytes → Hash} {s t : RelayState Hash} {action : RelayAction}

/-- What makes the place free is that its sender lets go. -/
private theorem BridgeStep.sender {pointer : ℕ} {bridge bridge' : RelayBridge}
    (hstep : BridgeStep s t action pointer bridge bridge') (htaken : bridge.sender = true) :
    bridge'.sender = true ∨ ∃ (other : ℕ) (handler handler' : Handler),
      s.handlers[other]? = some handler ∧ t.handlers[other]? = some handler' ∧
        handler.side = .sender ∧ handler.bridge = pointer ∧ handler.phase.attached ∧
        ¬handler'.phase.attached := by
  cases hstep with
  | same | lapsed => exact .inl htaken
  | granted => exact .inl rfl
  | @turn other handler phase _ hhandler hturn hbridge hhandler' =>
      cases hturn with
      | accept | cancel => exact .inl htaken
      | refuse hphase =>
          cases hside : handler.side with
          | receiver => exact .inl htaken
          | sender =>
              exact .inr ⟨other, handler, _, hhandler, hhandler', hside, hbridge, .inl hphase,
                by simp [HandlerPhase.attached]⟩
      | leave hphase =>
          cases hside : handler.side with
          | receiver => exact .inl htaken
          | sender =>
              exact .inr ⟨other, handler, _, hhandler, hhandler', hside, hbridge, .inr hphase,
                by simp [HandlerPhase.attached, hside, Side.left]⟩
  | serve _ _ _ _ houtcome =>
      rw [houtcome.bridge_eq]
      exact .inl htaken

/-- The read loop of a handler that is on its later deferred calls has returned. -/
theorem Slots.ended_of_phase (hs : Slots s) {pointer : ℕ} {handler : Handler}
    (hhandler : s.handlers[pointer]? = some handler)
    (hphase : handler.phase = .detached ∨ handler.phase = .released) :
    ∃ cause, handler.peer.reader = .returned cause := by
  refine hs.ended hhandler ?_ ?_
  · rcases hphase with hphase | hphase <;> simp [Handler.connected, hphase]
  · rcases hphase with hphase | hphase <;> simp [HandlerPhase.attached, hphase]

section Fields

variable {handler' : Handler}

/-- A handler without a connection has a fresh peer after every step. -/
private theorem Slots.fresh_step (hs : Slots s) (heffect : Effect s t action) {pointer : ℕ}
    (hhandler' : t.handlers[pointer]? = some handler') (hconnected : handler'.connected = false) :
    handler'.peer = .start := by
  rcases heffect.handler_step hhandler' with ⟨handler, hhandler, hturned⟩ | ⟨-, hnew⟩
  · cases hturned with
    | same => exact hs.fresh hhandler hconnected
    | turn hturn =>
        cases hturn with
        | accept | cancel => simp [Handler.connected] at hconnected
        | refuse hphase =>
            have hpeer := hs.fresh hhandler (by simp [Handler.connected, hphase])
            exact hpeer
        | leave => exact absurd (decide_eq_true (Side.left_connected _)) (by
            simpa [Handler.connected] using hconnected)
    | close => simp [Handler.connected] at hconnected
    | serve _ hconnected' => exact absurd hconnected (by
        rw [Bool.not_eq_false]
        exact hconnected')
  · cases hnew <;> rfl

/-- Only senders are detached. -/
private theorem Slots.detached_step (hs : Slots s) (heffect : Effect s t action) {pointer : ℕ}
    (hhandler' : t.handlers[pointer]? = some handler') (hphase' : handler'.phase = .detached) :
    handler'.side = .sender := by
  rcases heffect.handler_step hhandler' with ⟨handler, hhandler, hturned⟩ | ⟨-, hnew⟩
  · cases hturned with
    | same => exact hs.detached hhandler hphase'
    | turn hturn =>
        cases hturn with
        | accept | refuse | cancel => cases hphase'
        | leave =>
            change handler.side = .sender
            cases hside : handler.side with
            | receiver => simp [hside, Side.left] at hphase'
            | sender => rfl
    | serve =>
        have hside := hs.detached hhandler hphase'
        exact hside
    | close => cases hphase'
  · cases hnew <;> cases hphase'

/-- A handler lets go after its read loop. -/
private theorem Slots.ended_step (hs : Slots s) (heffect : Effect s t action) {pointer : ℕ}
    (hhandler' : t.handlers[pointer]? = some handler') (hconnected : handler'.connected = true)
    (hleft : ¬handler'.phase.attached) : ∃ cause, handler'.peer.reader = .returned cause := by
  rcases heffect.handler_step hhandler' with ⟨handler, hhandler, hturned⟩ | ⟨-, hnew⟩
  · cases hturned with
    | same => exact hs.ended hhandler hconnected hleft
    | turn hturn =>
        cases hturn with
        | accept => exact absurd (.inr rfl) hleft
        | refuse => simp [Handler.connected] at hconnected
        | leave _ hreader => exact ⟨_, hreader⟩
        | cancel hphase =>
            obtain ⟨cause, hreader⟩ := hs.ended_of_phase hhandler (.inl hphase)
            exact ⟨cause, hreader⟩
    | close _ hphase =>
        obtain ⟨cause, hreader⟩ := hs.ended_of_phase hhandler (.inr hphase)
        exact ⟨cause, hreader⟩
    | serve _ hconnected _ houtcome =>
        obtain ⟨cause, hreader⟩ := hs.ended hhandler hconnected hleft
        exact ⟨cause, houtcome.reader_returned hreader⟩
  · cases hnew <;> exact absurd (.inl rfl) hleft

/-- The place of an attached sender is taken. -/
private theorem Slots.taken_step (hinv : RelayInv hash s) (hs : Slots s)
    (heffect : Effect s t action) {pointer : ℕ} {bridge' : RelayBridge}
    (hhandler' : t.handlers[pointer]? = some handler') (hside : handler'.side = .sender)
    (hattached : handler'.phase.attached)
    (hbridge' : t.server.bridges[handler'.bridge]? = some bridge') : bridge'.sender = true := by
  rcases heffect.handler_step hhandler' with ⟨handler, hhandler, hturned⟩ | ⟨-, hnew⟩
  · obtain ⟨bridge, hbridge, -⟩ := hinv.handlers hhandler
    obtain ⟨hsameSide, hsameBridge⟩ := hturned.keeps
    have hbefore := hturned.attached hattached
    have htaken := hs.taken hhandler (hsameSide.symm.trans hside) hbefore hbridge
    rw [hsameBridge] at hbridge'
    rcases heffect.bridge_step hbridge' with ⟨_, hsame, hchanged⟩ | ⟨hnone, -⟩
    · obtain rfl := Option.some.inj (hsame.symm.trans hbridge)
      rcases hchanged.sender htaken with htaken' | ⟨other, leaving, left, hleaving, hleft, hside',
        hother, hattached', hnot⟩
      · exact htaken'
      · -- The handler that lets go is this one.
        obtain rfl := hs.single hhandler hleaving (hsameSide.symm.trans hside) hside' hbefore
          hattached' hother.symm
        obtain rfl := Option.some.inj (hleft.symm.trans hhandler')
        exact absurd hattached hnot
    · rw [hnone] at hbridge
      cases hbridge
  · cases hnew with
    | receiver => cases hside
    | sender _ _ _ _ _ hobject' =>
        obtain rfl := Option.some.inj (hbridge'.symm.trans hobject')
        rfl

/-- A place is given to one sender. -/
private theorem Slots.single_step (hs : Slots s) (heffect : Effect s t action) {first second : ℕ}
    {handler₁ handler₂ : Handler} (hhandler₁ : t.handlers[first]? = some handler₁)
    (hhandler₂ : t.handlers[second]? = some handler₂) (hside₁ : handler₁.side = .sender)
    (hside₂ : handler₂.side = .sender) (hattached₁ : handler₁.phase.attached)
    (hattached₂ : handler₂.phase.attached) (hbridge : handler₁.bridge = handler₂.bridge) :
    first = second := by
  refine heffect.exclusive (fun handler => handler.side = .sender ∧ handler.phase.attached ∧
    handler.bridge = handler₁.bridge) ?_ ?_ ?_ hhandler₁ hhandler₂ ⟨hside₁, hattached₁, rfl⟩
    ⟨hside₂, hattached₂, hbridge.symm⟩
  · rintro _ _ _ hturned ⟨hside, hattached, hsame⟩
    obtain ⟨hsameSide, hsameBridge⟩ := hturned.keeps
    exact ⟨hsameSide.symm.trans hside, hturned.attached hattached, hsameBridge.symm.trans hsame⟩
  · -- A place that is given to a new sender was not taken before.
    rintro new hnew ⟨hside, -, hsame⟩ pointer old hold ⟨hside', hattached, hsame'⟩
    cases hnew with
    | receiver => cases hside
    | @sender _ _ bridge _ _ _ _ _ hobject hfree _ =>
        rw [← show old.bridge = bridge from hsame'.trans hsame.symm] at hobject
        have htaken := hs.taken hold hside' hattached hobject
        rw [hfree] at htaken
        cases htaken
  · rintro _ _ _ _ hfirst hsecond ⟨hside, hattached, hsame⟩ ⟨hside', hattached', hsame'⟩
    exact hs.single hfirst hsecond hside hside' hattached hattached' (hsame.trans hsame'.symm)

end Fields

/-- Every step keeps the places in order. -/
theorem Slots.step [DecidableEq Hash] (hinv : RelayInv hash s) (hs : Slots s)
    (hstep : step hash s action = some t) : Slots t where
  fresh := hs.fresh_step (step_effect hinv hstep)
  detached := hs.detached_step (step_effect hinv hstep)
  ended := hs.ended_step (step_effect hinv hstep)
  taken := hs.taken_step hinv (step_effect hinv hstep)
  single := hs.single_step (step_effect hinv hstep)

theorem slots_of_runWithin [DecidableEq Hash] {ttl : ℕ}
    {allowed : RelayState Hash → RelayAction → Prop}
    (hrun : (system hash ttl).RunWithin allowed s) : Slots s := by
  have hstart : Slots (system hash ttl).init := {
    fresh := fun hhandler => nomatch hhandler
    detached := fun hhandler => nomatch hhandler
    ended := fun hhandler => nomatch hhandler
    taken := fun hhandler => nomatch hhandler
    single := fun hhandler => nomatch hhandler }
  exact TransitionSystem.RunWithin.invariant (P := Slots) hstart
    (fun prior hs _ hstep => hs.step (relayInv_of_runWithin prior) hstep) hrun

end Invariant

end PrintDrop.Relay
