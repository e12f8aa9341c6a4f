/-
# A session of one's own

An identifier that nobody else names. Whatever other requests and the relay itself do in
between, the identifier is free until its session is registered, the session waits for its
receiver until it expires, and the bridge of the receiver for a sender.
-/

import PrintDrop.Relay.FrontDoor
import PrintDrop.Relay.SessionTable

namespace PrintDrop.Relay

open Math

universe u

variable {Hash : Type u}

/-- The action comes with the identifier of a session. -/
def RelayAction.Names (id : Bytes) : RelayAction → Prop
  | .register other _ _ | .attachReceiver other _ | .attachSender other => other = id
  | _ => False

/-- The request is one about the session. -/
def FrontAction.Names (id : Bytes) : FrontAction → Prop
  | .request r _ => decodeRegisterSession r.body = some id ∨
      pathSessionId r.path receiverRoute = some id ∨ pathSessionId r.path senderRoute = some id
  | .accept _ _ | .relay _ => False

instance (id : Bytes) : (action : FrontAction) → Decidable (action.Names id)
  | .request _ _ => inferInstanceAs (Decidable (_ ∨ _ ∨ _))
  | .accept _ _ | .relay _ => inferInstanceAs (Decidable False)

/-- The action answers the request of a handler. -/
def FrontAction.answers (pointer : ℕ) : FrontAction → Bool
  | .accept other _ => other == pointer
  | _ => false

def RelayAction.elapsed : RelayAction → ℕ
  | .tick elapsed => elapsed
  | _ => 0

def FrontAction.elapsed : FrontAction → ℕ
  | .relay action => action.elapsed
  | .request _ _ | .accept _ _ => 0

section Sessions

variable [DecidableEq Hash] {hash : Bytes → Hash} {s t : RelayState Hash} {action : RelayAction}

/-- Only a registration stores a session. -/
theorem sessions_of_step {id : Bytes} (hother : ¬action.Names id)
    (hstep : step hash s action = some t) {pointer : ℕ}
    (hpointer : t.server.sessions id = some pointer) : s.server.sessions id = some pointer := by
  cases hregisters : action.registers with
  | false => exact (windsDown_step hregisters hstep).1.sessions hpointer
  | true =>
      cases action with
      | register other secret reading =>
          have hne : id ≠ other := Ne.symm hother
          cases step_cases hstep with
          | register =>
              have houtcome := register_outcome hash s.server other secret reading
              generalize s.server.register hash other secret reading = registered
                at houtcome hpointer
              cases houtcome with
              | created =>
                  rcases sessions_create.mp hpointer with ⟨hsame, -⟩ | ⟨-, hbefore⟩
                  · exact absurd hsame hne
                  · exact hbefore
              | replaced =>
                  rcases sessions_create.mp hpointer with ⟨hsame, -⟩ | ⟨-, hafter⟩
                  · exact absurd hsame hne
                  · exact (sessions_expireLocked.mp hafter).2
              | repeated | conflict => exact hpointer
      | _ => cases hregisters

/-- Time passes by ticks only. -/
theorem now_of_step (hstep : step hash s action = some t) :
    t.server.now = s.server.now + action.elapsed := by
  have hdetach : ∀ handler, (s.detach handler).server.now = s.server.now := by
    intro handler
    obtain ⟨_, _, hdetach⟩ := detach_eq s handler
    rw [hdetach]
  cases step_cases hstep with
  | tick | accept | serve | cancel | close | timerFires => rfl
  | @register other secret reading =>
      have houtcome := register_outcome hash s.server other secret reading
      generalize s.server.register hash other secret reading = registered at houtcome
      cases houtcome <;> rfl
  | attachReceiver other secret =>
      have houtcome := attachReceiver_outcome hash s.server other secret
      generalize s.server.attachReceiver hash other secret = attached at houtcome
      cases houtcome <;> rfl
  | attachSender other =>
      have houtcome := attachSender_outcome s.server other
      generalize s.server.attachSender other = attached at houtcome
      cases houtcome <;> rfl
  | refuse | leave => exact hdetach _
  | @expire timed record =>
      have houtcome := expire_outcome (s.server.setTimer timed .done) record.timer.id timed
      generalize (s.server.setTimer timed .done).expire record.timer.id timed = expired at houtcome
      cases houtcome <;> rfl

end Sessions

/-- No bridge has been made for the session. -/
def NoBridge (s : RelayServer Hash) (id : Bytes) : Prop :=
  ∀ (pointer : ℕ) (bridge : RelayBridge), s.bridges[pointer]? = some bridge → bridge.session ≠ id

/-- The identifier is free. -/
structure Unused (s : RelayServer Hash) (id : Bytes) : Prop where
  stored : s.sessions id = none
  bridges : NoBridge s id

theorem newRelayServer_unused (ttl : ℕ) (id : Bytes) :
    Unused (RelayServer.newRelayServer ttl : RelayServer Hash) id where
  stored := rfl
  bridges pointer bridge hbridge := by simp [RelayServer.newRelayServer] at hbridge

section Steps

variable {hash : Bytes → Hash} {s t : RelayState Hash} {action : RelayAction} {id : Bytes}

/-- A bridge is made for the session that its receiver names. -/
theorem NoBridge.effect (hs : NoBridge s.server id) (hother : ¬action.Names id)
    (heffect : Effect s t action) : NoBridge t.server id := by
  intro pointer bridge' hbridge'
  have hlater : ∀ {bridge : RelayBridge}, s.server.bridges[pointer]? = some bridge →
      bridge'.session ≠ id := by
    intro bridge hbridge
    obtain ⟨_, hsame, hsession⟩ := heffect.bridge hbridge
    obtain rfl := Option.some.inj (hsame.symm.trans hbridge')
    rw [hsession]
    exact hs _ _ hbridge
  cases heffect with
  | table hserver =>
      obtain ⟨bridge, hbridge, -⟩ := hserver.earlier hbridge'
      exact hlater hbridge
  | grantReceiver hbridges =>
      rw [hbridges] at hbridge'
      rcases getElem?_concat_eq_some.mp hbridge' with hbridge | ⟨-, rfl⟩
      · exact hlater hbridge
      · exact hother
  | grantSender _ _ _ _ _ hbridges | turn _ _ hbridges | serve _ _ _ _ hbridges =>
      rw [hbridges] at hbridge'
      obtain ⟨bridge, hbridge, -⟩ := getElem?_modify_eq_some.mp hbridge'
      exact hlater hbridge
  | close _ _ hserver =>
      rw [hserver] at hbridge'
      exact hlater hbridge'

variable [DecidableEq Hash]

theorem Unused.step (hs : Unused s.server id) (hinv : RelayInv hash s) (hother : ¬action.Names id)
    (hstep : Relay.step hash s action = some t) : Unused t.server id where
  stored := by
    by_contra hsome
    obtain ⟨pointer, hpointer⟩ := Option.ne_none_iff_exists'.mp hsome
    have hbefore := sessions_of_step hother hstep hpointer
    rw [hs.stored] at hbefore
    cases hbefore
  bridges := hs.bridges.effect hother (step_effect hinv hstep)

/-- The session is stored with the secret, and expires then. -/
structure Kept (hash : Bytes → Hash) (s : RelayServer Hash) (id secret : Bytes) (expiresAt : ℕ) :
    Prop where
  stored : ∃ (pointer : ℕ) (record : SessionRecord Hash), s.sessions id = some pointer ∧
    s.records[pointer]? = some record ∧ record.secretHash = hash secret ∧
      record.expiresAt = expiresAt

variable {secret : Bytes} {expiresAt : ℕ}

/-- Whatever happens, the session is kept until it expires. -/
theorem Kept.step (hs : Kept hash s.server id secret expiresAt) (hinv : RelayInv hash s)
    (hstep : Relay.step hash s action = some t) (hlive : t.server.now < expiresAt) :
    Kept hash t.server id secret expiresAt where
  stored := by
    obtain ⟨pointer, record, hpointer, hrecord, hsecret, rfl⟩ := hs.stored
    obtain ⟨registration, hregistration, -⟩ := hinv.table.records.registered hrecord
    obtain ⟨hpointer', ⟨record', hrecord', hsecret', hexpires'⟩, -⟩ :=
      (retains_step hinv hstep).retains hpointer hrecord hregistration hlive
    exact ⟨pointer, record', hpointer', hrecord', hsecret'.trans hsecret, hexpires'⟩

/-- A session that waits for its receiver. -/
structure Awaits (hash : Bytes → Hash) (s : RelayServer Hash) (id secret : Bytes) (expiresAt : ℕ) :
    Prop where
  kept : Kept hash s id secret expiresAt
  bridges : NoBridge s id

theorem Awaits.step (hs : Awaits hash s.server id secret expiresAt) (hinv : RelayInv hash s)
    (hother : ¬action.Names id) (hstep : Relay.step hash s action = some t)
    (hlive : t.server.now < expiresAt) : Awaits hash t.server id secret expiresAt where
  kept := hs.kept.step hinv hstep hlive
  bridges := hs.bridges.effect hother (step_effect hinv hstep)

/-- A session whose receiver has this bridge, which no sender has been given. -/
structure Offers (hash : Bytes → Hash) (s : RelayServer Hash) (id secret : Bytes) (expiresAt : ℕ)
    (pointer : ℕ) : Prop where
  kept : Kept hash s id secret expiresAt
  bridge : ∃ bridge : RelayBridge, s.bridges[pointer]? = some bridge ∧ bridge.session = id ∧
    bridge.sender = false

omit [DecidableEq Hash] in
/-- Only a sender that names the session is given its bridge. -/
private theorem BridgeStep.free {pointer : ℕ} {bridge bridge' : RelayBridge}
    (hinv : RelayInv hash s) (hother : ¬action.Names bridge.session)
    (hbridge : s.server.bridges[pointer]? = some bridge)
    (hstep : BridgeStep s t action pointer bridge bridge') (hfree : bridge.sender = false) :
    bridge'.sender = false := by
  cases hstep with
  | same | lapsed => exact hfree
  | @granted named stored record haction hstored hactive =>
      obtain ⟨hpointer, hrecord⟩ := stored_eq_some.mp hstored
      rw [haction, hinv.table.session_of_active hpointer hrecord hactive hbridge] at hother
      exact absurd rfl hother
  | turn _ hturn =>
      cases hturn with
      | accept | cancel => exact hfree
      | refuse | leave => cases Handler.side _ <;> first | exact hfree | rfl
  | serve _ _ _ _ houtcome =>
      rw [houtcome.bridge_eq]
      exact hfree

theorem Offers.step {pointer : ℕ} (hs : Offers hash s.server id secret expiresAt pointer)
    (hinv : RelayInv hash s) (hother : ¬action.Names id)
    (hstep : Relay.step hash s action = some t) (hlive : t.server.now < expiresAt) :
    Offers hash t.server id secret expiresAt pointer where
  kept := hs.kept.step hinv hstep hlive
  bridge := by
    have heffect := step_effect hinv hstep
    obtain ⟨bridge, hbridge, hsession, hfree⟩ := hs.bridge
    obtain ⟨bridge', hbridge', hsession'⟩ := heffect.bridge hbridge
    refine ⟨bridge', hbridge', hsession'.trans hsession, ?_⟩
    rcases heffect.bridge_step hbridge' with ⟨_, hsame, hchanged⟩ | ⟨hnone, -⟩
    · obtain rfl := Option.some.inj (hsame.symm.trans hbridge)
      rw [← hsession] at hother
      exact hchanged.free hinv hother hbridge hfree
    · rw [hbridge] at hnone
      cases hnone

/-- A free identifier is registered. -/
theorem Unused.register (hs : Unused s.server id) (secret : Bytes) (reading : ℕ) :
    ∃ server, s.server.register hash id secret reading =
        (.ok (s.server.records.length, true), server) ∧ server.now = s.server.now ∧
      registerResponse id (s.server.register hash id secret reading) =
        .registered 201 id (reading + s.server.ttl) ∧
      Awaits hash server id secret (reading + s.server.ttl) := by
  have hstored : s.server.stored id = none := by rw [RelayServer.stored, hs.stored]; rfl
  have hregister : s.server.register hash id secret reading =
      (.ok (s.server.records.length, true), s.server.create hash id secret reading) := by
    rw [RelayServer.register, hstored]
  have hrecord : (s.server.create hash id secret reading).records[s.server.records.length]? =
      some ⟨hash secret, reading + s.server.ttl, ⟨id, s.server.now + s.server.ttl, .armed⟩, none⟩ :=
    List.getElem?_concat_length
  refine ⟨_, hregister, rfl, ?_, ⟨⟨_, _, ?_, hrecord, rfl, rfl⟩, hs.bridges⟩⟩
  · rw [hregister, registerResponse, hrecord]
    rfl
  · simp [RelayServer.create]

/-- The receiver is attached. -/
theorem Awaits.attachReceiver (hs : Awaits hash s.server id secret expiresAt)
    (hinv : RelayInv hash s) (hlive : s.server.now < expiresAt) :
    ∃ server, s.server.attachReceiver hash id secret = (.ok s.server.bridges.length, server) ∧
      server.now = s.server.now ∧
      Offers hash server id secret expiresAt s.server.bridges.length := by
  obtain ⟨pointer, record, hpointer, hrecord, hsecret, rfl⟩ := hs.kept.stored
  have hactive : record.active = none := by
    by_contra hsome
    obtain ⟨active, hactive⟩ := Option.ne_none_iff_exists'.mp hsome
    obtain ⟨-, object, hobject, -⟩ := hinv.table.active hrecord hactive
    exact hs.bridges _ _ hobject
      (hinv.table.session_of_active hpointer hrecord hactive hobject)
  have hattached : s.server.attachReceiver hash id secret = (.ok s.server.bridges.length,
      { s.server with
        records := s.server.records.modify pointer fun record =>
          { record with active := some s.server.bridges.length }
        bridges := s.server.bridges ++ [⟨false, fun _ => .empty, false, id⟩] }) := by
    rw [RelayServer.attachReceiver, stored_eq_some.mpr ⟨hpointer, hrecord⟩]
    dsimp only
    rw [if_neg (not_le.mpr hlive), if_neg (not_not.mpr hsecret), if_neg (not_not.mpr hactive)]
  refine ⟨_, hattached, rfl, ?_, ?_⟩
  · exact ⟨⟨pointer, _, hpointer, getElem?_modify_self hrecord, hsecret, rfl⟩⟩
  · exact ⟨_, List.getElem?_concat_length, rfl, rfl⟩

omit [DecidableEq Hash] in
/-- A sender is attached, if the bridge has not been cancelled. -/
theorem Offers.attachSender {pointer : ℕ} (hs : Offers hash s.server id secret expiresAt pointer)
    (hinv : RelayInv hash s) (hlive : s.server.now < expiresAt)
    (hopen : ∀ bridge, s.server.bridges[pointer]? = some bridge → bridge.cancelled = false) :
    (s.server.attachSender id).1 = .ok pointer := by
  obtain ⟨bridge, hbridge, hsession, hfree⟩ := hs.bridge
  obtain ⟨stored, record, hstored, hrecord, hactive⟩ :=
    hinv.table.live hbridge (hopen bridge hbridge)
  obtain ⟨_, _, hpointer, hsame, -, hexpires⟩ := hs.kept.stored
  rw [hsession, hpointer] at hstored
  obtain rfl := Option.some.inj hstored
  obtain rfl := Option.some.inj (hsame.symm.trans hrecord)
  rw [RelayServer.attachSender, stored_eq_some.mpr ⟨hpointer, hrecord⟩]
  dsimp only
  rw [if_neg (not_le.mpr (hexpires ▸ hlive)), hactive, Option.bind_some, hbridge, Option.map_some]
  simp only [RelayBridge.attachSender, hfree, Bool.false_eq_true, if_false]

end Steps

/-! ## Behind the front -/

section Front

variable [DecidableEq Hash] {hash : Bytes → Hash} {ttl : ℕ} {s t : Front Hash} {id : Bytes}

/-- A step of the front is at most one of the relay, about the session that a request names. -/
theorem Front.relay_step {action : FrontAction} (hstep : Front.step hash s action = some t) :
    t.relay = s.relay ∧ action.elapsed = 0 ∨
      ∃ taken : RelayAction, Relay.step hash s.relay taken = some t.relay ∧
        taken.elapsed = action.elapsed ∧ (∀ id, taken.Names id → action.Names id) ∧
          ∀ pointer succeeds, taken = .accept pointer succeeds → action.answers pointer = true := by
  cases action with
  | request r reading =>
      simp only [Front.step] at hstep
      split at hstep
      · rename_i hreading
        obtain rfl := Option.some.inj hstep
        have hreplied := routes_replied hash s.relay r reading
        generalize routes hash s.relay r reading = replied at hreplied ⊢
        cases hreplied with
        | aside => exact .inl ⟨rfl, rfl⟩
        | @register id secret hregisters =>
            refine .inr
              ⟨.register id secret reading, if_pos hreading, rfl, ?_, (by rintro _ _ ⟨⟩)⟩
            rintro _ rfl
            exact .inl hregisters.body
        | @attachReceiver id secret hasks =>
            refine .inr ⟨.attachReceiver id secret, rfl, rfl, ?_, (by rintro _ _ ⟨⟩)⟩
            rintro _ rfl
            exact .inr (.inl (pathSessionId_eq_some_iff.mpr ⟨hasks.path, hasks.id⟩))
        | @attachSender id hasks =>
            refine .inr ⟨.attachSender id, rfl, rfl, ?_, (by rintro _ _ ⟨⟩)⟩
            rintro _ rfl
            exact .inr (.inr (pathSessionId_eq_some_iff.mpr ⟨hasks.path, hasks.id⟩))
      · cases hstep
  | accept pointer refusal =>
      simp only [Front.step] at hstep
      split at hstep
      · cases hstep
      · obtain ⟨relay, htaken, rfl⟩ := Option.map_eq_some_iff.mp hstep
        refine .inr ⟨.accept pointer refusal.isNone, htaken, rfl, fun _ hnames => hnames, ?_⟩
        rintro _ _ ⟨⟩
        exact beq_self_eq_true pointer
  | relay action =>
      simp only [Front.step] at hstep
      split at hstep
      · rename_i hbehind
        obtain ⟨relay, htaken, rfl⟩ := Option.map_eq_some_iff.mp hstep
        refine .inr ⟨action, htaken, rfl, fun id hnames => ?_, ?_⟩
        · cases action <;> first | exact hnames | cases hbehind
        · rintro pointer succeeds rfl
          cases hbehind
      · cases hstep

/-- The relay behind the front runs as it would without it. -/
theorem Front.relay_of_reachable (hreachable : (Front.system hash ttl).Reachable s) :
    (Relay.system hash ttl).Reachable s.relay := by
  have hinit : (Front.system hash ttl).init.relay = (Relay.system hash ttl).init := rfl
  apply hreachable.simulates hinit
  intro before after action _ _ hstep
  rcases Front.relay_step hstep with ⟨hsame, -⟩ | ⟨taken, htaken, -⟩
  · exact .inl hsame
  · exact .inr ⟨taken, htaken⟩

theorem Front.now_of_run (actions : List FrontAction) :
    ∀ {s : Front Hash}, (Front.system hash ttl).run s actions = some t →
      t.relay.server.now = s.relay.server.now + (actions.map FrontAction.elapsed).sum := by
  induction actions with
  | nil =>
      intro s hrun
      obtain rfl : s = t := by simpa using hrun
      rfl
  | cons action rest ih =>
      intro s hrun
      obtain ⟨next, hnext, hrest⟩ := Option.bind_eq_some_iff.mp hrun
      have hstep : next.relay.server.now = s.relay.server.now + action.elapsed := by
        rcases Front.relay_step hnext with ⟨hsame, hzero⟩ | ⟨taken, htaken, helapsed, -, -⟩
        · rw [hsame, hzero, Nat.add_zero]
        · rw [now_of_step htaken, helapsed]
      rw [ih hrest, hstep, List.map_cons, List.sum_cons, Nat.add_assoc]

/-- **Frame rule.** What no action of others changes before a deadline is kept by a run that
consists of such actions and ends before it. -/
theorem Front.run_others {P : RelayServer Hash → Prop} {deadline : ℕ}
    (hframe : ∀ {before after : RelayState Hash} {action : RelayAction}, RelayInv hash before →
      ¬action.Names id → Relay.step hash before action = some after →
        after.server.now < deadline → P before.server → P after.server)
    (actions : List FrontAction) : ∀ {s : Front Hash}, (Front.system hash ttl).Reachable s →
      (∀ action ∈ actions, ¬action.Names id) → (Front.system hash ttl).run s actions = some t →
        t.relay.server.now < deadline → P s.relay.server → P t.relay.server := by
  induction actions with
  | nil =>
      intro s _ _ hrun _ hs
      obtain rfl : s = t := by simpa using hrun
      exact hs
  | cons action rest ih =>
      intro s hreachable hothers hrun hdeadline hs
      obtain ⟨next, hnext, hrest⟩ := Option.bind_eq_some_iff.mp hrun
      have hinv : RelayInv hash s.relay :=
        relayInv_of_runWithin (Front.relay_of_reachable hreachable)
      refine ih (.step hreachable trivial hnext)
        (fun other hother => hothers other (List.mem_cons_of_mem _ hother)) hrest hdeadline ?_
      rcases Front.relay_step hnext with ⟨hsame, -⟩ | ⟨taken, htaken, -, hnames, -⟩
      · rw [hsame]
        exact hs
      · have hbefore := Front.now_of_run rest hrest
        exact hframe hinv (fun hnamed => hothers action List.mem_cons_self (hnames id hnamed))
          htaken (by omega) hs

/-- The request has been granted the bridge, and `websocket.Accept` has not answered it. -/
structure Front.Pending (s : Front Hash) (pointer : ℕ) (r : ApiRequest) (bridge : ℕ) : Prop where
  granted : s.granted[pointer]? = some (r, bridge)
  accepting : ∃ handler, s.relay.handlers[pointer]? = some handler ∧ handler.phase = .accepting

omit [DecidableEq Hash] in
/-- A handler goes on accepting until its connection is accepted or refused. -/
private theorem Effect.accepting {s t : RelayState Hash} {action : RelayAction} {pointer : ℕ}
    {handler : Handler} (heffect : Effect s t action)
    (hhandler : s.handlers[pointer]? = some handler) (hphase : handler.phase = .accepting)
    (hother : ∀ succeeds, action ≠ .accept pointer succeeds) :
    ∃ handler', t.handlers[pointer]? = some handler' ∧ handler'.phase = .accepting := by
  -- What changes handlers changes another one, or no phase.
  have hmodify : ∀ {other : ℕ} {change : Handler → Handler},
      t.handlers = s.handlers.modify other change →
        (other = pointer → (change handler).phase = .accepting) →
          ∃ handler', t.handlers[pointer]? = some handler' ∧ handler'.phase = .accepting := by
    intro other change hhandlers hchange
    rw [hhandlers]
    refine ⟨_, getElem?_modify_of_some hhandler other change, ?_⟩
    split
    · exact hchange (by assumption)
    · exact hphase
  cases heffect with
  | table _ hhandlers => exact ⟨handler, by rw [hhandlers]; exact hhandler, hphase⟩
  | grantReceiver _ hhandlers | grantSender _ _ _ _ _ _ hhandlers =>
      exact ⟨handler, by rw [hhandlers]; exact getElem?_concat hhandler, hphase⟩
  | turn hturned hturn _ hhandlers =>
      apply hmodify hhandlers
      rintro rfl
      obtain rfl := Option.some.inj (hturned.symm.trans hhandler)
      cases hturn with
      | accept | refuse => exact absurd rfl (hother _)
      | leave hserving => simp [hphase] at hserving
      | cancel hdetached => simp [hphase] at hdetached
  | close hclosed hreleased _ hhandlers =>
      apply hmodify hhandlers
      rintro rfl
      obtain rfl := Option.some.inj (hclosed.symm.trans hhandler)
      simp [hphase] at hreleased
  | serve _ _ _ _ _ hhandlers => exact hmodify hhandlers fun _ => hphase

/-- The log only grows. -/
private theorem Front.exists_log (hash : Bytes → Hash) {action : FrontAction}
    (hstep : Front.step hash s action = some t) : ∃ more, t.log = s.log ++ more := by
  cases action with
  | request r reading =>
      simp only [Front.step] at hstep
      split at hstep
      · obtain rfl := Option.some.inj hstep
        exact ⟨_, rfl⟩
      · cases hstep
  | accept pointer refusal =>
      simp only [Front.step] at hstep
      split at hstep
      · cases hstep
      · obtain ⟨relay, -, rfl⟩ := Option.map_eq_some_iff.mp hstep
        exact ⟨_, rfl⟩
  | relay action =>
      simp only [Front.step] at hstep
      split at hstep
      · obtain ⟨relay, -, rfl⟩ := Option.map_eq_some_iff.mp hstep
        exact ⟨[], (List.append_nil _).symm⟩
      · cases hstep

variable {pointer bridge : ℕ} {r : ApiRequest}

theorem Front.Pending.step {action : FrontAction} (hs : s.Pending pointer r bridge)
    (hinv : RelayInv hash s.relay) (hother : action.answers pointer = false)
    (hstep : Front.step hash s action = some t) : t.Pending pointer r bridge where
  granted := by
    obtain ⟨more, hlog⟩ := Front.exists_log hash hstep
    have hgranted : t.granted = s.granted ++ more.filterMap grant := by
      rw [Front.granted, hlog, List.filterMap_append]
      rfl
    rw [hgranted, List.getElem?_append_left (List.getElem?_eq_some_iff.mp hs.granted).1]
    exact hs.granted
  accepting := by
    obtain ⟨handler, hhandler, hphase⟩ := hs.accepting
    rcases Front.relay_step hstep with ⟨hsame, -⟩ | ⟨taken, htaken, -, -, hanswers⟩
    · rw [hsame]
      exact ⟨handler, hhandler, hphase⟩
    · refine (step_effect hinv htaken).accepting hhandler hphase fun succeeds haccept => ?_
      rw [hanswers pointer succeeds haccept] at hother
      cases hother

theorem Front.Pending.run (actions : List FrontAction) :
    ∀ {s : Front Hash}, (Front.system hash ttl).Reachable s → s.Pending pointer r bridge →
      actions.all (fun action => !action.answers pointer) = true →
        (Front.system hash ttl).run s actions = some t → t.Pending pointer r bridge := by
  induction actions with
  | nil =>
      intro s _ hs _ hrun
      obtain rfl : s = t := by simpa using hrun
      exact hs
  | cons action rest ih =>
      intro s hreachable hs hothers hrun
      obtain ⟨next, hnext, hrest⟩ := Option.bind_eq_some_iff.mp hrun
      rw [List.all_cons, Bool.and_eq_true, Bool.not_eq_true'] at hothers
      have hinv : RelayInv hash s.relay :=
        relayInv_of_runWithin (Front.relay_of_reachable hreachable)
      exact ih (.step hreachable trivial hnext) (hs.step hinv hothers.1 hnext) hothers.2 hrest

/-- The request is upgraded, and nothing else happens to the server. -/
theorem Front.Pending.accept (hs : s.Pending pointer r bridge) :
    Front.step hash s (.accept pointer none) = some ⟨s.relay.setPhase pointer .serving,
      s.log ++ [(r, .answered (.upgrade bridge))]⟩ := by
  obtain ⟨handler, hhandler, hphase⟩ := hs.accepting
  simp only [Front.step, hs.granted, RelayState.accept, hhandler, hphase]
  rfl

end Front

end PrintDrop.Relay
