/-
# Sessions

What the session table guarantees in every run of the relay: a session keeps the secret
and the expiry of its registration for as long as it lasts, a bridge that has not been
cancelled is the one its session's record has, and what belongs to an older record or
bridge of an id does not touch a newer one.
-/

import PrintDrop.Relay.Effects

namespace PrintDrop.Relay

open Math

universe u

variable {Hash : Type u} {hash : Bytes → Hash}

/-- Every session that has not expired by then is still stored, with the secret and the
expiry of its registration. -/
structure Retains (s t : RelayServer Hash) : Prop where
  now : s.now ≤ t.now
  retains : ∀ {id : Bytes} {pointer : ℕ} {record : SessionRecord Hash}
    {registration : Registration}, s.sessions id = some pointer →
      s.records[pointer]? = some record → s.registrations[pointer]? = some registration →
        t.now < record.expiresAt → t.sessions id = some pointer ∧
          (∃ record' : SessionRecord Hash, t.records[pointer]? = some record' ∧
            record'.secretHash = record.secretHash ∧ record'.expiresAt = record.expiresAt) ∧
          t.registrations[pointer]? = some registration

section Retains

variable {s t u : RelayServer Hash}

theorem Retains.refl (s : RelayServer Hash) : Retains s s where
  now := le_refl _
  retains hpointer hrecord hregistration _ :=
    ⟨hpointer, ⟨_, hrecord, rfl, rfl⟩, hregistration⟩

theorem Retains.trans (hst : Retains s t) (htu : Retains t u) : Retains s u where
  now := hst.now.trans htu.now
  retains := by
    intro id pointer record registration hpointer hrecord hregistration hlive
    obtain ⟨hpointer', ⟨record', hrecord', hsecret', hexpires'⟩, hregistration'⟩ :=
      hst.retains hpointer hrecord hregistration (htu.now.trans_lt hlive)
    obtain ⟨hpointer'', ⟨record'', hrecord'', hsecret'', hexpires''⟩, hregistration''⟩ :=
      htu.retains hpointer' hrecord' hregistration' (by rw [hexpires']; exact hlive)
    exact ⟨hpointer'', ⟨record'', hrecord'', hsecret''.trans hsecret',
      hexpires''.trans hexpires'⟩, hregistration''⟩

/-- Time and the bridges do not matter. -/
theorem Retains.later (hst : Retains s t) (hnow : t.now ≤ u.now)
    (hsessions : u.sessions = t.sessions)
    (hrecords : u.records = t.records) (hregistrations : u.registrations = t.registrations) :
    Retains s u :=
  hst.trans {
    now := hnow
    retains := by
      intro id pointer record registration hpointer hrecord hregistration _
      rw [hsessions, hrecords, hregistrations]
      exact ⟨hpointer, ⟨record, hrecord, rfl, rfl⟩, hregistration⟩ }

/-- A change of a record that keeps its secret and its expiry. -/
theorem retains_modify {pointer : ℕ} {change : SessionRecord Hash → SessionRecord Hash}
    (hrecords : t.records = s.records.modify pointer change)
    (hchange : ∀ record, (change record).secretHash = record.secretHash ∧
      (change record).expiresAt = record.expiresAt)
    (hnow : t.now = s.now) (hsessions : t.sessions = s.sessions)
    (hregistrations : t.registrations = s.registrations) : Retains s t where
  now := hnow.ge
  retains := by
    intro id other record registration hother hrecord hregistration _
    rw [hsessions, hrecords, hregistrations]
    refine ⟨hother, ⟨_, getElem?_modify_of_some hrecord pointer change, ?_⟩, hregistration⟩
    split
    · exact hchange record
    · exact ⟨rfl, rfl⟩

/-- The expiry of a record whose time has come. -/
theorem retains_expireLocked {id : Bytes} {pointer : ℕ} {record : SessionRecord Hash}
    (hpointer : s.sessions id = some pointer) (hrecord : s.records[pointer]? = some record)
    (hexpired : record.expiresAt ≤ s.now) : Retains s (s.expireLocked id pointer) where
  now := le_refl _
  retains := by
    intro other stored kept registration hstored hkept hregistration hlive
    have hne : pointer ≠ stored := by
      rintro rfl
      obtain rfl := Option.some.inj (hkept.symm.trans hrecord)
      exact absurd hexpired (not_le.mpr hlive)
    have hid : other ≠ id := by
      rintro rfl
      exact hne (Option.some.inj (hpointer.symm.trans hstored))
    exact ⟨sessions_expireLocked.mpr ⟨hid, hstored⟩,
      ⟨kept, (getElem?_modify_of_ne hne).trans hkept, rfl, rfl⟩, hregistration⟩

theorem retains_create {id : Bytes} (hnone : s.sessions id = none) (secret : Bytes)
    (reading : ℕ) : Retains s (s.create hash id secret reading) where
  now := le_refl _
  retains := by
    intro other stored record registration hstored hrecord hregistration _
    have hid : other ≠ id := by
      rintro rfl
      rw [hnone] at hstored
      cases hstored
    exact ⟨sessions_create.mpr (.inr ⟨hid, hstored⟩),
      ⟨record, getElem?_concat hrecord, rfl, rfl⟩, getElem?_concat hregistration⟩

/-- The function of a timer that has fired. -/
theorem TableInv.retains_expire (hs : TableInv hash s) (id : Bytes) {pointer : ℕ}
    {record : SessionRecord Hash} (hrecord : s.records[pointer]? = some record)
    (hfired : record.timer.phase = .fired) :
    Retains s ((s.setTimer pointer .done).expire id pointer) := by
  obtain ⟨hdue, hnow⟩ := hs.records.timed hrecord
  have htimer : Retains s (s.setTimer pointer .done) := by
    refine retains_modify rfl (fun record => ?_) rfl rfl rfl
    exact ⟨rfl, rfl⟩
  have houtcome := expire_outcome (s.setTimer pointer .done) id pointer
  generalize (s.setTimer pointer .done).expire id pointer = t at houtcome ⊢
  cases houtcome with
  | expired hpointer =>
      exact htimer.trans (retains_expireLocked hpointer (getElem?_modify_self hrecord)
        (hdue.trans (hnow hfired)))
  | other => exact htimer

theorem retains_detachReceiver (s : RelayServer Hash) (id : Bytes) (bridge : ℕ) :
    Retains s (s.detachReceiver id bridge) := by
  have houtcome := detachReceiver_outcome s id bridge
  generalize s.detachReceiver id bridge = t at houtcome ⊢
  cases houtcome with
  | released =>
      refine retains_modify rfl (fun record => ?_) rfl rfl rfl
      exact ⟨rfl, rfl⟩
  | kept => exact (Retains.refl s).later (le_refl _) rfl rfl rfl

theorem TableInv.retains_register [DecidableEq Hash] (hs : TableInv hash s) (id secret : Bytes)
    {reading : ℕ} (hreading : reading ≤ s.now) :
    Retains s (s.register hash id secret reading).2 := by
  have houtcome := register_outcome hash s id secret reading
  generalize s.register hash id secret reading = registered at houtcome ⊢
  cases houtcome with
  | created hstored => exact retains_create (hs.records.sessions_eq_none hstored) secret reading
  | @replaced pointer _ hpointer hrecord hexpired =>
      have hnone : (s.expireLocked id pointer).sessions id = none := by
        simp [RelayServer.expireLocked]
      exact (retains_expireLocked hpointer hrecord (hexpired.trans hreading)).trans
        (retains_create hnone secret reading)
  | repeated | conflict => exact .refl s

/-- Detaching a receiver touches its own bridge, and a record only if it has that bridge. -/
theorem detachReceiver_else (server : RelayServer Hash) (id : Bytes) (bridge : ℕ) :
    (server.detachReceiver id bridge).sessions = server.sessions ∧
      (∀ other, other ≠ bridge →
        (server.detachReceiver id bridge).bridges[other]? = server.bridges[other]?) ∧
      ∀ (other : ℕ) (record : SessionRecord Hash), server.records[other]? = some record →
        record.active ≠ some bridge →
          (server.detachReceiver id bridge).records[other]? = some record := by
  have houtcome := detachReceiver_outcome server id bridge
  generalize server.detachReceiver id bridge = t at houtcome ⊢
  cases houtcome with
  | released hstored hmine =>
      refine ⟨rfl, fun other hother => getElem?_modify_of_ne (Ne.symm hother),
        fun other record hrecord hactive => ?_⟩
      refine (getElem?_modify_of_ne ?_).trans hrecord
      rintro rfl
      rw [← Option.some.inj (hrecord.symm.trans (stored_eq_some.mp hstored).2)] at hmine
      exact hactive hmine
  | kept =>
      exact ⟨rfl, fun other hother => getElem?_modify_of_ne (Ne.symm hother),
        fun _ _ hrecord _ => hrecord⟩

end Retains

variable [DecidableEq Hash] {s t : RelayState Hash} {action : RelayAction}

/-- Every step retains the sessions that have not expired. -/
theorem retains_step (hs : RelayInv hash s) (hstep : step hash s action = some t) :
    Retains s.server t.server := by
  have hdetach : ∀ handler, Retains s.server (s.detach handler).server := by
    intro handler
    have houtcome := detach_outcome s handler
    generalize s.detach handler = t at houtcome ⊢
    cases houtcome with
    | receiver => exact retains_detachReceiver _ _ _
    | sender => exact (Retains.refl _).later (le_refl _) rfl rfl rfl
  cases step_cases hstep with
  | tick elapsed => exact (Retains.refl _).later (Nat.le_add_right _ _) rfl rfl rfl
  | @register id secret _ hreading => exact hs.table.retains_register id secret hreading
  | attachReceiver id secret =>
      have houtcome := attachReceiver_outcome hash s.server id secret
      generalize s.server.attachReceiver hash id secret = attached at houtcome
      cases houtcome with
      | expired hpointer hexpired =>
          obtain ⟨record, hrecord, -⟩ := hs.table.records.stored hpointer
          exact retains_expireLocked hpointer hrecord (hexpired record hrecord)
      | refused => exact .refl _
      | granted =>
          refine retains_modify rfl (fun record => ?_) rfl rfl rfl
          exact ⟨rfl, rfl⟩
  | attachSender id =>
      have houtcome := attachSender_outcome s.server id
      generalize s.server.attachSender id = attached at houtcome
      cases houtcome with
      | expired hpointer hexpired =>
          obtain ⟨record, hrecord, -⟩ := hs.table.records.stored hpointer
          exact retains_expireLocked hpointer hrecord (hexpired record hrecord)
      | refused => exact .refl _
      | granted => exact (Retains.refl _).later (le_refl _) rfl rfl rfl
  | accept => exact .refl _
  | refuse => exact hdetach _
  | serve => exact (Retains.refl _).later (le_refl _) rfl rfl rfl
  | leave => exact hdetach _
  | cancel => exact (Retains.refl _).later (le_refl _) rfl rfl rfl
  | close => exact .refl _
  | timerFires =>
      refine retains_modify rfl (fun record => ?_) rfl rfl rfl
      exact ⟨rfl, rfl⟩
  | expire hrecord hfired => exact hs.table.retains_expire _ hrecord hfired

/-- A run retains the sessions that have not expired at its end. -/
theorem retains_run {ttl : ℕ} : ∀ (actions : List RelayAction) {s t : RelayState Hash},
    RelayInv hash s → (system hash ttl).run s actions = some t → Retains s.server t.server := by
  intro actions
  induction actions with
  | nil =>
      intro s t _ hrun
      obtain rfl : s = t := by simpa using hrun
      exact .refl _
  | cons action rest ih =>
      intro s t hs hrun
      obtain ⟨next, hnext, hrest⟩ := Option.bind_eq_some_iff.mp hrun
      exact (retains_step hs hnext).trans (ih (hs.step hnext) hrest)

section Secrets

variable {server server' : RelayServer Hash} {id secret : Bytes} {pointer : ℕ}
  {record : SessionRecord Hash}

/-- A registration with another secret is refused and changes nothing. -/
theorem register_conflict (hpointer : server.sessions id = some pointer)
    (hrecord : server.records[pointer]? = some record) {reading : ℕ}
    (hlive : reading < record.expiresAt) (hsecret : record.secretHash ≠ hash secret) :
    server.register hash id secret reading = (.error .sessionConflict, server) := by
  rw [RelayServer.register, stored_eq_some.mpr ⟨hpointer, hrecord⟩]
  dsimp only
  rw [if_neg (not_le.mpr hlive), if_pos hsecret]

/-- A receiver is attached only with a secret of the same hash. -/
theorem attachReceiver_secret {bridge : ℕ} (hpointer : server.sessions id = some pointer)
    (hrecord : server.records[pointer]? = some record)
    (hattached : server.attachReceiver hash id secret = (.ok bridge, server')) :
    record.secretHash = hash secret := by
  have houtcome := attachReceiver_outcome hash server id secret
  rw [hattached] at houtcome
  cases houtcome with
  | granted hpointer' hrecord' _ hsecret =>
      obtain rfl := Option.some.inj (hpointer'.symm.trans hpointer)
      obtain rfl := Option.some.inj (hrecord'.symm.trans hrecord)
      exact hsecret

end Secrets

/-- A timer of a record that is no longer stored changes nothing but itself. -/
theorem expire_of_removed {pointer : ℕ} {record : SessionRecord Hash}
    (hrecord : s.server.records[pointer]? = some record)
    (hremoved : s.server.sessions record.timer.id ≠ some pointer)
    (hstep : step hash s (.expire pointer) = some t) :
    t.server.sessions = s.server.sessions ∧ t.server.bridges = s.server.bridges ∧
      ∀ other, other ≠ pointer → t.server.records[other]? = s.server.records[other]? := by
  simp only [step, RelayState.expire, hrecord] at hstep
  split at hstep
  · obtain rfl := Option.some.inj hstep
    have hnothing : (s.server.setTimer pointer .done).expire record.timer.id pointer =
        s.server.setTimer pointer .done := by
      rw [RelayServer.expire, if_neg]
      exact hremoved
    simp only [hnothing]
    exact ⟨rfl, rfl, fun other hother => getElem?_modify_of_ne (Ne.symm hother)⟩
  · cases hstep

/-! ## The guarantees -/

/-- What the session table guarantees of a state of the relay. -/
structure SessionTable (hash : Bytes → Hash) (ttl : ℕ) (s : RelayState Hash) : Prop where
  /-- A stored record has the secret and the expiry of the registration that created it. -/
  registered : ∀ (id : Bytes) (pointer : ℕ), s.server.sessions id = some pointer →
    ∃ (record : SessionRecord Hash) (registration : Registration),
      s.server.records[pointer]? = some record ∧
      s.server.registrations[pointer]? = some registration ∧ registration.id = id ∧
      record.secretHash = hash registration.secret ∧
      record.expiresAt = registration.reading + s.server.ttl
  /-- Until a session has expired, it is stored as it was registered, whatever happens. -/
  lasts : ∀ (id : Bytes) (pointer : ℕ) (record : SessionRecord Hash) (registration : Registration),
    s.server.sessions id = some pointer → s.server.records[pointer]? = some record →
    s.server.registrations[pointer]? = some registration →
    ∀ actions t, (system hash ttl).run s actions = some t → t.server.now < record.expiresAt →
      t.server.sessions id = some pointer ∧
      (∃ record' : SessionRecord Hash, t.server.records[pointer]? = some record' ∧
        record'.secretHash = record.secretHash ∧ record'.expiresAt = record.expiresAt) ∧
      t.server.registrations[pointer]? = some registration
  /-- Until then, another secret cannot be registered for it. -/
  conflict : ∀ (id : Bytes) (pointer : ℕ) (record : SessionRecord Hash)
    (registration : Registration),
    s.server.sessions id = some pointer → s.server.records[pointer]? = some record →
    s.server.registrations[pointer]? = some registration → s.server.now < record.expiresAt →
    ∀ secret reading, reading ≤ s.server.now → secret ≠ registration.secret →
      s.server.register hash id secret reading = (.error .sessionConflict, s.server)
  /-- A receiver is attached with the registered secret only. -/
  authentic : ∀ (id : Bytes) (pointer : ℕ) (registration : Registration),
    s.server.sessions id = some pointer →
    s.server.registrations[pointer]? = some registration →
    ∀ secret bridge server, s.server.attachReceiver hash id secret = (.ok bridge, server) →
      secret = registration.secret
  /-- A bridge belongs to the session of its handlers. -/
  attached : ∀ (pointer : ℕ) (handler : Handler), s.handlers[pointer]? = some handler →
    ∃ bridge : RelayBridge, s.server.bridges[handler.bridge]? = some bridge ∧
      bridge.session = handler.id
  /-- A live bridge is the active one of the record that is stored under its id. -/
  live : ∀ (pointer : ℕ) (bridge : RelayBridge), s.server.bridges[pointer]? = some bridge →
    bridge.cancelled = false → ∃ (stored : ℕ) (record : SessionRecord Hash),
      s.server.sessions bridge.session = some stored ∧
      s.server.records[stored]? = some record ∧ record.active = some pointer
  /-- An id has at most one live bridge. -/
  single : ∀ (first second : ℕ) (bridge bridge' : RelayBridge),
    s.server.bridges[first]? = some bridge → s.server.bridges[second]? = some bridge' →
    bridge.cancelled = false → bridge'.cancelled = false →
    bridge.session = bridge'.session → first = second
  /-- The timer of a record that has been removed changes nothing else. -/
  staleTimer : ∀ (pointer : ℕ) (record : SessionRecord Hash),
    s.server.records[pointer]? = some record →
    s.server.sessions record.timer.id ≠ some pointer →
    ∀ t, step hash s (.expire pointer) = some t →
      t.server.sessions = s.server.sessions ∧ t.server.bridges = s.server.bridges ∧
      ∀ other : ℕ, other ≠ pointer → t.server.records[other]? = s.server.records[other]?
  /-- Detaching a receiver touches no other bridge and no record that has another. -/
  staleDetach : ∀ (pointer : ℕ) (handler : Handler), s.handlers[pointer]? = some handler →
    (s.server.detachReceiver handler.id handler.bridge).sessions = s.server.sessions ∧
    (∀ other : ℕ, other ≠ handler.bridge →
      (s.server.detachReceiver handler.id handler.bridge).bridges[other]? =
        s.server.bridges[other]?) ∧
    ∀ (other : ℕ) (record : SessionRecord Hash), s.server.records[other]? = some record →
      record.active ≠ some handler.bridge →
        (s.server.detachReceiver handler.id handler.bridge).records[other]? = some record

/-- In every run of the relay the session table keeps its guarantees. -/
theorem sessionTable_of_reachable (hinjective : Function.Injective hash) {ttl : ℕ}
    (hreachable : (system hash ttl).Reachable s) : SessionTable hash ttl s := by
  have hs := relayInv_of_runWithin hreachable
  have hregistered : ∀ id pointer, s.server.sessions id = some pointer →
      ∃ (record : SessionRecord Hash) (registration : Registration),
        s.server.records[pointer]? = some record ∧
        s.server.registrations[pointer]? = some registration ∧ registration.id = id ∧
        record.secretHash = hash registration.secret ∧
        record.expiresAt = registration.reading + s.server.ttl := by
    intro id pointer hpointer
    obtain ⟨record, hrecord, hid⟩ := hs.table.records.stored hpointer
    obtain ⟨registration, hregistration, hid', hsecret, hexpires⟩ :=
      hs.table.records.registered hrecord
    exact ⟨record, registration, hrecord, hregistration, hid'.symm.trans hid, hsecret, hexpires⟩
  constructor
  case registered => exact hregistered
  case lasts =>
    intro id pointer record registration hpointer hrecord hregistration actions t hrun hlive
    exact (retains_run actions hs hrun).retains hpointer hrecord hregistration hlive
  case conflict =>
    intro id pointer record registration hpointer hrecord hregistration hlive secret reading
      hreading hne
    obtain ⟨_, _, hsame, hsame', -, hsecret, -⟩ := hregistered id pointer hpointer
    obtain rfl := Option.some.inj (hsame.symm.trans hrecord)
    obtain rfl := Option.some.inj (hsame'.symm.trans hregistration)
    refine register_conflict hpointer hrecord (hreading.trans_lt hlive) ?_
    rw [hsecret]
    exact fun hhash => hne (hinjective hhash).symm
  case authentic =>
    intro id pointer registration hpointer hregistration secret bridge server hattached
    obtain ⟨record, _, hrecord, hsame, -, hsecret, -⟩ := hregistered id pointer hpointer
    obtain rfl := Option.some.inj (hsame.symm.trans hregistration)
    have hhash := attachReceiver_secret hpointer hrecord hattached
    exact (hinjective (hsecret.symm.trans hhash)).symm
  case attached => exact fun _ _ hhandler => hs.handlers hhandler
  case live => exact fun _ _ hbridge hlive => hs.table.live hbridge hlive
  case single =>
    intro first second bridge bridge' hbridge hbridge' hlive hlive' hsession
    obtain ⟨stored, record, hstored, hrecord, hactive⟩ := hs.table.live hbridge hlive
    obtain ⟨stored', record', hstored', hrecord', hactive'⟩ := hs.table.live hbridge' hlive'
    rw [hsession, hstored'] at hstored
    obtain rfl := Option.some.inj hstored
    obtain rfl := Option.some.inj (hrecord'.symm.trans hrecord)
    exact Option.some.inj (hactive.symm.trans hactive')
  case staleTimer =>
    exact fun _ _ hrecord hremoved _ hstep => expire_of_removed hrecord hremoved hstep
  case staleDetach => exact fun _ handler _ => detachReceiver_else _ _ _

/-- A session is registered, expires and is registered again with another secret, each
time with a receiver. -/
def renewal : List RelayAction :=
  [.register [1] [2] 0, .attachReceiver [1] [2], .accept 0 true, .tick 10,
    .register [1] [3] 10, .attachReceiver [1] [3]]

/-- The relay whose secrets are stored as they are. -/
def renewed : RelayState Bytes :=
  ((system (id : Bytes → Bytes) 5).run (system id 5).init renewal).getD (system id 5).init

/-- The table keeps its guarantees over a renewal. -/
theorem renewed_sessionTable : SessionTable id 5 renewed :=
  sessionTable_of_reachable Function.injective_id
    (TransitionSystem.reachable_of_run renewal rfl)

end PrintDrop.Relay
