/-
# The session table

What holds of the table in every reachable state of the relay: records are stored under
the id they were registered for until they expire, and a bridge that has not been
cancelled is the active bridge of the record that is stored under its session's id.
-/

import PrintDrop.Relay.Server

namespace PrintDrop.Relay

open Math

universe u

variable {Hash : Type u}

/-- A list of bridges that has not grown: they may have been used and cancelled since. -/
structure Follows (before after : List RelayBridge) : Prop where
  later : ∀ {pointer : ℕ} {bridge : RelayBridge}, before[pointer]? = some bridge →
    ∃ bridge' : RelayBridge, after[pointer]? = some bridge' ∧ bridge'.session = bridge.session
  earlier : ∀ {pointer : ℕ} {bridge' : RelayBridge}, after[pointer]? = some bridge' →
    ∃ bridge : RelayBridge, before[pointer]? = some bridge ∧ bridge'.session = bridge.session ∧
      (bridge'.cancelled = false → bridge.cancelled = false)

theorem Follows.refl (bridges : List RelayBridge) : Follows bridges bridges where
  later hbridge := ⟨_, hbridge, rfl⟩
  earlier hbridge := ⟨_, hbridge, rfl, id⟩

/-- Changing one bridge without reviving it. -/
theorem follows_modify {bridges : List RelayBridge} {pointer : ℕ}
    {change : RelayBridge → RelayBridge}
    (hsession : ∀ bridge, bridges[pointer]? = some bridge →
      (change bridge).session = bridge.session)
    (hcancelled : ∀ bridge, bridges[pointer]? = some bridge →
      (change bridge).cancelled = false → bridge.cancelled = false) :
    Follows bridges (bridges.modify pointer change) where
  later := by
    intro other bridge hbridge
    refine ⟨_, getElem?_modify_of_some hbridge _ _, ?_⟩
    split
    · rename_i hsame
      exact hsession bridge (hsame ▸ hbridge)
    · rfl
  earlier := by
    intro other bridge' hbridge'
    obtain ⟨bridge, hbridge, rfl⟩ := getElem?_modify_eq_some.mp hbridge'
    refine ⟨bridge, hbridge, ?_⟩
    split
    · rename_i hsame
      rw [← hsame] at hbridge
      exact ⟨hsession bridge hbridge, hcancelled bridge hbridge⟩
    · exact ⟨rfl, id⟩

theorem follows_cancel (bridges : List RelayBridge) (pointer : ℕ) :
    Follows bridges (bridges.modify pointer RelayBridge.cancel) :=
  follows_modify (fun _ _ => rfl) fun _ _ hcancelled =>
    absurd hcancelled (by simp [RelayBridge.cancel])

section Outcomes

variable {s : RelayServer Hash} {id : Bytes} {pointer : ℕ} {record : SessionRecord Hash}

theorem stored_eq_some : s.stored id = some (pointer, record) ↔
    s.sessions id = some pointer ∧ s.records[pointer]? = some record := by
  simp only [RelayServer.stored, Option.bind_eq_some_iff, Option.map_eq_some_iff, Prod.mk.injEq]
  constructor
  · rintro ⟨_, hpointer, _, hrecord, rfl, rfl⟩
    exact ⟨hpointer, hrecord⟩
  · rintro ⟨hpointer, hrecord⟩
    exact ⟨pointer, hpointer, record, hrecord, rfl, rfl⟩

/-- What is stored after the expiry of a session: the other sessions. -/
theorem sessions_expireLocked {other : Bytes} {stored : ℕ} :
    (s.expireLocked id pointer).sessions other = some stored ↔
      other ≠ id ∧ s.sessions other = some stored := by
  by_cases hsame : other = id
  · simp [RelayServer.expireLocked, hsame]
  · simp [RelayServer.expireLocked, hsame]

/-- What is stored after the creation of a session: the new one, and the others. -/
theorem sessions_create {hash : Bytes → Hash} {secret other : Bytes} {reading stored : ℕ} :
    (s.create hash id secret reading).sessions other = some stored ↔
      other = id ∧ s.records.length = stored ∨ other ≠ id ∧ s.sessions other = some stored := by
  by_cases hsame : other = id
  · simp [RelayServer.create, hsame]
  · simp [RelayServer.create, hsame]

/-- What the function of a timer comes to. -/
inductive ExpireOutcome (s : RelayServer Hash) (id : Bytes) (pointer : ℕ) :
    RelayServer Hash → Prop
  | expired (hpointer : s.sessions id = some pointer) :
    ExpireOutcome s id pointer (s.expireLocked id pointer)
  | other (hother : s.sessions id ≠ some pointer) : ExpireOutcome s id pointer s

theorem expire_outcome (s : RelayServer Hash) (id : Bytes) (pointer : ℕ) :
    ExpireOutcome s id pointer (s.expire id pointer) := by
  unfold RelayServer.expire
  split
  · exact .expired (by assumption)
  · exact .other (by assumption)

/-- What a registration comes to. -/
inductive RegisterOutcome [DecidableEq Hash] (hash : Bytes → Hash) (s : RelayServer Hash)
    (id secret : Bytes) (reading : ℕ) : Except RelayError (ℕ × Bool) × RelayServer Hash → Prop
  | created (hstored : s.stored id = none) :
    RegisterOutcome hash s id secret reading
      (.ok (s.records.length, true), s.create hash id secret reading)
  | replaced {pointer : ℕ} {record : SessionRecord Hash} (hpointer : s.sessions id = some pointer)
    (hrecord : s.records[pointer]? = some record) (hexpired : record.expiresAt ≤ reading) :
    RegisterOutcome hash s id secret reading
      (.ok (s.records.length, true), (s.expireLocked id pointer).create hash id secret reading)
  | repeated {pointer : ℕ} {record : SessionRecord Hash} (hpointer : s.sessions id = some pointer)
    (hrecord : s.records[pointer]? = some record) (hsecret : record.secretHash = hash secret) :
    RegisterOutcome hash s id secret reading (.ok (pointer, false), s)
  | conflict : RegisterOutcome hash s id secret reading (.error .sessionConflict, s)

theorem register_outcome [DecidableEq Hash] (hash : Bytes → Hash) (s : RelayServer Hash)
    (id secret : Bytes) (reading : ℕ) :
    RegisterOutcome hash s id secret reading (s.register hash id secret reading) := by
  unfold RelayServer.register
  split
  · rename_i pointer existing hstored
    obtain ⟨hpointer, hrecord⟩ := stored_eq_some.mp hstored
    split
    · exact .replaced hpointer hrecord (by assumption)
    split
    · exact .conflict
    · exact .repeated hpointer hrecord (not_not.mp (by assumption))
  · exact .created (by assumption)

/-- What attaching a receiver comes to. -/
inductive AttachReceiverOutcome [DecidableEq Hash] (hash : Bytes → Hash) (s : RelayServer Hash)
    (id secret : Bytes) : Except RelayError ℕ × RelayServer Hash → Prop
  | expired {error : RelayError} {pointer : ℕ} (hpointer : s.sessions id = some pointer)
    (hexpired : ∀ record : SessionRecord Hash, s.records[pointer]? = some record →
      record.expiresAt ≤ s.now) :
    AttachReceiverOutcome hash s id secret (.error error, s.expireLocked id pointer)
  | refused {error : RelayError} : AttachReceiverOutcome hash s id secret (.error error, s)
  | granted {pointer : ℕ} {record : SessionRecord Hash} (hpointer : s.sessions id = some pointer)
    (hrecord : s.records[pointer]? = some record) (hlive : s.now < record.expiresAt)
    (hsecret : record.secretHash = hash secret) (hfree : record.active = none) :
    AttachReceiverOutcome hash s id secret (.ok s.bridges.length, { s with
      records := s.records.modify pointer fun record =>
        { record with active := some s.bridges.length }
      bridges := s.bridges ++ [⟨false, fun _ => .empty, false, id⟩] })

theorem attachReceiver_outcome [DecidableEq Hash] (hash : Bytes → Hash) (s : RelayServer Hash)
    (id secret : Bytes) :
    AttachReceiverOutcome hash s id secret (s.attachReceiver hash id secret) := by
  unfold RelayServer.attachReceiver
  split
  · exact .refused
  rename_i pointer record hstored
  obtain ⟨hpointer, hrecord⟩ := stored_eq_some.mp hstored
  split
  · rename_i hexpired
    refine .expired hpointer fun before hbefore => ?_
    rw [← Option.some.inj (hrecord.symm.trans hbefore)]
    exact hexpired
  split
  · exact .refused
  split
  · exact .refused
  · exact .granted hpointer hrecord (not_le.mp (by assumption)) (not_not.mp (by assumption))
      (not_not.mp (by assumption))

/-- What attaching a sender comes to. -/
inductive AttachSenderOutcome (s : RelayServer Hash) (id : Bytes) :
    Except RelayError ℕ × RelayServer Hash → Prop
  | expired {error : RelayError} {pointer : ℕ} (hpointer : s.sessions id = some pointer)
    (hexpired : ∀ record : SessionRecord Hash, s.records[pointer]? = some record →
      record.expiresAt ≤ s.now) :
    AttachSenderOutcome s id (.error error, s.expireLocked id pointer)
  | refused {error : RelayError} : AttachSenderOutcome s id (.error error, s)
  | granted {pointer bridge : ℕ} {record : SessionRecord Hash} {object : RelayBridge}
    (hpointer : s.sessions id = some pointer) (hrecord : s.records[pointer]? = some record)
    (hlive : s.now < record.expiresAt) (hactive : record.active = some bridge)
    (hobject : s.bridges[bridge]? = some object) (hfree : object.sender = false) :
    AttachSenderOutcome s id (.ok bridge, { s with
      bridges := s.bridges.modify bridge fun _ => { object with sender := true } })

theorem attachSender_outcome (s : RelayServer Hash) (id : Bytes) :
    AttachSenderOutcome s id (s.attachSender id) := by
  unfold RelayServer.attachSender
  split
  · exact .refused
  rename_i pointer record hstored
  obtain ⟨hpointer, hrecord⟩ := stored_eq_some.mp hstored
  split
  · rename_i hexpired
    refine .expired hpointer fun before hbefore => ?_
    rw [← Option.some.inj (hrecord.symm.trans hbefore)]
    exact hexpired
  split
  · exact .refused
  rename_i hlive _ _ _ hfound
  obtain ⟨bridge, hactive, hfound⟩ := Option.bind_eq_some_iff.mp hfound
  obtain ⟨object, hobject, hsame⟩ := Option.map_eq_some_iff.mp hfound
  obtain ⟨rfl, rfl⟩ := Prod.mk.inj hsame
  cases hfree : object.sender with
  | true =>
      simp only [RelayBridge.attachSender, hfree, if_true]
      exact .refused
  | false =>
      simp only [RelayBridge.attachSender, hfree, Bool.false_eq_true, if_false]
      exact .granted hpointer hrecord (not_le.mp hlive) hactive hobject hfree

/-- What detaching a receiver comes to. -/
inductive DetachReceiverOutcome (s : RelayServer Hash) (id : Bytes) (bridge : ℕ) :
    RelayServer Hash → Prop
  | released {pointer : ℕ} {record : SessionRecord Hash}
    (hstored : s.stored id = some (pointer, record)) (hactive : record.active = some bridge) :
    DetachReceiverOutcome s id bridge (RelayServer.cancel { s with
      records := s.records.modify pointer fun record => { record with active := none } } bridge)
  | kept (hother : ∀ {pointer : ℕ} {record : SessionRecord Hash},
      s.stored id = some (pointer, record) → record.active ≠ some bridge) :
    DetachReceiverOutcome s id bridge (s.cancel bridge)

theorem detachReceiver_outcome (s : RelayServer Hash) (id : Bytes) (bridge : ℕ) :
    DetachReceiverOutcome s id bridge (s.detachReceiver id bridge) := by
  unfold RelayServer.detachReceiver
  dsimp only
  split
  · rename_i pointer record hstored
    split
    · exact .released hstored (by assumption)
    · rename_i hother
      refine .kept fun hsame => ?_
      obtain ⟨-, rfl⟩ := Prod.mk.inj (Option.some.inj (hstored.symm.trans hsame))
      exact hother
  · rename_i hnone
    refine .kept fun hsome => ?_
    rw [hnone] at hsome
    cases hsome

/-- What it comes to that a handler lets go of its bridge. -/
inductive DetachOutcome (s : RelayState Hash) (handler : Handler) : RelayState Hash → Prop
  | receiver (hside : handler.side = .receiver) :
    DetachOutcome s handler ⟨s.server.detachReceiver handler.id handler.bridge, s.handlers⟩
  | sender (hside : handler.side = .sender) :
    DetachOutcome s handler ⟨s.server.detachSender handler.bridge, s.handlers⟩

theorem detach_outcome (s : RelayState Hash) (handler : Handler) :
    DetachOutcome s handler (s.detach handler) := by
  unfold RelayState.detach
  split
  · exact .receiver (by assumption)
  · exact .sender (by assumption)

/-- A handler that lets go of its bridge changes records and bridges alone. -/
theorem detach_eq (s : RelayState Hash) (handler : Handler) :
    ∃ records bridges, s.detach handler =
      ⟨{ s.server with records := records, bridges := bridges }, s.handlers⟩ := by
  have houtcome := detach_outcome s handler
  generalize s.detach handler = t at houtcome ⊢
  cases houtcome with
  | receiver =>
      have houtcome := detachReceiver_outcome s.server handler.id handler.bridge
      generalize s.server.detachReceiver handler.id handler.bridge = server at houtcome ⊢
      cases houtcome <;> exact ⟨_, _, rfl⟩
  | sender => exact ⟨_, _, rfl⟩

end Outcomes

/-! ## The invariant -/

variable (hash : Bytes → Hash)

/-- The records are those of their registrations. -/
structure RecordsInv (s : RelayServer Hash) : Prop where
  stored : ∀ {id pointer}, s.sessions id = some pointer →
    ∃ record : SessionRecord Hash, s.records[pointer]? = some record ∧ record.timer.id = id
  registered : ∀ {pointer : ℕ} {record : SessionRecord Hash}, s.records[pointer]? = some record →
    ∃ registration : Registration, s.registrations[pointer]? = some registration ∧
      record.timer.id = registration.id ∧ record.secretHash = hash registration.secret ∧
      record.expiresAt = registration.reading + s.ttl
  counted : s.registrations.length = s.records.length
  timed : ∀ {pointer : ℕ} {record : SessionRecord Hash}, s.records[pointer]? = some record →
    record.expiresAt ≤ record.timer.due ∧
      (record.timer.phase = .fired → record.timer.due ≤ s.now)

/-- The table is in order. -/
structure TableInv (s : RelayServer Hash) : Prop where
  records : RecordsInv hash s
  active : ∀ {pointer : ℕ} {record : SessionRecord Hash} {bridge : ℕ},
    s.records[pointer]? = some record → record.active = some bridge →
      s.sessions record.timer.id = some pointer ∧
        ∃ object : RelayBridge, s.bridges[bridge]? = some object ∧
          object.session = record.timer.id
  live : ∀ {pointer : ℕ} {bridge : RelayBridge}, s.bridges[pointer]? = some bridge →
    bridge.cancelled = false → ∃ (stored : ℕ) (record : SessionRecord Hash),
      s.sessions bridge.session = some stored ∧ s.records[stored]? = some record ∧
        record.active = some pointer

variable {hash} {s : RelayServer Hash} {id secret : Bytes} {pointer : ℕ}
  {record : SessionRecord Hash}

/-- Where nothing is found nothing is stored. -/
theorem RecordsInv.sessions_eq_none (hs : RecordsInv hash s) (hstored : s.stored id = none) :
    s.sessions id = none := by
  by_contra hsome
  obtain ⟨pointer, hpointer⟩ := Option.ne_none_iff_exists'.mp hsome
  obtain ⟨record, hrecord, -⟩ := hs.stored hpointer
  rw [stored_eq_some.mpr ⟨hpointer, hrecord⟩] at hstored
  cases hstored

/-- The record that is stored for an id was created by a registration of this id. -/
theorem RecordsInv.registration (hs : RecordsInv hash s) (hpointer : s.sessions id = some pointer)
    (hrecord : s.records[pointer]? = some record) :
    ∃ registration : Registration, s.registrations[pointer]? = some registration ∧
      registration.id = id ∧ record.secretHash = hash registration.secret ∧
      record.expiresAt = registration.reading + s.ttl := by
  obtain ⟨stored, hstored, hid⟩ := hs.stored hpointer
  obtain rfl := Option.some.inj (hstored.symm.trans hrecord)
  obtain ⟨registration, hregistration, hid', hsecret, hexpires⟩ := hs.registered hrecord
  exact ⟨registration, hregistration, hid'.symm.trans hid, hsecret, hexpires⟩

/-- The active bridge of the record that is stored for an id was made for this id. -/
theorem TableInv.session_of_active (hs : TableInv hash s) {bridge : ℕ} {object : RelayBridge}
    (hpointer : s.sessions id = some pointer) (hrecord : s.records[pointer]? = some record)
    (hactive : record.active = some bridge) (hobject : s.bridges[bridge]? = some object) :
    object.session = id := by
  obtain ⟨stored, hstored, hid⟩ := hs.records.stored hpointer
  obtain rfl := Option.some.inj (hstored.symm.trans hrecord)
  obtain ⟨-, active, hsame, hsession⟩ := hs.active hrecord hactive
  obtain rfl := Option.some.inj (hsame.symm.trans hobject)
  exact hsession.trans hid

/-- A change of a record that keeps what its registration has set. -/
structure Keeps (now : ℕ) (before after : SessionRecord Hash) : Prop where
  id : after.timer.id = before.timer.id
  due : after.timer.due = before.timer.due
  secretHash : after.secretHash = before.secretHash
  expiresAt : after.expiresAt = before.expiresAt
  fired : after.timer.phase = .fired → before.timer.phase = .fired ∨ before.timer.due ≤ now

/-- Changing one record in this way, and perhaps removing it. -/
theorem RecordsInv.modify (hs : RecordsInv hash s)
    {change : SessionRecord Hash → SessionRecord Hash}
    (hkeeps : ∀ record, s.records[pointer]? = some record → Keeps s.now record (change record))
    {sessions : Bytes → Option ℕ} {bridges : List RelayBridge}
    (hsessions : ∀ id stored, sessions id = some stored → s.sessions id = some stored) :
    RecordsInv hash { s with
      sessions := sessions
      records := s.records.modify pointer change
      bridges := bridges } := by
  -- Changed or not, a record of the new table keeps what a record of the old one has.
  have hbefore : ∀ {other : ℕ} {after : SessionRecord Hash},
      (s.records.modify pointer change)[other]? = some after →
        ∃ before, s.records[other]? = some before ∧ Keeps s.now before after := by
    intro other after hafter
    obtain ⟨before, hbefore, rfl⟩ := getElem?_modify_eq_some.mp hafter
    refine ⟨before, hbefore, ?_⟩
    split
    · rename_i hsame
      exact hkeeps before (hsame ▸ hbefore)
    · exact ⟨rfl, rfl, rfl, rfl, .inl⟩
  constructor
  case stored =>
    intro other stored hstored
    obtain ⟨before, hbeforeRecord, hid⟩ := hs.stored (hsessions other stored hstored)
    have hafter := getElem?_modify_of_some hbeforeRecord pointer change
    obtain ⟨before', hbefore', hkeeps'⟩ := hbefore hafter
    obtain rfl := Option.some.inj (hbefore'.symm.trans hbeforeRecord)
    exact ⟨_, hafter, hkeeps'.id.trans hid⟩
  case registered =>
    intro other after hafter
    obtain ⟨before, hbeforeRecord, hkeeps'⟩ := hbefore hafter
    obtain ⟨registration, hregistration, hid, hsecret, hexpires⟩ := hs.registered hbeforeRecord
    exact ⟨registration, hregistration, hkeeps'.id.trans hid, hkeeps'.secretHash.trans hsecret,
      hkeeps'.expiresAt.trans hexpires⟩
  case counted =>
    rw [List.length_modify]
    exact hs.counted
  case timed =>
    intro other after hafter
    obtain ⟨before, hbeforeRecord, hkeeps'⟩ := hbefore hafter
    obtain ⟨hdue, hfired⟩ := hs.timed hbeforeRecord
    rw [hkeeps'.expiresAt, hkeeps'.due]
    exact ⟨hdue, fun hphase => (hkeeps'.fired hphase).elim hfired id⟩

/-- Using and cancelling bridges keeps the table in order. -/
theorem TableInv.follows (hs : TableInv hash s) {bridges : List RelayBridge}
    (hfollows : Follows s.bridges bridges) : TableInv hash { s with bridges := bridges } where
  records := ⟨hs.records.stored, hs.records.registered, hs.records.counted, hs.records.timed⟩
  active hrecord hactive := by
    obtain ⟨hstored, bridge, hbridge, hsession⟩ := hs.active hrecord hactive
    obtain ⟨bridge', hbridge', hsession'⟩ := hfollows.later hbridge
    exact ⟨hstored, bridge', hbridge', hsession'.trans hsession⟩
  live hbridge' hlive := by
    obtain ⟨bridge, hbridge, hsession, hbefore⟩ := hfollows.earlier hbridge'
    obtain ⟨stored, record, hstored, hrecord, hactive⟩ := hs.live hbridge (hbefore hlive)
    exact ⟨stored, record, by rw [hsession]; exact hstored, hrecord, hactive⟩

theorem SessionRecord.keeps_expired (record : SessionRecord Hash) (now : ℕ) :
    Keeps now record record.expired := by
  unfold SessionRecord.expired Timer.stop
  split
  · exact ⟨rfl, rfl, rfl, rfl, fun hfired => nomatch hfired⟩
  · exact ⟨rfl, rfl, rfl, rfl, .inl⟩

/-- Only the active bridge of a record that expires is cancelled with it. -/
theorem follows_expireLocked (s : RelayServer Hash) (id : Bytes) (pointer : ℕ) :
    Follows s.bridges (s.expireLocked id pointer).bridges := by
  unfold RelayServer.expireLocked
  dsimp only
  split
  · exact follows_cancel _ _
  · exact .refl _

/-- The expiry of a stored record keeps the table in order. -/
theorem TableInv.expireLocked (hs : TableInv hash s) (hpointer : s.sessions id = some pointer) :
    TableInv hash (s.expireLocked id pointer) := by
  have hfollows := follows_expireLocked s id pointer
  -- The ids of the other stored records are other ids.
  have hother : ∀ {other stored}, s.sessions other = some stored → pointer ≠ stored →
      (s.expireLocked id pointer).sessions other = some stored := by
    intro other stored hstored hne
    refine sessions_expireLocked.mpr ⟨?_, hstored⟩
    rintro rfl
    rw [hpointer] at hstored
    exact hne (Option.some.inj hstored)
  constructor
  case records =>
    refine hs.records.modify (fun record _ => record.keeps_expired s.now) ?_
    intro other stored hstored
    have hafter : (s.expireLocked id pointer).sessions other = some stored := hstored
    exact (sessions_expireLocked.mp hafter).2
  case active =>
    intro other record bridge hrecord hactive
    obtain ⟨before, hbefore, rfl⟩ := getElem?_modify_eq_some.mp hrecord
    split at hactive
    · cases hactive
    rename_i hne
    rw [if_neg hne]
    obtain ⟨hstored, object, hobject, hsession⟩ := hs.active hbefore hactive
    obtain ⟨object', hobject', hsession'⟩ := hfollows.later hobject
    exact ⟨hother hstored hne, object', hobject', hsession'.trans hsession⟩
  case live =>
    intro bridge object' hobject' hlive
    obtain ⟨object, hobject, hsession, hlive'⟩ := hfollows.earlier hobject'
    obtain ⟨stored, record, hstored, hrecord, hactive⟩ := hs.live hobject (hlive' hlive)
    have hne : pointer ≠ stored := by
      rintro rfl
      have hbridges : (s.expireLocked id pointer).bridges =
          s.bridges.modify bridge RelayBridge.cancel := by
        simp [RelayServer.expireLocked, hrecord, hactive]
      rw [hbridges, getElem?_modify_self hobject] at hobject'
      obtain rfl := Option.some.inj hobject'
      cases hlive
    exact ⟨stored, record, by rw [hsession]; exact hother hstored hne,
      (getElem?_modify_of_ne hne).trans hrecord, hactive⟩

/-- The function of a timer keeps the table in order. -/
theorem TableInv.expire (hs : TableInv hash s) (id : Bytes) (pointer : ℕ) :
    TableInv hash (s.expire id pointer) := by
  have houtcome := expire_outcome s id pointer
  generalize s.expire id pointer = t at houtcome ⊢
  cases houtcome with
  | expired hpointer => exact hs.expireLocked hpointer
  | other => exact hs

/-- A timer goes on to another phase; it fires only when it is due. -/
theorem TableInv.setTimer (hs : TableInv hash s) {phase : TimerPhase}
    (hfires : phase = .fired → ∀ record, s.records[pointer]? = some record →
      record.timer.due ≤ s.now) : TableInv hash (s.setTimer pointer phase) := by
  constructor
  case records =>
    refine hs.records.modify (fun record hrecord => ?_) fun _ _ hstored => hstored
    exact ⟨rfl, rfl, rfl, rfl, fun hfired => .inr (hfires hfired record hrecord)⟩
  case active =>
    intro other record bridge hrecord hactive
    obtain ⟨before, hbefore, rfl⟩ := getElem?_modify_eq_some.mp hrecord
    have hid : (if pointer = other then { before with
        timer := { before.timer with phase := phase } } else before).timer.id =
          before.timer.id := by
      split <;> rfl
    rw [hid]
    refine hs.active hbefore ?_
    split at hactive <;> exact hactive
  case live =>
    intro bridge object hobject hlive
    obtain ⟨stored, record, hstored, hrecord, hactive⟩ := hs.live hobject hlive
    refine ⟨stored, _, hstored, getElem?_modify_of_some hrecord _ _, ?_⟩
    split <;> exact hactive

/-- A record is created for an id that has none. -/
theorem TableInv.create (hs : TableInv hash s) (hnone : s.sessions id = none) {reading : ℕ}
    (hreading : reading ≤ s.now) : TableInv hash (s.create hash id secret reading) := by
  have hother : ∀ {other stored}, s.sessions other = some stored →
      (s.create hash id secret reading).sessions other = some stored := by
    intro other stored hstored
    refine sessions_create.mpr (.inr ⟨?_, hstored⟩)
    rintro rfl
    rw [hnone] at hstored
    cases hstored
  constructor
  case records =>
    constructor
    case stored =>
      intro other stored hstored
      rcases sessions_create.mp hstored with ⟨rfl, rfl⟩ | ⟨-, hbefore⟩
      · exact ⟨_, getElem?_concat_eq_some.mpr (.inr ⟨rfl, rfl⟩), rfl⟩
      · obtain ⟨record, hrecord, hid⟩ := hs.records.stored hbefore
        exact ⟨record, getElem?_concat hrecord, hid⟩
    case registered =>
      intro other record hrecord
      rcases getElem?_concat_eq_some.mp hrecord with hbefore | ⟨rfl, rfl⟩
      · obtain ⟨registration, hregistration, hfacts⟩ := hs.records.registered hbefore
        exact ⟨registration, getElem?_concat hregistration, hfacts⟩
      · exact ⟨⟨id, secret, reading⟩,
          getElem?_concat_eq_some.mpr (.inr ⟨hs.records.counted.symm, rfl⟩), rfl, rfl, rfl⟩
    case counted =>
      simp [RelayServer.create, hs.records.counted]
    case timed =>
      intro other record hrecord
      rcases getElem?_concat_eq_some.mp hrecord with hbefore | ⟨-, rfl⟩
      · exact hs.records.timed hbefore
      · refine ⟨?_, fun hfired => nomatch hfired⟩
        show reading + s.ttl ≤ s.now + s.ttl
        omega
  case active =>
    intro other record bridge hrecord hactive
    rcases getElem?_concat_eq_some.mp hrecord with hbefore | ⟨-, rfl⟩
    · obtain ⟨hstored, hobject⟩ := hs.active hbefore hactive
      exact ⟨hother hstored, hobject⟩
    · cases hactive
  case live =>
    intro bridge object hobject hlive
    obtain ⟨stored, record, hstored, hrecord, hactive⟩ := hs.live hobject hlive
    exact ⟨stored, record, hother hstored, getElem?_concat hrecord, hactive⟩

/-- A record without a bridge gets a new one. -/
theorem TableInv.attach (hs : TableInv hash s) (hpointer : s.sessions id = some pointer)
    (hrecord : s.records[pointer]? = some record) (hfree : record.active = none) :
    TableInv hash { s with
      records := s.records.modify pointer fun record =>
        { record with active := some s.bridges.length }
      bridges := s.bridges ++ [⟨false, fun _ => .empty, false, id⟩] } := by
  obtain ⟨_, hsame, hid⟩ := hs.records.stored hpointer
  obtain rfl := Option.some.inj (hsame.symm.trans hrecord)
  constructor
  case records =>
    refine hs.records.modify (fun _ _ => ?_) fun _ _ hstored => hstored
    exact ⟨rfl, rfl, rfl, rfl, .inl⟩
  case active =>
    intro other after bridge hafter hactive
    obtain ⟨before, hbefore, rfl⟩ := getElem?_modify_eq_some.mp hafter
    split at hactive
    · rename_i hsame'
      subst hsame'
      rw [if_pos rfl]
      obtain rfl := Option.some.inj (hbefore.symm.trans hrecord)
      obtain rfl := Option.some.inj hactive
      exact ⟨by rw [hid]; exact hpointer, _, getElem?_concat_eq_some.mpr (.inr ⟨rfl, rfl⟩),
        hid.symm⟩
    · rename_i hne
      rw [if_neg hne]
      obtain ⟨hstored, object, hobject, hsession⟩ := hs.active hbefore hactive
      exact ⟨hstored, object, getElem?_concat hobject, hsession⟩
  case live =>
    intro bridge object hobject hlive
    rcases getElem?_concat_eq_some.mp hobject with hbefore | ⟨rfl, rfl⟩
    · obtain ⟨stored, before, hstored, hbeforeRecord, hactive⟩ := hs.live hbefore hlive
      have hne : pointer ≠ stored := by
        rintro rfl
        obtain rfl := Option.some.inj (hbeforeRecord.symm.trans hrecord)
        rw [hfree] at hactive
        cases hactive
      exact ⟨stored, before, hstored, (getElem?_modify_of_ne hne).trans hbeforeRecord, hactive⟩
    · exact ⟨pointer, _, hpointer, getElem?_modify_self hrecord, rfl⟩

/-- A record lets go of its bridge, and that bridge is cancelled. -/
theorem TableInv.release (hs : TableInv hash s) {bridge : ℕ}
    (hrecord : s.records[pointer]? = some record) (hactive : record.active = some bridge) :
    TableInv hash (RelayServer.cancel { s with
      records := s.records.modify pointer fun record => { record with active := none } }
        bridge) := by
  have hfollows := follows_cancel s.bridges bridge
  constructor
  case records =>
    refine hs.records.modify (fun _ _ => ?_) fun _ _ hstored => hstored
    exact ⟨rfl, rfl, rfl, rfl, .inl⟩
  case active =>
    intro other after other' hafter hactive'
    obtain ⟨before, hbefore, rfl⟩ := getElem?_modify_eq_some.mp hafter
    split at hactive'
    · cases hactive'
    rename_i hne
    rw [if_neg hne]
    obtain ⟨hstored, object, hobject, hsession⟩ := hs.active hbefore hactive'
    obtain ⟨object', hobject', hsession'⟩ := hfollows.later hobject
    exact ⟨hstored, object', hobject', hsession'.trans hsession⟩
  case live =>
    intro other object' hobject' hlive
    obtain ⟨object, hobject, hsession, hlive'⟩ := hfollows.earlier hobject'
    obtain ⟨stored, before, hstored, hbefore, hactive'⟩ := hs.live hobject (hlive' hlive)
    have hne : pointer ≠ stored := by
      rintro rfl
      obtain rfl := Option.some.inj (hbefore.symm.trans hrecord)
      obtain rfl := Option.some.inj (hactive.symm.trans hactive')
      obtain rfl := Option.some.inj (hobject'.symm.trans (getElem?_modify_self hobject))
      cases hlive
    exact ⟨stored, before, by rw [hsession]; exact hstored,
      (getElem?_modify_of_ne hne).trans hbefore, hactive'⟩

/-- Detaching a receiver keeps the table in order, whatever is stored by then. -/
theorem TableInv.detachReceiver (hs : TableInv hash s) (id : Bytes) (bridge : ℕ) :
    TableInv hash (s.detachReceiver id bridge) := by
  have houtcome := detachReceiver_outcome s id bridge
  generalize s.detachReceiver id bridge = t at houtcome ⊢
  cases houtcome with
  | released hstored hactive => exact hs.release (stored_eq_some.mp hstored).2 hactive
  | kept => exact hs.follows (follows_cancel _ _)

/-- Registration keeps the table in order. -/
theorem TableInv.register [DecidableEq Hash] (hs : TableInv hash s) (id secret : Bytes)
    {reading : ℕ} (hreading : reading ≤ s.now) :
    TableInv hash (s.register hash id secret reading).2 := by
  have houtcome := register_outcome hash s id secret reading
  generalize s.register hash id secret reading = registered at houtcome ⊢
  cases houtcome with
  | created hstored => exact hs.create (hs.records.sessions_eq_none hstored) hreading
  | @replaced pointer _ hpointer =>
      have hnone : (s.expireLocked id pointer).sessions id = none := by
        simp [RelayServer.expireLocked]
      exact (hs.expireLocked hpointer).create hnone hreading
  | repeated | conflict => exact hs

end PrintDrop.Relay
