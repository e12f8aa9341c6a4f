/-
# The table empties

Every session that is stored has a timer that has yet to do its work. So once nobody
registers any more and the time to live has passed, the timers empty the table and cancel
every bridge, in whichever order they fire and get the lock and whatever else happens in
between.
-/

import PrintDrop.Relay.Effects

namespace PrintDrop.Relay

open Math

universe u

variable {Hash : Type u}

/-- The timer has not done its work: it is armed, or it waits for the lock. -/
def TimerPhase.Pending (phase : TimerPhase) : Prop := phase = .armed ∨ phase = .fired

/-- Stored sessions have their own timers, which have not done their work, and no timer is
due later than the time to live from now. -/
structure Timed (ttl : ℕ) (s : RelayServer Hash) : Prop where
  lifetime : s.ttl = ttl
  pending : ∀ {id : Bytes} {pointer : ℕ}, s.sessions id = some pointer →
    ∃ record : SessionRecord Hash, s.records[pointer]? = some record ∧ record.timer.id = id ∧
      record.timer.phase.Pending
  due : ∀ {pointer : ℕ} {record : SessionRecord Hash}, s.records[pointer]? = some record →
    record.timer.due ≤ s.now + ttl

section Timed

variable {ttl : ℕ} {s t : RelayServer Hash} {id : Bytes} {pointer : ℕ}

/-- Changes of records that leave stored sessions their timers. -/
private theorem Timed.modify (hs : Timed ttl s) (change : SessionRecord Hash → SessionRecord Hash)
    {sessions : Bytes → Option ℕ}
    (hsessions : ∀ {id stored}, sessions id = some stored → s.sessions id = some stored)
    (htimer : ∀ record, (change record).timer.id = record.timer.id ∧
      (change record).timer.due = record.timer.due)
    (hpending : ∀ {id record}, sessions id = some pointer → s.records[pointer]? = some record →
      record.timer.phase.Pending → (change record).timer.phase.Pending)
    (bridges : List RelayBridge) :
    Timed ttl { s with
      sessions := sessions
      records := s.records.modify pointer change
      bridges := bridges } where
  lifetime := hs.lifetime
  pending := by
    intro other stored hstored
    obtain ⟨record, hrecord, hid, hphase⟩ := hs.pending (hsessions hstored)
    refine ⟨_, getElem?_modify_of_some hrecord pointer change, ?_⟩
    split
    · rename_i hsame
      subst hsame
      exact ⟨(htimer record).1.trans hid, hpending hstored hrecord hphase⟩
    · exact ⟨hid, hphase⟩
  due := by
    intro other record hrecord
    obtain ⟨before, hbefore, rfl⟩ := getElem?_modify_eq_some.mp hrecord
    have hdue := hs.due hbefore
    split
    · rw [(htimer before).2]
      exact hdue
    · exact hdue

/-- The timer of a record that is stored under no id goes on to any phase. -/
private theorem Timed.unstored (hs : Timed ttl s) (change : SessionRecord Hash → SessionRecord Hash)
    {sessions : Bytes → Option ℕ}
    (hsessions : ∀ {id stored}, sessions id = some stored →
      s.sessions id = some stored ∧ stored ≠ pointer)
    (htimer : ∀ record, (change record).timer.id = record.timer.id ∧
      (change record).timer.due = record.timer.due) (bridges : List RelayBridge) :
    Timed ttl { s with
      sessions := sessions
      records := s.records.modify pointer change
      bridges := bridges } :=
  hs.modify change (fun hstored => (hsessions hstored).1) htimer
    (fun hstored => absurd rfl (hsessions hstored).2) bridges

private theorem timer_stop (timer : Timer) :
    timer.stop.id = timer.id ∧ timer.stop.due = timer.due := by
  unfold Timer.stop
  split <;> exact ⟨rfl, rfl⟩

/-- A stored record is stored under the id of its timer alone. -/
private theorem Timed.id_eq (hs : Timed ttl s) {other : Bytes}
    (hstored : s.sessions id = some pointer)
    (hother : s.sessions other = some pointer) : other = id := by
  obtain ⟨record, hrecord, hid, -⟩ := hs.pending hstored
  obtain ⟨record', hrecord', hid', -⟩ := hs.pending hother
  obtain rfl := Option.some.inj (hrecord.symm.trans hrecord')
  exact hid'.symm.trans hid

private theorem Timed.expireLocked (hs : Timed ttl s) (hstored : s.sessions id = some pointer) :
    Timed ttl (s.expireLocked id pointer) := by
  apply hs.unstored _ (fun {other stored} hother => ?_) fun record => timer_stop record.timer
  have hafter : (s.expireLocked id pointer).sessions other = some stored := hother
  obtain ⟨hne, hbefore⟩ := sessions_expireLocked.mp hafter
  refine ⟨hbefore, ?_⟩
  rintro rfl
  exact hne (hs.id_eq hstored hbefore)

private theorem Timed.create (hs : Timed ttl s) (hash : Bytes → Hash) (id secret : Bytes)
    (reading : ℕ) : Timed ttl (s.create hash id secret reading) where
  lifetime := hs.lifetime
  pending := by
    intro other stored hstored
    rcases sessions_create.mp hstored with ⟨rfl, rfl⟩ | ⟨-, hbefore⟩
    · exact ⟨_, getElem?_concat_eq_some.mpr (.inr ⟨rfl, rfl⟩), rfl, .inl rfl⟩
    · obtain ⟨record, hrecord, hfacts⟩ := hs.pending hbefore
      exact ⟨record, getElem?_concat hrecord, hfacts⟩
  due := by
    intro other record hrecord
    rcases getElem?_concat_eq_some.mp hrecord with hbefore | ⟨-, rfl⟩
    · exact hs.due hbefore
    · exact Nat.add_le_add_left hs.lifetime.le _

/-- Bridges have no timers. -/
private theorem Timed.congr (hs : Timed ttl s) (hsessions : t.sessions = s.sessions)
    (hrecords : t.records = s.records) (hnow : s.now ≤ t.now) (httl : t.ttl = s.ttl) :
    Timed ttl t where
  lifetime := httl.trans hs.lifetime
  pending := by
    rw [hsessions, hrecords]
    exact hs.pending
  due := by
    intro pointer record hrecord
    rw [hrecords] at hrecord
    exact (hs.due hrecord).trans (Nat.add_le_add_right hnow _)

private theorem Timed.detachReceiver (hs : Timed ttl s) (id : Bytes) (bridge : ℕ) :
    Timed ttl (s.detachReceiver id bridge) := by
  have houtcome := detachReceiver_outcome s id bridge
  generalize s.detachReceiver id bridge = t at houtcome ⊢
  cases houtcome with
  | released =>
      exact hs.modify (fun record => { record with active := none })
        (fun hstored => hstored) (fun _ => ⟨rfl, rfl⟩) (fun _ _ hphase => hphase) _
  | kept => exact hs.congr rfl rfl (le_refl _) rfl

/-- A timer that has fired does its work: the record is no longer stored. -/
private theorem Timed.expire (hs : Timed ttl s) {record : SessionRecord Hash}
    (hrecord : s.records[pointer]? = some record) :
    Timed ttl ((s.setTimer pointer .done).expire record.timer.id pointer) := by
  unfold RelayServer.expire
  split
  · rename_i hstored
    have hunstored : ∀ {id stored},
        Function.update s.sessions record.timer.id none id = some stored →
          s.sessions id = some stored ∧ stored ≠ pointer := by
      intro id stored hsome
      by_cases hsame : id = record.timer.id
      · subst hsame
        simp at hsome
      · rw [Function.update_of_ne hsame] at hsome
        refine ⟨hsome, ?_⟩
        rintro rfl
        exact hsame (hs.id_eq hstored hsome)
    unfold RelayServer.expireLocked RelayServer.setTimer
    rw [List.modify_modify_eq]
    exact hs.unstored _ hunstored (fun _ => timer_stop _) _
  · rename_i hnot
    refine hs.unstored
      (fun record => { record with timer := { record.timer with phase := .done } })
      (fun {id stored} hstored => ⟨hstored, ?_⟩) (fun _ => ⟨rfl, rfl⟩) s.bridges
    rintro rfl
    -- The record would be stored under its timer's id.
    obtain ⟨record', hrecord', rfl, -⟩ := hs.pending hstored
    obtain rfl := Option.some.inj (hrecord.symm.trans hrecord')
    exact hnot hstored

variable [DecidableEq Hash] {hash : Bytes → Hash}

private theorem Timed.register (hs : Timed ttl s) (id secret : Bytes) (reading : ℕ) :
    Timed ttl (s.register hash id secret reading).2 := by
  have houtcome := register_outcome hash s id secret reading
  generalize s.register hash id secret reading = registered at houtcome ⊢
  cases houtcome with
  | created => exact hs.create hash id secret reading
  | replaced hpointer => exact (hs.expireLocked hpointer).create hash id secret reading
  | repeated | conflict => exact hs

/-- Every step of the relay leaves the stored sessions their timers. -/
theorem Timed.step {s t : RelayState Hash} {action : RelayAction} (hs : Timed ttl s.server)
    (hstep : step hash s action = some t) : Timed ttl t.server := by
  have hdetach : ∀ handler : Handler, Timed ttl (s.detach handler).server := by
    intro handler
    have houtcome := detach_outcome s handler
    generalize s.detach handler = t at houtcome ⊢
    cases houtcome with
    | receiver => exact hs.detachReceiver _ _
    | sender => exact hs.congr rfl rfl (le_refl _) rfl
  cases step_cases hstep with
  | tick elapsed => exact hs.congr rfl rfl (Nat.le_add_right _ _) rfl
  | @register id secret reading => exact hs.register id secret reading
  | attachReceiver id secret =>
      have houtcome := attachReceiver_outcome hash s.server id secret
      generalize s.server.attachReceiver hash id secret = attached at houtcome
      cases houtcome with
      | expired hpointer => exact hs.expireLocked hpointer
      | refused => exact hs
      | granted =>
          exact hs.modify (fun record => { record with active := some s.server.bridges.length })
            (fun hstored => hstored) (fun _ => ⟨rfl, rfl⟩) (fun _ _ hphase => hphase) _
  | attachSender id =>
      have houtcome := attachSender_outcome s.server id
      generalize s.server.attachSender id = attached at houtcome
      cases houtcome with
      | expired hpointer => exact hs.expireLocked hpointer
      | refused => exact hs
      | granted => exact hs.congr rfl rfl (le_refl _) rfl
  | accept | close => exact hs
  | refuse | leave => exact hdetach _
  | serve | cancel => exact hs.congr rfl rfl (le_refl _) rfl
  | timerFires hrecord hdue =>
      exact hs.modify
        (fun record => { record with timer := { record.timer with phase := .fired } })
        (fun hstored => hstored) (fun _ => ⟨rfl, rfl⟩) (fun _ _ _ => .inr rfl) s.server.bridges
  | expire hrecord => exact hs.expire hrecord

end Timed

theorem timed_of_runWithin [DecidableEq Hash] {hash : Bytes → Hash} {ttl : ℕ}
    {allowed : RelayState Hash → RelayAction → Prop} {s : RelayState Hash}
    (hrun : (system hash ttl).RunWithin allowed s) : Timed ttl s.server := by
  have hstart : Timed ttl (system hash ttl).init.server := {
    lifetime := rfl
    pending := fun hstored => nomatch hstored
    due := fun hrecord => nomatch hrecord }
  exact hrun.invariant (P := fun state => Timed ttl state.server) hstart
    fun _ hs _ hstep => hs.step hstep

/-! ## The timers at work -/

/-- The action is a step of a timer. -/
def RelayAction.ofTimer : RelayAction → Bool
  | .timerFires _ | .expire _ => true
  | _ => false

def RelayAction.registers : RelayAction → Bool
  | .register .. => true
  | _ => false

/-- How many steps a timer has before it. -/
def TimerPhase.steps : TimerPhase → ℕ
  | .armed => 2
  | .fired => 1
  | .stopped | .done => 0

/-- How many steps the timers have before them. -/
def timerSteps (s : RelayServer Hash) : ℕ :=
  (s.records.map fun record => record.timer.phase.steps).sum

/-- Nothing is stored, and every bridge has been cancelled. -/
structure Drained (s : RelayServer Hash) : Prop where
  sessions : ∀ id, s.sessions id = none
  bridges : ∀ bridge ∈ s.bridges, bridge.cancelled = true

/-- A step that makes no session: the timers that there are have no more before them, and are
due when they were due. -/
structure WindsDown (s t : RelayServer Hash) : Prop where
  now : s.now ≤ t.now
  sessions : ∀ {id : Bytes} {pointer : ℕ}, t.sessions id = some pointer →
    s.sessions id = some pointer
  due : ∀ {pointer : ℕ} {after : SessionRecord Hash}, t.records[pointer]? = some after →
    ∃ before : SessionRecord Hash, s.records[pointer]? = some before ∧
      after.timer.due = before.timer.due
  steps : timerSteps t ≤ timerSteps s

section WindsDown

variable {s t u : RelayServer Hash} {pointer : ℕ} {record : SessionRecord Hash}

/-- Changing one record. -/
private theorem timerSteps_modify {records : List (SessionRecord Hash)}
    (hrecord : records[pointer]? = some record) (change : SessionRecord Hash → SessionRecord Hash) :
    ((records.modify pointer change).map fun record => record.timer.phase.steps).sum +
        record.timer.phase.steps =
      (records.map fun record => record.timer.phase.steps).sum +
        (change record).timer.phase.steps := by
  induction records generalizing pointer with
  | nil => cases hrecord
  | cons first rest ih =>
      cases pointer with
      | zero =>
          obtain rfl := Option.some.inj hrecord
          simp only [List.modify_zero_cons, List.map_cons, List.sum_cons]
          omega
      | succ pointer =>
          have hrest := ih (by simpa using hrecord)
          simp only [List.modify_succ_cons, List.map_cons, List.sum_cons]
          omega

/-- Records stay as they are. -/
private theorem windsDown_of_records (hnow : s.now ≤ t.now) (hsessions : t.sessions = s.sessions)
    (hrecords : t.records = s.records) : WindsDown s t where
  now := hnow
  sessions hstored := by rwa [hsessions] at hstored
  due hafter := ⟨_, by rwa [hrecords] at hafter, rfl⟩
  steps := by rw [timerSteps, timerSteps, hrecords]

private theorem WindsDown.trans (hst : WindsDown s t) (htu : WindsDown t u) : WindsDown s u where
  now := hst.now.trans htu.now
  sessions hstored := hst.sessions (htu.sessions hstored)
  due := by
    intro pointer after hafter
    obtain ⟨middle, hmiddle, hdue⟩ := htu.due hafter
    obtain ⟨before, hbefore, hdue'⟩ := hst.due hmiddle
    exact ⟨before, hbefore, hdue.trans hdue'⟩
  steps := htu.steps.trans hst.steps

/-- One record is changed, and its timer has no more before it. -/
private theorem windsDown_modify (hnow : t.now = s.now)
    (hsessions : ∀ {id stored}, t.sessions id = some stored → s.sessions id = some stored)
    {change : SessionRecord Hash → SessionRecord Hash}
    (hrecords : t.records = s.records.modify pointer change)
    (hdue : ∀ record, (change record).timer.due = record.timer.due)
    (hsteps : ∀ record, s.records[pointer]? = some record →
      (change record).timer.phase.steps ≤ record.timer.phase.steps) : WindsDown s t where
  now := hnow.ge
  sessions := hsessions
  due := by
    intro other after hafter
    rw [hrecords] at hafter
    obtain ⟨before, hbefore, rfl⟩ := getElem?_modify_eq_some.mp hafter
    refine ⟨before, hbefore, ?_⟩
    split
    · exact hdue before
    · rfl
  steps := by
    rw [timerSteps, timerSteps, hrecords]
    cases hrecord : s.records[pointer]? with
    | none => rw [List.modify_eq_self (List.getElem?_eq_none_iff.mp hrecord)]
    | some record =>
        have hsum := timerSteps_modify hrecord change
        have hless := hsteps record hrecord
        omega

private theorem steps_stop (timer : Timer) : timer.stop.phase.steps ≤ timer.phase.steps := by
  unfold Timer.stop
  split
  · exact Nat.zero_le _
  · exact le_refl _

private theorem windsDown_expireLocked (s : RelayServer Hash) (id : Bytes) (pointer : ℕ) :
    WindsDown s (s.expireLocked id pointer) := by
  refine windsDown_modify rfl (fun {other stored} hstored => ?_) rfl
    (fun record => (timer_stop record.timer).2) fun record _ => steps_stop record.timer
  exact (sessions_expireLocked.mp hstored).2

private theorem windsDown_detachReceiver (s : RelayServer Hash) (id : Bytes) (bridge : ℕ) :
    WindsDown s (s.detachReceiver id bridge) := by
  have houtcome := detachReceiver_outcome s id bridge
  generalize s.detachReceiver id bridge = t at houtcome ⊢
  cases houtcome with
  | released =>
      exact windsDown_modify rfl (fun hstored => hstored) rfl (fun _ => rfl) fun _ _ => le_refl _
  | kept => exact windsDown_of_records (le_refl _) rfl rfl

/-- A timer goes on to its next phase. -/
private theorem windsDown_setTimer {phase : TimerPhase}
    (hrecord : s.records[pointer]? = some record)
    (hless : phase.steps < record.timer.phase.steps) :
    WindsDown s (s.setTimer pointer phase) ∧
      timerSteps (s.setTimer pointer phase) < timerSteps s := by
  constructor
  · refine windsDown_modify rfl (fun hstored => hstored) rfl (fun _ => rfl) ?_
    intro before hbefore
    obtain rfl := Option.some.inj (hbefore.symm.trans hrecord)
    exact hless.le
  · have hsum : timerSteps (s.setTimer pointer phase) + record.timer.phase.steps =
        timerSteps s + phase.steps := timerSteps_modify hrecord _
    omega

/-- A timer that has fired has nothing before it once it has had the lock. -/
private theorem windsDown_expire (hrecord : s.records[pointer]? = some record)
    (hfired : record.timer.phase = .fired) (id : Bytes) :
    WindsDown s ((s.setTimer pointer .done).expire id pointer) ∧
      timerSteps ((s.setTimer pointer .done).expire id pointer) < timerSteps s := by
  have hless : TimerPhase.done.steps < record.timer.phase.steps := by
    rw [hfired]
    exact Nat.zero_lt_one
  obtain ⟨hset, hlt⟩ := windsDown_setTimer hrecord hless
  have houtcome := expire_outcome (s.setTimer pointer .done) id pointer
  generalize (s.setTimer pointer .done).expire id pointer = t at houtcome ⊢
  cases houtcome with
  | expired =>
      have hexpire := windsDown_expireLocked (s.setTimer pointer .done) id pointer
      exact ⟨hset.trans hexpire, hexpire.steps.trans_lt hlt⟩
  | other => exact ⟨hset, hlt⟩

end WindsDown

variable [DecidableEq Hash] {hash : Bytes → Hash} {ttl : ℕ}

/-- Only a registration winds a timer up, and a timer's own steps wind it down. -/
theorem windsDown_step {s t : RelayState Hash} {action : RelayAction}
    (hother : action.registers = false) (hstep : step hash s action = some t) :
    WindsDown s.server t.server ∧
      (action.ofTimer = true → timerSteps t.server < timerSteps s.server) := by
  have hdetach : ∀ handler, WindsDown s.server (s.detach handler).server := by
    intro handler
    have houtcome := detach_outcome s handler
    generalize s.detach handler = detached at houtcome ⊢
    cases houtcome with
    | receiver => exact windsDown_detachReceiver _ _ _
    | sender => exact windsDown_of_records (le_refl _) rfl rfl
  cases step_cases hstep with
  | register => cases hother
  | tick elapsed =>
      exact ⟨windsDown_of_records (Nat.le_add_right _ _) rfl rfl, fun htimer => nomatch htimer⟩
  | attachReceiver id secret =>
      refine ⟨?_, fun htimer => nomatch htimer⟩
      have houtcome := attachReceiver_outcome hash s.server id secret
      generalize s.server.attachReceiver hash id secret = attached at houtcome
      cases houtcome with
      | expired => exact windsDown_expireLocked _ _ _
      | refused => exact windsDown_of_records (le_refl _) rfl rfl
      | granted =>
          exact windsDown_modify rfl (fun hstored => hstored) rfl (fun _ => rfl)
            fun _ _ => le_refl _
  | attachSender id =>
      refine ⟨?_, fun htimer => nomatch htimer⟩
      have houtcome := attachSender_outcome s.server id
      generalize s.server.attachSender id = attached at houtcome
      cases houtcome with
      | expired => exact windsDown_expireLocked _ _ _
      | refused | granted => exact windsDown_of_records (le_refl _) rfl rfl
  | accept | close | serve | cancel =>
      exact ⟨windsDown_of_records (le_refl _) rfl rfl, fun htimer => nomatch htimer⟩
  | refuse | leave => exact ⟨hdetach _, fun htimer => nomatch htimer⟩
  | @timerFires pointer record hrecord hdue =>
      have hless : TimerPhase.fired.steps < record.timer.phase.steps := by
        rw [hdue.1]
        exact Nat.one_lt_two
      obtain ⟨hwinds, hlt⟩ := windsDown_setTimer hrecord hless
      exact ⟨hwinds, fun _ => hlt⟩
  | expire hrecord hfired =>
      obtain ⟨hwinds, hlt⟩ := windsDown_expire hrecord hfired _
      exact ⟨hwinds, fun _ => hlt⟩

/-- A relay whose timers are all due. -/
private structure Draining (hash : Bytes → Hash) (ttl : ℕ) (s : RelayState Hash) : Prop where
  inv : RelayInv hash s
  timed : Timed ttl s.server
  due : ∀ {pointer : ℕ} {record : SessionRecord Hash}, s.server.records[pointer]? = some record →
    record.timer.due ≤ s.server.now

omit [DecidableEq Hash] in
/-- Where nothing is stored no bridge is live. -/
private theorem RelayInv.drained {s : RelayState Hash} (hs : RelayInv hash s)
    (hnone : ∀ id, s.server.sessions id = none) : Drained s.server := by
  refine ⟨hnone, fun bridge hbridge => ?_⟩
  obtain ⟨pointer, hpointer⟩ := List.mem_iff_getElem?.mp hbridge
  by_contra hlive
  obtain ⟨stored, _, hstored, -⟩ := hs.table.live hpointer (Bool.eq_false_iff.mpr hlive)
  rw [hnone] at hstored
  cases hstored

/-- While anything is left, a timer is ready to go on. -/
private theorem Draining.enabled {s : RelayState Hash} (hs : Draining hash ttl s) :
    Drained s.server ∨ ∃ action target, action.ofTimer = true ∧
      step hash s action = some target := by
  by_cases hnone : ∀ id, s.server.sessions id = none
  · exact .inl (hs.inv.drained hnone)
  · right
    obtain ⟨id, hid⟩ := not_forall.mp hnone
    obtain ⟨pointer, hpointer⟩ := Option.ne_none_iff_exists'.mp hid
    obtain ⟨record, hrecord, -, harmed | hfired⟩ := hs.timed.pending hpointer
    · have hstep : (step hash s (.timerFires pointer)).isSome := by
        simp [step, RelayState.timerFires, hrecord, harmed, hs.due hrecord]
      obtain ⟨t, ht⟩ := Option.isSome_iff_exists.mp hstep
      exact ⟨.timerFires pointer, t, rfl, ht⟩
    · have hstep : (step hash s (.expire pointer)).isSome := by
        simp [step, RelayState.expire, hrecord, hfired]
      obtain ⟨t, ht⟩ := Option.isSome_iff_exists.mp hstep
      exact ⟨.expire pointer, t, rfl, ht⟩

/-- **Step lemma.** Whatever happens but a registration, the timers stay due, and have no more
before them. -/
private theorem Draining.step {s t : RelayState Hash} {action : RelayAction}
    (hs : Draining hash ttl s) (hother : action.registers = false)
    (hstep : (system hash ttl).step s action = some t) :
    Draining hash ttl t ∧ timerSteps t.server ≤ timerSteps s.server ∧
      (action.ofTimer = true → timerSteps t.server < timerSteps s.server) := by
  obtain ⟨hwinds, hless⟩ := windsDown_step hother hstep
  refine ⟨⟨hs.inv.step hstep, hs.timed.step hstep, fun hafter => ?_⟩, hwinds.steps, hless⟩
  obtain ⟨before, hbefore, hdue⟩ := hwinds.due hafter
  rw [hdue]
  exact (hs.due hbefore).trans hwinds.now

/-- Without a registration nothing is stored again. -/
private theorem RelayInv.drained_run (actions : List RelayAction) :
    ∀ {s t : RelayState Hash}, RelayInv hash s → Drained s.server →
      (∀ action ∈ actions, action.registers = false) →
        (system hash ttl).run s actions = some t → Drained t.server := by
  induction actions with
  | nil =>
      intro s t _ hs _ hrun
      obtain rfl : s = t := by simpa using hrun
      exact hs
  | cons action rest ih =>
      intro s t hinv hs hothers hrun
      obtain ⟨next, hnext, hrest⟩ := Option.bind_eq_some_iff.mp hrun
      have hstep : Relay.step hash s action = some next := hnext
      obtain ⟨hwinds, -⟩ := windsDown_step (hothers action List.mem_cons_self) hstep
      have hnone : ∀ id, next.server.sessions id = none := by
        intro id
        by_contra hsome
        obtain ⟨pointer, hpointer⟩ := Option.ne_none_iff_exists'.mp hsome
        have hbefore := hwinds.sessions hpointer
        rw [hs.sessions] at hbefore
        cases hbefore
      have hinv' := hinv.step hstep
      exact ih hinv' (hinv'.drained hnone)
        (fun other hother => hothers other (List.mem_cons_of_mem _ hother)) hrest

/-- What the timers do to a table, from a state that leaves them so many steps: of these they
have taken some by now, they go on while anything is left, and once they have taken them all
nothing is left, then and later. -/
structure Drains (hash : Bytes → Hash) (ttl steps taken : ℕ) (s : RelayState Hash) : Prop where
  bounded : taken + timerSteps s.server ≤ steps
  enabled : Drained s.server ∨ ∃ action target, action.ofTimer = true ∧
    Relay.step hash s action = some target
  drained : taken = steps → Drained s.server
  stays : Drained s.server → ∀ actions t, (∀ action ∈ actions, action.registers = false) →
    (system hash ttl).run s actions = some t → Drained t.server

/-- **The table empties.** From every state of every run, once the time to live has passed, and
whatever is done then but registering, in any order: the timers come to an end of their work,
which nothing else delays or adds to, and then no session is stored and no bridge is live. -/
theorem table_drains {s t : RelayState Hash} (hreachable : (system hash ttl).Reachable s)
    {elapsed : ℕ} (helapsed : ttl ≤ elapsed) {actions : List RelayAction}
    (hothers : ∀ action ∈ actions, action.registers = false)
    (hrun : (system hash ttl).run s (.tick elapsed :: actions) = some t) :
    Drains hash ttl (timerSteps s.server) (actions.countP RelayAction.ofTimer) t := by
  have hinv := relayInv_of_runWithin hreachable
  have htimed := timed_of_runWithin hreachable
  obtain ⟨ticked, hticked, hrest⟩ := Option.bind_eq_some_iff.mp hrun
  have hstep : step hash s (.tick elapsed) = some ticked := hticked
  obtain rfl : { s with server := { s.server with now := s.server.now + elapsed } } = ticked :=
    Option.some.inj hstep
  have hstart : Draining hash ttl
      { s with server := { s.server with now := s.server.now + elapsed } } := {
    inv := hinv.step hstep
    timed := htimed.step hstep
    due := fun hrecord => (htimed.due hrecord).trans (Nat.add_le_add_left helapsed _) }
  obtain ⟨hdraining, hbounded⟩ := TransitionSystem.countP_add_measure_le (P := Draining hash ttl)
    (fun state => timerSteps state.server) Draining.step actions hstart hothers hrest
  have hsteps : ∀ {u : RelayState Hash} {action : RelayAction}, action.ofTimer = true →
      step hash t action = some u → 0 < timerSteps t.server := by
    intro u action htimer htaken
    have hother : action.registers = false := by
      cases action <;> first | rfl | cases htimer
    exact Nat.zero_lt_of_lt ((windsDown_step hother htaken).2 htimer)
  refine ⟨hbounded, hdraining.enabled, fun hall => ?_, fun hdrained more u hmore hlater =>
    RelayInv.drained_run more hdraining.inv hdrained hmore hlater⟩
  rcases hdraining.enabled with hdrained | ⟨action, u, htimer, htaken⟩
  · exact hdrained
  · -- No timer has a step before it.
    have hpositive := hsteps htimer htaken
    have hbound : actions.countP RelayAction.ofTimer + timerSteps t.server ≤
      timerSteps s.server := hbounded
    omega

/-- A session is registered, and its receiver waits for a sender. -/
def waiting : RelayState Bytes :=
  ((system (id : Bytes → Bytes) 5).run (system id 5).init
    [.register [1] [2] 0, .attachReceiver [1] [2]]).getD (system id 5).init

/-- The receiver's connection is accepted while the session's timer fires. -/
def expiring : List RelayAction := [.timerFires 0, .accept 0 true, .expire 0]

/-- Five seconds later the session is forgotten and the receiver's bridge cancelled. -/
theorem waiting_drains : ∃ t, (system (id : Bytes → Bytes) 5).run waiting (.tick 5 :: expiring) =
    some t ∧ Drains id 5 2 2 t := by
  have hsome : ((system (id : Bytes → Bytes) 5).run waiting (.tick 5 :: expiring)).isSome := rfl
  have hrun := (Option.some_get hsome).symm
  refine ⟨_, hrun, table_drains (TransitionSystem.reachable_getD_run _) (le_refl 5) ?_ hrun⟩
  simp [expiring, RelayAction.registers]

end PrintDrop.Relay
