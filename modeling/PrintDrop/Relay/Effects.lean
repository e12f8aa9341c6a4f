/-
# What the relay's steps do

Each step of the relay, said once: what it does to the bridges and to the handlers, and
which bridges are active afterwards. The invariants of the relay are derived from this.
-/

import PrintDrop.Relay.Table

namespace PrintDrop.Relay

open Math

universe u

variable {Hash : Type u}

/-- What a step of a peer comes to. -/
inductive PeerOutcome (party : ℕ) (side : Side) (peer : Peer) (bridge : RelayBridge) :
    PeerAction → Peer → RelayBridge → Prop
  | read {message : WsMessage} (hreader : peer.reader = .reading) (hended : peer.ended = false)
    (htype : message.type = .binary) (hsize : message.data.length ≤ maxWSMessageBytes) :
    PeerOutcome party side peer bridge (.readMessage message)
      { peer with read := peer.read ++ [message], reader := .sending message.data } bridge
  | invalid {message : WsMessage} (hreader : peer.reader = .reading) (hended : peer.ended = false)
    (hinvalid : message.type ≠ .binary ∨ maxWSMessageBytes < message.data.length) :
    PeerOutcome party side peer bridge (.readMessage message)
      { peer with
        read := peer.read ++ [message]
        cancelled := true
        reader := .returned (.invalid message) } bridge
  | readFailed {error : ReadError} (hreader : peer.reader = .reading)
    (hfails : peer.canFail side bridge error = true) :
    PeerOutcome party side peer bridge (.readError error)
      { peer with
        cancelled := true
        reader := .returned (.error error)
        ended := peer.ended || error.closesConnection } bridge
  | sent {message : Bytes} {channel : Channel ℕ Bytes 1} (hreader : peer.reader = .sending message)
    (hsend : (bridge.channel side.other).send party message = some channel) :
    PeerOutcome party side peer bridge .send { peer with reader := .reading }
      { bridge with channel := Function.update bridge.channel side.other channel }
  | readerDone {message : Bytes} (hreader : peer.reader = .sending message)
    (hdone : peer.done bridge = true) :
    PeerOutcome party side peer bridge .readerDone
      { peer with cancelled := true, reader := .returned (.done message) } bridge
  | received {message : Bytes} {channel : Channel ℕ Bytes 1} (hwriter : peer.writer = .selecting)
    (hreceive : (bridge.channel side).receive party = some (message, channel)) :
    PeerOutcome party side peer bridge .receive { peer with writer := .writing message }
      { bridge with channel := Function.update bridge.channel side channel }
  | writerDone (hwriter : peer.writer = .selecting) (hdone : peer.done bridge = true) :
    PeerOutcome party side peer bridge .writerDone { peer with writer := .returned none } bridge
  | wrote {message : Bytes} (hwriter : peer.writer = .writing message)
    (hended : peer.ended = false) :
    PeerOutcome party side peer bridge (.write true)
      { peer with
        writer := .selecting
        written := peer.written ++ [binaryMessage message] } bridge
  | writeFailed {message : Bytes} (hwriter : peer.writer = .writing message) :
    PeerOutcome party side peer bridge (.write false)
      { peer with cancelled := true, writer := .returned (some message), ended := true } bridge

theorem servePeer_outcome {party : ℕ} {side : Side} {peer peer' : Peer}
    {bridge bridge' : RelayBridge} {action : PeerAction}
    (hserve : peer.servePeer party side bridge action = some (peer', bridge')) :
    PeerOutcome party side peer bridge action peer' bridge' := by
  cases action with
  | readMessage message =>
      simp only [Peer.servePeer] at hserve
      split at hserve
      · rename_i hcan
        obtain ⟨hreader, hended⟩ := hcan
        have hopen : peer.ended = false := Bool.eq_false_iff.mpr hended
        split at hserve
        · rename_i hinvalid
          obtain ⟨rfl, rfl⟩ := Prod.mk.inj (Option.some.inj hserve)
          exact .invalid hreader hopen hinvalid
        · rename_i hvalid
          obtain ⟨rfl, rfl⟩ := Prod.mk.inj (Option.some.inj hserve)
          obtain ⟨htype, hsize⟩ := not_or.mp hvalid
          exact .read hreader hopen (not_not.mp htype) (not_lt.mp hsize)
      · cases hserve
  | readError error =>
      simp only [Peer.servePeer] at hserve
      split at hserve
      · rename_i hcan
        obtain ⟨rfl, rfl⟩ := Prod.mk.inj (Option.some.inj hserve)
        exact .readFailed hcan.1 hcan.2
      · cases hserve
  | send =>
      simp only [Peer.servePeer] at hserve
      split at hserve
      · rename_i message hreader
        obtain ⟨channel, hsend, hsame⟩ := Option.map_eq_some_iff.mp hserve
        obtain ⟨rfl, rfl⟩ := Prod.mk.inj hsame
        exact .sent hreader hsend
      · cases hserve
  | readerDone =>
      simp only [Peer.servePeer] at hserve
      split at hserve
      · rename_i message hreader
        split at hserve
        · rename_i hdone
          obtain ⟨rfl, rfl⟩ := Prod.mk.inj (Option.some.inj hserve)
          exact .readerDone hreader hdone
        · cases hserve
      · cases hserve
  | receive =>
      simp only [Peer.servePeer] at hserve
      split at hserve
      · rename_i hwriter
        obtain ⟨⟨message, channel⟩, hreceive, hsame⟩ := Option.map_eq_some_iff.mp hserve
        obtain ⟨rfl, rfl⟩ := Prod.mk.inj hsame
        exact .received hwriter hreceive
      · cases hserve
  | writerDone =>
      simp only [Peer.servePeer] at hserve
      split at hserve
      · rename_i hcan
        obtain ⟨rfl, rfl⟩ := Prod.mk.inj (Option.some.inj hserve)
        exact .writerDone hcan.1 hcan.2
      · cases hserve
  | write succeeds =>
      simp only [Peer.servePeer] at hserve
      split at hserve
      · rename_i message hwriter
        cases succeeds with
        | true =>
            simp only [if_true] at hserve
            split at hserve
            · cases hserve
            · rename_i hended
              obtain ⟨rfl, rfl⟩ := Prod.mk.inj (Option.some.inj hserve)
              exact .wrote hwriter (Bool.eq_false_iff.mpr hended)
        | false =>
            obtain ⟨rfl, rfl⟩ := Prod.mk.inj (Option.some.inj hserve)
            exact .writeFailed hwriter
      · cases hserve

/-- A peer uses its bridge, but neither cancels it nor lets another sender in. -/
theorem PeerOutcome.bridge_eq {party : ℕ} {side : Side} {peer peer' : Peer}
    {bridge bridge' : RelayBridge} {action : PeerAction}
    (houtcome : PeerOutcome party side peer bridge action peer' bridge') :
    bridge' = { bridge with channel := bridge'.channel } := by
  cases houtcome <;> rfl

/-- The bridge is the active one of a record. -/
def RelayServer.Active (s : RelayServer Hash) (bridge : ℕ) : Prop :=
  ∃ (pointer : ℕ) (record : SessionRecord Hash), s.records[pointer]? = some record ∧
    record.active = some bridge

/-- The bridge is the active one of a record that has expired. -/
def RelayServer.Lapsed (s : RelayServer Hash) (bridge : ℕ) : Prop :=
  ∃ (pointer : ℕ) (record : SessionRecord Hash), s.records[pointer]? = some record ∧
    record.active = some bridge ∧ record.expiresAt ≤ s.now

/-- A step of the table alone: it cancels no bridge but one whose session has expired. -/
structure TableStep (s t : RelayServer Hash) : Prop where
  later : ∀ {pointer : ℕ} {bridge : RelayBridge}, s.bridges[pointer]? = some bridge →
    ∃ bridge' : RelayBridge, t.bridges[pointer]? = some bridge' ∧ bridge'.session = bridge.session
  earlier : ∀ {pointer : ℕ} {bridge' : RelayBridge}, t.bridges[pointer]? = some bridge' →
    ∃ bridge, s.bridges[pointer]? = some bridge ∧
      (bridge' = bridge ∨ bridge' = bridge.cancel ∧ s.Lapsed pointer)
  active : ∀ {bridge}, t.Active bridge → s.Active bridge

section TableSteps

variable {hash : Bytes → Hash} {s t : RelayServer Hash} {id secret : Bytes} {pointer : ℕ}

/-- What changes no bridge and makes none active. -/
theorem tableStep_of_bridges (hbridges : t.bridges = s.bridges)
    (hactive : ∀ {bridge}, t.Active bridge → s.Active bridge) : TableStep s t where
  later hbridge := ⟨_, by rw [hbridges]; exact hbridge, rfl⟩
  earlier hbridge := ⟨_, by rw [← hbridges]; exact hbridge, .inl rfl⟩
  active := hactive

theorem TableStep.refl (s : RelayServer Hash) : TableStep s s :=
  tableStep_of_bridges rfl id

/-- A change of records that makes no bridge active. -/
theorem active_modify {change : SessionRecord Hash → SessionRecord Hash}
    (hrecords : t.records = s.records.modify pointer change)
    (hchange : ∀ record bridge, (change record).active = some bridge →
      record.active = some bridge) {bridge : ℕ} (hactive : t.Active bridge) :
    s.Active bridge := by
  obtain ⟨other, record, hrecord, hbridge⟩ := hactive
  rw [hrecords] at hrecord
  obtain ⟨before, hbefore, rfl⟩ := getElem?_modify_eq_some.mp hrecord
  refine ⟨other, before, hbefore, ?_⟩
  split at hbridge
  · exact hchange _ _ hbridge
  · exact hbridge

theorem tableStep_expireLocked (hexpired : ∀ record : SessionRecord Hash,
    s.records[pointer]? = some record → record.expiresAt ≤ s.now) :
    TableStep s (s.expireLocked id pointer) where
  later := (follows_expireLocked s id pointer).later
  earlier := by
    intro other bridge' hbridge'
    unfold RelayServer.expireLocked at hbridge'
    dsimp only at hbridge'
    split at hbridge'
    · rename_i active hactive
      obtain ⟨record, hrecord, hactive⟩ := Option.bind_eq_some_iff.mp hactive
      obtain ⟨bridge, hbridge, rfl⟩ := getElem?_modify_eq_some.mp hbridge'
      refine ⟨bridge, hbridge, ?_⟩
      split
      · rename_i hsame
        subst hsame
        exact .inr ⟨rfl, pointer, record, hrecord, hactive, hexpired record hrecord⟩
      · exact .inl rfl
    · exact ⟨bridge', hbridge', .inl rfl⟩
  active := active_modify rfl fun _ _ hnone => absurd hnone (by simp [SessionRecord.expired])

/-- Behind a step of the table a record is created. -/
theorem TableStep.create (hstep : TableStep s t) (hash : Bytes → Hash) (id secret : Bytes)
    (reading : ℕ) : TableStep s (t.create hash id secret reading) where
  later := hstep.later
  earlier := hstep.earlier
  active hactive := by
    obtain ⟨other, record, hrecord, hbridge⟩ := hactive
    rcases getElem?_concat_eq_some.mp hrecord with hbefore | ⟨-, rfl⟩
    · exact hstep.active ⟨other, record, hbefore, hbridge⟩
    · cases hbridge

theorem tableStep_setTimer (s : RelayServer Hash) (pointer : ℕ) (phase : TimerPhase) :
    TableStep s (s.setTimer pointer phase) := by
  have hrecords : (s.setTimer pointer phase).records = s.records.modify pointer fun record =>
      { record with timer := { record.timer with phase := phase } } := rfl
  exact tableStep_of_bridges rfl (active_modify hrecords fun _ _ hactive => hactive)

/-- The function of a timer that has fired is a step of the table. -/
theorem TableInv.tableStep_expire (hs : TableInv hash s) {record : SessionRecord Hash}
    (hrecord : s.records[pointer]? = some record) (hfired : record.timer.phase = .fired) :
    TableStep s ((s.setTimer pointer .done).expire id pointer) := by
  obtain ⟨hdue, hnow⟩ := hs.records.timed hrecord
  have hexpired : record.expiresAt ≤ s.now := hdue.trans (hnow hfired)
  have htimer := tableStep_setTimer s pointer .done
  have houtcome := expire_outcome (s.setTimer pointer .done) id pointer
  generalize (s.setTimer pointer .done).expire id pointer = t at houtcome ⊢
  cases houtcome with
  | expired =>
      have hstep : TableStep (s.setTimer pointer .done)
          ((s.setTimer pointer .done).expireLocked id pointer) := by
        refine tableStep_expireLocked fun after hafter => ?_
        obtain rfl := Option.some.inj (hafter.symm.trans (getElem?_modify_self hrecord))
        exact hexpired
      refine ⟨hstep.later, fun hbridge' => ?_, fun hactive => htimer.active (hstep.active hactive)⟩
      obtain ⟨bridge, hbridge, hsame | ⟨hcancelled, other, after, hafter, hbridge', hlapsed⟩⟩ :=
        hstep.earlier hbridge'
      · exact ⟨bridge, hbridge, .inl hsame⟩
      · obtain ⟨before, hbefore, rfl⟩ := getElem?_modify_eq_some.mp hafter
        refine ⟨bridge, hbridge, .inr ⟨hcancelled, other, before, hbefore, ?_, ?_⟩⟩
        · split at hbridge' <;> exact hbridge'
        · split at hlapsed <;> exact hlapsed
  | other => exact htimer

/-- Registration is a step of the table. -/
theorem tableStep_register [DecidableEq Hash] (hash : Bytes → Hash) {reading : ℕ}
    (hreading : reading ≤ s.now) : TableStep s (s.register hash id secret reading).2 := by
  have houtcome := register_outcome hash s id secret reading
  generalize s.register hash id secret reading = registered at houtcome ⊢
  cases houtcome with
  | created => exact (TableStep.refl s).create _ _ _ _
  | replaced _ hrecord hexpired =>
      refine (tableStep_expireLocked fun record hsame => ?_).create _ _ _ _
      obtain rfl := Option.some.inj (hsame.symm.trans hrecord)
      exact hexpired.trans hreading
  | repeated | conflict => exact .refl s

/-- A receiver that is detached leaves its bridge inactive. -/
theorem TableInv.active_detachReceiver (hs : TableInv hash s) {bridge active : ℕ}
    {object : RelayBridge} (hobject : s.bridges[bridge]? = some object)
    (hactive : (s.detachReceiver object.session bridge).Active active) :
    s.Active active ∧ active ≠ bridge := by
  -- Only the record stored under the bridge's session can have it.
  have honly : ∀ {pointer record}, s.records[pointer]? = some record →
      record.active = some bridge → s.stored object.session = some (pointer, record) := by
    intro pointer record hrecord hbridge
    obtain ⟨hstored, object', hobject', hsession⟩ := hs.active hrecord hbridge
    obtain rfl := Option.some.inj (hobject'.symm.trans hobject)
    exact stored_eq_some.mpr ⟨by rw [hsession]; exact hstored, hrecord⟩
  have houtcome := detachReceiver_outcome s object.session bridge
  generalize s.detachReceiver object.session bridge = t at houtcome hactive
  obtain ⟨other, after, hafter, hbridge⟩ := hactive
  cases houtcome with
  | released hstored =>
      obtain ⟨before, hbefore, rfl⟩ := getElem?_modify_eq_some.mp hafter
      split at hbridge
      · cases hbridge
      rename_i hne
      refine ⟨⟨other, before, hbefore, hbridge⟩, ?_⟩
      rintro rfl
      rw [honly hbefore hbridge] at hstored
      exact hne (Prod.mk.inj (Option.some.inj hstored)).1.symm
  | kept hother =>
      refine ⟨⟨other, after, hafter, hbridge⟩, ?_⟩
      rintro rfl
      exact hother (honly hafter hbridge) hbridge

theorem detachReceiver_bridges (s : RelayServer Hash) (id : Bytes) (bridge : ℕ) :
    (s.detachReceiver id bridge).bridges = s.bridges.modify bridge RelayBridge.cancel := by
  have houtcome := detachReceiver_outcome s id bridge
  generalize s.detachReceiver id bridge = t at houtcome ⊢
  cases houtcome <;> rfl

end TableSteps

/-- How a handler lets go of its bridge. -/
def Side.leave : Side → RelayBridge → RelayBridge
  | .receiver => RelayBridge.cancel
  | .sender => RelayBridge.detachSender

theorem Side.left_connected (side : Side) : side.left ≠ .accepting ∧ side.left ≠ .refused := by
  cases side <;> decide

/-- The handler has not let go of its bridge. -/
def HandlerPhase.attached (phase : HandlerPhase) : Prop :=
  phase = .accepting ∨ phase = .serving

/-- A handler goes on to another phase, and what that does to its bridge. -/
inductive Turn (pointer : ℕ) (handler : Handler) :
    RelayAction → HandlerPhase → (RelayBridge → RelayBridge) → Prop
  | accept (hphase : handler.phase = .accepting) :
    Turn pointer handler (.accept pointer true) .serving id
  | refuse (hphase : handler.phase = .accepting) :
    Turn pointer handler (.accept pointer false) .refused handler.side.leave
  | leave {cause : ReaderEnd} (hphase : handler.phase = .serving)
    (hreader : handler.peer.reader = .returned cause) :
    Turn pointer handler (.deferred pointer) handler.side.left handler.side.leave
  | cancel (hphase : handler.phase = .detached) :
    Turn pointer handler (.deferred pointer) .released RelayBridge.cancel

/-- A turn leaves the bridge's channels alone. -/
theorem Turn.keeps {pointer : ℕ} {handler : Handler} {action : RelayAction}
    {phase : HandlerPhase} {change : RelayBridge → RelayBridge}
    (hturn : Turn pointer handler action phase change) (bridge : RelayBridge) :
    (change bridge).session = bridge.session ∧ (change bridge).channel = bridge.channel := by
  cases hturn with
  | accept | cancel => exact ⟨rfl, rfl⟩
  | refuse | leave => cases handler.side <;> exact ⟨rfl, rfl⟩

/-- What a step of the relay does. -/
inductive Effect (s t : RelayState Hash) : RelayAction → Prop
  | table {action : RelayAction} (hserver : TableStep s.server t.server)
    (hhandlers : t.handlers = s.handlers) : Effect s t action
  | grantReceiver {id secret : Bytes}
    (hbridges : t.server.bridges = s.server.bridges ++ [⟨false, fun _ => .empty, false, id⟩])
    (hhandlers : t.handlers =
      s.handlers ++ [⟨.receiver, id, s.server.bridges.length, .accepting, .start⟩])
    (hactive : ∀ {active}, t.server.Active active →
      s.server.Active active ∨ active = s.server.bridges.length) :
    Effect s t (.attachReceiver id secret)
  | grantSender {id : Bytes} {pointer bridge : ℕ} {record : SessionRecord Hash}
    {object : RelayBridge} (hstored : s.server.stored id = some (pointer, record))
    (hrecord : record.active = some bridge) (hobject : s.server.bridges[bridge]? = some object)
    (hsession : object.session = id) (hfree : object.sender = false)
    (hbridges : t.server.bridges =
      s.server.bridges.modify bridge fun _ => { object with sender := true })
    (hhandlers : t.handlers = s.handlers ++ [⟨.sender, id, bridge, .accepting, .start⟩])
    (hactive : ∀ {active}, t.server.Active active → s.server.Active active)
    (hlive : s.server.now < record.expiresAt) :
    Effect s t (.attachSender id)
  | turn {action : RelayAction} {pointer : ℕ} {handler : Handler} {phase : HandlerPhase}
    {change : RelayBridge → RelayBridge} (hhandler : s.handlers[pointer]? = some handler)
    (hturn : Turn pointer handler action phase change)
    (hbridges : t.server.bridges = s.server.bridges.modify handler.bridge change)
    (hhandlers : t.handlers =
      s.handlers.modify pointer fun before => { before with phase := phase })
    (hactive : ∀ {active}, t.server.Active active → s.server.Active active ∧
      (handler.side = .receiver → handler.phase.attached → ¬phase.attached →
        active ≠ handler.bridge)) :
    Effect s t action
  | close {pointer : ℕ} {handler : Handler} (hhandler : s.handlers[pointer]? = some handler)
    (hphase : handler.phase = .released) (hserver : t.server = s.server)
    (hhandlers : t.handlers = s.handlers.modify pointer fun before =>
      { before with phase := .returned, peer := { before.peer with ended := true } }) :
    Effect s t (.deferred pointer)
  | serve {action : PeerAction} {pointer : ℕ} {handler : Handler} {peer : Peer}
    {bridge bridge' : RelayBridge} (hhandler : s.handlers[pointer]? = some handler)
    (hconnected : handler.connected = true)
    (hbridge : s.server.bridges[handler.bridge]? = some bridge)
    (houtcome : PeerOutcome pointer handler.side handler.peer bridge action peer bridge')
    (hbridges : t.server.bridges = s.server.bridges.modify handler.bridge fun _ => bridge')
    (hhandlers : t.handlers = s.handlers.modify pointer fun before =>
      { before with peer := peer })
    (hactive : ∀ {active}, t.server.Active active → s.server.Active active) :
    Effect s t (.serve pointer action)

/-! ## The invariant of the relay -/

/-- The table is in order, and every handler has a bridge of its session. -/
structure RelayInv (hash : Bytes → Hash) (s : RelayState Hash) : Prop where
  table : TableInv hash s.server
  handlers : ∀ {pointer : ℕ} {handler : Handler}, s.handlers[pointer]? = some handler →
    ∃ bridge : RelayBridge, s.server.bridges[handler.bridge]? = some bridge ∧
      bridge.session = handler.id

section Steps

variable {hash : Bytes → Hash} {s t : RelayState Hash} {action : RelayAction}

/-- Letting a handler go from its bridge. -/
private theorem RelayInv.detach (hs : RelayInv hash s) {pointer : ℕ} {handler : Handler}
    (hhandler : s.handlers[pointer]? = some handler) :
    (s.detach handler).server.bridges =
        s.server.bridges.modify handler.bridge handler.side.leave ∧
      (s.detach handler).handlers = s.handlers ∧
      ∀ {active}, (s.detach handler).server.Active active →
        s.server.Active active ∧ (handler.side = .receiver → active ≠ handler.bridge) := by
  obtain ⟨bridge, hbridge, hsession⟩ := hs.handlers hhandler
  have houtcome := detach_outcome s handler
  generalize s.detach handler = t at houtcome ⊢
  cases houtcome with
  | receiver hside =>
      refine ⟨?_, rfl, fun hactive => ?_⟩
      · rw [hside]
        exact detachReceiver_bridges _ _ _
      · rw [← hsession] at hactive
        obtain ⟨hactive', hne⟩ := hs.table.active_detachReceiver hbridge hactive
        exact ⟨hactive', fun _ => hne⟩
  | sender hside =>
      rw [hside]
      exact ⟨rfl, rfl, fun hactive => ⟨hactive, fun hother => by cases hother⟩⟩

/-- A bridge stays where it is and keeps its session. -/
theorem Effect.bridge (heffect : Effect s t action) {pointer : ℕ} {bridge : RelayBridge}
    (hbridge : s.server.bridges[pointer]? = some bridge) :
    ∃ bridge' : RelayBridge, t.server.bridges[pointer]? = some bridge' ∧
      bridge'.session = bridge.session := by
  have hmodify : ∀ {other : ℕ} {change : RelayBridge → RelayBridge},
      t.server.bridges = s.server.bridges.modify other change →
        (∀ object, s.server.bridges[other]? = some object →
          (change object).session = object.session) →
        ∃ bridge' : RelayBridge, t.server.bridges[pointer]? = some bridge' ∧
          bridge'.session = bridge.session := by
    intro other change hbridges hchange
    refine ⟨_, by rw [hbridges]; exact getElem?_modify_of_some hbridge _ _, ?_⟩
    split
    · rename_i hsame
      exact hchange bridge (hsame ▸ hbridge)
    · rfl
  cases heffect with
  | table hserver => exact hserver.later hbridge
  | grantReceiver hbridges => exact ⟨bridge, by rw [hbridges]; exact getElem?_concat hbridge, rfl⟩
  | grantSender _ _ hobject _ _ hbridges =>
      refine hmodify hbridges fun object hobject' => ?_
      obtain rfl := Option.some.inj (hobject'.symm.trans hobject)
      rfl
  | turn _ hturn hbridges =>
      exact hmodify hbridges fun object _ => (hturn.keeps object).1
  | close _ _ hserver => exact ⟨bridge, by rw [hserver]; exact hbridge, rfl⟩
  | serve _ _ hobject houtcome hbridges =>
      refine hmodify hbridges fun object hobject' => ?_
      obtain rfl := Option.some.inj (hobject'.symm.trans hobject)
      rw [houtcome.bridge_eq]

/-- A handler keeps its side, its id and its bridge, and a new one has a bridge. -/
theorem Effect.handler (heffect : Effect s t action) {pointer : ℕ} {handler' : Handler}
    (hhandler' : t.handlers[pointer]? = some handler') :
    (∃ handler, s.handlers[pointer]? = some handler ∧ handler'.side = handler.side ∧
      handler'.id = handler.id ∧ handler'.bridge = handler.bridge) ∨
    pointer = s.handlers.length ∧ handler'.phase = .accepting ∧ handler'.peer = .start ∧
      ∃ bridge : RelayBridge, t.server.bridges[handler'.bridge]? = some bridge ∧
        bridge.session = handler'.id := by
  have hmodify : ∀ {other : ℕ} {change : Handler → Handler},
      t.handlers = s.handlers.modify other change →
        (∀ handler, (change handler).side = handler.side ∧ (change handler).id = handler.id ∧
          (change handler).bridge = handler.bridge) →
        ∃ handler, s.handlers[pointer]? = some handler ∧ handler'.side = handler.side ∧
          handler'.id = handler.id ∧ handler'.bridge = handler.bridge := by
    intro other change hhandlers hchange
    rw [hhandlers] at hhandler'
    obtain ⟨handler, hhandler, rfl⟩ := getElem?_modify_eq_some.mp hhandler'
    refine ⟨handler, hhandler, ?_⟩
    split
    · exact hchange handler
    · exact ⟨rfl, rfl, rfl⟩
  cases heffect with
  | table _ hhandlers => exact .inl ⟨handler', by rw [← hhandlers]; exact hhandler', rfl, rfl, rfl⟩
  | grantReceiver hbridges hhandlers =>
      rw [hhandlers] at hhandler'
      rcases getElem?_concat_eq_some.mp hhandler' with hbefore | ⟨hpointer, rfl⟩
      · exact .inl ⟨handler', hbefore, rfl, rfl, rfl⟩
      · refine .inr ⟨hpointer, rfl, rfl, ⟨false, fun _ => .empty, false, _⟩, ?_, rfl⟩
        rw [hbridges]
        exact getElem?_concat_eq_some.mpr (.inr ⟨rfl, rfl⟩)
  | @grantSender _ _ bridge _ object _ _ hobject hsession _ hbridges hhandlers =>
      rw [hhandlers] at hhandler'
      rcases getElem?_concat_eq_some.mp hhandler' with hbefore | ⟨hpointer, rfl⟩
      · exact .inl ⟨handler', hbefore, rfl, rfl, rfl⟩
      · have hgranted : t.server.bridges[bridge]? = some { object with sender := true } := by
          rw [hbridges]
          exact getElem?_modify_self hobject
        exact .inr ⟨hpointer, rfl, rfl, _, hgranted, hsession⟩
  | turn _ _ _ hhandlers => exact .inl (hmodify hhandlers fun _ => ⟨rfl, rfl, rfl⟩)
  | close _ _ _ hhandlers => exact .inl (hmodify hhandlers fun _ => ⟨rfl, rfl, rfl⟩)
  | serve _ _ _ _ _ hhandlers => exact .inl (hmodify hhandlers fun _ => ⟨rfl, rfl, rfl⟩)

/-- The passing of time keeps the table in order. -/
theorem TableInv.tick {s : RelayServer Hash} (hs : TableInv hash s) (elapsed : ℕ) :
    TableInv hash { s with now := s.now + elapsed } where
  records := {
    stored := hs.records.stored
    registered := hs.records.registered
    counted := hs.records.counted
    timed := by
      intro pointer record hrecord
      obtain ⟨hdue, hfired⟩ := hs.records.timed hrecord
      exact ⟨hdue, fun hphase => (hfired hphase).trans (Nat.le_add_right _ _)⟩ }
  active := hs.active
  live := hs.live

/-- Letting a handler go keeps the table in order. -/
private theorem RelayInv.table_detach (hs : RelayInv hash s) (handler : Handler) :
    TableInv hash (s.detach handler).server := by
  have houtcome := detach_outcome s handler
  generalize s.detach handler = t at houtcome ⊢
  cases houtcome with
  | receiver => exact hs.table.detachReceiver _ _
  | sender => exact hs.table.follows (follows_modify (fun _ _ => rfl) fun _ _ hlive => hlive)

variable [DecidableEq Hash]

/-- All the steps of the relay: what enables each, and the state after it. -/
inductive Stepped (hash : Bytes → Hash) (s : RelayState Hash) :
    RelayAction → RelayState Hash → Prop
  | tick (elapsed : ℕ) :
    Stepped hash s (.tick elapsed)
      { s with server := { s.server with now := s.server.now + elapsed } }
  | register {id secret : Bytes} {reading : ℕ} (hreading : reading ≤ s.server.now) :
    Stepped hash s (.register id secret reading)
      { s with server := (s.server.register hash id secret reading).2 }
  | attachReceiver (id secret : Bytes) :
    Stepped hash s (.attachReceiver id secret)
      (s.attached .receiver id (s.server.attachReceiver hash id secret))
  | attachSender (id : Bytes) :
    Stepped hash s (.attachSender id) (s.attached .sender id (s.server.attachSender id))
  | accept {pointer : ℕ} {handler : Handler} (hhandler : s.handlers[pointer]? = some handler)
    (hphase : handler.phase = .accepting) :
    Stepped hash s (.accept pointer true) (s.setPhase pointer .serving)
  | refuse {pointer : ℕ} {handler : Handler} (hhandler : s.handlers[pointer]? = some handler)
    (hphase : handler.phase = .accepting) :
    Stepped hash s (.accept pointer false) ((s.detach handler).setPhase pointer .refused)
  | serve {pointer : ℕ} {handler : Handler} {bridge bridge' : RelayBridge} {peer : Peer}
    {action : PeerAction} (hhandler : s.handlers[pointer]? = some handler)
    (hbridge : s.server.bridges[handler.bridge]? = some bridge)
    (hconnected : handler.connected = true)
    (hserve : handler.peer.servePeer pointer handler.side bridge action = some (peer, bridge')) :
    Stepped hash s (.serve pointer action)
      { server := { s.server with
          bridges := s.server.bridges.modify handler.bridge fun _ => bridge' }
        handlers := s.handlers.modify pointer fun before => { before with peer := peer } }
  | leave {pointer : ℕ} {handler : Handler} {left : ReaderEnd}
    (hhandler : s.handlers[pointer]? = some handler) (hphase : handler.phase = .serving)
    (hreader : handler.peer.reader = .returned left) :
    Stepped hash s (.deferred pointer)
      ((s.detach handler).setPhase pointer handler.side.left)
  | cancel {pointer : ℕ} {handler : Handler} (hhandler : s.handlers[pointer]? = some handler)
    (hphase : handler.phase = .detached) :
    Stepped hash s (.deferred pointer)
      (({ s with server := s.server.cancel handler.bridge } : RelayState Hash).setPhase pointer
        .released)
  | close {pointer : ℕ} {handler : Handler} (hhandler : s.handlers[pointer]? = some handler)
    (hphase : handler.phase = .released) :
    Stepped hash s (.deferred pointer)
      { s with handlers := s.handlers.modify pointer fun before =>
        { before with phase := .returned, peer := { before.peer with ended := true } } }
  | timerFires {pointer : ℕ} {record : SessionRecord Hash}
    (hrecord : s.server.records[pointer]? = some record)
    (hdue : record.timer.phase = .armed ∧ record.timer.due ≤ s.server.now) :
    Stepped hash s (.timerFires pointer) { s with server := s.server.setTimer pointer .fired }
  | expire {pointer : ℕ} {record : SessionRecord Hash}
    (hrecord : s.server.records[pointer]? = some record) (hfired : record.timer.phase = .fired) :
    Stepped hash s (.expire pointer) { s with server :=
      (s.server.setTimer pointer .done).expire record.timer.id pointer }

/-- The steps of the relay, one by one. -/
theorem step_cases (hstep : step hash s action = some t) : Stepped hash s action t := by
  cases action with
  | tick elapsed =>
      obtain rfl := Option.some.inj hstep
      exact .tick elapsed
  | register id secret reading =>
      simp only [step] at hstep
      split at hstep
      · rename_i hreading
        obtain rfl := Option.some.inj hstep
        exact .register hreading
      · cases hstep
  | attachReceiver id secret =>
      obtain rfl := Option.some.inj hstep
      exact .attachReceiver id secret
  | attachSender id =>
      obtain rfl := Option.some.inj hstep
      exact .attachSender id
  | accept pointer succeeds =>
      simp only [step, RelayState.accept] at hstep
      split at hstep
      · cases hstep
      rename_i handler hhandler
      split at hstep
      · cases hstep
      rename_i hphase
      cases succeeds with
      | true =>
          obtain rfl := Option.some.inj hstep
          exact .accept hhandler (not_not.mp hphase)
      | false =>
          obtain rfl := Option.some.inj hstep
          exact .refuse hhandler (not_not.mp hphase)
  | serve pointer action =>
      simp only [step, RelayState.serve] at hstep
      split at hstep
      · cases hstep
      rename_i handler hhandler
      split at hstep
      · cases hstep
      rename_i bridge hbridge
      split at hstep
      · rename_i hconnected
        obtain ⟨⟨peer, bridge'⟩, hserve, rfl⟩ := Option.map_eq_some_iff.mp hstep
        exact .serve hhandler hbridge hconnected hserve
      · cases hstep
  | deferred pointer =>
      simp only [step, RelayState.deferred] at hstep
      split at hstep
      · cases hstep
      rename_i handler hhandler
      split at hstep
      · rename_i hphase hreader
        obtain rfl := Option.some.inj hstep
        exact .leave hhandler hphase hreader
      · rename_i hphase
        obtain rfl := Option.some.inj hstep
        exact .cancel hhandler hphase
      · rename_i hphase
        obtain rfl := Option.some.inj hstep
        exact .close hhandler hphase
      · cases hstep
  | timerFires pointer =>
      simp only [step, RelayState.timerFires] at hstep
      split at hstep
      · cases hstep
      rename_i record hrecord
      split at hstep
      · rename_i hdue
        obtain rfl := Option.some.inj hstep
        exact .timerFires hrecord hdue
      · cases hstep
  | expire pointer =>
      simp only [step, RelayState.expire] at hstep
      split at hstep
      · cases hstep
      rename_i record hrecord
      split at hstep
      · rename_i hfired
        obtain rfl := Option.some.inj hstep
        exact .expire hrecord hfired
      · cases hstep

/-- The effect of every step. -/
theorem step_effect (hs : RelayInv hash s) (hstep : step hash s action = some t) :
    Effect s t action := by
  cases step_cases hstep with
  | tick elapsed => exact .table (tableStep_of_bridges rfl id) rfl
  | register hreading => exact .table (tableStep_register hash hreading) rfl
  | attachReceiver id secret =>
      have houtcome := attachReceiver_outcome hash s.server id secret
      generalize s.server.attachReceiver hash id secret = attached at houtcome
      cases houtcome with
      | expired hpointer hexpired => exact .table (tableStep_expireLocked hexpired) rfl
      | refused => exact .table (.refl _) rfl
      | granted hpointer hrecord hlive hsecret hfree =>
          refine .grantReceiver rfl rfl fun hactive => ?_
          obtain ⟨other, after, hafter, hbridge⟩ := hactive
          obtain ⟨before, hbefore, rfl⟩ := getElem?_modify_eq_some.mp hafter
          split at hbridge
          · exact .inr (Option.some.inj hbridge).symm
          · exact .inl ⟨other, before, hbefore, hbridge⟩
  | attachSender id =>
      have houtcome := attachSender_outcome s.server id
      generalize s.server.attachSender id = attached at houtcome
      cases houtcome with
      | expired hpointer hexpired => exact .table (tableStep_expireLocked hexpired) rfl
      | refused => exact .table (.refl _) rfl
      | granted hpointer hrecord hlive hactive hobject hfree =>
          have hsession := hs.table.session_of_active hpointer hrecord hactive hobject
          exact .grantSender (stored_eq_some.mpr ⟨hpointer, hrecord⟩) hactive hobject hsession
            hfree rfl rfl (fun hactive => hactive) hlive
  | accept hhandler haccepting =>
      refine .turn hhandler (.accept haccepting) (List.modify_id _ _).symm rfl fun hactive =>
        ⟨hactive, fun _ _ hleft => ?_⟩
      exact absurd (.inr rfl) hleft
  | refuse hhandler haccepting =>
      obtain ⟨hbridges, hhandlers, hactive⟩ := hs.detach hhandler
      refine .turn hhandler (.refuse haccepting) hbridges ?_ fun h =>
        ⟨(hactive h).1, fun hside _ _ => (hactive h).2 hside⟩
      rw [RelayState.setPhase, hhandlers]
  | serve hhandler hbridge hconnected hserve =>
      exact .serve hhandler hconnected hbridge (servePeer_outcome hserve) rfl rfl
        fun hactive => hactive
  | leave hhandler hphase hreader =>
      obtain ⟨hbridges, hhandlers, hactive⟩ := hs.detach hhandler
      refine .turn hhandler (.leave hphase hreader) hbridges ?_ fun h =>
        ⟨(hactive h).1, fun hside _ _ => (hactive h).2 hside⟩
      rw [RelayState.setPhase, hhandlers]
  | cancel hhandler hphase =>
      refine .turn hhandler (.cancel hphase) rfl rfl fun h => ⟨h, fun _ hattached => ?_⟩
      simp [HandlerPhase.attached, hphase] at hattached
  | close hhandler hphase => exact .close hhandler hphase rfl rfl
  | timerFires => exact .table (tableStep_setTimer _ _ _) rfl
  | expire hrecord hfired => exact .table (hs.table.tableStep_expire hrecord hfired) rfl

/-- Every step keeps the table in order. -/
theorem TableInv.step (hs : RelayInv hash s) (hstep : step hash s action = some t) :
    TableInv hash t.server := by
  cases step_cases hstep with
  | tick elapsed => exact hs.table.tick elapsed
  | @register id secret _ hreading => exact hs.table.register id secret hreading
  | attachReceiver id secret =>
      have houtcome := attachReceiver_outcome hash s.server id secret
      generalize s.server.attachReceiver hash id secret = attached at houtcome
      cases houtcome with
      | expired hpointer => exact hs.table.expireLocked hpointer
      | refused => exact hs.table
      | granted hpointer hrecord _ _ hfree => exact hs.table.attach hpointer hrecord hfree
  | attachSender id =>
      have houtcome := attachSender_outcome s.server id
      generalize s.server.attachSender id = attached at houtcome
      cases houtcome with
      | expired hpointer => exact hs.table.expireLocked hpointer
      | refused => exact hs.table
      | granted _ _ _ _ hobject =>
          refine hs.table.follows (follows_modify (fun object hsame => ?_) fun object hsame => ?_)
          · rw [Option.some.inj (hsame.symm.trans hobject)]
          · rw [Option.some.inj (hsame.symm.trans hobject)]
            exact fun hlive => hlive
  | accept => exact hs.table
  | refuse => exact hs.table_detach _
  | serve _ hbridge _ hserve =>
      have hsame := (servePeer_outcome hserve).bridge_eq
      refine hs.table.follows (follows_modify (fun object hobject => ?_) fun object hobject => ?_)
      · rw [← Option.some.inj (hobject.symm.trans hbridge)] at hsame
        rw [hsame]
      · rw [← Option.some.inj (hobject.symm.trans hbridge)] at hsame
        rw [hsame]
        exact id
  | leave => exact hs.table_detach _
  | cancel => exact hs.table.follows (follows_cancel _ _)
  | close => exact hs.table
  | timerFires hrecord hdue =>
      refine hs.table.setTimer fun _ after hafter => ?_
      obtain rfl := Option.some.inj (hafter.symm.trans hrecord)
      exact hdue.2
  | @expire pointer _ _ _ =>
      have htimer : TableInv hash (s.server.setTimer pointer .done) :=
        hs.table.setTimer fun hfired => nomatch hfired
      exact htimer.expire _ _

/-- Every step keeps the invariant. -/
theorem RelayInv.step (hs : RelayInv hash s) (hstep : step hash s action = some t) :
    RelayInv hash t where
  table := TableInv.step hs hstep
  handlers := by
    intro pointer handler' hhandler'
    have heffect := step_effect hs hstep
    rcases heffect.handler hhandler' with ⟨handler, hhandler, -, hid, hbridge⟩ | ⟨-, -, -, hnew⟩
    · obtain ⟨bridge, hobject, hsession⟩ := hs.handlers hhandler
      obtain ⟨bridge', hobject', hsession'⟩ := heffect.bridge hobject
      exact ⟨bridge', by rw [hbridge]; exact hobject', by rw [hsession', hsession, hid]⟩
    · exact hnew

/-- An empty relay. -/
theorem relayInv_start (hash : Bytes → Hash) (ttl : ℕ) :
    RelayInv hash (system hash ttl).init where
  table := {
    records := {
      stored := fun hstored => nomatch hstored
      registered := fun hrecord => nomatch hrecord
      counted := rfl
      timed := fun hrecord => nomatch hrecord }
    active := fun hrecord => nomatch hrecord
    live := fun hbridge => nomatch hbridge }
  handlers := fun hhandler => nomatch hhandler

theorem relayInv_of_runWithin {ttl : ℕ} {allowed : RelayState Hash → RelayAction → Prop}
    (hrun : (system hash ttl).RunWithin allowed s) : RelayInv hash s :=
  TransitionSystem.RunWithin.invariant (P := RelayInv hash) (relayInv_start hash ttl)
    (fun _ hs _ hstep => hs.step hstep) hrun

end Steps

end PrintDrop.Relay
