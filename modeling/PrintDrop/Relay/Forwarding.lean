/-
# Forwarding

What the handlers have read and written agrees with what went through the channels of
their bridges, in every run. Between a receiver and the only sender of its bridge the
relay therefore forwards in order and unaltered, and holds at most three messages in each
direction.
-/

import PrintDrop.Relay.Effects

namespace PrintDrop.Relay

open Math

universe u

variable {Hash : Type u}

/-- The loops of a handler have not moved on. -/
structure SameLoops (handler handler' : Handler) : Prop where
  side : handler'.side = handler.side
  bridge : handler'.bridge = handler.bridge
  connected : handler.connected = true → handler'.connected = true
  reader : handler'.peer.reader = handler.peer.reader
  writer : handler'.peer.writer = handler.peer.writer
  read : handler'.peer.read = handler.peer.read
  written : handler'.peer.written = handler.peer.written

/-- A step that uses no channel. It may make a handler, and a receiver with its bridge. -/
structure Quiet (s t : RelayState Hash) : Prop where
  bridges : ∀ {pointer : ℕ} {bridge' : RelayBridge}, t.server.bridges[pointer]? = some bridge' →
    (∃ bridge : RelayBridge, s.server.bridges[pointer]? = some bridge ∧
      bridge'.channel = bridge.channel) ∨
    s.server.bridges[pointer]? = none ∧ bridge'.channel = fun _ => .empty
  handlers : ∀ {pointer : ℕ} {handler' : Handler}, t.handlers[pointer]? = some handler' →
    (∃ handler, s.handlers[pointer]? = some handler ∧ SameLoops handler handler') ∨
    pointer = s.handlers.length ∧ handler'.connected = false ∧ handler'.peer = .start ∧
      (handler'.side = .receiver → s.server.bridges[handler'.bridge]? = none)
  kept : ∀ {pointer : ℕ} {handler : Handler}, s.handlers[pointer]? = some handler →
    ∃ handler', t.handlers[pointer]? = some handler' ∧ SameLoops handler handler'

section Quiet

variable {s t : RelayState Hash} {action : RelayAction}

private theorem SameLoops.refl (handler : Handler) : SameLoops handler handler :=
  ⟨rfl, rfl, fun hconnected => hconnected, rfl, rfl, rfl, rfl⟩

private theorem Quiet.bridges_modify {pointer other : ℕ} {bridge' : RelayBridge}
    {change : RelayBridge → RelayBridge}
    (hchange : ∀ bridge, s.server.bridges[pointer]? = some bridge →
      (change bridge).channel = bridge.channel)
    (hbridge' : (s.server.bridges.modify pointer change)[other]? = some bridge') :
    ∃ bridge : RelayBridge, s.server.bridges[other]? = some bridge ∧
      bridge'.channel = bridge.channel := by
  obtain ⟨bridge, hbridge, rfl⟩ := getElem?_modify_eq_some.mp hbridge'
  refine ⟨bridge, hbridge, ?_⟩
  split
  · rename_i hsame
    exact hchange bridge (hsame ▸ hbridge)
  · rfl

/-- A change of one handler that moves no loop on. -/
private theorem quiet_modify {pointer : ℕ} {handler : Handler} {change : Handler → Handler}
    (hhandler : s.handlers[pointer]? = some handler)
    (hhandlers : t.handlers = s.handlers.modify pointer change)
    (hchange : SameLoops handler (change handler))
    (hbridges : ∀ {other : ℕ} {bridge' : RelayBridge}, t.server.bridges[other]? = some bridge' →
      ∃ bridge : RelayBridge, s.server.bridges[other]? = some bridge ∧
        bridge'.channel = bridge.channel) : Quiet s t := by
  have hsame : ∀ {other : ℕ} {before : Handler}, s.handlers[other]? = some before →
      SameLoops before (if pointer = other then change before else before) := by
    intro other before hbefore
    split
    · rename_i heq
      subst heq
      obtain rfl := Option.some.inj (hbefore.symm.trans hhandler)
      exact hchange
    · exact .refl before
  refine ⟨fun hbridge' => .inl (hbridges hbridge'), fun hhandler' => ?_, fun hbefore => ?_⟩
  · rw [hhandlers] at hhandler'
    obtain ⟨before, hbefore, rfl⟩ := getElem?_modify_eq_some.mp hhandler'
    exact .inl ⟨before, hbefore, hsame hbefore⟩
  · rw [hhandlers]
    exact ⟨_, getElem?_modify_of_some hbefore pointer change, hsame hbefore⟩

/-- A new handler. -/
private theorem quiet_concat {handler : Handler} (hconnected : handler.connected = false)
    (hpeer : handler.peer = .start) (hhandlers : t.handlers = s.handlers ++ [handler])
    (hbridge : handler.side = .receiver → s.server.bridges[handler.bridge]? = none)
    (hbridges : ∀ {other : ℕ} {bridge' : RelayBridge}, t.server.bridges[other]? = some bridge' →
      (∃ bridge : RelayBridge, s.server.bridges[other]? = some bridge ∧
        bridge'.channel = bridge.channel) ∨
      s.server.bridges[other]? = none ∧ bridge'.channel = fun _ => .empty) : Quiet s t := by
  refine ⟨hbridges, fun hhandler' => ?_, fun hbefore => ?_⟩
  · rw [hhandlers] at hhandler'
    rcases getElem?_concat_eq_some.mp hhandler' with hbefore | ⟨hpointer, rfl⟩
    · exact .inl ⟨_, hbefore, .refl _⟩
    · exact .inr ⟨hpointer, hconnected, hpeer, hbridge⟩
  · rw [hhandlers]
    exact ⟨_, getElem?_concat hbefore, .refl _⟩

/-- Only serving a peer uses the channels. -/
theorem Effect.quiet (heffect : Effect s t action) :
    Quiet s t ∨ ∃ pointer peerAction, action = .serve pointer peerAction := by
  cases heffect with
  | table hserver hhandlers =>
      refine .inl ⟨fun hbridge' => .inl ?_, fun hhandler' => .inl ?_, fun hhandler => ?_⟩
      · obtain ⟨bridge, hbridge, rfl | ⟨rfl, -⟩⟩ := hserver.earlier hbridge'
        · exact ⟨_, hbridge, rfl⟩
        · exact ⟨_, hbridge, rfl⟩
      · rw [hhandlers] at hhandler'
        exact ⟨_, hhandler', .refl _⟩
      · rw [hhandlers]
        exact ⟨_, hhandler, .refl _⟩
  | grantReceiver hbridges hhandlers =>
      refine .inl (quiet_concat rfl rfl hhandlers (fun _ => ?_) fun hbridge' => ?_)
      · exact List.getElem?_eq_none (le_refl _)
      · rw [hbridges] at hbridge'
        rcases getElem?_concat_eq_some.mp hbridge' with hbefore | ⟨rfl, rfl⟩
        · exact .inl ⟨_, hbefore, rfl⟩
        · exact .inr ⟨List.getElem?_eq_none (le_refl _), rfl⟩
  | grantSender _ _ hobject _ _ hbridges hhandlers =>
      refine .inl (quiet_concat rfl rfl hhandlers (fun hside => nomatch hside) fun hbridge' => ?_)
      rw [hbridges] at hbridge'
      refine .inl (Quiet.bridges_modify (fun bridge hbridge => ?_) hbridge')
      rw [Option.some.inj (hbridge.symm.trans hobject)]
  | turn hhandler hturn hbridges hhandlers =>
      refine .inl (quiet_modify hhandler hhandlers ?_ fun hbridge' => ?_)
      · refine ⟨rfl, rfl, fun hconnected => ?_, rfl, rfl, rfl, rfl⟩
        cases hturn with
        | accept | cancel => rfl
        | refuse hphase => simp [Handler.connected, hphase] at hconnected
        | leave => exact decide_eq_true (Side.left_connected _)
      · rw [hbridges] at hbridge'
        exact Quiet.bridges_modify (fun bridge _ => (hturn.keeps bridge).2) hbridge'
  | close hhandler _ hserver hhandlers =>
      refine .inl (quiet_modify hhandler hhandlers ?_ fun hbridge' => ?_)
      · exact ⟨rfl, rfl, fun _ => rfl, rfl, rfl, rfl, rfl⟩
      · rw [hserver] at hbridge'
        exact ⟨_, hbridge', rfl⟩
  | serve => exact .inr ⟨_, _, rfl⟩

end Quiet

/-- What a handler has read and written agrees with its use of the channels. -/
structure Flow (pointer : ℕ) (handler : Handler) (bridge : RelayBridge) : Prop where
  read : handler.peer.read =
    (Channel.itemsOf pointer (bridge.channel handler.side.other).sent).map binaryMessage ++
      handler.peer.reader.held
  written : (Channel.itemsOf pointer (bridge.channel handler.side).received).map binaryMessage =
    handler.peer.written ++ handler.peer.writer.held.map binaryMessage
  sized : ∀ message ∈ Channel.itemsOf pointer (bridge.channel handler.side.other).sent,
    message.length ≤ maxWSMessageBytes
  holds : ∀ message, handler.peer.reader = .sending message → message.length ≤ maxWSMessageBytes

/-- The loops of all handlers agree with the channels, which only they use. -/
structure Wired (s : RelayState Hash) : Prop where
  receiver : ∀ {first second : ℕ} {handler handler' : Handler},
    s.handlers[first]? = some handler → s.handlers[second]? = some handler' →
      handler.side = .receiver → handler'.side = .receiver →
        handler.bridge = handler'.bridge → first = second
  sent : ∀ {pointer : ℕ} {bridge : RelayBridge} {side : Side} {entry : ℕ × Bytes},
    s.server.bridges[pointer]? = some bridge → entry ∈ (bridge.channel side).sent →
      ∃ handler, s.handlers[entry.1]? = some handler ∧ handler.bridge = pointer ∧
        handler.side = side.other ∧ handler.connected = true
  received : ∀ {pointer : ℕ} {bridge : RelayBridge} {side : Side} {entry : ℕ × Bytes},
    s.server.bridges[pointer]? = some bridge → entry ∈ (bridge.channel side).received →
      ∃ handler, s.handlers[entry.1]? = some handler ∧ handler.bridge = pointer ∧
        handler.side = side ∧ handler.connected = true
  flow : ∀ {pointer : ℕ} {handler : Handler} {bridge : RelayBridge},
    s.handlers[pointer]? = some handler → s.server.bridges[handler.bridge]? = some bridge →
      Flow pointer handler bridge

theorem Flow.congr {pointer : ℕ} {handler handler' : Handler} {bridge bridge' : RelayBridge}
    (hflow : Flow pointer handler bridge) (hsame : SameLoops handler handler')
    (hchannel : bridge'.channel = bridge.channel) : Flow pointer handler' bridge' where
  read := by rw [hsame.read, hsame.side, hsame.reader, hchannel]; exact hflow.read
  written := by rw [hsame.written, hsame.side, hsame.writer, hchannel]; exact hflow.written
  sized := by rw [hsame.side, hchannel]; exact hflow.sized
  holds := by rw [hsame.reader]; exact hflow.holds

/-- A handler that has not used the channels has read and written nothing. -/
theorem flow_start {pointer : ℕ} {handler : Handler} {bridge : RelayBridge}
    (hpeer : handler.peer = .start)
    (hsent : ∀ side, ∀ entry ∈ (bridge.channel side).sent, entry.1 ≠ pointer)
    (hreceived : ∀ side, ∀ entry ∈ (bridge.channel side).received, entry.1 ≠ pointer) :
    Flow pointer handler bridge where
  read := by rw [hpeer, Channel.itemsOf_absent (hsent _)]; rfl
  written := by rw [hpeer, Channel.itemsOf_absent (hreceived _)]; rfl
  sized := by
    rw [Channel.itemsOf_absent (hsent _)]
    exact fun _ hmessage => nomatch hmessage
  holds := by
    rw [hpeer]
    exact fun _ hreader => nomatch hreader

section Wired

variable {hash : Bytes → Hash} {s t : RelayState Hash} {action : RelayAction}

/-- A handler with a connection keeps it in a step that uses no channel. -/
private theorem Quiet.user (hquiet : Quiet s t) {party pointer : ℕ} {side : Side}
    (huser : ∃ user, s.handlers[party]? = some user ∧ user.bridge = pointer ∧ user.side = side ∧
      user.connected = true) :
    ∃ user, t.handlers[party]? = some user ∧ user.bridge = pointer ∧ user.side = side ∧
      user.connected = true := by
  obtain ⟨handler, hhandler, hbridge, hside, hconnected⟩ := huser
  obtain ⟨handler', hhandler', hsame⟩ := hquiet.kept hhandler
  exact ⟨handler', hhandler', hsame.bridge.trans hbridge, hsame.side.trans hside,
    hsame.connected hconnected⟩

/-- The parties of a record are those of before: the records of a new bridge are empty. -/
private theorem Quiet.record (hquiet : Quiet s t) (record : Channel ℕ Bytes 1 → List (ℕ × Bytes))
    (hempty : record .empty = []) {direction side : Side}
    (hold : ∀ {pointer : ℕ} {bridge : RelayBridge} {entry : ℕ × Bytes},
      s.server.bridges[pointer]? = some bridge → entry ∈ record (bridge.channel direction) →
        ∃ user, s.handlers[entry.1]? = some user ∧ user.bridge = pointer ∧ user.side = side ∧
          user.connected = true)
    {pointer : ℕ} {bridge' : RelayBridge} {entry : ℕ × Bytes}
    (hbridge' : t.server.bridges[pointer]? = some bridge')
    (hentry : entry ∈ record (bridge'.channel direction)) :
    ∃ user, s.handlers[entry.1]? = some user ∧ user.bridge = pointer ∧ user.side = side ∧
      user.connected = true := by
  rcases hquiet.bridges hbridge' with ⟨bridge, hbridge, hchannel⟩ | ⟨-, hchannel⟩
  · rw [hchannel] at hentry
    exact hold hbridge hentry
  · rw [hchannel, hempty] at hentry
    cases hentry

/-- A step that uses no channel. -/
private theorem Wired.quiet (hinv : RelayInv hash s) (hs : Wired s) (hquiet : Quiet s t) :
    Wired t := by
  have hlength : s.handlers[s.handlers.length]? = none := List.getElem?_eq_none (le_refl _)
  have hsent : ∀ {pointer : ℕ} {bridge' : RelayBridge} {side : Side} {entry : ℕ × Bytes},
      t.server.bridges[pointer]? = some bridge' → entry ∈ (bridge'.channel side).sent →
        ∃ handler, s.handlers[entry.1]? = some handler ∧ handler.bridge = pointer ∧
          handler.side = side.other ∧ handler.connected = true :=
    fun hbridge' hentry => hquiet.record (fun channel => channel.sent) rfl hs.sent hbridge' hentry
  have hreceived : ∀ {pointer : ℕ} {bridge' : RelayBridge} {side : Side} {entry : ℕ × Bytes},
      t.server.bridges[pointer]? = some bridge' → entry ∈ (bridge'.channel side).received →
        ∃ handler, s.handlers[entry.1]? = some handler ∧ handler.bridge = pointer ∧
          handler.side = side ∧ handler.connected = true :=
    fun hbridge' hentry =>
      hquiet.record (fun channel => channel.received) rfl hs.received hbridge' hentry
  constructor
  case receiver =>
    intro first second handler handler' hhandler hhandler' hside hside' hbridge
    -- The bridge of a receiver that was there before is not new.
    have hold : ∀ {pointer : ℕ} {old new : Handler}, s.handlers[pointer]? = some old →
        s.server.bridges[new.bridge]? = none → old.bridge ≠ new.bridge := by
      intro pointer old new hbefore hnone hsame
      obtain ⟨bridge, hobject, -⟩ := hinv.handlers hbefore
      rw [hsame, hnone] at hobject
      cases hobject
    rcases hquiet.handlers hhandler with ⟨before, hbefore, hsame⟩ | ⟨hnew, -, -, hfresh⟩ <;>
      rcases hquiet.handlers hhandler' with ⟨before', hbefore', hsame'⟩ | ⟨hnew', -, -, hfresh'⟩
    · exact hs.receiver hbefore hbefore' (hsame.side.symm.trans hside)
        (hsame'.side.symm.trans hside')
        (hsame.bridge.symm.trans (hbridge.trans hsame'.bridge))
    · exact absurd (hsame.bridge.symm.trans hbridge) (hold hbefore (hfresh' hside'))
    · exact absurd (hsame'.bridge.symm.trans hbridge.symm) (hold hbefore' (hfresh hside))
    · exact hnew.trans hnew'.symm
  case sent => exact fun hbridge' hentry => hquiet.user (hsent hbridge' hentry)
  case received => exact fun hbridge' hentry => hquiet.user (hreceived hbridge' hentry)
  case flow =>
    intro pointer handler' bridge' hhandler' hbridge'
    rcases hquiet.handlers hhandler' with ⟨handler, hhandler, hsame⟩ | ⟨hnew, -, hpeer, -⟩
    · obtain ⟨bridge, hbridge, -⟩ := hinv.handlers hhandler
      rw [hsame.bridge] at hbridge'
      rcases hquiet.bridges hbridge' with ⟨before, hbefore, hchannel⟩ | ⟨hnone, -⟩
      · exact (hs.flow hhandler hbefore).congr hsame hchannel
      · rw [hnone] at hbridge
        cases hbridge
    · refine flow_start hpeer (fun side entry hentry => ?_) fun side entry hentry => ?_
      · obtain ⟨handler, hhandler, -⟩ := hsent hbridge' hentry
        rintro rfl
        rw [hnew, hlength] at hhandler
        cases hhandler
      · obtain ⟨handler, hhandler, -⟩ := hreceived hbridge' hentry
        rintro rfl
        rw [hnew, hlength] at hhandler
        cases hhandler

/-! ### Serving a peer -/

section Peer

variable {party : ℕ} {side : Side} {peer peer' : Peer} {bridge bridge' : RelayBridge}
  {peerAction : PeerAction}

/-- What a peer's step adds to the record of sends. -/
theorem PeerOutcome.record_sent
    (houtcome : PeerOutcome party side peer bridge peerAction peer' bridge') (direction : Side) :
    (bridge'.channel direction).sent = (bridge.channel direction).sent ∨
      direction = side.other ∧ ∃ message, peer.reader = .sending message ∧
        (bridge'.channel direction).sent =
          (bridge.channel direction).sent ++ [(party, message)] := by
  cases houtcome with
  | sent hreader hsend =>
      by_cases hdirection : direction = side.other
      · subst hdirection
        refine .inr ⟨rfl, _, hreader, ?_⟩
        simp only [Function.update_self]
        exact (Channel.send_eq_some hsend).2.1
      · exact .inl (by simp only [Function.update_of_ne hdirection])
  | received hwriter hreceive =>
      refine .inl ?_
      by_cases hdirection : direction = side
      · subst hdirection
        simp only [Function.update_self]
        exact (Channel.receive_eq_some hreceive).2.1
      · simp only [Function.update_of_ne hdirection]
  | read | invalid | readFailed | readerDone | writerDone | wrote | writeFailed => exact .inl rfl

/-- What a peer's step adds to the record of receives. -/
theorem PeerOutcome.record_received
    (houtcome : PeerOutcome party side peer bridge peerAction peer' bridge') (direction : Side) :
    (bridge'.channel direction).received = (bridge.channel direction).received ∨
      direction = side ∧ ∃ message, (bridge'.channel direction).received =
        (bridge.channel direction).received ++ [(party, message)] := by
  cases houtcome with
  | sent hreader hsend =>
      refine .inl ?_
      by_cases hdirection : direction = side.other
      · subst hdirection
        simp only [Function.update_self]
        exact (Channel.send_eq_some hsend).2.2
      · simp only [Function.update_of_ne hdirection]
  | @received message _ hwriter hreceive =>
      by_cases hdirection : direction = side
      · subst hdirection
        refine .inr ⟨rfl, message, ?_⟩
        simp only [Function.update_self]
        exact (Channel.receive_eq_some hreceive).2.2
      · exact .inl (by simp only [Function.update_of_ne hdirection])
  | read | invalid | readFailed | readerDone | writerDone | wrote | writeFailed => exact .inl rfl

/-- A step of one peer leaves the records of the others alone. -/
theorem PeerOutcome.flow_other
    (houtcome : PeerOutcome party side peer bridge peerAction peer' bridge') {pointer : ℕ}
    {handler : Handler} (hne : party ≠ pointer) (hflow : Flow pointer handler bridge) :
    Flow pointer handler bridge' := by
  have hsent : ∀ direction, Channel.itemsOf pointer (bridge'.channel direction).sent =
      Channel.itemsOf pointer (bridge.channel direction).sent := by
    intro direction
    rcases houtcome.record_sent direction with hsame | ⟨-, message, -, hmore⟩
    · rw [hsame]
    · rw [hmore, Channel.itemsOf_concat, if_neg hne, List.append_nil]
  have hreceived : ∀ direction, Channel.itemsOf pointer (bridge'.channel direction).received =
      Channel.itemsOf pointer (bridge.channel direction).received := by
    intro direction
    rcases houtcome.record_received direction with hsame | ⟨-, message, hmore⟩
    · rw [hsame]
    · rw [hmore, Channel.itemsOf_concat, if_neg hne, List.append_nil]
  exact ⟨by rw [hsent]; exact hflow.read, by rw [hreceived]; exact hflow.written,
    by rw [hsent]; exact hflow.sized, hflow.holds⟩

/-- A step of a peer keeps its own record. -/
theorem PeerOutcome.flow {handler : Handler}
    (houtcome : PeerOutcome party handler.side handler.peer bridge peerAction peer' bridge')
    (hflow : Flow party handler bridge) : Flow party { handler with peer := peer' } bridge' := by
  obtain ⟨hread, hwritten, hsized, hholds⟩ := hflow
  have hne : handler.side.other ≠ handler.side := by cases handler.side <;> decide
  cases houtcome with
  | read hreader hended htype hsize =>
      refine ⟨?_, hwritten, hsized, fun message hmessage => ?_⟩
      · simp only [hread, hreader, Reader.held, List.append_nil]
        rw [binaryMessage, ← htype]
      · obtain rfl := Reader.sending.inj hmessage
        exact hsize
  | invalid hreader hended hinvalid =>
      refine ⟨?_, hwritten, hsized, by rintro message ⟨⟩⟩
      simp only [hread, hreader, Reader.held, List.append_nil]
  | readFailed hreader hfails =>
      refine ⟨?_, hwritten, hsized, by rintro message ⟨⟩⟩
      simp only [hread, hreader, Reader.held]
  | sent hreader hsend =>
      obtain ⟨-, hsent, -⟩ := Channel.send_eq_some hsend
      refine ⟨?_, ?_, fun message hmessage => ?_, by rintro message ⟨⟩⟩
      · simp only [Function.update_self, hsent, Channel.itemsOf_concat, if_true, List.map_append,
          hread, hreader, Reader.held, List.append_nil]
        rfl
      · simp only [Function.update_of_ne hne.symm]
        exact hwritten
      · simp only [Function.update_self, hsent, Channel.itemsOf_concat, if_true,
          List.mem_append, List.mem_singleton] at hmessage
        rcases hmessage with hmessage | rfl
        · exact hsized message hmessage
        · exact hholds message hreader
  | readerDone hreader hdone =>
      refine ⟨?_, hwritten, hsized, by rintro message ⟨⟩⟩
      simp only [hread, hreader, Reader.held]
  | received hwriter hreceive =>
      obtain ⟨-, -, hreceived⟩ := Channel.receive_eq_some hreceive
      refine ⟨?_, ?_, ?_, hholds⟩
      · simp only [Function.update_of_ne hne]
        exact hread
      · simp only [Function.update_self, hreceived, Channel.itemsOf_concat, if_true,
          List.map_append, hwritten, hwriter, Writer.held, List.map_nil, List.append_nil]
      · simp only [Function.update_of_ne hne]
        exact hsized
  | writerDone hwriter hdone =>
      refine ⟨hread, ?_, hsized, hholds⟩
      simp only [hwritten, hwriter, Writer.held, Option.toList_none]
  | wrote hwriter hended =>
      refine ⟨hread, ?_, hsized, hholds⟩
      simp only [hwritten, hwriter, Writer.held, List.map_cons, List.map_nil, List.append_nil]
  | writeFailed hwriter =>
      refine ⟨hread, ?_, hsized, hholds⟩
      simp only [hwritten, hwriter, Writer.held, Option.toList_some]

end Peer

section Serve

variable {pointer : ℕ} {handler : Handler} {peer : Peer} {bridge bridge' : RelayBridge}
  {peerAction : PeerAction}

/-- A handler keeps its side and its bridge while a peer is served. -/
private theorem served_kept (hhandlers : t.handlers = s.handlers.modify pointer fun before =>
      { before with peer := peer }) {other : ℕ} {after : Handler}
    (hafter : t.handlers[other]? = some after) :
    ∃ before, s.handlers[other]? = some before ∧ after.side = before.side ∧
      after.bridge = before.bridge := by
  rw [hhandlers] at hafter
  obtain ⟨before, hbefore, rfl⟩ := getElem?_modify_eq_some.mp hafter
  refine ⟨before, hbefore, ?_⟩
  split <;> exact ⟨rfl, rfl⟩

/-- A handler with a connection keeps it while a peer is served. -/
private theorem served_user (hhandlers : t.handlers = s.handlers.modify pointer fun before =>
      { before with peer := peer }) {party other : ℕ} {side : Side}
    (huser : ∃ user, s.handlers[party]? = some user ∧ user.bridge = other ∧ user.side = side ∧
      user.connected = true) :
    ∃ user, t.handlers[party]? = some user ∧ user.bridge = other ∧ user.side = side ∧
      user.connected = true := by
  obtain ⟨user, huser, hfacts⟩ := huser
  refine ⟨_, by rw [hhandlers]; exact getElem?_modify_of_some huser _ _, ?_⟩
  split <;> exact hfacts

/-- The parties of a record are users of its channel, where the peer that is served adds at
most itself. -/
private theorem served_record (record : Channel ℕ Bytes 1 → List (ℕ × Bytes))
    {direction side : Side}
    (hold : ∀ {other : ℕ} {before : RelayBridge} {entry : ℕ × Bytes},
      s.server.bridges[other]? = some before → entry ∈ record (before.channel direction) →
        ∃ user, s.handlers[entry.1]? = some user ∧ user.bridge = other ∧ user.side = side ∧
          user.connected = true)
    (hhandler : s.handlers[pointer]? = some handler) (hconnected : handler.connected = true)
    (hbridge : s.server.bridges[handler.bridge]? = some bridge)
    (hbridges : t.server.bridges = s.server.bridges.modify handler.bridge fun _ => bridge')
    (hrecord : record (bridge'.channel direction) = record (bridge.channel direction) ∨
      handler.side = side ∧ ∃ message,
        record (bridge'.channel direction) =
          record (bridge.channel direction) ++ [(pointer, message)])
    {other : ℕ} {after : RelayBridge} {entry : ℕ × Bytes}
    (hafter : t.server.bridges[other]? = some after)
    (hentry : entry ∈ record (after.channel direction)) :
    ∃ user, s.handlers[entry.1]? = some user ∧ user.bridge = other ∧ user.side = side ∧
      user.connected = true := by
  rw [hbridges] at hafter
  obtain ⟨before, hobject, rfl⟩ := getElem?_modify_eq_some.mp hafter
  split at hentry
  case isFalse => exact hold hobject hentry
  case isTrue hsame =>
    subst hsame
    obtain rfl := Option.some.inj (hobject.symm.trans hbridge)
    rcases hrecord with heq | ⟨hside, message, hmore⟩
    · rw [heq] at hentry
      exact hold hobject hentry
    · rw [hmore, List.mem_append, List.mem_singleton] at hentry
      rcases hentry with hentry | rfl
      · exact hold hobject hentry
      · exact ⟨handler, hhandler, rfl, hside, hconnected⟩

/-- Serving a peer keeps the records. -/
private theorem Wired.serve (hs : Wired s)
    (hhandler : s.handlers[pointer]? = some handler) (hconnected : handler.connected = true)
    (hbridge : s.server.bridges[handler.bridge]? = some bridge)
    (houtcome : PeerOutcome pointer handler.side handler.peer bridge peerAction peer bridge')
    (hbridges : t.server.bridges = s.server.bridges.modify handler.bridge fun _ => bridge')
    (hhandlers : t.handlers = s.handlers.modify pointer fun before =>
      { before with peer := peer }) : Wired t := by
  constructor
  case receiver =>
    intro first second handler₁ handler₂ hhandler₁ hhandler₂ hside₁ hside₂ hsame
    obtain ⟨before₁, hbefore₁, hsideEq₁, hbridgeEq₁⟩ := served_kept hhandlers hhandler₁
    obtain ⟨before₂, hbefore₂, hsideEq₂, hbridgeEq₂⟩ := served_kept hhandlers hhandler₂
    exact hs.receiver hbefore₁ hbefore₂ (hsideEq₁.symm.trans hside₁)
      (hsideEq₂.symm.trans hside₂) (hbridgeEq₁.symm.trans (hsame.trans hbridgeEq₂))
  case sent =>
    intro other after direction entry hafter hentry
    refine served_user hhandlers (served_record (fun channel => channel.sent) hs.sent
      hhandler hconnected hbridge hbridges ?_ hafter hentry)
    rcases houtcome.record_sent direction with heq | ⟨rfl, message, -, hmore⟩
    · exact .inl heq
    · exact .inr ⟨by cases handler.side <;> rfl, message, hmore⟩
  case received =>
    intro other after direction entry hafter hentry
    refine served_user hhandlers (served_record (fun channel => channel.received) hs.received
      hhandler hconnected hbridge hbridges ?_ hafter hentry)
    rcases houtcome.record_received direction with heq | ⟨rfl, message, hmore⟩
    · exact .inl heq
    · exact .inr ⟨rfl, message, hmore⟩
  case flow =>
    intro other after object hafter hobject
    rw [hhandlers] at hafter
    rw [hbridges] at hobject
    obtain ⟨before, hbeforeHandler, rfl⟩ := getElem?_modify_eq_some.mp hafter
    obtain ⟨beforeObject, hbeforeObject, rfl⟩ := getElem?_modify_eq_some.mp hobject
    by_cases hself : pointer = other
    · subst hself
      obtain rfl := Option.some.inj (hbeforeHandler.symm.trans hhandler)
      simp only [if_true] at hbeforeObject ⊢
      obtain rfl := Option.some.inj (hbeforeObject.symm.trans hbridge)
      exact houtcome.flow (hs.flow hhandler hbridge)
    · simp only [if_neg hself] at hbeforeObject ⊢
      have hflow := hs.flow hbeforeHandler hbeforeObject
      split
      · rename_i hsame
        rw [← hsame] at hbeforeObject
        obtain rfl := Option.some.inj (hbeforeObject.symm.trans hbridge)
        exact houtcome.flow_other hself hflow
      · exact hflow

end Serve

variable [DecidableEq Hash]

/-- Every step keeps the records of the loops and of the channels in agreement. -/
theorem Wired.step (hinv : RelayInv hash s) (hs : Wired s)
    (hstep : step hash s action = some t) : Wired t := by
  have heffect := step_effect hinv hstep
  rcases heffect.quiet with hquiet | ⟨pointer, peerAction, rfl⟩
  · exact hs.quiet hinv hquiet
  · cases heffect with
    | table hserver hhandlers =>
        have htable : Effect s t (.tick 0) := .table hserver hhandlers
        exact hs.quiet hinv (htable.quiet.resolve_right (by simp))
    | turn hhandler hturn => cases hturn
    | serve hhandler hconnected hbridge houtcome hbridges hhandlers =>
        exact hs.serve hhandler hconnected hbridge houtcome hbridges hhandlers

theorem wired_of_runWithin {ttl : ℕ} {allowed : RelayState Hash → RelayAction → Prop}
    (hrun : (system hash ttl).RunWithin allowed s) : Wired s := by
  have hstart : Wired (system hash ttl).init := {
    receiver := fun hhandler => nomatch hhandler
    sent := fun hbridge => nomatch hbridge
    received := fun hbridge => nomatch hbridge
    flow := fun hhandler => nomatch hhandler }
  exact TransitionSystem.RunWithin.invariant (P := Wired) hstart
    (fun prior hs _ hstep => hs.step (relayInv_of_runWithin prior) hstep) hrun

end Wired

/-! ## Between a receiver and its only sender -/

/-- The relay forwards from the source to the target through the channel. -/
structure Forwards (source target : Peer) (channel : Channel ℕ Bytes 1) : Prop where
  /-- What has been written is what has been read, but for the latest messages. -/
  inOrder : target.written <+: source.read
  /-- At most three messages are on their way. -/
  bounded : source.read.length ≤ target.written.length + 3
  /-- Only binary messages within the size limit are forwarded. -/
  valid : ∀ message ∈ target.written,
    message.type = .binary ∧ message.data.length ≤ maxWSMessageBytes
  /-- Only messages of the source are in the channel. -/
  onTheWay : ∀ data ∈ channel.buffer,
    binaryMessage data ∈ source.read ∧ data.length ≤ maxWSMessageBytes

theorem Reader.held_length (reader : Reader) : reader.held.length ≤ 1 := by
  cases reader with
  | reading => exact Nat.zero_le 1
  | sending message => exact le_refl 1
  | returned cause => cases cause <;> simp [Reader.held]

theorem Writer.held_length (writer : Writer) : writer.held.length ≤ 1 := by
  cases writer with
  | selecting => exact Nat.zero_le 1
  | writing message => exact le_refl 1
  | returned unwritten => cases unwritten <;> simp [Writer.held]

section Sole

variable {source target : ℕ} {handler handler' : Handler} {bridge : RelayBridge}

/-- What has been read over a channel that one handler uses on each side: it is written, in
the writer's hands, in the channel or in the reader's hands. -/
theorem Flow.inTransit (hflow : Flow source handler bridge)
    (hflow' : Flow target handler' bridge) (hside : handler'.side = handler.side.other)
    (hsource : ∀ entry ∈ (bridge.channel handler.side.other).sent, entry.1 = source)
    (htarget : ∀ entry ∈ (bridge.channel handler.side.other).received, entry.1 = target) :
    handler.peer.read = handler'.peer.written ++
      (handler'.peer.writer.held.map binaryMessage ++
        ((bridge.channel handler.side.other).buffer.map binaryMessage ++
          handler.peer.reader.held)) := by
  have hwritten := hflow'.written
  rw [hside] at hwritten
  rw [hflow.read, Channel.itemsOf_sent hsource htarget, List.map_append, hwritten]
  simp only [List.append_assoc]

/-- A channel that is used by one handler on each side. -/
theorem Flow.forwards (hflow : Flow source handler bridge)
    (hflow' : Flow target handler' bridge) (hside : handler'.side = handler.side.other)
    (hsource : ∀ entry ∈ (bridge.channel handler.side.other).sent, entry.1 = source)
    (htarget : ∀ entry ∈ (bridge.channel handler.side.other).received, entry.1 = target) :
    Forwards handler.peer handler'.peer (bridge.channel handler.side.other) := by
  have hall := hflow.inTransit hflow' hside hsource htarget
  have hsent := Channel.itemsOf_sent hsource htarget
  obtain ⟨hread, -, hsized, -⟩ := hflow
  have hwritten := hflow'.written
  rw [hside] at hwritten
  constructor
  case inOrder => exact ⟨_, hall.symm⟩
  case bounded =>
    have hlength := congrArg List.length hall
    simp only [List.length_append, List.length_map] at hlength
    have hreader := handler.peer.reader.held_length
    have hwriter := handler'.peer.writer.held_length
    have hbuffer := (bridge.channel handler.side.other).bounded
    omega
  case valid =>
    intro message hmessage
    have hmem : message ∈ (Channel.itemsOf target
        (bridge.channel handler.side.other).received).map binaryMessage := by
      rw [hwritten]
      exact List.mem_append_left _ hmessage
    obtain ⟨data, hdata, rfl⟩ := List.mem_map.mp hmem
    refine ⟨rfl, hsized data ?_⟩
    rw [hsent]
    exact List.mem_append_left _ hdata
  case onTheWay =>
    intro data hdata
    constructor
    · rw [hall]
      refine List.mem_append_right _ (List.mem_append_right _ (List.mem_append_left _ ?_))
      exact List.mem_map_of_mem hdata
    · refine hsized data ?_
      rw [hsent]
      exact List.mem_append_right _ hdata

end Sole

variable {hash : Bytes → Hash} {s : RelayState Hash}

/-- In every run, between a receiver and the only sender that its bridge has had. -/
theorem forwards_of_reachable [DecidableEq Hash] {ttl : ℕ}
    (hreachable : (system hash ttl).Reachable s) {receiver sender : ℕ}
    {receiving sending : Handler} {bridge : RelayBridge}
    (hreceiver : s.handlers[receiver]? = some receiving) (hreceiving : receiving.side = .receiver)
    (hsender : s.handlers[sender]? = some sending) (hsending : sending.side = .sender)
    (hbridge : s.server.bridges[receiving.bridge]? = some bridge)
    (hsame : sending.bridge = receiving.bridge)
    (hsole : ∀ (other : ℕ) (handler : Handler), s.handlers[other]? = some handler →
      handler.side = .sender → handler.bridge = receiving.bridge → handler.connected = true →
        other = sender) :
    Forwards receiving.peer sending.peer bridge.toSender ∧
      Forwards sending.peer receiving.peer bridge.toReceiver := by
  have hs := wired_of_runWithin hreachable
  have hflow := hs.flow hreceiver hbridge
  have hflow' := hs.flow hsender (hsame.symm ▸ hbridge)
  -- Whoever uses the bridge on a side is the one handler there.
  have honly : ∀ {side : Side} {pointer : ℕ}, (∃ handler, s.handlers[pointer]? = some handler ∧
      handler.bridge = receiving.bridge ∧ handler.side = side ∧ handler.connected = true) →
      (side = .receiver → pointer = receiver) ∧ (side = .sender → pointer = sender) := by
    rintro side pointer ⟨handler, hhandler, hbridge, rfl, hconnected⟩
    constructor
    · intro hside
      exact hs.receiver hhandler hreceiver hside hreceiving hbridge
    · intro hside
      exact hsole pointer handler hhandler hside hbridge hconnected
  constructor
  · have hforwards := hflow.forwards hflow' (by rw [hreceiving, hsending]; rfl)
      (fun entry hentry => ?_) (fun entry hentry => ?_)
    · rwa [hreceiving] at hforwards
    · rw [hreceiving] at hentry
      exact (honly (hs.sent hbridge hentry)).1 rfl
    · rw [hreceiving] at hentry
      exact (honly (hs.received hbridge hentry)).2 rfl
  · have hforwards := hflow'.forwards hflow (by rw [hreceiving, hsending]; rfl)
      (fun entry hentry => ?_) (fun entry hentry => ?_)
    · rwa [hsending] at hforwards
    · rw [hsending] at hentry
      exact (honly (hs.sent hbridge hentry)).2 rfl
    · rw [hsending] at hentry
      exact (honly (hs.received hbridge hentry)).1 rfl

/-- A sender sends two messages; the first is written to the receiver, the second read. -/
def exchange : List RelayAction :=
  [.register [1] [2] 0, .attachReceiver [1] [2], .accept 0 true, .attachSender [1],
    .accept 1 true, .serve 1 (.readMessage (binaryMessage [7])), .serve 1 .send,
    .serve 0 .receive, .serve 0 (.write true), .serve 1 (.readMessage (binaryMessage [8]))]

def exchanged : RelayState Bytes :=
  ((system (id : Bytes → Bytes) 5).run (system id 5).init exchange).getD (system id 5).init

/-- The relay forwards over an exchange. -/
theorem exchanged_forwards : ∃ receiving sending bridge, exchanged.handlers[0]? = some receiving ∧
    exchanged.handlers[1]? = some sending ∧
    exchanged.server.bridges[receiving.bridge]? = some bridge ∧
    Forwards receiving.peer sending.peer bridge.toSender ∧
    Forwards sending.peer receiving.peer bridge.toReceiver := by
  have hreachable : (system (id : Bytes → Bytes) 5).Reachable exchanged :=
    TransitionSystem.reachable_of_run exchange rfl
  refine ⟨_, _, _, rfl, rfl, rfl, ?_⟩
  refine forwards_of_reachable hreachable (show exchanged.handlers[0]? = some _ from rfl) rfl
    (show exchanged.handlers[1]? = some _ from rfl) rfl rfl rfl ?_
  intro other handler hhandler hside _ _
  match other with
  | 0 =>
      obtain rfl := Option.some.inj hhandler
      cases hside
  | 1 => rfl
  | _ + 2 => cases hhandler

end PrintDrop.Relay
