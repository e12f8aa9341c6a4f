/-
# A pair of handlers

Two handlers of the relay, one on each side of a bridge that no other sender is connected
to. Whatever the other handlers and the timers do, what either of the two has been written
is a prefix of what the other one has read. That the pair is alone on its bridge need only
be known at the end of a run: connected handlers stay on the record of the relay.
-/

import PrintDrop.Relay.Slots
import PrintDrop.Relay.Forwarding

namespace PrintDrop.Relay

open Math

universe u

variable {Hash : Type u}

/-- The peer of a handler. Before a handler attaches itself, nothing has been read from it
or written to it. -/
def RelayState.peer (s : RelayState Hash) (pointer : ℕ) : Peer :=
  (s.handlers[pointer]?).elim .start Handler.peer

theorem RelayState.peer_of_some {s : RelayState Hash} {pointer : ℕ} {handler : Handler}
    (hhandler : s.handlers[pointer]? = some handler) : s.peer pointer = handler.peer := by
  rw [RelayState.peer, hhandler, Option.elim_some]

theorem RelayState.peer_of_none {s : RelayState Hash} {pointer : ℕ}
    (hnone : s.handlers[pointer]? = none) : s.peer pointer = .start := by
  rw [RelayState.peer, hnone, Option.elim_none]

/-- The two handlers are on either side of one bridge, and no other sender has been
connected to it. -/
structure Paired (s : RelayState Hash) (party : Side → ℕ) : Prop where
  side : ∀ {side : Side} {handler : Handler}, s.handlers[party side]? = some handler →
    handler.side = side
  bridge : ∀ {sending : Handler}, s.handlers[party .sender]? = some sending →
    ∃ receiving, s.handlers[party .receiver]? = some receiving ∧
      sending.bridge = receiving.bridge
  sole : ∀ {receiving other : Handler} {pointer : ℕ},
    s.handlers[party .receiver]? = some receiving → s.handlers[pointer]? = some other →
      other.side = .sender → other.connected = true → other.bridge = receiving.bridge →
        pointer = party .sender

section Steps

variable {s t : RelayState Hash} {action : RelayAction}

/-- A handler keeps its side, its bridge and, once it has one, its connection. -/
theorem Effect.kept (heffect : Effect s t action) {pointer : ℕ} {handler : Handler}
    (hhandler : s.handlers[pointer]? = some handler) :
    ∃ handler', t.handlers[pointer]? = some handler' ∧ handler'.side = handler.side ∧
      handler'.bridge = handler.bridge ∧
      (handler.connected = true → handler'.connected = true) := by
  rcases heffect.quiet with hquiet | ⟨served, peerAction, rfl⟩
  · obtain ⟨handler', hhandler', hsame⟩ := hquiet.kept hhandler
    exact ⟨handler', hhandler', hsame.side, hsame.bridge, hsame.connected⟩
  · cases heffect with
    | table _ hhandlers =>
        exact ⟨handler, by rw [hhandlers]; exact hhandler, rfl, rfl, id⟩
    | turn _ hturn => cases hturn
    | serve _ _ _ _ _ hhandlers =>
        refine ⟨_, by rw [hhandlers]; exact getElem?_modify_of_some hhandler _ _, ?_⟩
        split
        · exact ⟨rfl, rfl, id⟩
        · exact ⟨rfl, rfl, id⟩

/-- What a step of a peer adds to what has been read and written. -/
theorem PeerOutcome.extends {party : ℕ} {side : Side} {peer peer' : Peer}
    {bridge bridge' : RelayBridge} {peerAction : PeerAction}
    (houtcome : PeerOutcome party side peer bridge peerAction peer' bridge') :
    (peer'.read = peer.read ∨
      ∃ message, peerAction = .readMessage message ∧ peer'.read = peer.read ++ [message]) ∧
    peer.written <+: peer'.written := by
  cases houtcome with
  | read | invalid => exact ⟨.inr ⟨_, rfl, rfl⟩, List.prefix_rfl⟩
  | wrote => exact ⟨.inl rfl, List.prefix_append _ _⟩
  | readFailed | sent | readerDone | received | writerDone | writeFailed =>
      exact ⟨.inl rfl, List.prefix_rfl⟩

/-- What a step of the relay adds to what has been read from a handler's peer and written
to it: a message is read only where the handler is served. -/
theorem Effect.peer_extends (heffect : Effect s t action) (pointer : ℕ) :
    ((t.peer pointer).read = (s.peer pointer).read ∨
      ∃ message, action = .serve pointer (.readMessage message) ∧
        (t.peer pointer).read = (s.peer pointer).read ++ [message]) ∧
    (s.peer pointer).written <+: (t.peer pointer).written := by
  cases hhandler' : t.handlers[pointer]? with
  | none =>
      have hnone : s.handlers[pointer]? = none := by
        cases hhandler : s.handlers[pointer]? with
        | none => rfl
        | some handler =>
            obtain ⟨handler', hkept, -⟩ := heffect.kept hhandler
            rw [hhandler'] at hkept
            cases hkept
      rw [RelayState.peer_of_none hhandler', RelayState.peer_of_none hnone]
      exact ⟨.inl rfl, List.prefix_rfl⟩
  | some handler' =>
      rw [RelayState.peer_of_some hhandler']
      rcases heffect.handler_step hhandler' with ⟨handler, hhandler, hstepped⟩ | ⟨rfl, hnew⟩
      · rw [RelayState.peer_of_some hhandler]
        cases hstepped with
        | same | turn | close => exact ⟨.inl rfl, List.prefix_rfl⟩
        | serve haction _ _ houtcome =>
            obtain ⟨hread, hwritten⟩ := houtcome.extends
            refine ⟨?_, hwritten⟩
            rcases hread with hsame | ⟨message, rfl, hmore⟩
            · exact .inl hsame
            · exact .inr ⟨message, haction, hmore⟩
      · rw [RelayState.peer_of_none (List.getElem?_eq_none (le_refl _))]
        cases hnew <;> exact ⟨.inl rfl, List.prefix_rfl⟩

variable {hash : Bytes → Hash} {party : Side → ℕ}

/-- A pair that is alone on its bridge was so before every step. -/
theorem Paired.of_step [DecidableEq Hash] (hinv : RelayInv hash s)
    (hstep : step hash s action = some t) (ht : Paired t party) : Paired s party := by
  have heffect := step_effect hinv hstep
  constructor
  case side =>
    intro side handler hhandler
    obtain ⟨handler', hhandler', hside, -⟩ := heffect.kept hhandler
    exact hside.symm.trans (ht.side hhandler')
  case bridge =>
    intro sending hsending
    obtain ⟨sending', hsending', -, hbridge, -⟩ := heffect.kept hsending
    obtain ⟨receiving', hreceiving', hsame⟩ := ht.bridge hsending'
    rcases heffect.handler_step hreceiving' with ⟨receiving, hreceiving, hturned⟩ | ⟨-, hnew⟩
    · exact ⟨receiving, hreceiving,
        hbridge.symm.trans (hsame.trans hturned.keeps.2)⟩
    · cases hnew with
      | receiver =>
          -- The bridge of a new receiver is new, the sender's is not.
          obtain ⟨bridge, hobject, -⟩ := hinv.handlers hsending
          rw [← hbridge, hsame, List.getElem?_eq_none (le_refl _)] at hobject
          cases hobject
      | sender => exact nomatch ht.side hreceiving'
  case sole =>
    intro receiving other pointer hreceiving hother hside hconnected hbridge
    obtain ⟨receiving', hreceiving', -, hsame, -⟩ := heffect.kept hreceiving
    obtain ⟨other', hother', hside', hbridge', hconnected'⟩ := heffect.kept hother
    exact ht.sole hreceiving' hother' (hside'.trans hside) (hconnected' hconnected)
      (hbridge'.trans (hbridge.trans hsame.symm))

end Steps

section Pair

variable {s : RelayState Hash} {party : Side → ℕ} {receiving : Handler} {bridge : RelayBridge}

/-- The two handlers of a pair alone use the channels of their bridge. -/
theorem Paired.parties (hpaired : Paired s party) (hs : Wired s)
    (hreceiving : s.handlers[party .receiver]? = some receiving)
    (hbridge : s.server.bridges[receiving.bridge]? = some bridge) (side : Side) :
    (∀ entry ∈ (bridge.channel side).sent, entry.1 = party side.other) ∧
      ∀ entry ∈ (bridge.channel side).received, entry.1 = party side := by
  have honly : ∀ {user : Side} {pointer : ℕ}, (∃ handler, s.handlers[pointer]? = some handler ∧
      handler.bridge = receiving.bridge ∧ handler.side = user ∧ handler.connected = true) →
      pointer = party user := by
    rintro user pointer ⟨handler, hhandler, hsame, rfl, hconnected⟩
    cases hside : handler.side with
    | receiver => exact hs.receiver hhandler hreceiving hside (hpaired.side hreceiving) hsame
    | sender => exact hpaired.sole hreceiving hhandler hside hconnected hsame
  exact ⟨fun entry hentry => honly (hs.sent hbridge hentry),
    fun entry hentry => honly (hs.received hbridge hentry)⟩

/-- What has been read from the other peer of a pair: it is written to this one, or on its
way through the relay. -/
theorem Paired.inTransit (hpaired : Paired s party) (hs : Wired s)
    (hreceiving : s.handlers[party .receiver]? = some receiving)
    (hbridge : s.server.bridges[receiving.bridge]? = some bridge) {sending : Handler}
    (hsending : s.handlers[party .sender]? = some sending) (side : Side) :
    (s.peer (party side.other)).read = (s.peer (party side)).written ++
      ((s.peer (party side)).writer.held.map binaryMessage ++
        ((bridge.channel side).buffer.map binaryMessage ++
          (s.peer (party side.other)).reader.held)) := by
  obtain ⟨hsent, hreceived⟩ := hpaired.parties hs hreceiving hbridge side
  have hbridge' : s.server.bridges[sending.bridge]? = some bridge := by
    obtain ⟨_, hsame, hequal⟩ := hpaired.bridge hsending
    obtain rfl := Option.some.inj (hsame.symm.trans hreceiving)
    rw [hequal]
    exact hbridge
  have hflow := hs.flow hreceiving hbridge
  have hflow' := hs.flow hsending hbridge'
  have hside := hpaired.side hreceiving
  have hside' := hpaired.side hsending
  cases side with
  | receiver =>
      simp only [Side.other, RelayState.peer_of_some hreceiving,
        RelayState.peer_of_some hsending] at hsent ⊢
      have hall := hflow'.inTransit hflow (by rw [hside, hside']; rfl)
      rw [hside'] at hall
      exact hall hsent hreceived
  | sender =>
      simp only [Side.other, RelayState.peer_of_some hreceiving,
        RelayState.peer_of_some hsending] at hsent ⊢
      have hall := hflow.inTransit hflow' (by rw [hside, hside']; rfl)
      rw [hside] at hall
      exact hall hsent hreceived

variable {hash : Bytes → Hash}

/-- What has been written to a peer of a pair is the beginning of what has been read from
the other one. -/
theorem Paired.inOrder (hpaired : Paired s party) (hinv : RelayInv hash s) (hs : Wired s)
    (side : Side) : (s.peer (party side)).written <+: (s.peer (party side.other)).read := by
  cases hreceiving : s.handlers[party .receiver]? with
  | none =>
      -- There is no sender without its receiver.
      have hnone : s.handlers[party .sender]? = none := by
        cases hsending : s.handlers[party .sender]? with
        | none => rfl
        | some sending =>
            obtain ⟨_, hsome, -⟩ := hpaired.bridge hsending
            rw [hreceiving] at hsome
            cases hsome
      have hwritten : (s.peer (party side)).written = [] := by
        cases side with
        | receiver => rw [RelayState.peer_of_none hreceiving]; rfl
        | sender => rw [RelayState.peer_of_none hnone]; rfl
      rw [hwritten]
      exact List.nil_prefix
  | some receiving =>
      obtain ⟨bridge, hbridge, -⟩ := hinv.handlers hreceiving
      cases hsending : s.handlers[party .sender]? with
      | some sending =>
          rw [hpaired.inTransit hs hreceiving hbridge hsending]
          exact List.prefix_append _ _
      | none =>
          -- Nobody has sent through the channel to the receiver.
          have hwritten : (s.peer (party side)).written = [] := by
            cases side with
            | sender => rw [RelayState.peer_of_none hsending]; rfl
            | receiver =>
                have hsent : (bridge.channel .receiver).sent = [] := by
                  apply List.eq_nil_iff_forall_not_mem.mpr
                  intro entry hentry
                  obtain ⟨handler, hhandler, -⟩ := hs.sent hbridge hentry
                  rw [(hpaired.parties hs hreceiving hbridge .receiver).1 entry hentry] at hhandler
                  exact absurd (hsending.symm.trans hhandler) (by simp)
                have hreceived : (bridge.channel .receiver).received = [] := by
                  have horder := (bridge.channel .receiver).inOrder
                  rw [hsent, List.map_nil] at horder
                  exact List.map_eq_nil_iff.mp (List.append_eq_nil_iff.mp horder.symm).1
                have hwritten := (hs.flow hreceiving hbridge).written
                rw [hpaired.side hreceiving, hreceived] at hwritten
                rw [RelayState.peer_of_some hreceiving]
                exact (List.append_eq_nil_iff.mp hwritten.symm).1
          rw [hwritten]
          exact List.nil_prefix

end Pair

/-! ## Forwarding on a live bridge -/

/-- The connection is open and both loops go on. -/
structure Peer.Running (peer : Peer) : Prop where
  ended : peer.ended = false
  reader : ∀ cause, peer.reader ≠ .returned cause
  writer : ∀ unwritten, peer.writer ≠ .returned unwritten

/-- How many steps of forwarding a peer's loops have made: two for each message read and
two for each message written. -/
def Peer.hops (peer : Peer) : ℕ :=
  (2 * peer.read.length - peer.reader.held.length) +
    (2 * peer.written.length + peer.writer.held.length)

/-- The steps that take a message on: none of them is a failure or an end. -/
def PeerAction.Forwards : PeerAction → Prop
  | .readMessage message =>
    message.type = .binary ∧ message.data.length ≤ maxWSMessageBytes
  | .send | .receive => True
  | .write succeeds => succeeds = true
  | .readError _ | .readerDone | .writerDone => False

/-- Both handlers of a pair have a connection and go on. -/
structure Serving (s : RelayState Hash) (party : Side → ℕ) : Prop where
  paired : Paired s party
  running : ∀ side, ∃ handler, s.handlers[party side]? = some handler ∧
    handler.connected = true ∧ handler.peer.Running

section Forwarding

/-- A peer that forwards goes on, and is one step further. -/
theorem PeerOutcome.forwards {pointer : ℕ} {handler : Handler} {peer : Peer}
    {bridge bridge' : RelayBridge} {peerAction : PeerAction}
    (houtcome : PeerOutcome pointer handler.side handler.peer bridge peerAction peer bridge')
    (hforwards : peerAction.Forwards) (hrunning : handler.peer.Running)
    (hflow : Flow pointer handler bridge) :
    peer.Running ∧ peer.hops = handler.peer.hops + 1 := by
  have hread := congrArg List.length hflow.read
  rw [List.length_append] at hread
  cases houtcome with
  | read hreader =>
      refine ⟨⟨hrunning.ended, by simp, hrunning.writer⟩, ?_⟩
      simp only [Peer.hops, hreader, Reader.held, List.length_append, List.length_singleton,
        List.length_nil]
      omega
  | invalid _ _ hinvalid =>
      rcases hinvalid with htype | hsize
      · exact absurd hforwards.1 htype
      · exact absurd hforwards.2 (not_le.mpr hsize)
  | sent hreader =>
      refine ⟨⟨hrunning.ended, by simp, hrunning.writer⟩, ?_⟩
      simp only [Peer.hops, hreader, Reader.held, List.length_singleton,
        List.length_nil] at hread ⊢
      omega
  | received hwriter =>
      refine ⟨⟨hrunning.ended, hrunning.reader, by simp⟩, ?_⟩
      simp only [Peer.hops, hwriter, Writer.held, List.length_singleton, List.length_nil]
      omega
  | wrote hwriter =>
      refine ⟨⟨hrunning.ended, hrunning.reader, by simp⟩, ?_⟩
      simp only [Peer.hops, hwriter, Writer.held, List.length_append, List.length_singleton,
        List.length_nil]
      omega
  | writeFailed => cases hforwards
  | readFailed | readerDone | writerDone => exact absurd hforwards id

variable {s t : RelayState Hash} {hash : Bytes → Hash} {party : Side → ℕ} {peerAction : PeerAction}

/-- Serving a peer changes the peer of one handler and nothing else about the handlers. -/
private theorem Effect.served {served : ℕ} (heffect : Effect s t (.serve served peerAction))
    {pointer : ℕ} {handler' : Handler} (hhandler' : t.handlers[pointer]? = some handler') :
    ∃ handler, s.handlers[pointer]? = some handler ∧ handler'.side = handler.side ∧
      handler'.bridge = handler.bridge ∧ handler'.connected = handler.connected ∧
      (pointer ≠ served → handler'.peer = handler.peer) := by
  rcases heffect.handler_step hhandler' with ⟨handler, hhandler, hstepped⟩ | ⟨-, hnew⟩
  · refine ⟨handler, hhandler, ?_⟩
    cases hstepped with
    | same => exact ⟨rfl, rfl, rfl, fun _ => rfl⟩
    | turn hturn => cases hturn
    | close haction => cases haction
    | serve haction =>
        obtain ⟨rfl, -⟩ := RelayAction.serve.inj haction
        exact ⟨rfl, rfl, rfl, fun hne => absurd rfl hne⟩
  · cases hnew

/-- Serving a peer keeps a pair. -/
private theorem Paired.serve {served : ℕ} (hpaired : Paired s party)
    (heffect : Effect s t (.serve served peerAction)) : Paired t party := by
  constructor
  case side =>
    intro side handler' hhandler'
    obtain ⟨handler, hhandler, hside, -⟩ := heffect.served hhandler'
    exact hside.trans (hpaired.side hhandler)
  case bridge =>
    intro sending' hsending'
    obtain ⟨sending, hsending, -, hbridge, -⟩ := heffect.served hsending'
    obtain ⟨receiving, hreceiving, hsame⟩ := hpaired.bridge hsending
    obtain ⟨receiving', hreceiving', -, hbridge', -⟩ := heffect.kept hreceiving
    exact ⟨receiving', hreceiving', hbridge.trans (hsame.trans hbridge'.symm)⟩
  case sole =>
    intro receiving' other' pointer hreceiving' hother' hside hconnected hbridge
    obtain ⟨receiving, hreceiving, -, hsame, -⟩ := heffect.served hreceiving'
    obtain ⟨other, hother, hside', hbridge', hconnected', -⟩ := heffect.served hother'
    exact hpaired.sole hreceiving hother (hside'.symm.trans hside) (hconnected' ▸ hconnected)
      (hbridge'.symm.trans (hbridge.trans hsame))

/-- The two handlers of a pair are different ones. -/
theorem Serving.ne (hserving : Serving s party) (side : Side) :
    party side.other ≠ party side := by
  intro hsame
  obtain ⟨handler, hhandler, -⟩ := hserving.running side
  have hside := hserving.paired.side hhandler
  rw [← hsame] at hhandler
  have hother := hserving.paired.side hhandler
  rw [hside] at hother
  cases side <;> cases hother

/-- A message that has been written has made four steps, one that has been read at most
four. -/
theorem Serving.hops_bounds (hserving : Serving s party) (hinv : RelayInv hash s) (hs : Wired s) :
    4 * ((s.peer (party .receiver)).written.length + (s.peer (party .sender)).written.length) ≤
        (s.peer (party .receiver)).hops + (s.peer (party .sender)).hops ∧
      (s.peer (party .receiver)).hops + (s.peer (party .sender)).hops ≤
        4 * ((s.peer (party .receiver)).read.length + (s.peer (party .sender)).read.length) := by
  obtain ⟨receiving, hreceiving, -⟩ := hserving.running .receiver
  obtain ⟨sending, hsending, -⟩ := hserving.running .sender
  obtain ⟨bridge, hbridge, -⟩ := hinv.handlers hreceiving
  have hall := hserving.paired.inTransit hs hreceiving hbridge hsending
  have hup := congrArg List.length (hall .receiver)
  have hdown := congrArg List.length (hall .sender)
  simp only [Side.other, List.length_append, List.length_map] at hup hdown
  simp only [Peer.hops]
  omega

variable [DecidableEq Hash]

/-- A step of forwarding keeps a pair going, and takes it one step further. -/
theorem Serving.forward (hserving : Serving s party) (hinv : RelayInv hash s) (hs : Wired s)
    {side : Side} (hforwards : peerAction.Forwards)
    (hstep : step hash s (.serve (party side) peerAction) = some t) :
    Serving t party ∧ (t.peer (party side)).hops = (s.peer (party side)).hops + 1 ∧
      (t.peer (party side.other)).hops = (s.peer (party side.other)).hops := by
  have heffect := step_effect hinv hstep
  have hother : ∀ {other : Side}, other ≠ side →
      ∃ handler', t.handlers[party other]? = some handler' ∧ handler'.connected = true ∧
        handler'.peer.Running ∧ handler'.peer = s.peer (party other) := by
    intro other hne
    obtain ⟨handler, hhandler, hconnected, hrunning⟩ := hserving.running other
    obtain ⟨handler', hhandler', -, -, hconnected'⟩ := heffect.kept hhandler
    obtain ⟨before, hbefore, -, -, -, hpeer⟩ := heffect.served hhandler'
    obtain rfl := Option.some.inj (hbefore.symm.trans hhandler)
    have hdistinct : party other ≠ party side := by
      have hne' := hserving.ne side
      cases side <;> cases other <;> first | exact hne' | exact absurd rfl hne
    refine ⟨handler', hhandler', hconnected' hconnected, ?_, ?_⟩
    · rw [hpeer hdistinct]
      exact hrunning
    · rw [hpeer hdistinct, RelayState.peer_of_some hhandler]
  obtain ⟨handler, hhandler, hconnected, hrunning⟩ := hserving.running side
  obtain ⟨bridge, hbridge, -⟩ := hinv.handlers hhandler
  cases step_cases hstep with
  | @serve pointer before bridge bridge' peer _ hbefore hobject hconnected' hserve =>
      obtain rfl := Option.some.inj (hbefore.symm.trans hhandler)
      have hflow := hs.flow hhandler hobject
      obtain ⟨hrunning', hhops⟩ := (servePeer_outcome hserve).forwards hforwards hrunning hflow
      have hafter : (s.handlers.modify (party side) fun before =>
          { before with peer := peer })[party side]? = some { before with peer := peer } :=
        getElem?_modify_self hhandler
      have hpeer := RelayState.peer_of_some (s := ⟨{ s.server with
        bridges := s.server.bridges.modify before.bridge fun _ => bridge' },
        s.handlers.modify (party side) fun before => { before with peer := peer }⟩) hafter
      refine ⟨⟨hserving.paired.serve heffect, fun other => ?_⟩, ?_, ?_⟩
      · by_cases hsame : other = side
        · subst hsame
          exact ⟨_, hafter, hconnected, hrunning'⟩
        · obtain ⟨handler', hhandler', hconnected', hrunning', -⟩ := hother hsame
          exact ⟨handler', hhandler', hconnected', hrunning'⟩
      · rw [hpeer, RelayState.peer_of_some hhandler]
        exact hhops
      · have hdistinct : side.other ≠ side := by cases side <;> decide
        obtain ⟨handler', hhandler', -, -, hkept⟩ := hother hdistinct
        rw [RelayState.peer_of_some hhandler', hkept]

variable (hash peerAction) in
/-- Serving a peer is possible where its loops can take the step. -/
private theorem exists_serve {pointer : ℕ} {handler : Handler} {bridge : RelayBridge}
    (hhandler : s.handlers[pointer]? = some handler) (hconnected : handler.connected = true)
    (hbridge : s.server.bridges[handler.bridge]? = some bridge)
    (hserve : (handler.peer.servePeer pointer handler.side bridge peerAction).isSome) :
    ∃ t, step hash s (.serve pointer peerAction) = some t := by
  obtain ⟨served, hserve⟩ := Option.isSome_iff_exists.mp hserve
  have hstep : (step hash s (.serve pointer peerAction)).isSome := by
    simp only [step, RelayState.serve, hhandler, hbridge, hconnected, hserve, if_true,
      Option.map_some, Option.isSome_some]
  exact Option.isSome_iff_exists.mp hstep

/-- The read loop of a handler of a pair takes any message while it reads. -/
theorem Serving.can_read (hserving : Serving s party) (hinv : RelayInv hash s) (side : Side)
    (hreader : (s.peer (party side)).reader = .reading) (message : WsMessage) :
    ∃ t, step hash s (.serve (party side) (.readMessage message)) = some t := by
  obtain ⟨handler, hhandler, hconnected, hrunning⟩ := hserving.running side
  obtain ⟨bridge, hbridge, -⟩ := hinv.handlers hhandler
  rw [RelayState.peer_of_some hhandler] at hreader
  apply exists_serve hash _ hhandler hconnected hbridge
  rw [Peer.servePeer, if_pos ⟨hreader, by simp [hrunning.ended]⟩]
  dsimp only
  split <;> rfl

/-- Where nothing can be forwarded to a handler of a pair, it has been written all that has
been read from the other one, which reads on. -/
theorem Serving.can_forward (hserving : Serving s party) (hinv : RelayInv hash s) (hs : Wired s)
    (side : Side) :
    (s.peer (party side)).written = (s.peer (party side.other)).read ∧
        (s.peer (party side.other)).reader = .reading ∨
      ∃ (user : Side) (peerAction : PeerAction) (t : RelayState Hash), peerAction.Forwards ∧
        (∀ message, peerAction ≠ .readMessage message) ∧
        step hash s (.serve (party user) peerAction) = some t := by
  obtain ⟨receiving, hreceiving, -⟩ := hserving.running .receiver
  obtain ⟨sending, hsending, -⟩ := hserving.running .sender
  obtain ⟨bridge, hbridge, -⟩ := hinv.handlers hreceiving
  have hall := hserving.paired.inTransit hs hreceiving hbridge hsending side
  -- Both handlers have the bridge of the pair.
  have hparty : ∀ user, ∃ handler, s.handlers[party user]? = some handler ∧
      handler.connected = true ∧ handler.peer.Running ∧ handler.side = user ∧
      s.server.bridges[handler.bridge]? = some bridge := by
    intro user
    obtain ⟨handler, hhandler, hconnected, hrunning⟩ := hserving.running user
    refine ⟨handler, hhandler, hconnected, hrunning, hserving.paired.side hhandler, ?_⟩
    cases user with
    | receiver =>
        obtain rfl := Option.some.inj (hhandler.symm.trans hreceiving)
        exact hbridge
    | sender =>
        obtain ⟨_, hsame, hequal⟩ := hserving.paired.bridge hhandler
        obtain rfl := Option.some.inj (hsame.symm.trans hreceiving)
        rw [hequal]
        exact hbridge
  obtain ⟨target, htarget, hconnected, hrunning, hside, hobject⟩ := hparty side
  obtain ⟨source, hsource, hconnected', hrunning', hside', hobject'⟩ := hparty side.other
  rw [RelayState.peer_of_some htarget, RelayState.peer_of_some hsource] at *
  cases hwriter : target.peer.writer with
  | returned unwritten => exact absurd hwriter (hrunning.writer unwritten)
  | writing message =>
      obtain ⟨t, ht⟩ := exists_serve hash (.write true) htarget hconnected
        hobject (by simp [Peer.servePeer, hwriter, hrunning.ended])
      exact .inr ⟨side, .write true, t, rfl, by simp, ht⟩
  | selecting =>
      cases hbuffer : (bridge.channel side).buffer with
      | cons first rest =>
          have hreceive : ((bridge.channel side).receive (party side)).isSome := by
            unfold Channel.receive
            split
            · simp_all
            · rfl
          obtain ⟨t, ht⟩ := exists_serve hash .receive htarget hconnected
            hobject (by simpa [Peer.servePeer, hwriter, hside] using hreceive)
          exact .inr ⟨side, .receive, t, trivial, by simp, ht⟩
      | nil =>
          cases hreader : source.peer.reader with
          | returned cause => exact absurd hreader (hrunning'.reader cause)
          | sending message =>
              have hother : side.other.other = side := by cases side <;> rfl
              have hsend : ((bridge.channel side).send (party side.other) message).isSome := by
                unfold Channel.send
                rw [dif_pos (by rw [hbuffer]; decide)]
                rfl
              obtain ⟨t, ht⟩ := exists_serve hash .send hsource
                hconnected' hobject'
                (by simpa [Peer.servePeer, hreader, hside', hother] using hsend)
              exact .inr ⟨side.other, .send, t, trivial, by simp, ht⟩
          | reading =>
              refine .inl ⟨?_, rfl⟩
              rw [hall, hwriter, hbuffer, hreader]
              simp [Writer.held, Reader.held]

end Forwarding

end PrintDrop.Relay
