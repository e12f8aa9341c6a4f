/-
# A transfer through the relay

The sender and the receiver's loop with the relay between them, which also serves any
number of other handlers, expires sessions and lets connections fail. What each party has
sent is read, in order, by the handler of its connection, and it is handed what that
handler has written. While the two handlers are alone on their bridge, this is a
transfer over a link that neither loses nor reorders a message: every step is a step of
such a transfer or does not show there. So a sender that has resolved has delivered its
file, whatever happens in the relay.
-/

import PrintDrop.Relay.Pairing
import PrintDrop.Transfer.Agreement

namespace PrintDrop

open Math

universe u v w x

variable {η : Type u} {σ : Type v} {τ : Type w} {Hash : Type x}

/-- The parties and the relay. -/
structure RelayedState (η : Type u) (σ : Type v) (τ : Type w) (Hash : Type x) where
  relay : Relay.RelayState Hash
  sender : Web.Sender η
  /-- How many of the messages written to it the sender has been handed. -/
  delivered : ℕ
  loop : ReceiverLoop (LoggedHandler σ τ) LinkEnd
  result : Option ReceiverLoopResult
  /-- What the loop has sent. -/
  answers : List Bytes
  /-- How many of the messages written to it the loop has been handed. -/
  taken : ℕ

inductive RelayedAction
  | relay (action : Relay.RelayAction)
  | sender (event : Web.SenderEvent)
  /-- The sender is handed the next message. -/
  | deliver
  /-- The loop is handed the next message. -/
  | receive (sendSucceeds failedArrives : Bool)
  | receiveFails

/-- How an action shows to the parties: a step of the relay does not. -/
def RelayedAction.label : RelayedAction → Option TransferAction
  | .relay _ => none
  | .sender event => some (.sender event)
  | .deliver => some .deliver
  | .receive sendSucceeds failedArrives => some (.receive sendSucceeds failedArrives)
  | .receiveFails => some .receiveFails

/-- A transfer, a relay, and the relay's handlers for the transfer's two connections. -/
structure RelayedSetup (η : Type u) (σ : Type v) (τ : Type w) (Hash : Type x) where
  transfer : TransferSetup η σ τ
  hash : Bytes → Hash
  ttl : ℕ
  party : Relay.Side → ℕ

namespace RelayedState

/-- What the party on a side has sent to its handler. -/
def produced (s : RelayedState η σ τ Hash) : Relay.Side → List Bytes
  | .sender => s.sender.sent
  | .receiver => s.answers

/-- How many messages the party on a side has been handed. -/
def handed (s : RelayedState η σ τ Hash) : Relay.Side → ℕ
  | .sender => s.delivered
  | .receiver => s.taken

/-- The transfer that the parties see: what has been sent and not been handed over is in
flight. -/
def view (s : RelayedState η σ τ Hash) : TransferState η σ τ where
  sender := s.sender
  up := s.sender.sent.drop s.taken
  upCut := false
  loop := s.loop
  result := s.result
  down := s.answers.drop s.delivered
  downCut := false

end RelayedState

namespace RelayedSetup

variable (setup : RelayedSetup η σ τ Hash)

/-- The handlers of the two parties read what the parties have sent, in order. -/
def Readable (s : RelayedState η σ τ Hash) : Relay.RelayAction → Prop
  | .serve pointer (.readMessage message) =>
    ∀ side ∈ [Relay.Side.sender, .receiver], pointer = setup.party side →
      ((s.produced side)[(s.relay.peer pointer).read.length]?).map Relay.binaryMessage =
        some message
  | _ => True

instance (s : RelayedState η σ τ Hash) : DecidablePred (setup.Readable s)
  | .serve _ (.readMessage _) => inferInstanceAs (Decidable (∀ side ∈ _, _))
  | .serve _ (.readError _) | .serve _ .send | .serve _ .readerDone | .serve _ .receive
  | .serve _ .writerDone | .serve _ (.write _) | .tick _ | .register _ _ _
  | .attachReceiver _ _ | .attachSender _ | .accept _ _ | .deferred _ | .timerFires _
  | .expire _ => inferInstanceAs (Decidable True)

/-- The parties before anything has happened, at a relay in any state. -/
def startAt (relay : Relay.RelayState Hash) : RelayedState η σ τ Hash where
  relay := relay
  sender := setup.transfer.start.sender
  delivered := 0
  loop := setup.transfer.start.loop
  result := none
  answers := []
  taken := 0

/-- The loop makes a pass on what has arrived. -/
def turn (s : RelayedState η σ τ Hash) (arrived : Option (FrameHeader × Buffer))
    (sendSucceeds failedArrives : Bool) : RelayedState η σ τ Hash :=
  let turned := receiverLoopTurn (receiverLoopOps setup.transfer.platform)
    { s.loop with io := ⟨arrived, sendSucceeds, failedArrives, []⟩ }
  { s with loop := turned.2, result := turned.1, answers := s.answers ++ turned.2.io.sent }

variable [DecidableEq Hash]

def step (s : RelayedState η σ τ Hash) : RelayedAction → Option (RelayedState η σ τ Hash)
  | .relay action =>
    if setup.Readable s action then
      (Relay.step setup.hash s.relay action).map fun relay => { s with relay := relay }
    else none
  | .sender (.message _) => none
  | .sender event =>
    (s.sender.step setup.transfer.options event).map fun sender => { s with sender := sender }
  | .deliver =>
    match (s.relay.peer (setup.party .sender)).written[s.delivered]? with
    | none => none
    | some message =>
      (s.sender.step setup.transfer.options (.message message.data)).map fun sender =>
        { s with sender := sender, delivered := s.delivered + 1 }
  | .receive sendSucceeds failedArrives =>
    match s.result, (s.relay.peer (setup.party .receiver)).written[s.taken]? with
    | none, some message =>
      some (setup.turn { s with taken := s.taken + 1 } (arrivedFrame message.data)
        sendSucceeds failedArrives)
    | _, _ => none
  | .receiveFails =>
    match s.result with
    | none => some (setup.turn s none false false)
    | some _ => none

/-- The runs of a transfer through the relay, from the relay's start. -/
def system : TransitionSystem (RelayedState η σ τ Hash) RelayedAction where
  init := setup.startAt (Relay.system setup.hash setup.ttl).init
  step := setup.step

end RelayedSetup

/-- The steps of a transfer through the relay, one by one. -/
inductive RelayedStep (setup : RelayedSetup η σ τ Hash) (s : RelayedState η σ τ Hash)
    [DecidableEq Hash] : RelayedAction → RelayedState η σ τ Hash → Prop
  | relay {action : Relay.RelayAction} {relay : Relay.RelayState Hash}
    (hreadable : setup.Readable s action)
    (hrelay : Relay.step setup.hash s.relay action = some relay) :
    RelayedStep setup s (.relay action) { s with relay := relay }
  | sender {event : Web.SenderEvent} {sender : Web.Sender η}
    (hevent : ∀ data, event ≠ .message data)
    (hsender : s.sender.step setup.transfer.options event = some sender) :
    RelayedStep setup s (.sender event) { s with sender := sender }
  | deliver {message : Relay.WsMessage} {sender : Web.Sender η}
    (hmessage : (s.relay.peer (setup.party .sender)).written[s.delivered]? = some message)
    (hsender : s.sender.step setup.transfer.options (.message message.data) = some sender) :
    RelayedStep setup s .deliver { s with sender := sender, delivered := s.delivered + 1 }
  | receive {message : Relay.WsMessage} (sendSucceeds failedArrives : Bool)
    (hrunning : s.result = none)
    (hmessage : (s.relay.peer (setup.party .receiver)).written[s.taken]? = some message) :
    RelayedStep setup s (.receive sendSucceeds failedArrives)
      (setup.turn { s with taken := s.taken + 1 } (arrivedFrame message.data) sendSucceeds
        failedArrives)
  | receiveFails (hrunning : s.result = none) :
    RelayedStep setup s .receiveFails (setup.turn s none false false)

theorem RelayedSetup.step_cases [DecidableEq Hash] {setup : RelayedSetup η σ τ Hash}
    {s t : RelayedState η σ τ Hash} {action : RelayedAction}
    (hstep : setup.step s action = some t) : RelayedStep setup s action t := by
  cases action with
  | relay action =>
      simp only [RelayedSetup.step] at hstep
      split at hstep
      · rename_i hreadable
        obtain ⟨relay, hrelay, rfl⟩ := Option.map_eq_some_iff.mp hstep
        exact .relay hreadable hrelay
      · cases hstep
  | sender event =>
      have hmapped : ∀ {result : Option (Web.Sender η)},
          result = s.sender.step setup.transfer.options event →
            (∀ data, event ≠ .message data) →
              result.map (fun sender => { s with sender := sender }) = some t →
                RelayedStep setup s (.sender event) t := by
        rintro result rfl hevent hsome
        obtain ⟨sender, hsender, rfl⟩ := Option.map_eq_some_iff.mp hsome
        exact .sender hevent hsender
      cases event with
      | message data => cases hstep
      | sliceRead | sliceFailed | closing | socketError | socketClose | ackTimeout =>
          exact hmapped rfl (by simp) hstep
  | deliver =>
      simp only [RelayedSetup.step] at hstep
      split at hstep
      · cases hstep
      · rename_i message hmessage
        obtain ⟨sender, hsender, rfl⟩ := Option.map_eq_some_iff.mp hstep
        exact .deliver hmessage hsender
  | receive sendSucceeds failedArrives =>
      simp only [RelayedSetup.step] at hstep
      split at hstep
      · rename_i message hrunning hmessage
        obtain rfl := Option.some.inj hstep
        exact .receive sendSucceeds failedArrives hrunning hmessage
      · cases hstep
  | receiveFails =>
      simp only [RelayedSetup.step] at hstep
      split at hstep
      · rename_i hrunning
        obtain rfl := Option.some.inj hstep
        exact .receiveFails hrunning
      · cases hstep

/-! ## What the relay has read and written -/

/-- The relay has read what the parties have sent, and handed over what it has written. -/
structure Carried (setup : RelayedSetup η σ τ Hash) (s : RelayedState η σ τ Hash) : Prop where
  inv : Relay.RelayInv setup.hash s.relay
  wired : Relay.Wired s.relay
  read : ∀ side, (s.relay.peer (setup.party side)).read <+:
    (s.produced side).map Relay.binaryMessage
  handed : ∀ side, s.handed side ≤ (s.relay.peer (setup.party side)).written.length

section Carried

variable {setup : RelayedSetup η σ τ Hash} {s t : RelayedState η σ τ Hash}

/-- A step of a party adds to what it has sent, and takes only what has been written. -/
private theorem Carried.party_step (hs : Carried setup s) (hrelay : t.relay = s.relay)
    (hproduced : ∀ side, s.produced side <+: t.produced side)
    (hhanded : ∀ side, t.handed side ≤ (s.relay.peer (setup.party side)).written.length) :
    Carried setup t where
  inv := by rw [hrelay]; exact hs.inv
  wired := by rw [hrelay]; exact hs.wired
  read side := by
    rw [hrelay]
    exact (hs.read side).trans ((hproduced side).map _)
  handed side := by rw [hrelay]; exact hhanded side

/-- One more message has been read, which was the next one. -/
private theorem read_next {read : List Relay.WsMessage} {produced : List Bytes}
    {message : Relay.WsMessage} (hread : read <+: produced.map Relay.binaryMessage)
    (hnext : (produced[read.length]?).map Relay.binaryMessage = some message) :
    read ++ [message] <+: produced.map Relay.binaryMessage := by
  rw [← List.getElem?_map] at hnext
  obtain ⟨rest, hrest⟩ := hread
  rw [← hrest, List.getElem?_append_right (le_refl _), Nat.sub_self] at hnext
  rw [← hrest]
  cases rest with
  | nil => cases hnext
  | cons first rest =>
      obtain rfl := Option.some.inj hnext
      rw [List.prefix_append_right_inj]
      exact ⟨rest, rfl⟩

/-- What has been written to a party of a pair is the beginning of what the other one has
sent. -/
theorem Carried.written (hs : Carried setup s) (hpaired : Relay.Paired s.relay setup.party)
    (side : Relay.Side) : (s.relay.peer (setup.party side)).written <+:
      (s.produced side.other).map Relay.binaryMessage :=
  (hpaired.inOrder hs.inv hs.wired side).trans (hs.read side.other)

theorem Carried.handed_le (hs : Carried setup s) (hpaired : Relay.Paired s.relay setup.party)
    (side : Relay.Side) : s.handed side ≤ (s.produced side.other).length := by
  have hlength := (hs.written hpaired side).length_le
  rw [List.length_map] at hlength
  exact (hs.handed side).trans hlength

/-- What a party is handed next is the first of what is in flight to it. -/
theorem Carried.next (hs : Carried setup s) (hpaired : Relay.Paired s.relay setup.party)
    (side : Relay.Side) {message : Relay.WsMessage}
    (hmessage : (s.relay.peer (setup.party side)).written[s.handed side]? = some message) :
    (s.produced side.other).drop (s.handed side) =
      message.data :: (s.produced side.other).drop (s.handed side + 1) := by
  obtain ⟨rest, hrest⟩ := hs.written hpaired side
  have hsent : ((s.produced side.other).map Relay.binaryMessage)[s.handed side]? =
      some message := by
    rw [← hrest, List.getElem?_append_left (List.getElem?_eq_some_iff.mp hmessage).1]
    exact hmessage
  rw [List.getElem?_map] at hsent
  obtain ⟨data, hdata, rfl⟩ := Option.map_eq_some_iff.mp hsent
  obtain ⟨hlt, rfl⟩ := List.getElem?_eq_some_iff.mp hdata
  exact List.drop_eq_getElem_cons hlt

variable [DecidableEq Hash]

/-- A step of the relay. -/
private theorem Carried.relay_step (hs : Carried setup s) {relay : Relay.RelayState Hash}
    {action : Relay.RelayAction} (hreadable : setup.Readable s action)
    (hstep : Relay.step setup.hash s.relay action = some relay) :
    Carried setup { s with relay := relay } where
  inv := hs.inv.step hstep
  wired := hs.wired.step hs.inv hstep
  read side := by
    rcases ((Relay.step_effect hs.inv hstep).peer_extends (setup.party side)).1 with
      hsame | ⟨message, rfl, hmore⟩
    · rw [hsame]
      exact hs.read side
    · rw [hmore]
      exact read_next (hs.read side) (hreadable side (by cases side <;> decide) rfl)
  handed side :=
    (hs.handed side).trans
      ((Relay.step_effect hs.inv hstep).peer_extends (setup.party side)).2.length_le

/-- Every step keeps the record. -/
theorem Carried.step {action : RelayedAction} (hs : Carried setup s)
    (hstep : setup.step s action = some t) : Carried setup t := by
  cases RelayedSetup.step_cases hstep with
  | relay hreadable hrelay => exact hs.relay_step hreadable hrelay
  | sender hevent hsender =>
      refine hs.party_step rfl (fun side => ?_) hs.handed
      cases side with
      | sender => exact Web.Sender.sent_step hsender
      | receiver => exact List.prefix_rfl
  | deliver hmessage hsender =>
      refine hs.party_step rfl (fun side => ?_) fun side => ?_
      · cases side with
        | sender => exact Web.Sender.sent_step hsender
        | receiver => exact List.prefix_rfl
      · cases side with
        | sender => exact (List.getElem?_eq_some_iff.mp hmessage).1
        | receiver => exact hs.handed .receiver
  | receive sendSucceeds failedArrives hrunning hmessage =>
      refine hs.party_step rfl (fun side => ?_) fun side => ?_
      · cases side with
        | sender => exact List.prefix_rfl
        | receiver => exact List.prefix_append _ _
      · cases side with
        | sender => exact hs.handed .sender
        | receiver => exact (List.getElem?_eq_some_iff.mp hmessage).1
  | receiveFails hrunning =>
      refine hs.party_step rfl (fun side => ?_) hs.handed
      cases side with
      | sender => exact List.prefix_rfl
      | receiver => exact List.prefix_append _ _

theorem carried_of_runWithin {allowed : RelayedState η σ τ Hash → RelayedAction → Prop}
    (hrun : setup.system.RunWithin allowed s) : Carried setup s := by
  have hrelay : (Relay.system setup.hash setup.ttl).Reachable
      (Relay.system setup.hash setup.ttl).init := .init
  have hstart : Carried setup setup.system.init := {
    inv := Relay.relayInv_of_runWithin hrelay
    wired := Relay.wired_of_runWithin hrelay
    read := fun side => by cases side <;> exact List.nil_prefix
    handed := fun side => by cases side <;> exact Nat.zero_le _ }
  exact hrun.invariant hstart fun _ hs _ hstep => hs.step hstep

end Carried

section View

variable {setup : RelayedSetup η σ τ Hash} {s t : RelayedState η σ τ Hash}

/-- What is in flight once more has been sent. -/
private theorem drop_of_extends {before after : List Bytes} {count : ℕ}
    (hextends : before <+: after) (hcount : count ≤ before.length) :
    after.drop count = before.drop count ++ after.drop before.length := by
  obtain ⟨rest, rfl⟩ := hextends
  rw [List.drop_append_of_le_length hcount, List.drop_left]

/-- What a sender that has gone on puts on the link. -/
private theorem withSender_view {sender : Web.Sender η} {event : Web.SenderEvent}
    (hsender : s.sender.step setup.transfer.options event = some sender)
    (htaken : s.taken ≤ s.sender.sent.length) (down : List Bytes) :
    TransferSetup.withSender { s.view with down := down } sender =
      { s.view with sender := sender, up := sender.sent.drop s.taken, down := down } := by
  rw [drop_of_extends (Web.Sender.sent_step hsender) htaken]
  rfl

/-- What a pass of the loop puts on the link. -/
private theorem turn_view (arrived : Option (FrameHeader × Buffer))
    (sendSucceeds failedArrives : Bool) {taken : ℕ} (hdelivered : s.delivered ≤ s.answers.length) :
    (setup.turn { s with taken := taken } arrived sendSucceeds failedArrives).view =
      setup.transfer.turn { s.view with up := s.sender.sent.drop taken } arrived sendSucceeds
        failedArrives := by
  simp only [RelayedState.view, RelayedSetup.turn, TransferSetup.turn,
    List.drop_append_of_le_length hdelivered]
  rfl

variable [DecidableEq Hash]

/-- Every step shows as a step of a transfer, or does not show at all. -/
theorem Carried.shows (hs : Carried setup s) (hpaired : Relay.Paired s.relay setup.party)
    {action : RelayedAction} (hstep : setup.step s action = some t) :
    match action.label with
    | none => t.view = s.view
    | some label => setup.transfer.step s.view label = some t.view := by
  have htaken : s.taken ≤ s.sender.sent.length := hs.handed_le hpaired .receiver
  have hdelivered : s.delivered ≤ s.answers.length := hs.handed_le hpaired .sender
  cases RelayedSetup.step_cases hstep with
  | relay => rfl
  | sender hevent hsender =>
      simp only [RelayedAction.label]
      rw [step_sender hevent]
      exact Option.map_eq_some_iff.mpr ⟨_, hsender, withSender_view hsender htaken _⟩
  | deliver hmessage hsender =>
      have hdown := hs.next hpaired .sender hmessage
      simp only [RelayedAction.label, TransferSetup.step, show s.view.down = _ from hdown]
      exact Option.map_eq_some_iff.mpr ⟨_, hsender, withSender_view hsender htaken _⟩
  | receive sendSucceeds failedArrives hrunning hmessage =>
      have hup := hs.next hpaired .receiver hmessage
      simp only [RelayedAction.label, TransferSetup.step, show s.view.up = _ from hup,
        show s.view.result = none from hrunning]
      exact congrArg some (turn_view _ _ _ hdelivered).symm
  | receiveFails hrunning =>
      simp only [RelayedAction.label, TransferSetup.step,
        show s.view.result = none from hrunning]
      exact congrArg some (turn_view _ _ _ hdelivered).symm

/-- A pair that is alone on its bridge was so before every step. -/
private theorem paired_of_step {action : RelayedAction} (hs : Carried setup s)
    (hstep : setup.step s action = some t) (ht : Relay.Paired t.relay setup.party) :
    Relay.Paired s.relay setup.party := by
  cases RelayedSetup.step_cases hstep with
  | relay _ hrelay => exact ht.of_step hs.inv hrelay
  | sender | deliver | receive | receiveFails => exact ht

/-- Where the pair is alone on its bridge, the parties see a run of a transfer. -/
theorem view_reachable (hreachable : setup.system.Reachable s)
    (hpaired : Relay.Paired s.relay setup.party) : setup.transfer.system.Reachable s.view := by
  have hwithin := TransitionSystem.RunWithin.of_backward
    (P := fun state => Relay.Paired state.relay setup.party)
    (fun hrun hstep ht => paired_of_step (carried_of_runWithin hrun) hstep ht) hreachable hpaired
  have hinit : setup.system.init.view = setup.transfer.system.init := rfl
  apply hwithin.simulates hinit
  intro before after action hrun hbefore hstep
  have hshows := (carried_of_runWithin hrun).shows hbefore hstep
  split at hshows
  · exact .inl hshows
  · exact .inr ⟨_, hshows⟩

end View

section Agreement

variable [DecidableEq Hash] {setup : RelayedSetup η σ τ Hash} {s : RelayedState η σ τ Hash}

/-- A sender that has resolved through the relay has announced its file, and the receiver has
written and committed the file's bytes, the digest of which is the announced one. The two
handlers have to have been alone on their bridge; that the relay has lost, delayed or
refused anything else is no matter. -/
theorem relayed_agreement (setup : RelayedSetup η σ τ Hash) {digestOf : Bytes → Digest}
    (hcomputes : setup.transfer.platform.sha256Ops.Computes digestOf)
    {s : RelayedState η σ τ Hash} (hreachable : setup.system.Reachable s)
    (hpaired : Relay.Paired s.relay setup.party) (hresolved : s.sender.phase = .resolved) :
    ∃ (declared : UInt64) (digest : Bytes) (chunks : List Bytes),
      s.sender.sent.head? = some (frameMessage (UInt8.ofNat Web.MessageType.fileBegin)
        (fileBeginPayload declared digest (Web.textEncode setup.transfer.options.file.name))) ∧
      declared.toNat = setup.transfer.options.file.size ∧
      chunks.flatten = setup.transfer.options.file.content ∧
      s.loop.protocol.context.sink.2 = writtenLog declared chunks ++ [.commit .ok] ∧
      (digestOf setup.transfer.options.file.content).toList = digest := by
  have hplatform : setup.transfer.platform.Implements (fun _ _ => True)
      setup.transfer.platform.sha256Ops.FedAt :=
    ⟨FileSinkOps.implements_trivial _, IntegrityOps.implements_fedAt _, fun _ => trivial,
      fun _ => trivial⟩
  have hops := win32ReceiveHandlerOps_implements_leaking hplatform.recorded
  have hlinked : Linked (HandlerAt _ setup.transfer.platform.sha256Ops.FedAt True)
      setup.transfer s.view :=
    TransitionSystem.RunWithin.invariant (P := Linked _ setup.transfer) linked_start
      (fun _ hlinked _ hstep =>
        hlinked.step hops ⟨rfl, rfl, ⟨trivial, rfl⟩, trivial⟩ hstep)
      (view_reachable hreachable hpaired)
  have hphase : s.view.sender.phase = .resolved := hresolved
  cases hlinked with
  | @resolved digest _ hannounced hreceiver =>
      obtain ⟨-, hcomplete, hfile, chunks, hchunks, hinv⟩ := hreceiver
      obtain ⟨-, hrep⟩ := hinv.complete_context hcomplete
      obtain ⟨⟨-, written, hwritten, hlog⟩, -⟩ := hrep.sink
      obtain ⟨running, hfed, hfinish⟩ := hrep.hash _ rfl
      have hdigest := hcomputes hfed (by rw [hfinish])
      rw [hfinish, hchunks, hfile] at hdigest
      rw [hfile] at hlog
      refine ⟨_, digest, written, hannounced.sent, ?_, hwritten.trans hchunks, hlog, ?_⟩
      · have hlt := hannounced.encodable.sizeLt
        rw [UInt64.toNat_ofNat']
        omega
      · rw [← hdigest]
        exact Digest.toList_ofBytes hannounced.encodable.digestLength
  | rejected hother | hashing hother | reading hother => simp [hother] at hphase
  | pending hwaits => simp [hwaits.phase] at hphase
  | answered ack hwaits => simp [hwaits.phase] at hphase

end Agreement

/-- The smooth transfer, with the receiver's handler the first and the sender's the second
of the relay. -/
def relayedSmooth : RelayedSetup Unit Unit Unit Bytes where
  transfer := smoothTransfer
  hash := id
  ttl := 5
  party
    | .receiver => 0
    | .sender => 1

/-- A message goes through the relay. -/
def carry (source target : ℕ) (message : Bytes) : List RelayedAction :=
  [.relay (.serve source (.readMessage (Relay.binaryMessage message))),
    .relay (.serve source .send), .relay (.serve target .receive),
    .relay (.serve target (.write true))]

/-- A request goes through the relay and is taken, and its answer comes back. -/
def exchangeThrough (request : Request) (receivedBytes : UInt64) : List RelayedAction :=
  carry 1 0 (request.message smoothTransfer.options.file oneByteDigest.toList) ++
    [.receive true false] ++
    carry 0 1 (ackMessage ⟨request.messageType, AckStatus.ok, receivedBytes⟩) ++ [.deliver]

/-- A session is registered, and the two parties connect to it. -/
def connecting : List Relay.RelayAction :=
  [.register [1] [2] 0, .attachReceiver [1] [2], .accept 0 true, .attachSender [1],
    .accept 1 true]

/-- The two parties connect, and then the file is sent. -/
def relayedRun : List RelayedAction :=
  connecting.map .relay ++
    exchangeThrough .begin 0 ++ [.sender .sliceRead] ++ exchangeThrough (.chunk 0) 1 ++
    exchangeThrough .finish 1

/-- What the run ends in. -/
def relayedEnd : RelayedState Unit Unit Unit Bytes :=
  (relayedSmooth.system.run relayedSmooth.system.init relayedRun).getD relayedSmooth.system.init

/-- A receiver's handler and a sender's on the first bridge of a relay are a pair. -/
theorem paired_of_handlers {relay : Relay.RelayState Bytes}
    (hhandlers : relay.handlers.map (fun handler => (handler.side, handler.bridge)) =
      [(.receiver, 0), (.sender, 0)]) : Relay.Paired relay relayedSmooth.party := by
  have hknown : ∀ {pointer : ℕ} {handler : Relay.Handler},
      relay.handlers[pointer]? = some handler →
        [(Relay.Side.receiver, 0), (.sender, 0)][pointer]? =
          some (handler.side, handler.bridge) := by
    intro pointer handler hhandler
    rw [← hhandlers, List.getElem?_map, hhandler, Option.map_some]
  constructor
  case side =>
    intro side handler hhandler
    have hside := hknown hhandler
    cases side with
    | receiver | sender => exact (Prod.mk.inj (Option.some.inj hside)).1.symm
  case bridge =>
    intro sending hsending
    cases hreceiving : relay.handlers[relayedSmooth.party .receiver]? with
    | none =>
        have hlength := congrArg List.length hhandlers
        rw [List.length_map, Nat.le_antisymm (List.getElem?_eq_none_iff.mp hreceiving)
          (Nat.zero_le _)] at hlength
        cases hlength
    | some receiving =>
        have hbridge := (Prod.mk.inj (Option.some.inj (hknown hsending))).2
        have hbridge' := (Prod.mk.inj (Option.some.inj (hknown hreceiving))).2
        exact ⟨receiving, rfl, hbridge.symm.trans hbridge'⟩
  case sole =>
    intro receiving other pointer _ hother hside _ _
    have hknown := hknown hother
    match pointer with
    | 0 =>
        rw [hside] at hknown
        cases hknown
    | 1 => rfl
    | _ + 2 => cases hknown

/-- The transfer of one byte through the relay resolves, and the byte has been stored. -/
theorem relayedEnd_agreement :
    ∃ (declared : UInt64) (digest : Bytes) (chunks : List Bytes),
      relayedEnd.sender.sent.head? = some (frameMessage (UInt8.ofNat Web.MessageType.fileBegin)
        (fileBeginPayload declared digest (Web.textEncode [97]))) ∧
      declared.toNat = smoothTransfer.options.file.size ∧ chunks.flatten = [1] ∧
      relayedEnd.loop.protocol.context.sink.2 = writtenLog declared chunks ++ [.commit .ok] ∧
      oneByteDigest.toList = digest :=
  relayed_agreement relayedSmooth (fixedHashOps_computes oneByteDigest)
    (TransitionSystem.reachable_getD_run relayedRun) (paired_of_handlers (by decide +kernel))
    (by decide +kernel)

end PrintDrop
