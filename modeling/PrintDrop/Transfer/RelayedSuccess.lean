/-
# Success through the relay

Where nothing fails, a transfer through the relay comes to its end: from any state of the
relay in which the two handlers have just begun to serve a bridge of their own, whichever
of the parties and of the relay's loops takes the next step. Every message makes four
steps in the relay, and at most one message is on its way at a time.
-/

import PrintDrop.Transfer.Relayed
import PrintDrop.Transfer.Success

namespace PrintDrop

open Math

universe u v w x

variable {η : Type u} {σ : Type v} {τ : Type w} {Hash : Type x}

/-- The steps of a peer's loops that neither fail nor end. -/
def Relay.PeerAction.Faultless : Relay.PeerAction → Prop
  | .readMessage _ | .send | .receive => True
  | .write succeeds => succeeds = true
  | .readError _ | .readerDone | .writerDone => False

/-- The steps that are not faults: those of the parties, and those with which the loops of
the two handlers take a message on. -/
def RelayedFaultFree (setup : RelayedSetup η σ τ Hash) (_ : RelayedState η σ τ Hash) :
    RelayedAction → Prop
  | .relay (.serve pointer action) => (∃ side, pointer = setup.party side) ∧ action.Faultless
  | .relay _ => False
  | .sender .sliceRead => True
  | .sender _ => False
  | .deliver => True
  | .receive sendSucceeds _ => sendSucceeds = true
  | .receiveFails => False

section FaultFree

variable {setup : RelayedSetup η σ τ Hash} {R : SinkPhase → σ → Prop} {Q : HashPhase → τ → Prop}
  {sha256 : Bytes → Digest}

/-- At most one message is in flight. -/
private theorem OnTrack.flight {transfer : TransferSetup η σ τ} {s : TransferState η σ τ}
    (hs : OnTrack R Q sha256 transfer s) : s.up.length + s.down.length ≤ 1 := by
  cases hs with
  | hashing _ _ _ _ _ hup hdown | reading _ _ _ hup hdown | pending _ _ _ hup hdown
  | answered _ _ _ hup hdown | resolved _ hup hdown => simp [hup, hdown]

/-- Every message in flight is one that the relay forwards. -/
private theorem OnTrack.sized {transfer : TransferSetup η σ τ} {s : TransferState η σ τ}
    (hsetup : FaultFreeSetup transfer R Q sha256) (hs : OnTrack R Q sha256 transfer s)
    {message : Bytes} (hmessage : message ∈ s.up ∨ message ∈ s.down) :
    message.length ≤ Relay.maxWSMessageBytes := by
  cases hs with
  | hashing _ _ _ _ _ hup hdown | reading _ _ _ hup hdown | resolved _ hup hdown =>
      simp [hup, hdown] at hmessage
  | @pending request _ _ _ hup hdown =>
      obtain rfl : message = request.message transfer.options.file
          (declaredDigest sha256 transfer) := by simpa [hup, hdown] using hmessage
      have hpayload := request.length_payload_le hsetup.encodable
      rw [Request.message, length_frameMessage]
      simp only [relayMaxPayload, relayWsMessageMaxSize, frameHeaderSize,
        Relay.maxWSMessageBytes] at *
      omega
  | @answered request count _ _ _ hup hdown =>
      obtain rfl : message = ackMessage ⟨request.messageType, AckStatus.ok, count⟩ := by
        simpa [hup, hdown] using hmessage
      rw [ackMessage, length_frameMessage, length_ackPayload]
      decide

/-- A transfer on its track, through a relay that serves both handlers. -/
structure RelayedOnTrack (R : SinkPhase → σ → Prop) (Q : HashPhase → τ → Prop)
    (sha256 : Bytes → Digest) (setup : RelayedSetup η σ τ Hash)
    (s : RelayedState η σ τ Hash) : Prop where
  carried : Carried setup s
  serving : Relay.Serving s.relay setup.party
  track : OnTrack R Q sha256 setup.transfer s.view

/-- How many steps the messages that have been sent have before them in the relay. -/
def hopsLeft (setup : RelayedSetup η σ τ Hash) (s : RelayedState η σ τ Hash) : ℕ :=
  4 * (s.answers.length + s.sender.sent.length) -
    ((s.relay.peer (setup.party .receiver)).hops + (s.relay.peer (setup.party .sender)).hops)

/-- How far a transfer through the relay is from its end. -/
def relayedRemaining (setup : RelayedSetup η σ τ Hash) (s : RelayedState η σ τ Hash) : ℕ :=
  5 * remaining setup.transfer s.view + hopsLeft setup s

section Bounds

variable {s t : RelayedState η σ τ Hash}

/-- No more has been forwarded than has been sent. -/
private theorem Carried.hops_le (hs : Carried setup s)
    (hserving : Relay.Serving s.relay setup.party) :
    (s.relay.peer (setup.party .receiver)).hops + (s.relay.peer (setup.party .sender)).hops ≤
      4 * (s.answers.length + s.sender.sent.length) := by
  have hbound := (hserving.hops_bounds hs.inv hs.wired).2
  have hreceiver := (hs.read .receiver).length_le
  have hsender := (hs.read .sender).length_le
  simp only [RelayedState.produced, List.length_map] at hreceiver hsender
  omega

/-- A message in flight has at most four steps before it. -/
private theorem RelayedOnTrack.hopsLeft_le (hs : RelayedOnTrack R Q sha256 setup s) :
    hopsLeft setup s ≤ 4 := by
  have hbound := (hs.serving.hops_bounds hs.carried.inv hs.carried.wired).1
  have hreceiver := hs.carried.handed .receiver
  have hsender := hs.carried.handed .sender
  have hflight := hs.track.flight
  simp only [RelayedState.handed, RelayedState.view, List.length_drop] at hreceiver hsender hflight
  simp only [hopsLeft]
  omega

/-- What a handler reads next is in flight. -/
private theorem RelayedOnTrack.forwards (hsetup : FaultFreeSetup setup.transfer R Q sha256)
    (hs : RelayedOnTrack R Q sha256 setup s) {side : Relay.Side} {action : Relay.PeerAction}
    (hreadable : setup.Readable s (.serve (setup.party side) action))
    (hfaultless : action.Faultless) : action.Forwards := by
  cases action with
  | readMessage message =>
      have hread := hreadable side (by cases side <;> decide) rfl
      obtain ⟨data, hdata, rfl⟩ := Option.map_eq_some_iff.mp hread
      refine ⟨rfl, hs.track.sized hsetup ?_⟩
      -- The other party has been handed nothing that this handler has yet to read.
      have hwritten := (hs.serving.paired.inOrder hs.carried.inv hs.carried.wired
        side.other).length_le
      have hhanded := (hs.carried.handed side.other).trans hwritten
      have hother : side.other.other = side := by cases side <;> rfl
      rw [hother] at hhanded
      have hmem : data ∈ (s.produced side).drop (s.handed side.other) := by
        apply List.mem_iff_getElem?.mpr
        refine ⟨(s.relay.peer (setup.party side)).read.length - s.handed side.other, ?_⟩
        rw [List.getElem?_drop, Nat.add_sub_cancel' hhanded]
        exact hdata
      cases side with
      | sender => exact .inl hmem
      | receiver => exact .inr hmem
  | send | receive => trivial
  | write succeeds => exact hfaultless
  | readError | readerDone | writerDone => exact absurd hfaultless id

variable [DecidableEq Hash]

/-- A step of a party keeps the transfer on its track and brings it nearer to its end. -/
private theorem RelayedOnTrack.party_step (hsetup : FaultFreeSetup setup.transfer R Q sha256)
    (hs : RelayedOnTrack R Q sha256 setup s) {action : RelayedAction} (label : TransferAction)
    (hlabel : action.label = some label) (hallowed : FaultFree s.view label)
    (hrelay : t.relay = s.relay) (hstep : setup.step s action = some t) :
    RelayedOnTrack R Q sha256 setup t ∧ relayedRemaining setup t < relayedRemaining setup s := by
  have hshows := hs.carried.shows hs.serving.paired hstep
  rw [hlabel] at hshows
  obtain ⟨htrack, hless⟩ := hs.track.step hsetup hallowed hshows
  have ht : RelayedOnTrack R Q sha256 setup t :=
    ⟨hs.carried.step hstep, hrelay ▸ hs.serving, htrack⟩
  have hleft := ht.hopsLeft_le
  refine ⟨ht, ?_⟩
  simp only [relayedRemaining]
  omega

/-- Every step that is no fault keeps the transfer on its track and brings it nearer to its
end. -/
theorem RelayedOnTrack.step (hsetup : FaultFreeSetup setup.transfer R Q sha256)
    (hs : RelayedOnTrack R Q sha256 setup s) {action : RelayedAction}
    (hallowed : RelayedFaultFree setup s action) (hstep : setup.step s action = some t) :
    RelayedOnTrack R Q sha256 setup t ∧ relayedRemaining setup t < relayedRemaining setup s := by
  have hcarried := hs.carried.step hstep
  cases RelayedSetup.step_cases hstep with
  | @relay action relay hreadable hrelay =>
      cases action with
      | serve pointer peerAction =>
          obtain ⟨⟨side, rfl⟩, hfaultless⟩ := hallowed
          have hforwards := hs.forwards hsetup hreadable hfaultless
          obtain ⟨hserving, hhops, hhops'⟩ :=
            hs.serving.forward hs.carried.inv hs.carried.wired hforwards hrelay
          refine ⟨⟨hcarried, hserving, hs.track⟩, ?_⟩
          have hbound := hcarried.hops_le hserving
          have hsum : (relay.peer (setup.party .receiver)).hops +
              (relay.peer (setup.party .sender)).hops =
                (s.relay.peer (setup.party .receiver)).hops +
                  (s.relay.peer (setup.party .sender)).hops + 1 := by
            cases side <;> simp only [Relay.Side.other] at hhops' <;> omega
          simp only [relayedRemaining, hopsLeft, RelayedState.view] at *
          omega
      | tick | register | attachReceiver | attachSender | accept | deferred | timerFires
      | expire => exact absurd hallowed id
  | @sender event =>
      cases event with
      | sliceRead => exact hs.party_step hsetup (.sender .sliceRead) rfl trivial rfl hstep
      | sliceFailed | message | closing | socketError | socketClose | ackTimeout =>
          exact absurd hallowed id
  | deliver => exact hs.party_step hsetup .deliver rfl trivial rfl hstep
  | receive sendSucceeds failedArrives =>
      exact hs.party_step hsetup (.receive sendSucceeds failedArrives) rfl hallowed rfl
        hstep
  | receiveFails => exact absurd hallowed id

/-- While a message is in flight, it is handed over or the relay takes it on. -/
private theorem RelayedOnTrack.takes_on (hs : RelayedOnTrack R Q sha256 setup s)
    (side : Relay.Side) (hflight : s.handed side < (s.produced side.other).length) :
    (∃ message, (s.relay.peer (setup.party side)).written[s.handed side]? = some message) ∨
      ∃ action target, RelayedFaultFree setup s action ∧ setup.step s action = some target := by
  have hrelayed : ∀ {user : Relay.Side} {action : Relay.PeerAction} {relay},
      action.Faultless → setup.Readable s (.serve (setup.party user) action) →
        Relay.step setup.hash s.relay (.serve (setup.party user) action) = some relay →
          ∃ action target, RelayedFaultFree setup s action ∧
            setup.step s action = some target := by
    intro user action relay hfaultless hreadable hstep
    refine ⟨.relay (.serve (setup.party user) action), { s with relay := relay },
      ⟨⟨user, rfl⟩, hfaultless⟩, ?_⟩
    rw [RelayedSetup.step, if_pos hreadable, hstep]
    rfl
  rcases Nat.lt_or_ge (s.handed side) (s.relay.peer (setup.party side)).written.length with
    hlt | hge
  · exact .inl ⟨_, List.getElem?_eq_getElem hlt⟩
  rcases hs.serving.can_forward hs.carried.inv hs.carried.wired side with
    ⟨hwritten, hreader⟩ | ⟨user, action, relay, hforwards, hnot, hstep⟩
  · -- The other handler has read what has been handed over, and nothing more.
    have hread : (s.relay.peer (setup.party side.other)).read.length = s.handed side := by
      rw [← hwritten]
      exact Nat.le_antisymm hge (hs.carried.handed side)
    have hnext := List.getElem?_eq_getElem hflight
    obtain ⟨relay, hstep⟩ := hs.serving.can_read hs.carried.inv side.other hreader
      (Relay.binaryMessage (s.produced side.other)[s.handed side])
    refine .inr (hrelayed (show Relay.PeerAction.Faultless (.readMessage _) from trivial) ?_ hstep)
    intro other _ hsame
    have hother : other = side.other := by
      have hne := hs.serving.ne side
      cases side <;> cases other <;> first | rfl | exact absurd hsame hne
    subst hother
    rw [hread, hnext, Option.map_some]
  · refine .inr (hrelayed ?_ ?_ hstep)
    · cases action with
      | readMessage message => exact absurd rfl (hnot message)
      | send | receive => trivial
      | write succeeds => exact hforwards
      | readError | readerDone | writerDone => exact absurd hforwards id
    · cases action with
      | readMessage message => exact absurd rfl (hnot message)
      | send | receive | write | readError | readerDone | writerDone => trivial

/-- Until the transfer has succeeded, someone can go on without a fault. -/
theorem RelayedOnTrack.enabled (hs : RelayedOnTrack R Q sha256 setup s) :
    Succeeded setup.transfer s.view ∨
      ∃ action target, RelayedFaultFree setup s action ∧ setup.step s action = some target := by
  rcases hs.track.enabled with hdone | ⟨label, target, hallowed, hstep⟩
  · exact .inl hdone
  right
  cases label with
  | sender event =>
      cases event with
      | sliceRead =>
          obtain ⟨sender, hsender, -⟩ := Option.map_eq_some_iff.mp hstep
          refine ⟨.sender .sliceRead, { s with sender := sender }, trivial, ?_⟩
          exact Option.map_eq_some_iff.mpr ⟨sender, hsender, rfl⟩
      | sliceFailed | message | closing | socketError | socketClose | ackTimeout =>
          exact absurd hallowed id
  | deliver =>
      have hflight : s.handed .sender < (s.produced .receiver).length := by
        by_contra hnot
        have hdown : s.view.down = [] := List.drop_eq_nil_of_le (not_lt.mp hnot)
        simp [TransferSetup.step, hdown] at hstep
      rcases hs.takes_on .sender hflight with ⟨message, hmessage⟩ | hforwarded
      · refine ⟨.deliver, { s with
            sender := s.sender.onMessage setup.transfer.options message.data
            delivered := s.delivered + 1 }, trivial, ?_⟩
        simp only [RelayedSetup.step, show (s.relay.peer _).written[s.delivered]? = _ from hmessage]
        rfl
      · exact hforwarded
  | receive sendSucceeds failedArrives =>
      have hrunning : s.result = none := by
        cases hresult : s.result with
        | none => rfl
        | some result =>
            simp [TransferSetup.step, show s.view.result = some result from hresult] at hstep
      have hflight : s.handed .receiver < (s.produced .sender).length := by
        by_contra hnot
        have hup : s.view.up = [] := List.drop_eq_nil_of_le (not_lt.mp hnot)
        simp [TransferSetup.step, hup] at hstep
      rcases hs.takes_on .receiver hflight with ⟨message, hmessage⟩ | hforwarded
      · refine ⟨.receive true false, setup.turn { s with taken := s.taken + 1 }
          (arrivedFrame message.data) true false, rfl, ?_⟩
        simp only [RelayedSetup.step, hrunning,
          show (s.relay.peer _).written[s.taken]? = _ from hmessage]
      · exact hforwarded
  | receiveFails | cutUp | cutDown => exact absurd hallowed id

end Bounds

end FaultFree

end PrintDrop
