/-
# The bounds of the receive buffer

The loop of `pd_win32_relay_client_receive_frame` in the arithmetic of the source: offsets
and sizes are of type `size_t`, which has another width in each of the two builds, the
announced rest of a message is signed, and both are compared as 64-bit numbers. Nothing
here knows that a difference does not wrap; that is proved.

The answers of libcurl are the actions of a transition system, so every sequence of them is
a run. Each state that a run reaches stands for the call of `relayClientReceiveFrame` with
the answers that are still to come.
-/

import PrintDrop.Math.TransitionSystem
import PrintDrop.Receiver.RelayClient

namespace PrintDrop

open Math

/-- The builds of the receiver. -/
inductive ReceiverBuild
  | win32
  | x64
  deriving DecidableEq, Repr

def ReceiverBuild.sizeBits : ReceiverBuild → ℕ
  | .win32 => 32
  | .x64 => 64

/-- `size_t`. -/
abbrev SizeT (build : ReceiverBuild) : Type := BitVec build.sizeBits

variable {build : ReceiverBuild}

/-- `(size_t)PD_RELAY_WS_MESSAGE_MAX_SIZE - offset`. -/
def receiveCapacity (offset : SizeT build) : SizeT build :=
  BitVec.ofNat _ relayWsMessageMaxSize - offset

/-- What `curl_ws_recv` may answer where it was given a capacity: no more bytes than that,
and a `curl_off_t`. -/
def CurlWsRecv.Answers (capacity : ℕ) : CurlWsRecv → Prop
  | .received data wsFrame => data.length ≤ capacity ∧
      ∀ announced ∈ wsFrame, -2 ^ 63 ≤ announced.bytesLeft ∧ announced.bytesLeft < 2 ^ 63
  | _ => True

/-- Where a receive call is: at the head of its loop, about to decode, or over. -/
inductive ReceiveLoopState (build : ReceiverBuild)
  | head (client : Win32RelayClient) (offset : SizeT build)
  | decoding (client : Win32RelayClient) (offset : SizeT build)
  | returned (result : RelayClientResult) (client : Win32RelayClient) (view : RelayMessageView)

/-- The client in a state. -/
def ReceiveLoopState.client : ReceiveLoopState build → Win32RelayClient
  | .head client _ | .decoding client _ | .returned _ client _ => client

/-- One iteration of the loop. -/
def receiveIteration (view : RelayMessageView) (client : Win32RelayClient)
    (offset : SizeT build) : CurlWsRecv → ReceiveLoopState build
  | .again .ready => .head client offset
  | .again .timeout => .returned .timeout { client with state := .connected } view
  | .again .curlError => .returned .curlError { client with state := .failed } view
  | .failed gotNothing =>
    let failure := relayCurlFailure client gotNothing
    .returned failure.1 failure.2 view
  | .received data wsFrame =>
    let received : SizeT build := BitVec.ofNat _ data.length
    let client := client.withBuffer
      (overwrite (client.messageBuffer.getD []) offset.toNat data)
    let ended (result : RelayClientResult) (state : RelayClientState) : ReceiveLoopState build :=
      .returned result { client with state := state } view
    match wsFrame with
    | none => ended .protocolError .failed
    | some wsFrame =>
      if wsFrame.flags.close then ended .closed .closed
      else if wsFrame.flags.ping || wsFrame.flags.pong then
        .head client (if wsFrame.bytesLeft = 0 then 0 else offset)
      else if !wsFrame.flags.binary || wsFrame.flags.cont then ended .protocolError .failed
      else if receiveCapacity offset < received then ended .bufferTooSmall .failed
      else
        let offset := offset + received
        if wsFrame.bytesLeft < 0 ∨
            (receiveCapacity offset).setWidth 64 < BitVec.ofInt 64 wsFrame.bytesLeft then
          ended .bufferTooSmall .failed
        else if wsFrame.bytesLeft ≠ 0 then .head client offset
        else .decoding client offset

/-- What follows the loop's last iteration. -/
def receiveDecode (view : RelayMessageView) (client : Win32RelayClient) (offset : SizeT build) :
    RelayClientResult × Win32RelayClient × RelayMessageView :=
  let message := (client.messageBuffer.getD []).take offset.toNat
  let decoded := relayMessageDecode (.bytes message) view
  if decoded.1 ≠ .ok then (.protocolError, { client with state := .failed }, view)
  else (.ok, client, decoded.2)

/-- What happens in a call. -/
inductive ReceiveLoopAction
  | recv (recv : CurlWsRecv)
  | decode
  deriving DecidableEq, Repr

/-- The runs of one call of `pd_win32_relay_client_receive_frame`. -/
def receiveLoop (build : ReceiverBuild) (client : Win32RelayClient) (view : RelayMessageView) :
    TransitionSystem (ReceiveLoopState build) ReceiveLoopAction where
  init :=
    if client.state ≠ .connected ∨ !client.easyHandle ∨ client.messageBuffer = none then
      .returned .invalidState client view
    else .head client 0
  step
    | .head client offset, .recv recv => some (receiveIteration view client offset recv)
    | .decoding client offset, .decode =>
      let decoded := receiveDecode view client offset
      some (.returned decoded.1 decoded.2.1 decoded.2.2)
    | _, _ => none

/-- The flags of a whole binary data frame. -/
structure CurlWsFlags.IsBinaryData (flags : CurlWsFlags) : Prop where
  binary : flags.binary = true
  cont : flags.cont = false
  close : flags.close = false
  ping : flags.ping = false
  pong : flags.pong = false

/-- libcurl keeps to the capacity that it is given. -/
def FromCurl : ReceiveLoopState build → ReceiveLoopAction → Prop
  | .head _ offset, .recv recv => recv.Answers (receiveCapacity offset).toNat
  | _, _ => True

theorem relayWsMessageMaxSize_lt (build : ReceiverBuild) :
    relayWsMessageMaxSize < 2 ^ build.sizeBits := by
  cases build <;> decide

/-- A call starts with an empty buffer. -/
theorem toNat_zero_lt : (0 : SizeT build).toNat < relayWsMessageMaxSize := by
  simp [relayWsMessageMaxSize]

variable {offset : SizeT build}

/-- The capacity is what is left of the buffer. -/
theorem toNat_receiveCapacity (hoffset : offset.toNat ≤ relayWsMessageMaxSize) :
    (receiveCapacity offset).toNat = relayWsMessageMaxSize - offset.toNat := by
  have hmax : (BitVec.ofNat build.sizeBits relayWsMessageMaxSize).toNat =
      relayWsMessageMaxSize := by
    rw [BitVec.toNat_ofNat, Nat.mod_eq_of_lt (relayWsMessageMaxSize_lt build)]
  have hle : offset ≤ BitVec.ofNat build.sizeBits relayWsMessageMaxSize := by
    rw [BitVec.le_def, hmax]
    exact hoffset
  rw [receiveCapacity, BitVec.toNat_sub_of_le hle, hmax]

theorem toNat_received {size : ℕ} (hsize : size ≤ relayWsMessageMaxSize) :
    (BitVec.ofNat build.sizeBits size).toNat = size := by
  rw [BitVec.toNat_ofNat]
  exact Nat.mod_eq_of_lt (hsize.trans_lt (relayWsMessageMaxSize_lt build))

/-- What libcurl has put into the buffer is added to the offset. -/
theorem toNat_add_received {size : ℕ} (hfits : offset.toNat + size ≤ relayWsMessageMaxSize) :
    (offset + BitVec.ofNat build.sizeBits size).toNat = offset.toNat + size := by
  rw [BitVec.toNat_add, toNat_received (by omega)]
  exact Nat.mod_eq_of_lt (hfits.trans_lt (relayWsMessageMaxSize_lt build))

/-- The comparison of the announced rest, in 64 bits, is that of the numbers. -/
theorem announced_exceeds_iff (hoffset : offset.toNat ≤ relayWsMessageMaxSize) {bytesLeft : ℤ}
    (hlower : -2 ^ 63 ≤ bytesLeft) (hupper : bytesLeft < 2 ^ 63) :
    (bytesLeft < 0 ∨ (receiveCapacity offset).setWidth 64 < BitVec.ofInt 64 bytesLeft) ↔
      (bytesLeft < 0 ∨ relayWsMessageMaxSize - offset.toNat < bytesLeft.toNat) := by
  refine or_congr_right' fun hnonnegative => ?_
  have hcapacity : ((receiveCapacity offset).setWidth 64).toNat =
      relayWsMessageMaxSize - offset.toNat := by
    rw [BitVec.toNat_setWidth, toNat_receiveCapacity hoffset, Nat.mod_eq_of_lt]
    exact (Nat.sub_le _ _).trans_lt (by decide)
  have hannounced : (BitVec.ofInt 64 bytesLeft).toNat = bytesLeft.toNat := by
    rw [BitVec.toNat_ofInt, Int.emod_eq_of_lt (not_lt.mp hnonnegative) (by omega)]
  rw [BitVec.lt_def, hcapacity, hannounced]

/-- What the calls after a state return: the rest of `relayClientReceiveFrom`. -/
def ReceiveLoopState.outcome (view : RelayMessageView) :
    ReceiveLoopState build → List CurlWsRecv → Option RelayReceived
  | .head client offset, rest =>
    relayClientReceiveFrom client (client.messageBuffer.getD []) view offset.toNat rest
  | .decoding client offset, rest =>
    let decoded := receiveDecode view client offset
    some ⟨decoded.1, decoded.2.1, decoded.2.2, rest⟩
  | .returned result client view, rest => some ⟨result, client, view, rest⟩

/-- The invariant: the offset of a state is within the buffer. -/
def ReceiveLoopState.InBounds : ReceiveLoopState build → Prop
  | .head _ offset => offset.toNat < relayWsMessageMaxSize
  | .decoding _ offset => offset.toNat ≤ relayWsMessageMaxSize
  | .returned .. => True

/-- A client whose buffer has the size that was allocated. -/
def Win32RelayClient.HasBuffer (client : Win32RelayClient) : Prop :=
  ∃ buffer, client.messageBuffer = some buffer ∧ buffer.length = relayWsMessageMaxSize

variable {view : RelayMessageView} {client : Win32RelayClient} {recv : CurlWsRecv}

/-- An iteration that gets bytes. -/
private theorem receiveIteration_received (hoffset : offset.toNat < relayWsMessageMaxSize)
    {data : Bytes} {wsFrame : CurlWsFrame}
    (hdata : data.length ≤ relayWsMessageMaxSize - offset.toNat)
    (hlower : -2 ^ 63 ≤ wsFrame.bytesLeft) (hupper : wsFrame.bytesLeft < 2 ^ 63) :
    (receiveIteration view client offset (.received data (some wsFrame))).InBounds ∧
      ∀ rest, relayClientReceiveFrom client (client.messageBuffer.getD []) view offset.toNat
        (.received data (some wsFrame) :: rest) =
          (receiveIteration view client offset (.received data (some wsFrame))).outcome view
            rest := by
  have hnext : (offset + BitVec.ofNat build.sizeBits data.length).toNat =
      offset.toNat + data.length := toNat_add_received (by omega)
  have hroom : ¬receiveCapacity offset < BitVec.ofNat build.sizeBits data.length := by
    rw [BitVec.lt_def, toNat_receiveCapacity hoffset.le, toNat_received (by omega)]
    exact not_lt.mpr hdata
  have hexceeds : (wsFrame.bytesLeft < 0 ∨
      (receiveCapacity (offset + BitVec.ofNat build.sizeBits data.length)).setWidth 64 <
        BitVec.ofInt 64 wsFrame.bytesLeft) ↔ _ :=
    announced_exceeds_iff (by omega) hlower hupper
  rw [hnext] at hexceeds
  simp only [receiveIteration, relayClientReceiveFrom, hroom, not_lt.mpr hdata, hexceeds,
    if_false]
  by_cases hclose : wsFrame.flags.close
  · simp only [if_pos hclose]
    exact ⟨trivial, fun _ => rfl⟩
  simp only [if_neg hclose]
  by_cases hcontrol : wsFrame.flags.ping || wsFrame.flags.pong
  · simp only [if_pos hcontrol]
    refine ⟨?_, fun _ => ?_⟩
    · show (if wsFrame.bytesLeft = 0 then 0 else offset).toNat < relayWsMessageMaxSize
      split
      · exact toNat_zero_lt
      · exact hoffset
    · simp only [ReceiveLoopState.outcome, Win32RelayClient.withBuffer, Option.getD_some]
      split <;> simp
  simp only [if_neg hcontrol]
  by_cases hprotocol : !wsFrame.flags.binary || wsFrame.flags.cont
  · simp only [if_pos hprotocol]
    exact ⟨trivial, fun _ => rfl⟩
  simp only [if_neg hprotocol]
  by_cases hannounced : wsFrame.bytesLeft < 0 ∨
      relayWsMessageMaxSize - (offset.toNat + data.length) < wsFrame.bytesLeft.toNat
  · simp only [if_pos hannounced]
    exact ⟨trivial, fun _ => rfl⟩
  simp only [if_neg hannounced]
  by_cases hmore : wsFrame.bytesLeft ≠ 0
  · simp only [if_pos hmore]
    refine ⟨?_, fun _ => ?_⟩
    · show (offset + BitVec.ofNat build.sizeBits data.length).toNat < relayWsMessageMaxSize
      omega
    · simp [ReceiveLoopState.outcome, Win32RelayClient.withBuffer, hnext]
  · simp only [if_neg hmore]
    refine ⟨?_, fun _ => ?_⟩
    · show (offset + BitVec.ofNat build.sizeBits data.length).toNat ≤ relayWsMessageMaxSize
      omega
    · simp only [ReceiveLoopState.outcome, receiveDecode, Win32RelayClient.withBuffer, hnext,
        Option.getD_some]
      split <;> rfl

/-- An iteration ends in bounds, and does what one of `relayClientReceiveFrom` does. -/
theorem receiveIteration_spec (hoffset : offset.toNat < relayWsMessageMaxSize)
    (hrecv : recv.Answers (receiveCapacity offset).toNat) :
    (receiveIteration view client offset recv).InBounds ∧
      ∀ rest, relayClientReceiveFrom client (client.messageBuffer.getD []) view offset.toNat
        (recv :: rest) = (receiveIteration view client offset recv).outcome view rest := by
  rw [toNat_receiveCapacity hoffset.le] at hrecv
  cases recv with
  | again wait =>
      cases wait with
      | ready => exact ⟨hoffset, fun _ => rfl⟩
      | timeout => exact ⟨trivial, fun _ => rfl⟩
      | curlError => exact ⟨trivial, fun _ => rfl⟩
  | failed gotNothing => exact ⟨trivial, fun _ => rfl⟩
  | received data wsFrame =>
      cases wsFrame with
      | none => exact ⟨trivial, fun _ => rfl⟩
      | some wsFrame =>
          obtain ⟨hdata, hannounced⟩ := hrecv
          exact receiveIteration_received hoffset hdata (hannounced wsFrame rfl).1
            (hannounced wsFrame rfl).2

/-- A binary data frame that announces more than fits, or less than nothing, is refused. -/
theorem receiveIteration_refuses (hoffset : offset.toNat < relayWsMessageMaxSize) {data : Bytes}
    {wsFrame : CurlWsFrame}
    (hrecv : (CurlWsRecv.received data (some wsFrame)).Answers (receiveCapacity offset).toNat)
    (hdata : wsFrame.flags.IsBinaryData)
    (hexceeds : wsFrame.bytesLeft < 0 ∨
      (relayWsMessageMaxSize : ℤ) < offset.toNat + data.length + wsFrame.bytesLeft) :
    ∃ next, receiveIteration view client offset (.received data (some wsFrame)) =
      .returned .bufferTooSmall next view ∧ next.state = .failed := by
  obtain ⟨hbinary, hcont, hclose, hping, hpong⟩ := hdata
  obtain ⟨hlength, hannounced⟩ := hrecv
  rw [toNat_receiveCapacity hoffset.le] at hlength
  have hnext : (offset + BitVec.ofNat build.sizeBits data.length).toNat =
      offset.toNat + data.length := toNat_add_received (by omega)
  have hrefused : wsFrame.bytesLeft < 0 ∨
      (receiveCapacity (offset + BitVec.ofNat build.sizeBits data.length)).setWidth 64 <
        BitVec.ofInt 64 wsFrame.bytesLeft := by
    rw [announced_exceeds_iff (by omega) (hannounced wsFrame rfl).1 (hannounced wsFrame rfl).2,
      hnext]
    omega
  refine ⟨{ client.withBuffer (overwrite (client.messageBuffer.getD []) offset.toNat data) with
    state := .failed }, ?_, rfl⟩
  simp only [receiveIteration, hclose, hping, hpong, hbinary, hcont, hrefused, if_true, if_false,
    Bool.or_self, Bool.not_true, Bool.false_eq_true, ite_self]

/-! ## Runs -/

variable {s : ReceiveLoopState build}

/-- The steps of a call: an iteration, and the decoding that ends it. -/
theorem receiveLoop_step_cases {source target : ReceiveLoopState build}
    {action : ReceiveLoopAction}
    (hstep : (receiveLoop build client view).step source action = some target) :
    (∃ current offset recv, source = .head current offset ∧ action = .recv recv ∧
        target = receiveIteration view current offset recv) ∨
      ∃ current offset, source = .decoding current offset ∧ action = .decode ∧
        target = .returned (receiveDecode view current offset).1
          (receiveDecode view current offset).2.1 (receiveDecode view current offset).2.2 := by
  cases source with
  | head current offset =>
      cases action with
      | recv recv => exact .inl ⟨current, offset, recv, rfl, rfl, (Option.some.inj hstep).symm⟩
      | decode => exact absurd hstep (by simp [receiveLoop])
  | decoding current offset =>
      cases action with
      | recv recv => exact absurd hstep (by simp [receiveLoop])
      | decode => exact .inr ⟨current, offset, rfl, rfl, (Option.some.inj hstep).symm⟩
  | returned result current view' => exact absurd hstep (by simp [receiveLoop])

/-- Every state of a run is in bounds, and stands for what the model's call does with the
answers that are still to come. -/
theorem receiveLoop_invariant (hrun : (receiveLoop build client view).RunWithin FromCurl s) :
    s.InBounds ∧ ∃ consumed, ∀ rest,
      relayClientReceiveFrame client view (consumed ++ rest) = s.outcome view rest := by
  refine TransitionSystem.RunWithin.invariant (P := fun s => ReceiveLoopState.InBounds s ∧
    ∃ consumed, ∀ rest, relayClientReceiveFrame client view (consumed ++ rest) =
      s.outcome view rest) ?_ ?_ hrun
  · simp only [receiveLoop]
    split
    case isTrue hinvalid =>
      refine ⟨trivial, [], fun rest => ?_⟩
      cases hbuffer : client.messageBuffer with
      | none => simp [relayClientReceiveFrame, hbuffer, ReceiveLoopState.outcome]
      | some buffer =>
          have hrefused : client.state ≠ .connected ∨ !client.easyHandle := by
            simpa [hbuffer] using hinvalid
          simp only [relayClientReceiveFrame, hbuffer]
          rw [if_pos hrefused]
          rfl
    case isFalse hvalid =>
      rw [not_or, not_or] at hvalid
      obtain ⟨hstate, heasyHandle, hsome⟩ := hvalid
      refine ⟨toNat_zero_lt, [], fun rest => ?_⟩
      obtain ⟨buffer, hbuffer⟩ := Option.ne_none_iff_exists'.mp hsome
      have haccepted : ¬(client.state ≠ .connected ∨ !client.easyHandle) :=
        not_or.mpr ⟨hstate, heasyHandle⟩
      simp only [relayClientReceiveFrame, hbuffer]
      rw [if_neg haccepted]
      simp [ReceiveLoopState.outcome, hbuffer]
  · intro source target action _ hsource hallowed hstep
    obtain ⟨hbounds, consumed, houtcome⟩ := hsource
    rcases receiveLoop_step_cases hstep with
      ⟨current, offset, recv, rfl, rfl, rfl⟩ | ⟨current, offset, rfl, rfl, rfl⟩
    · obtain ⟨hnext, hrest⟩ := receiveIteration_spec hbounds hallowed
      refine ⟨hnext, consumed ++ [recv], fun rest => ?_⟩
      rw [List.append_assoc, List.singleton_append, houtcome]
      exact hrest rest
    · exact ⟨trivial, consumed, houtcome⟩

/-- An iteration leaves the buffer, or writes the answer's bytes at the offset. -/
theorem receiveIteration_buffer (view : RelayMessageView) (client : Win32RelayClient)
    (offset : SizeT build) (recv : CurlWsRecv) :
    (receiveIteration view client offset recv).client.messageBuffer = client.messageBuffer ∨
      ∃ data wsFrame, recv = .received data wsFrame ∧
        (receiveIteration view client offset recv).client.messageBuffer =
          some (overwrite (client.messageBuffer.getD []) offset.toNat data) := by
  cases recv with
  | again wait => cases wait <;> exact .inl rfl
  | failed gotNothing => cases gotNothing <;> exact .inl rfl
  | received data wsFrame =>
      refine .inr ⟨data, wsFrame, rfl, ?_⟩
      unfold receiveIteration
      cases wsFrame with
      | none => rfl
      | some wsFrame =>
          dsimp only
          repeat' split
          all_goals rfl

theorem receiveDecode_buffer (view : RelayMessageView) (client : Win32RelayClient)
    (offset : SizeT build) :
    (receiveDecode view client offset).2.1.messageBuffer = client.messageBuffer := by
  unfold receiveDecode
  dsimp only
  split <;> rfl

/-- No run writes behind the end of the buffer: it keeps its size. -/
theorem receiveLoop_buffer (hclient : client.HasBuffer)
    (hrun : (receiveLoop build client view).RunWithin FromCurl s) : s.client.HasBuffer := by
  refine TransitionSystem.RunWithin.invariant
    (P := fun s => (ReceiveLoopState.client s).HasBuffer) ?_ ?_ hrun
  · simp only [receiveLoop]
    split <;> exact hclient
  · intro source target action hprior hsource hallowed hstep
    have hbounds := (receiveLoop_invariant hprior).1
    obtain ⟨buffer, hbuffer, hsize⟩ := hsource
    rcases receiveLoop_step_cases hstep with
      ⟨current, offset, recv, rfl, rfl, rfl⟩ | ⟨current, offset, rfl, rfl, rfl⟩
    · have hoffset : offset.toNat < relayWsMessageMaxSize := hbounds
      have hcurrent : current.messageBuffer = some buffer := hbuffer
      rcases receiveIteration_buffer view current offset recv with
        hsame | ⟨data, wsFrame, rfl, hwritten⟩
      · exact ⟨buffer, hsame.trans hcurrent, hsize⟩
      · have hdata : data.length ≤ (receiveCapacity offset).toNat := hallowed.1
        rw [toNat_receiveCapacity hoffset.le] at hdata
        refine ⟨_, hwritten, ?_⟩
        rw [hcurrent, Option.getD_some, length_overwrite (by omega), hsize]
    · exact ⟨buffer, (receiveDecode_buffer view current offset).trans hbuffer, hsize⟩

/-- In every run of a receive call: the offset at the head of the loop is below the size of
the buffer, no difference of sizes wraps, a message that is decoded is within the buffer, and
a data frame that would go beyond it fails the client. -/
theorem receiveLoop_bounds (hrun : (receiveLoop build client view).RunWithin FromCurl s) :
    (∀ (current : Win32RelayClient) (offset : SizeT build), s = .head current offset →
      offset.toNat < relayWsMessageMaxSize ∧
        0 < (receiveCapacity offset).toNat ∧
        offset.toNat + (receiveCapacity offset).toNat = relayWsMessageMaxSize ∧
        ∀ (data : Bytes) (wsFrame : CurlWsFrame),
          (CurlWsRecv.received data (some wsFrame)).Answers (receiveCapacity offset).toNat →
            let next : SizeT build := offset + BitVec.ofNat _ data.length
            next.toNat = offset.toNat + data.length ∧
              next.toNat + (receiveCapacity next).toNat = relayWsMessageMaxSize ∧
              (wsFrame.flags.IsBinaryData →
                wsFrame.bytesLeft < 0 ∨
                  (relayWsMessageMaxSize : ℤ) < next.toNat + wsFrame.bytesLeft →
                ∃ refused : Win32RelayClient,
                  (receiveLoop build client view).step s
                      (.recv (.received data (some wsFrame))) =
                    some (.returned .bufferTooSmall refused view) ∧
                  refused.state = .failed)) ∧
      (∀ (current : Win32RelayClient) (offset : SizeT build), s = .decoding current offset →
        offset.toNat ≤ relayWsMessageMaxSize) ∧
      ∃ consumed, ∀ rest,
        relayClientReceiveFrame client view (consumed ++ rest) = s.outcome view rest := by
  obtain ⟨hbounds, houtcome⟩ := receiveLoop_invariant hrun
  refine ⟨?_, ?_, houtcome⟩
  · rintro current offset rfl
    have hoffset : offset.toNat < relayWsMessageMaxSize := hbounds
    have hcapacity := toNat_receiveCapacity hoffset.le
    refine ⟨hoffset, by omega, by omega, fun data wsFrame hrecv => ?_⟩
    have hlength : data.length ≤ (receiveCapacity offset).toNat := hrecv.1
    have hnext : (offset + BitVec.ofNat build.sizeBits data.length).toNat =
        offset.toNat + data.length := toNat_add_received (by omega)
    have hleft : (receiveCapacity (offset + BitVec.ofNat build.sizeBits data.length)).toNat =
        relayWsMessageMaxSize - (offset.toNat + data.length) := by
      rw [toNat_receiveCapacity (by omega), hnext]
    refine ⟨hnext, by omega, fun hdata hexceeds => ?_⟩
    rw [hnext, Nat.cast_add] at hexceeds
    obtain ⟨refused, hrefused, hstate⟩ := receiveIteration_refuses hoffset hrecv hdata hexceeds
    exact ⟨refused, congrArg some hrefused, hstate⟩
  · rintro current offset rfl
    exact hbounds

/-- A connected client after the first three bytes of a message. -/
def clientInMessage : Win32RelayClient :=
  connectedClient.withBuffer
    (overwrite (List.replicate relayWsMessageMaxSize 0) 0 [0x50, 0x44, 0x52])

/-- A binary data frame of which so much is still to come. -/
def binaryFrame (bytesLeft : ℤ) : CurlWsFrame where
  flags := { binary := true }
  bytesLeft := bytesLeft

/-- After three bytes a rest of 61438 is one too many. -/
theorem receiveLoop_bounds_inMessage : ∃ refused : Win32RelayClient,
    (receiveLoop .win32 connectedClient .unset).step (.head clientInMessage 3)
        (.recv (.received [] (some (binaryFrame 61438)))) =
      some (.returned .bufferTooSmall refused .unset) ∧ refused.state = .failed := by
  have hrun : (receiveLoop .win32 connectedClient .unset).RunWithin FromCurl
      (.head clientInMessage 3) := by
    have hfirst : FromCurl (.head connectedClient (0 : SizeT .win32))
        (.recv (.received [0x50, 0x44, 0x52] (some (binaryFrame 61437)))) := by
      refine ⟨by decide, ?_⟩
      rintro announced ⟨⟩
      decide
    exact .step .init hfirst rfl
  have hanswers : (CurlWsRecv.received [] (some (binaryFrame 61438))).Answers
      (receiveCapacity (3 : SizeT .win32)).toNat := by
    refine ⟨by decide, ?_⟩
    rintro announced ⟨⟩
    decide
  exact (((receiveLoop_bounds hrun).1 clientInMessage 3 rfl).2.2.2 [] _ hanswers).2.2
    ⟨rfl, rfl, rfl, rfl, rfl⟩ (.inr (by decide))

end PrintDrop
