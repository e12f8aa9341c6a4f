/-
# Receiving from the relay

The receive side of `win32_relay_client.c` and the wrapper in
`win32_receiver_runtime.c` that calls it again after a timeout.

A WebSocket message arrives in pieces. The offset at which the next piece is put is
a local variable of one receive call, and a wait that times out ends that call. What
libcurl and the socket are going to answer is a list, of which each call consumes a
part.
-/

import PrintDrop.Wire.Frame

namespace PrintDrop

/-- The bits of `curl_ws_frame.flags` that the client looks at. -/
structure CurlWsFlags where
  binary : Bool := false
  cont : Bool := false
  close : Bool := false
  ping : Bool := false
  pong : Bool := false
  deriving DecidableEq, Repr

/-- `struct curl_ws_frame`: `bytesLeft` of the WebSocket frame are still to come. -/
structure CurlWsFrame where
  flags : CurlWsFlags
  bytesLeft : ℤ
  deriving DecidableEq, Repr

/-- `pd_relay_wait_socket`, which may also fail to find or to watch the socket. -/
inductive SocketWait
  | ready
  | timeout
  | curlError
  deriving DecidableEq, Repr

/-- One `curl_ws_recv`: CURLE_AGAIN with the wait that follows it, an error, which may
be CURLE_GOT_NOTHING, or the bytes it puts into the buffer. -/
inductive CurlWsRecv
  | again (wait : SocketWait)
  | failed (gotNothing : Bool)
  | received (data : Bytes) (wsFrame : Option CurlWsFrame)
  deriving DecidableEq, Repr

inductive RelayClientState
  | empty
  | prepared
  | connected
  | closed
  | failed
  deriving DecidableEq, Repr

inductive RelayClientResult
  | ok
  | invalidState
  | bufferTooSmall
  | protocolError
  | timeout
  | closed
  | curlError
  deriving DecidableEq, Repr

/-- `pd_win32_relay_client`: its buffer, null before initialisation, whether it has an
easy handle, and its state. -/
structure Win32RelayClient where
  easyHandle : Bool
  messageBuffer : Option Bytes
  state : RelayClientState
  deriving DecidableEq, Repr

/-- The client with other bytes in its buffer. -/
def Win32RelayClient.withBuffer (client : Win32RelayClient) (buffer : Bytes) : Win32RelayClient :=
  { client with messageBuffer := some buffer }

/-- What a receive call returns: its result, the client and the view, and what the
environment has not been asked for yet. -/
structure RelayReceived where
  result : RelayClientResult
  client : Win32RelayClient
  view : RelayMessageView
  rest : List CurlWsRecv

/-- Writing at `&buffer[offset]`. -/
def overwrite (buffer : Bytes) (offset : ℕ) (data : Bytes) : Bytes :=
  buffer.take offset ++ data ++ buffer.drop (offset + data.length)

def relayCurlFailure (client : Win32RelayClient) (gotNothing : Bool) :
    RelayClientResult × Win32RelayClient :=
  if gotNothing then (.closed, { client with state := .closed })
  else (.curlError, { client with state := .failed })

/-- The loop of `pd_win32_relay_client_receive_frame`, from an offset on, over the bytes of
the client's buffer. There is no value where the call is still waiting when the list
ends. -/
def relayClientReceiveFrom (client : Win32RelayClient) (buffer : Bytes)
    (view : RelayMessageView) : ℕ → List CurlWsRecv → Option RelayReceived
  | _, [] => none
  | offset, .again wait :: rest =>
      match wait with
      | .ready => relayClientReceiveFrom client buffer view offset rest
      | .timeout =>
          some ⟨.timeout, { client with state := .connected }, view, rest⟩
      | .curlError =>
          some ⟨.curlError, { client with state := .failed }, view, rest⟩
  | _, .failed gotNothing :: rest =>
      let failure := relayCurlFailure client gotNothing
      some ⟨failure.1, failure.2, view, rest⟩
  | offset, .received data wsFrame :: rest =>
      let buffer := overwrite buffer offset data
      let client := client.withBuffer buffer
      let ended (result : RelayClientResult) (state : RelayClientState)
          (view : RelayMessageView) : Option RelayReceived :=
        some ⟨result, { client with state := state }, view, rest⟩
      match wsFrame with
      | none => ended .protocolError .failed view
      | some wsFrame =>
        if wsFrame.flags.close then ended .closed .closed view
        else if wsFrame.flags.ping || wsFrame.flags.pong then
          relayClientReceiveFrom client buffer view
            (if wsFrame.bytesLeft = 0 then 0 else offset) rest
        else if !wsFrame.flags.binary || wsFrame.flags.cont then ended .protocolError .failed view
        else if relayWsMessageMaxSize - offset < data.length then
          ended .bufferTooSmall .failed view
        else
          let offset := offset + data.length
          if wsFrame.bytesLeft < 0 ∨ relayWsMessageMaxSize - offset < wsFrame.bytesLeft.toNat then
            ended .bufferTooSmall .failed view
          else if wsFrame.bytesLeft ≠ 0 then relayClientReceiveFrom client buffer view offset rest
          else
            let decoded := relayMessageDecode (.bytes (buffer.take offset)) view
            if decoded.1 ≠ .ok then ended .protocolError .failed view
            else ended .ok client.state decoded.2

/-- `pd_win32_relay_client_receive_frame`. -/
def relayClientReceiveFrame (client : Win32RelayClient) (view : RelayMessageView)
    (recvs : List CurlWsRecv) : Option RelayReceived :=
  match client.messageBuffer with
  | none => some ⟨.invalidState, client, view, recvs⟩
  | some buffer =>
    if client.state ≠ .connected ∨ !client.easyHandle then
      some ⟨.invalidState, client, view, recvs⟩
    else relayClientReceiveFrom client buffer view 0 recvs

/-- A call that leaves its loop has consumed an answer. -/
theorem length_rest_lt {client : Win32RelayClient} {buffer : Bytes} {view : RelayMessageView}
    {offset : ℕ} {recvs : List CurlWsRecv} {received : RelayReceived}
    (hreceived : relayClientReceiveFrom client buffer view offset recvs = some received) :
    received.rest.length < recvs.length := by
  fun_induction relayClientReceiveFrom client buffer view offset recvs <;> grind

theorem relayClientReceiveFrame_rest {client : Win32RelayClient} {view : RelayMessageView}
    {recvs : List CurlWsRecv} {received : RelayReceived}
    (hreceived : relayClientReceiveFrame client view recvs = some received)
    (hstate : received.result ≠ .invalidState) : received.rest.length < recvs.length := by
  unfold relayClientReceiveFrame at hreceived
  split at hreceived
  · obtain rfl := Option.some.inj hreceived
    exact absurd rfl hstate
  split at hreceived
  · obtain rfl := Option.some.inj hreceived
    exact absurd rfl hstate
  · exact length_rest_lt hreceived

/-- The view that `pd_runtime_receive_frame` declares and leaves uninitialised. -/
def RelayMessageView.unset : RelayMessageView where
  header := default
  payload := .null 0

/-- `pd_runtime_receive_frame`: the frame it returns, or none where it returns false, with
the client and the answers left. -/
def runtimeReceiveFrame (client : Win32RelayClient) (recvs : List CurlWsRecv) :
    Option (Option RelayMessageView × Win32RelayClient × List CurlWsRecv) :=
  match _hreceived : relayClientReceiveFrame client .unset recvs with
  | none => none
  | some received =>
    if _htimeout : received.result = .timeout then
      runtimeReceiveFrame received.client received.rest
    else if received.result ≠ .ok then some (none, received.client, received.rest)
    else some (some received.view, received.client, received.rest)
termination_by recvs.length
decreasing_by exact relayClientReceiveFrame_rest _hreceived (by simp [_htimeout])

theorem runtimeReceiveFrame_rest {client next : Win32RelayClient} {recvs rest : List CurlWsRecv}
    {view : RelayMessageView}
    (hreceived : runtimeReceiveFrame client recvs = some (some view, next, rest)) :
    rest.length < recvs.length := by
  fun_induction runtimeReceiveFrame client recvs with
  | case1 => simp at hreceived
  | case2 client recvs received hcall htimeout ih =>
      exact (ih hreceived).trans (relayClientReceiveFrame_rest hcall (by simp [htimeout]))
  | case3 => simp at hreceived
  | case4 client recvs received hcall htimeout hok =>
      simp only [Option.some.injEq, Prod.mk.injEq] at hreceived
      obtain ⟨-, -, rfl⟩ := hreceived
      exact relayClientReceiveFrame_rest hcall (by simp_all)

/-- How a sequence of calls is left: the last one still waits, or it has returned false. -/
inductive RuntimeEnding
  | waiting
  | stopped
  deriving DecidableEq, Repr

/-- What calling `pd_runtime_receive_frame` again and again returns. -/
def receivedFrames (client : Win32RelayClient) (recvs : List CurlWsRecv) :
    List RelayMessageView × RuntimeEnding :=
  match _hreceived : runtimeReceiveFrame client recvs with
  | none => ([], .waiting)
  | some (none, _, _) => ([], .stopped)
  | some (some view, client, rest) =>
    let later := receivedFrames client rest
    (view :: later.1, later.2)
termination_by recvs.length
decreasing_by exact runtimeReceiveFrame_rest _hreceived

/-! ## What the relay delivers -/

/-- A frame that fits into a relay message. -/
structure RelayFrame where
  type : UInt8
  payload : Bytes
  valid : messageTypeIsValid type = true
  fits : payload.length ≤ relayMaxPayload

namespace RelayFrame

/-- The WebSocket message that carries it. -/
def message (frame : RelayFrame) : Bytes := frameMessage frame.type frame.payload

/-- The frame as a receiver sees it. -/
def view (frame : RelayFrame) : RelayMessageView where
  header := plainHeader frame.type.toUInt32 frame.payload
  payload := payloadBuffer frame.payload

end RelayFrame

/-- Where libcurl is: between two WebSocket frames, inside a binary one of which `rest`
is still to come, or inside a PING or PONG. -/
inductive WsPosition
  | between
  | inMessage (rest : Bytes)
  | inControl (left : ℕ)

/-- The position behind a piece of a message. -/
def WsPosition.afterPiece (rest : Bytes) : WsPosition :=
  if rest = [] then .between else .inMessage rest

/-- The position behind a piece of a PING or PONG. -/
def WsPosition.afterControl (left : ℕ) : WsPosition :=
  if left = 0 then .between else .inControl left

def maxControlPayload : ℕ := 125

/-- A piece of an unfragmented binary message. -/
def binaryPiece (piece rest : Bytes) : CurlWsRecv :=
  .received piece (some { flags := { binary := true }, bytesLeft := rest.length })

/-- A piece of a PING or a PONG. -/
def controlPiece (isPing : Bool) (piece : Bytes) (left : ℕ) : CurlWsRecv :=
  .received piece (some { flags := { ping := isPing, pong := !isPing }, bytesLeft := left })

/-- The answers by which libcurl delivers some frames, each whole and in order: every
message and every PING or PONG in pieces of any sizes, with CURLE_AGAIN anywhere, after
which the wait ends ready or timed out. -/
inductive Delivers : WsPosition → List RelayFrame → List CurlWsRecv → Prop
  | done : Delivers .between [] []
  | ready {position frames recvs} (hrest : Delivers position frames recvs) :
      Delivers position frames (.again .ready :: recvs)
  | timeout {position frames recvs} (hrest : Delivers position frames recvs) :
      Delivers position frames (.again .timeout :: recvs)
  | first {frame : RelayFrame} {frames recvs} {piece rest : Bytes}
      (hsplit : frame.message = piece ++ rest) (hrest : Delivers (.afterPiece rest) frames recvs) :
      Delivers .between (frame :: frames) (binaryPiece piece rest :: recvs)
  | next {frames recvs} {piece rest : Bytes}
      (hrest : Delivers (.afterPiece rest) frames recvs) :
      Delivers (.inMessage (piece ++ rest)) frames (binaryPiece piece rest :: recvs)
  | control {frames recvs} {isPing : Bool} {piece : Bytes} {left : ℕ}
      (hsize : piece.length + left ≤ maxControlPayload)
      (hrest : Delivers (.afterControl left) frames recvs) :
      Delivers .between frames (controlPiece isPing piece left :: recvs)
  | controlNext {frames recvs} {isPing : Bool} {piece : Bytes} {left : ℕ}
      (hsize : piece.length + left ≤ maxControlPayload)
      (hrest : Delivers (.afterControl left) frames recvs) :
      Delivers (.inControl (piece.length + left)) frames (controlPiece isPing piece left :: recvs)

/-- Every wait that times out begins when nothing of the current message has been handed
over, where `consumed` bytes of it have been so far. -/
def TimeoutsBetween : ℕ → List CurlWsRecv → Prop
  | _, [] => True
  | consumed, .again .timeout :: recvs => consumed = 0 ∧ TimeoutsBetween consumed recvs
  | consumed, .received data (some wsFrame) :: recvs =>
      if !wsFrame.flags.binary then TimeoutsBetween consumed recvs
      else TimeoutsBetween (if wsFrame.bytesLeft = 0 then 0 else consumed + data.length) recvs
  | consumed, _ :: recvs => TimeoutsBetween consumed recvs

@[simp]
theorem length_overwrite {buffer : Bytes} {offset : ℕ} {data : Bytes}
    (hfits : offset + data.length ≤ buffer.length) :
    (overwrite buffer offset data).length = buffer.length := by
  simp only [overwrite, List.length_append, List.length_take, List.length_drop]
  omega

theorem take_overwrite {buffer : Bytes} {offset : ℕ} {data : Bytes}
    (hoffset : offset ≤ buffer.length) :
    (overwrite buffer offset data).take (offset + data.length) = buffer.take offset ++ data := by
  rw [overwrite, List.take_left']
  simp [Nat.min_eq_left hoffset]

namespace RelayFrame

variable (frame : RelayFrame)

theorem message_ne_nil : frame.message ≠ [] := by
  intro hnil
  have hlength := congrArg List.length hnil
  simp [message, frameHeaderSize] at hlength

theorem length_message_le : frame.message.length ≤ relayWsMessageMaxSize := by
  have hfits := frame.fits
  simp only [message, length_frameMessage, relayMaxPayload, relayWsMessageMaxSize,
    frameHeaderSize] at *
  omega

theorem relayMessageDecode_message (view : RelayMessageView) :
    relayMessageDecode (.bytes frame.message) view = (.ok, frame.view) :=
  relayMessageDecode_frameMessage frame.valid frame.fits view

theorem size_view : frameHeaderSize + frame.view.payload.size = frame.message.length := by
  simp [view, message]

end RelayFrame

/-- An accepted message has room for its header, and its payload is what is left. -/
theorem size_of_relayMessageDecode {message : Bytes} {before view : RelayMessageView}
    (hdecode : relayMessageDecode (.bytes message) before = (.ok, view)) :
    frameHeaderSize + view.payload.size = message.length := by
  unfold relayMessageDecode at hdecode
  dsimp only at hdecode
  split at hdecode
  · simp at hdecode
  rename_i hbounds
  have hlength : frameHeaderSize ≤ message.length := by omega
  split at hdecode
  · split at hdecode
    · simp at hdecode
    · simp only [Prod.mk.injEq, true_and] at hdecode
      subst hdecode
      unfold relayPayload
      split
      · simp only [Buffer.size_null]
        omega
      · simp only [Buffer.size_bytes, List.length_drop]
        omega
  · simp at hdecode

/-- What a call that is at an offset, and the calls after it, return. -/
def receivedFramesFrom (client : Win32RelayClient) (buffer : Bytes) (offset : ℕ)
    (recvs : List CurlWsRecv) : List RelayMessageView × RuntimeEnding :=
  match relayClientReceiveFrom client buffer .unset offset recvs with
  | none => ([], .waiting)
  | some received =>
    if received.result = .timeout then receivedFrames received.client received.rest
    else if received.result ≠ .ok then ([], .stopped)
    else
      let later := receivedFrames received.client received.rest
      (received.view :: later.1, later.2)

/-- A client that is connected and has a buffer of the full size. -/
structure Win32RelayClient.Receives (client : Win32RelayClient) (buffer : Bytes) : Prop where
  easyHandle : client.easyHandle = true
  connected : client.state = .connected
  messageBuffer : client.messageBuffer = some buffer
  capacity : buffer.length = relayWsMessageMaxSize

theorem runtimeReceiveFrame_eq (client : Win32RelayClient) (recvs : List CurlWsRecv) :
    runtimeReceiveFrame client recvs =
      (relayClientReceiveFrame client .unset recvs).bind fun received =>
        if received.result = .timeout then runtimeReceiveFrame received.client received.rest
        else if received.result ≠ .ok then some (none, received.client, received.rest)
        else some (some received.view, received.client, received.rest) := by
  rw [runtimeReceiveFrame]
  split
  · simp [*]
  · rename_i received hreceived
    rw [hreceived, Option.bind_some]
    split <;> rfl

theorem receivedFrames_eq (client : Win32RelayClient) (recvs : List CurlWsRecv) :
    receivedFrames client recvs =
      match runtimeReceiveFrame client recvs with
      | none => ([], .waiting)
      | some (none, _, _) => ([], .stopped)
      | some (some view, client, rest) =>
          (view :: (receivedFrames client rest).1, (receivedFrames client rest).2) := by
  rw [receivedFrames]
  split <;> simp [*]

theorem receivedFrames_eq_from {client : Win32RelayClient} {buffer : Bytes}
    (hclient : client.Receives buffer) (recvs : List CurlWsRecv) :
    receivedFrames client recvs = receivedFramesFrom client buffer 0 recvs := by
  have hcall : relayClientReceiveFrame client .unset recvs =
      relayClientReceiveFrom client buffer .unset 0 recvs := by
    simp [relayClientReceiveFrame, hclient.easyHandle, hclient.messageBuffer, hclient.connected]
  rw [receivedFramesFrom, receivedFrames_eq, runtimeReceiveFrame_eq, hcall]
  cases relayClientReceiveFrom client buffer .unset 0 recvs with
  | none => rfl
  | some received =>
      simp only [Option.bind_some]
      by_cases htimeout : received.result = .timeout
      · simp only [if_pos htimeout]
        exact (receivedFrames_eq _ _).symm
      by_cases hok : received.result = .ok
      · simp [hok]
      · simp [htimeout, hok]

/-! ### Continuing a call -/

section Continue

variable {client : Win32RelayClient} {buffer : Bytes} {offset : ℕ} {recvs : List CurlWsRecv}

theorem Win32RelayClient.Receives.overwrite (hclient : client.Receives buffer) {data : Bytes}
    (hfits : offset + data.length ≤ relayWsMessageMaxSize) :
    (client.withBuffer (overwrite buffer offset data)).Receives (overwrite buffer offset data) :=
  ⟨hclient.easyHandle, hclient.connected, rfl, by
    rw [length_overwrite (hfits.trans_eq hclient.capacity.symm), hclient.capacity]⟩

theorem receivedFramesFrom_ready :
    receivedFramesFrom client buffer offset (.again .ready :: recvs) =
      receivedFramesFrom client buffer offset recvs := by
  rw [receivedFramesFrom, receivedFramesFrom, relayClientReceiveFrom]

/-- A timeout starts over at offset zero. -/
theorem receivedFramesFrom_timeout (hclient : client.Receives buffer) :
    receivedFramesFrom client buffer offset (.again .timeout :: recvs) =
      receivedFramesFrom client buffer 0 recvs := by
  rw [← receivedFrames_eq_from hclient, receivedFramesFrom, relayClientReceiveFrom]
  have hsame : { client with state := .connected } = client := by rw [← hclient.connected]
  simp only [hsame, if_true]

/-- A piece of a PING or PONG is put where the next piece goes and then forgotten. -/
theorem receivedFramesFrom_control (isPing : Bool) (piece : Bytes) (left : ℕ) :
    receivedFramesFrom client buffer 0 (controlPiece isPing piece left :: recvs) =
      receivedFramesFrom (client.withBuffer (overwrite buffer 0 piece)) (overwrite buffer 0 piece)
        0 recvs := by
  rw [receivedFramesFrom, receivedFramesFrom, controlPiece, relayClientReceiveFrom]
  cases isPing <;> simp

/-- A piece of a message that does not end it moves the offset. -/
theorem receivedFramesFrom_piece {piece rest : Bytes} (hrest : rest ≠ [])
    (hfits : offset + piece.length + rest.length ≤ relayWsMessageMaxSize) :
    receivedFramesFrom client buffer offset (binaryPiece piece rest :: recvs) =
      receivedFramesFrom (client.withBuffer (overwrite buffer offset piece))
        (overwrite buffer offset piece) (offset + piece.length) recvs := by
  have hpiece : ¬relayWsMessageMaxSize - offset < piece.length := by omega
  have hleft : ¬((rest.length : ℤ) < 0 ∨
      relayWsMessageMaxSize - (offset + piece.length) < (rest.length : ℤ).toNat) := by
    rw [Int.toNat_natCast]
    omega
  have hmore : (rest.length : ℤ) ≠ 0 := by simpa using hrest
  rw [receivedFramesFrom, receivedFramesFrom, binaryPiece, relayClientReceiveFrom]
  simp only [Bool.false_eq_true, if_false, Bool.or_self, Bool.not_true, if_neg hpiece,
    if_neg hleft, if_pos hmore]

/-- The piece that ends a message hands the bytes from offset zero on to the decoder. -/
theorem receivedFramesFrom_lastPiece (hclient : client.Receives buffer) {piece : Bytes}
    (hfits : offset + piece.length ≤ relayWsMessageMaxSize) :
    receivedFramesFrom client buffer offset (binaryPiece piece [] :: recvs) =
      let decoded := relayMessageDecode (.bytes (buffer.take offset ++ piece)) .unset
      let buffer := overwrite buffer offset piece
      let later := receivedFramesFrom (client.withBuffer buffer) buffer 0 recvs
      if decoded.1 ≠ .ok then ([], .stopped) else (decoded.2 :: later.1, later.2) := by
  have hpiece : ¬relayWsMessageMaxSize - offset < piece.length := by omega
  have htake : (overwrite buffer offset piece).take (offset + piece.length) =
      buffer.take offset ++ piece := take_overwrite (by rw [hclient.capacity]; omega)
  have hlater := receivedFrames_eq_from (hclient.overwrite hfits) recvs
  rw [receivedFramesFrom, binaryPiece, relayClientReceiveFrom]
  simp only [Bool.false_eq_true, if_false, Bool.or_self, Bool.not_true, if_neg hpiece, htake]
  by_cases hok : (relayMessageDecode (.bytes (buffer.take offset ++ piece)) .unset).1 = .ok
  · simp only [Win32RelayClient.withBuffer] at hlater ⊢
    simp [hok, hlater]
  · simp [hok]

theorem timeoutsBetween_binaryPiece (consumed : ℕ) (piece rest : Bytes) :
    TimeoutsBetween consumed (binaryPiece piece rest :: recvs) ↔
      TimeoutsBetween (if rest = [] then 0 else consumed + piece.length) recvs := by
  simp [binaryPiece, TimeoutsBetween]

theorem timeoutsBetween_controlPiece (consumed : ℕ) (isPing : Bool) (piece : Bytes) (left : ℕ) :
    TimeoutsBetween consumed (controlPiece isPing piece left :: recvs) ↔
      TimeoutsBetween consumed recvs := by
  simp [controlPiece, TimeoutsBetween]

end Continue

/-- The calls return these frames, each once and in this order, and the last one waits. -/
def Returns (frames : List RelayFrame) (outcome : List RelayMessageView × RuntimeEnding) : Prop :=
  outcome = (frames.map RelayFrame.view, .waiting)

/-- What the answers from a position on come to. Inside a message of which the buffer
holds what was consumed so far, the frames are returned exactly if the timeouts fall
between messages. Where a part of it has been dropped, they are not. -/
def Reassembles (frames : List RelayFrame) (recvs : List CurlWsRecv) : WsPosition → Prop
  | .between | .inControl _ => ∀ {client buffer}, Win32RelayClient.Receives client buffer →
      (Returns frames (receivedFramesFrom client buffer 0 recvs) ↔ TimeoutsBetween 0 recvs)
  | .inMessage rest => ∀ {client buffer}, Win32RelayClient.Receives client buffer →
      ∀ {frame : RelayFrame} {consumed : Bytes}, frame.message = consumed ++ rest →
        (buffer.take consumed.length = consumed →
          (Returns (frame :: frames) (receivedFramesFrom client buffer consumed.length recvs) ↔
            TimeoutsBetween consumed.length recvs)) ∧
        ∀ {offset}, offset < consumed.length →
          ¬Returns (frame :: frames) (receivedFramesFrom client buffer offset recvs)

section Pieces

variable {frames : List RelayFrame} {recvs : List CurlWsRecv} {client : Win32RelayClient}
  {buffer : Bytes} {frame : RelayFrame} {consumed piece rest : Bytes}

/-- The next piece of a message whose consumed bytes are in the buffer. -/
private theorem returns_piece_iff (hrest : Reassembles frames recvs (.afterPiece rest))
    (hclient : client.Receives buffer) (hmessage : frame.message = consumed ++ (piece ++ rest))
    (hbuffer : buffer.take consumed.length = consumed) :
    Returns (frame :: frames)
        (receivedFramesFrom client buffer consumed.length (binaryPiece piece rest :: recvs)) ↔
      TimeoutsBetween consumed.length (binaryPiece piece rest :: recvs) := by
  have hfits := frame.length_message_le
  rw [hmessage, List.length_append, List.length_append, ← Nat.add_assoc] at hfits
  rw [timeoutsBetween_binaryPiece]
  by_cases hlast : rest = []
  · subst hlast
    rw [List.append_nil] at hmessage
    rw [receivedFramesFrom_lastPiece hclient (by simpa using hfits), hbuffer, ← hmessage,
      frame.relayMessageDecode_message, if_pos rfl]
    have hnext : Reassembles frames recvs .between := hrest
    rw [← hnext (hclient.overwrite (by simpa using hfits))]
    simp [Returns, Prod.ext_iff]
  · rw [receivedFramesFrom_piece hlast hfits, if_neg hlast]
    rw [WsPosition.afterPiece, if_neg hlast] at hrest
    have htake : (overwrite buffer consumed.length piece).take (consumed.length + piece.length) =
        buffer.take consumed.length ++ piece := take_overwrite (by rw [hclient.capacity]; omega)
    rw [hbuffer, ← List.length_append] at htake
    rw [← List.length_append]
    exact (hrest (hclient.overwrite (by omega)) (by rw [hmessage, List.append_assoc])).1 htake

/-- The next piece of a message of which a part has been dropped. -/
private theorem not_returns_piece {offset : ℕ}
    (hrest : Reassembles frames recvs (.afterPiece rest)) (hclient : client.Receives buffer)
    (hmessage : frame.message = consumed ++ (piece ++ rest)) (hdropped : offset < consumed.length) :
    ¬Returns (frame :: frames)
      (receivedFramesFrom client buffer offset (binaryPiece piece rest :: recvs)) := by
  have hfits := frame.length_message_le
  have hlength := congrArg List.length hmessage
  rw [List.length_append, List.length_append] at hlength
  by_cases hlast : rest = []
  · -- What is decoded is shorter than the message, and so is its payload.
    subst hlast
    rw [receivedFramesFrom_lastPiece hclient (by simp at hlength; omega)]
    intro hreturns
    dsimp only at hreturns
    split at hreturns
    · simp [Returns] at hreturns
    rename_i hok
    simp only [ne_eq, not_not] at hok
    have hhead : (relayMessageDecode (.bytes (buffer.take offset ++ piece)) .unset).2 =
        frame.view := by
      simp only [Returns, List.map_cons, Prod.mk.injEq, List.cons.injEq] at hreturns
      exact hreturns.1.1
    have hdecoded : relayMessageDecode (.bytes (buffer.take offset ++ piece)) .unset =
        (.ok, frame.view) := Prod.ext hok hhead
    have hview := size_of_relayMessageDecode hdecoded
    rw [frame.size_view, hlength, List.length_append, List.length_take, hclient.capacity] at hview
    simp only [List.length_nil, Nat.add_zero] at hview
    omega
  · rw [receivedFramesFrom_piece hlast (by omega)]
    rw [WsPosition.afterPiece, if_neg hlast] at hrest
    have hmessage' : frame.message = (consumed ++ piece) ++ rest := by
      rw [hmessage, List.append_assoc]
    refine (hrest (hclient.overwrite (by omega)) hmessage').2 ?_
    rw [List.length_append]
    omega

/-- A piece of a PING or PONG changes nothing. -/
private theorem reassembles_control {isPing : Bool} {left : ℕ}
    (hsize : piece.length + left ≤ maxControlPayload)
    (hrest : Reassembles frames recvs (.afterControl left)) :
    Reassembles frames (controlPiece isPing piece left :: recvs) .between := by
  intro client buffer hclient
  have hfits : 0 + piece.length ≤ relayWsMessageMaxSize := by
    simp only [maxControlPayload, relayWsMessageMaxSize] at *
    omega
  rw [receivedFramesFrom_control, timeoutsBetween_controlPiece]
  unfold WsPosition.afterControl at hrest
  split at hrest
  · exact hrest (hclient.overwrite hfits)
  · exact hrest (hclient.overwrite hfits)

end Pieces

/-- The answers that deliver some frames, from any position on. -/
theorem reassembles_of_delivers {position : WsPosition} {frames : List RelayFrame}
    {recvs : List CurlWsRecv} (hdelivers : Delivers position frames recvs) :
    Reassembles frames recvs position := by
  induction hdelivers with
  | done =>
      intro client buffer _
      simp [Returns, receivedFramesFrom, relayClientReceiveFrom, TimeoutsBetween]
  | @ready position frames recvs hrest ih =>
      cases position with
      | between | inControl _ =>
          intro client buffer hclient
          rw [receivedFramesFrom_ready]
          exact ih hclient
      | inMessage rest =>
          intro client buffer hclient frame consumed hmessage
          simp only [receivedFramesFrom_ready]
          exact ih hclient hmessage
  | @timeout position frames recvs hrest ih =>
      cases position with
      | between | inControl _ =>
          intro client buffer hclient
          rw [receivedFramesFrom_timeout hclient, ih hclient]
          simp [TimeoutsBetween]
      | inMessage rest =>
          intro client buffer hclient frame consumed hmessage
          obtain ⟨hsynced, hdropped⟩ := ih hclient hmessage
          simp only [receivedFramesFrom_timeout hclient]
          constructor
          · intro hbuffer
            rcases Nat.eq_zero_or_pos consumed.length with hzero | hpos
            · rw [TimeoutsBetween, ← hsynced hbuffer, hzero]
              simp
            · -- Offset zero is behind what has been consumed.
              exact iff_of_false (hdropped hpos) fun hbetween => hpos.ne' hbetween.1
          · intro offset hoffset
            exact hdropped (Nat.zero_lt_of_lt hoffset)
  | first hsplit hrest ih =>
      intro client buffer hclient
      have hmessage : _ = [] ++ (_ ++ _) := hsplit
      exact returns_piece_iff ih hclient hmessage rfl
  | next hrest ih =>
      intro client buffer hclient frame consumed hmessage
      exact ⟨returns_piece_iff ih hclient hmessage, not_returns_piece ih hclient hmessage⟩
  | @control frames recvs isPing piece left hsize hrest ih =>
      exact reassembles_control hsize ih
  | @controlNext frames recvs isPing piece left hsize hrest ih =>
      exact reassembles_control hsize ih

/-- **Message reassembly.** Where libcurl delivers frames whole and in order, the runtime's
calls return exactly these frames if and only if no wait times out inside a message. -/
theorem receivedFrames_eq_iff {client : Win32RelayClient} {buffer : Bytes}
    (hclient : client.Receives buffer) {frames : List RelayFrame} {recvs : List CurlWsRecv}
    (hdelivers : Delivers .between frames recvs) :
    receivedFrames client recvs = (frames.map RelayFrame.view, .waiting) ↔
      TimeoutsBetween 0 recvs := by
  rw [receivedFrames_eq_from hclient]
  exact reassembles_of_delivers hdelivers hclient

/-- A connected client whose buffer is zeroed. -/
def connectedClient : Win32RelayClient where
  easyHandle := true
  messageBuffer := some (List.replicate relayWsMessageMaxSize 0)
  state := .connected

theorem connectedClient_receives :
    connectedClient.Receives (List.replicate relayWsMessageMaxSize 0) :=
  ⟨rfl, rfl, rfl, List.length_replicate⟩

/-- An empty FILE_END. -/
def endFrame : RelayFrame where
  type := MessageType.fileEnd.toUInt8
  payload := []
  valid := rfl
  fits := Nat.zero_le _

/-- A CHUNK whose data are the bytes of an empty FILE_END. -/
def nestedFrame : RelayFrame where
  type := MessageType.chunk.toUInt8
  payload := endFrame.message
  valid := rfl
  fits := by decide

/-- The nested CHUNK with a stall between its header and its data, the wait in between
ending as given. -/
def stalledChunk (wait : SocketWait) : List CurlWsRecv :=
  [binaryPiece (nestedFrame.message.take frameHeaderSize) endFrame.message, .again wait,
    binaryPiece endFrame.message []]

private theorem stalledChunk_delivers {wait : SocketWait} (hwait : wait ≠ .curlError) :
    Delivers .between [nestedFrame] (stalledChunk wait) := by
  have hpieces : Delivers (.afterPiece endFrame.message) []
      [.again wait, binaryPiece endFrame.message []] := by
    have hlast : Delivers (.inMessage (endFrame.message ++ [])) []
        [binaryPiece endFrame.message []] := .next .done
    rw [List.append_nil] at hlast
    cases wait with
    | ready => exact .ready hlast
    | timeout => exact .timeout hlast
    | curlError => exact absurd rfl hwait
  exact .first (by decide) hpieces

/-- A wait that ends ready is harmless, wherever it stands. -/
theorem stalledChunk_ready_received :
    receivedFrames connectedClient (stalledChunk .ready) = ([nestedFrame.view], .waiting) :=
  (receivedFrames_eq_iff connectedClient_receives (stalledChunk_delivers (by decide))).mpr
    (by simp [stalledChunk, binaryPiece, TimeoutsBetween])

/-- A wait that times out behind the header makes a frame of the CHUNK's data: the
receiver sees a FILE_END that no one has sent. -/
theorem stalledChunk_timeout_received :
    Delivers .between [nestedFrame] (stalledChunk .timeout) ∧
      receivedFrames connectedClient (stalledChunk .timeout) = ([endFrame.view], .waiting) ∧
        endFrame.view ≠ nestedFrame.view := by
  refine ⟨stalledChunk_delivers (by decide), ?_, by decide⟩
  have hfits := endFrame.length_message_le
  have hheader : 0 + (nestedFrame.message.take frameHeaderSize).length ≤ relayWsMessageMaxSize := by
    decide
  have hclient := connectedClient_receives.overwrite hheader
  rw [receivedFrames_eq_from connectedClient_receives, stalledChunk,
    receivedFramesFrom_piece endFrame.message_ne_nil (by decide),
    receivedFramesFrom_timeout hclient, receivedFramesFrom_lastPiece hclient (by omega),
    List.take_zero, List.nil_append, endFrame.relayMessageDecode_message]
  simp [receivedFramesFrom, relayClientReceiveFrom]

end PrintDrop
