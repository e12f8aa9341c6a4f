/-
# Frame headers and relay messages

`protocol.c`, `frame.c` and `relay_message.c`: the twelve-byte header and the
message that carries one header and its payload over the relay.

A message type is whatever integer a C caller stores in the enum field, so it is
a machine word here and validity is a check on its low byte, as in the source.
Decoders take the caller's output record and return it, written or not, beside
the result code.
-/

import PrintDrop.Wire.Bytes

namespace PrintDrop

/-- The storage of a `pd_message_type`: any value of the underlying integer. -/
abbrev MessageType := UInt32

namespace MessageType

def hello : MessageType := 1
def job : MessageType := 2
def fileBegin : MessageType := 3
def chunk : MessageType := 4
def fileEnd : MessageType := 5
def ack : MessageType := 6
def error : MessageType := 7

end MessageType

def messageTypeIsValid (value : UInt8) : Bool :=
  MessageType.hello.toUInt8 ≤ value && value ≤ MessageType.error.toUInt8

def protocolVersion : UInt8 := 1
def frameHeaderSize : ℕ := 12
def frameMaxPayload : ℕ := 1024 * 1024

inductive FrameResult
  | ok
  | invalidArgument
  | badMagic
  | unsupportedVersion
  | invalidType
  | unsupportedFlags
  | payloadTooLarge
  deriving DecidableEq, Repr

structure FrameHeader where
  type : MessageType
  flags : UInt16
  payloadLength : UInt32
  deriving DecidableEq, Repr, Inhabited

/-- The four bytes `PD_MAGIC_0` to `PD_MAGIC_3`. -/
def frameMagic : Bytes := [0x50, 0x44, 0x52, 0x50]

/-- `pd_frame_encode_header`: the twelve bytes it writes, or its error code. -/
def frameEncodeHeader (header : FrameHeader) : Except FrameResult Bytes :=
  if !messageTypeIsValid header.type.toUInt8 then .error .invalidType
  else if header.flags ≠ 0 then .error .unsupportedFlags
  else if frameMaxPayload < header.payloadLength.toNat then .error .payloadTooLarge
  else
    .ok (frameMagic ++ [protocolVersion, header.type.toUInt8] ++
      writeU16BE header.flags ++ writeU32BE header.payloadLength)

/-- `pd_frame_decode_header` on a pointer to at least twelve bytes. -/
def frameDecodeHeader (input : Option Bytes) (header : FrameHeader) :
    FrameResult × FrameHeader :=
  match input with
  | none => (.invalidArgument, header)
  | some input =>
    if byteAt input 0 ≠ 0x50 ∨ byteAt input 1 ≠ 0x44 ∨ byteAt input 2 ≠ 0x52 ∨
        byteAt input 3 ≠ 0x50 then
      (.badMagic, header)
    else if byteAt input 4 ≠ protocolVersion then (.unsupportedVersion, header)
    else
      let type := byteAt input 5
      if !messageTypeIsValid type then (.invalidType, header)
      else
        let flags := readU16BE (input.drop 6)
        if flags ≠ 0 then (.unsupportedFlags, header)
        else
          let payloadLength := readU32BE (input.drop 8)
          if frameMaxPayload < payloadLength.toNat then (.payloadTooLarge, header)
          else (.ok, { type := type.toUInt32, flags := flags, payloadLength := payloadLength })

/-- The twelve header bytes of a frame without flags. -/
def frameHeaderBytes (type : UInt8) (payloadLength : UInt32) : Bytes :=
  frameMagic ++ [protocolVersion, type] ++ writeU16BE 0 ++ writeU32BE payloadLength

@[simp]
theorem length_frameHeaderBytes (type : UInt8) (payloadLength : UInt32) :
    (frameHeaderBytes type payloadLength).length = frameHeaderSize := rfl

/-- The encoder succeeds exactly on the headers the format can hold. -/
theorem frameEncodeHeader_eq_ok_iff {header : FrameHeader} {encoded : Bytes} :
    frameEncodeHeader header = .ok encoded ↔
      messageTypeIsValid header.type.toUInt8 = true ∧ header.flags = 0 ∧
        header.payloadLength.toNat ≤ frameMaxPayload ∧
          encoded = frameHeaderBytes header.type.toUInt8 header.payloadLength := by
  unfold frameEncodeHeader
  split
  · simp_all
  split
  · simp_all
  split
  · rename_i hlength
    simp [Nat.not_le.mpr hlength]
  · rename_i hvalid hflags hlength
    simp only [Bool.not_eq_true', Bool.not_eq_false, ne_eq, not_not] at hvalid hflags
    simp [hvalid, hflags, Nat.not_lt.mp hlength, frameHeaderBytes, eq_comm]

/-- The decoder reads header bytes back, whatever follows them. -/
theorem frameDecodeHeader_frameHeaderBytes {type : UInt8} {payloadLength : UInt32}
    (hvalid : messageTypeIsValid type = true) (hlength : payloadLength.toNat ≤ frameMaxPayload)
    (rest : Bytes) (out : FrameHeader) :
    frameDecodeHeader (some (frameHeaderBytes type payloadLength ++ rest)) out =
      (.ok, { type := type.toUInt32, flags := 0, payloadLength := payloadLength }) := by
  have hflags : (frameHeaderBytes type payloadLength ++ rest).drop 6 =
      writeU16BE 0 ++ (writeU32BE payloadLength ++ rest) := by
    simp [frameHeaderBytes, frameMagic]
  have hpayload : (frameHeaderBytes type payloadLength ++ rest).drop 8 =
      writeU32BE payloadLength ++ rest := by
    simp [frameHeaderBytes, frameMagic, writeU16BE]
  simp only [frameDecodeHeader, hflags, hpayload, readU16BE_writeU16BE, readU32BE_writeU32BE]
  simp [byteAt, frameHeaderBytes, frameMagic, hvalid, Nat.not_lt.mpr hlength]

/-- Bytes that pass the checks of a decoder are header bytes. -/
theorem eq_frameHeaderBytes {input : Bytes} (hlength : frameHeaderSize ≤ input.length)
    (hmagic : input.take 4 = frameMagic) (hversion : byteAt input 4 = protocolVersion)
    (hflags : readU16BE (input.drop 6) = 0) :
    input.take frameHeaderSize =
      frameHeaderBytes (byteAt input 5) (readU32BE (input.drop 8)) := by
  have hflagBytes : (input.drop 6).take 2 = writeU16BE 0 := by
    rw [← hflags, writeU16BE_readU16BE]
    rw [List.length_drop]
    exact Nat.le_sub_of_add_le (Nat.le_trans (by decide) hlength)
  have hlengthBytes : (input.drop 8).take 4 = writeU32BE (readU32BE (input.drop 8)) := by
    rw [writeU32BE_readU32BE]
    rw [List.length_drop]
    exact Nat.le_sub_of_add_le hlength
  have hmiddle : (input.drop 4).take 2 = [protocolVersion, byteAt input 5] := by
    rw [← hversion, ← map_byteAt_range]
    · simp [byteAt, List.range_succ]
    · rw [List.length_drop]
      exact Nat.le_sub_of_add_le (Nat.le_trans (by decide) hlength)
  calc input.take frameHeaderSize
      = input.take 4 ++ ((input.drop 4).take 2 ++ ((input.drop 6).take 2 ++
          (input.drop 8).take 4)) := by
        rw [show frameHeaderSize = 4 + (2 + (2 + 4)) from rfl, List.take_add, List.take_add,
          List.take_add, List.drop_drop, List.drop_drop]
    _ = frameHeaderBytes (byteAt input 5) (readU32BE (input.drop 8)) := by
        rw [hmagic, hmiddle, hflagBytes, hlengthBytes, frameHeaderBytes, List.append_assoc,
          List.append_assoc]

/-- A header that is decoded is the one whose bytes the input starts with. -/
theorem frameDecodeHeader_eq_ok {input : Bytes} (hlength : frameHeaderSize ≤ input.length)
    {out header : FrameHeader} (hok : frameDecodeHeader (some input) out = (.ok, header)) :
    ∃ (type : UInt8) (payloadLength : UInt32), messageTypeIsValid type = true ∧
      payloadLength.toNat ≤ frameMaxPayload ∧
      header = { type := type.toUInt32, flags := 0, payloadLength := payloadLength } ∧
      input.take frameHeaderSize = frameHeaderBytes type payloadLength := by
  unfold frameDecodeHeader at hok
  dsimp only at hok
  split at hok
  · cases hok
  rename_i hmagic
  split at hok
  · cases hok
  rename_i hversion
  split at hok
  · cases hok
  rename_i hvalid
  split at hok
  · cases hok
  rename_i hflags
  split at hok
  · cases hok
  rename_i hmax
  simp only [not_or, not_not, ne_eq] at hmagic hversion hflags
  rw [Bool.not_eq_true', Bool.not_eq_false] at hvalid
  have hmagicBytes : input.take 4 = frameMagic := by
    rw [← map_byteAt_range (Nat.le_trans (by decide) hlength)]
    simp [List.range_succ, hmagic, frameMagic]
  obtain ⟨-, rfl⟩ := Prod.mk.inj hok
  exact ⟨byteAt input 5, readU32BE (input.drop 8), hvalid, Nat.not_lt.mp hmax, by rw [hflags],
    eq_frameHeaderBytes hlength hmagicBytes hversion hflags⟩

/-! ## Relay messages

One WebSocket message carries one frame: its header and, right behind it, its
payload.
-/

def relayWsMessageMaxSize : ℕ := 60 * 1024
def relayMaxPayload : ℕ := relayWsMessageMaxSize - frameHeaderSize

inductive RelayMessageResult
  | ok
  | invalidArgument
  | payloadTooLarge
  | bufferTooSmall
  | malformed
  deriving DecidableEq, Repr

/-- `pd_relay_message_view`. The payload points into the decoded message. -/
structure RelayMessageView where
  header : FrameHeader
  payload : Buffer
  deriving DecidableEq, Repr

/-- `pd_relay_message_encode` with an output buffer of `outputCapacity` bytes. -/
def relayMessageEncode (header : Option FrameHeader) (payload : Buffer) (outputCapacity : ℕ) :
    Except RelayMessageResult Bytes :=
  match header with
  | none => .error .invalidArgument
  | some header =>
    if payload.isInvalid then .error .invalidArgument
    else if relayMaxPayload < payload.size ∨ header.payloadLength.toNat ≠ payload.size then
      .error .payloadTooLarge
    else if outputCapacity < frameHeaderSize + payload.size then .error .bufferTooSmall
    else
      match frameEncodeHeader header with
      | .error _ => .error .malformed
      | .ok encoded => .ok (encoded ++ payload.data?.getD [])

/-- The payload of a message whose header has been decoded. -/
def relayPayload (message : Bytes) : Buffer :=
  if message.length - frameHeaderSize = 0 then .null 0
  else .bytes (message.drop frameHeaderSize)

/-- `pd_relay_message_decode`, which overwrites the caller's view on success only. -/
def relayMessageDecode (message : Buffer) (view : RelayMessageView) :
    RelayMessageResult × RelayMessageView :=
  match message with
  | .null _ => (.invalidArgument, view)
  | .bytes message =>
    if message.length < frameHeaderSize ∨ relayWsMessageMaxSize < message.length then
      (.malformed, view)
    else
      match frameDecodeHeader (some message) default with
      | (.ok, header) =>
        let payloadSize := message.length - frameHeaderSize
        if relayMaxPayload < payloadSize ∨ header.payloadLength.toNat ≠ payloadSize then
          (.malformed, view)
        else (.ok, { header := header, payload := relayPayload message })
      | _ => (.malformed, view)

/-- The header of a frame that has no flags and announces its payload's length. -/
def plainHeader (type : MessageType) (payload : Bytes) : FrameHeader where
  type := type
  flags := 0
  payloadLength := UInt32.ofNat payload.length

/-- The message that carries a payload under a header without flags. -/
def frameMessage (type : UInt8) (payload : Bytes) : Bytes :=
  frameHeaderBytes type (UInt32.ofNat payload.length) ++ payload

@[simp]
theorem length_frameMessage (type : UInt8) (payload : Bytes) :
    (frameMessage type payload).length = frameHeaderSize + payload.length := by
  simp [frameMessage]

/-- A payload as the decoder hands it out: null when it is empty. -/
def payloadBuffer (payload : Bytes) : Buffer :=
  if payload.length = 0 then .null 0 else .bytes payload

@[simp]
theorem size_payloadBuffer (payload : Bytes) : (payloadBuffer payload).size = payload.length := by
  unfold payloadBuffer
  split
  · simp_all
  · rfl

@[simp]
theorem data_payloadBuffer (payload : Bytes) : (payloadBuffer payload).data?.getD [] = payload := by
  unfold payloadBuffer
  split
  · simp_all
  · rfl

theorem relayPayload_frameMessage (type : UInt8) (payload : Bytes) :
    relayPayload (frameMessage type payload) = payloadBuffer payload := by
  simp only [relayPayload, payloadBuffer, length_frameMessage, Nat.add_sub_cancel_left]
  simp [frameMessage, List.drop_left' (length_frameHeaderBytes _ _)]

private theorem toNat_ofNat_length {payload : Bytes} (hsize : payload.length ≤ relayMaxPayload) :
    (UInt32.ofNat payload.length).toNat = payload.length := by
  rw [UInt32.toNat_ofNat']
  simp only [relayMaxPayload, relayWsMessageMaxSize, frameHeaderSize] at hsize
  omega

/-- The relay encoder puts a payload that fits behind its header. -/
theorem relayMessageEncode_eq_frameMessage {type : MessageType} {payload : Bytes} {capacity : ℕ}
    (hvalid : messageTypeIsValid type.toUInt8 = true) (hsize : payload.length ≤ relayMaxPayload)
    (hcapacity : frameHeaderSize + payload.length ≤ capacity) :
    relayMessageEncode (some (plainHeader type payload)) (.bytes payload) capacity =
      .ok (frameMessage type.toUInt8 payload) := by
  have hlength := toNat_ofNat_length hsize
  have hmax : payload.length ≤ frameMaxPayload := by
    simp only [relayMaxPayload, relayWsMessageMaxSize, frameHeaderSize] at hsize
    simp only [frameMaxPayload]
    omega
  have hheader : frameEncodeHeader (plainHeader type payload) =
      .ok (frameHeaderBytes type.toUInt8 (UInt32.ofNat payload.length)) :=
    frameEncodeHeader_eq_ok_iff.mpr
      ⟨hvalid, rfl, by simpa [plainHeader, hlength] using hmax, rfl⟩
  have hannounced : (plainHeader type payload).payloadLength.toNat = payload.length := hlength
  simp [relayMessageEncode, hheader, hannounced, Nat.not_lt.mpr hsize,
    Nat.not_lt.mpr hcapacity, frameMessage]

/-- The relay decoder takes the message of every payload that fits. -/
theorem relayMessageDecode_frameMessage {type : UInt8} {payload : Bytes}
    (hvalid : messageTypeIsValid type = true) (hsize : payload.length ≤ relayMaxPayload)
    (view : RelayMessageView) :
    relayMessageDecode (.bytes (frameMessage type payload)) view =
      (.ok, { header := plainHeader type.toUInt32 payload, payload := payloadBuffer payload }) := by
  have hlength := toNat_ofNat_length hsize
  have hmax : (UInt32.ofNat payload.length).toNat ≤ frameMaxPayload := by
    rw [hlength]
    simp only [relayMaxPayload, relayWsMessageMaxSize, frameHeaderSize] at hsize
    simp only [frameMaxPayload]
    omega
  have hbounds : ¬(frameHeaderSize + payload.length < frameHeaderSize ∨
      relayWsMessageMaxSize < frameHeaderSize + payload.length) := by
    simp only [relayMaxPayload, relayWsMessageMaxSize, frameHeaderSize] at *
    omega
  have hheader := frameDecodeHeader_frameHeaderBytes hvalid hmax payload default
  simp only [relayMessageDecode, length_frameMessage, if_neg hbounds]
  rw [show frameMessage type payload =
    frameHeaderBytes type (UInt32.ofNat payload.length) ++ payload from rfl, hheader]
  simp only [hlength, Nat.add_sub_cancel_left, Nat.not_lt.mpr hsize, ne_eq, not_true_eq_false,
    or_self, if_false]
  exact congrArg (fun buffer => (RelayMessageResult.ok, RelayMessageView.mk _ buffer))
    (relayPayload_frameMessage type payload)

/-- A message is the frame of its payload when its header announces the payload's length. -/
theorem eq_frameMessage {message : Bytes} {type : UInt8} {payloadLength : UInt32}
    (hheader : message.take frameHeaderSize = frameHeaderBytes type payloadLength)
    (hlength : payloadLength.toNat = (message.drop frameHeaderSize).length) :
    message = frameMessage type (message.drop frameHeaderSize) := by
  rw [frameMessage, ← hlength, UInt32.ofNat_toNat, ← hheader, List.take_append_drop]

/-- The relay decoder takes exactly the messages of the payloads that fit. -/
theorem relayMessageDecode_eq_ok_iff {message : Bytes} {view decoded : RelayMessageView} :
    relayMessageDecode (.bytes message) view = (.ok, decoded) ↔
      ∃ (type : UInt8) (payload : Bytes), messageTypeIsValid type = true ∧
        payload.length ≤ relayMaxPayload ∧ message = frameMessage type payload ∧
        decoded = { header := plainHeader type.toUInt32 payload,
                    payload := payloadBuffer payload } := by
  constructor
  · intro hok
    have haccepted := hok
    unfold relayMessageDecode at hok
    dsimp only at hok
    split at hok
    · cases hok
    rename_i hbounds
    rw [not_or, Nat.not_lt, Nat.not_lt] at hbounds
    cases hheader : frameDecodeHeader (some message) default with
    | mk result header =>
        rw [hheader] at hok
        cases result with
        | ok =>
            dsimp only at hok
            split at hok
            · cases hok
            rename_i hsizes
            rw [not_or, Nat.not_lt, not_not] at hsizes
            obtain ⟨type, payloadLength, hvalid, -, rfl, hbytes⟩ :=
              frameDecodeHeader_eq_ok hbounds.1 hheader
            have hmessage := eq_frameMessage hbytes (by rw [List.length_drop]; exact hsizes.2)
            have hsize : (message.drop frameHeaderSize).length ≤ relayMaxPayload := by
              rw [List.length_drop]
              exact hsizes.1
            refine ⟨type, message.drop frameHeaderSize, hvalid, hsize, hmessage, ?_⟩
            rw [hmessage, relayMessageDecode_frameMessage hvalid hsize] at haccepted
            exact (Prod.mk.inj haccepted).2.symm
        | invalidArgument | badMagic | unsupportedVersion | invalidType | unsupportedFlags
        | payloadTooLarge => cases hok
  · rintro ⟨type, payload, hvalid, hsize, rfl, rfl⟩
    exact relayMessageDecode_frameMessage hvalid hsize view

end PrintDrop
