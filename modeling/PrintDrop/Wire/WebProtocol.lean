/-
# The browser's codec

`web/protocol.js`. A JavaScript string is its list of UTF-16 code units and a
`Uint8Array` the list of its bytes; a `DataView` written big-endian stores what
the writers of the C side store. Values have their JavaScript type here, so the
`instanceof` and `typeof` checks, which they pass, are left out.
-/

import PrintDrop.Wire.FileBegin
import PrintDrop.Wire.Ack

namespace PrintDrop.Web

/-- The constructors of errors that the codec throws. -/
inductive ErrorKind
  | error
  | typeError
  | rangeError
  deriving DecidableEq, Repr

/-- A thrown `Error`, `TypeError` or `RangeError`. -/
structure JsError where
  kind : ErrorKind
  message : String
  deriving DecidableEq, Repr

/-- `RELAY_WS_MESSAGE_MAX_SIZE`. -/
def relayWsMessageMaxSize : ℕ := 60 * 1024

/-- `RELAY_MAX_PAYLOAD`: what a message leaves behind the header. -/
def relayMaxPayload : ℕ := relayWsMessageMaxSize - frameHeaderSize

/-- `FILE_CHUNK_SIZE`. -/
def fileChunkSize : ℕ := 48 * 1024

namespace MessageType

/-- `MessageType.HELLO`; the types below follow it. -/
def hello : ℕ := 1
def job : ℕ := 2
def fileBegin : ℕ := 3
def chunk : ℕ := 4
def fileEnd : ℕ := 5
def ack : ℕ := 6
def error : ℕ := 7

end MessageType

namespace AckStatus

/-- `AckStatus.OK`. -/
def ok : ℕ := 0

/-- `AckStatus.REJECTED`, the last of the statuses. -/
def rejected : ℕ := 4

end AckStatus

/-- A JavaScript string: UTF-16 code units, surrogates paired or not. -/
abbrev JsString := List UInt16

/-- `requireMessageType`: a type out of range throws. -/
def requireMessageType (type : ℕ) : Except JsError Unit :=
  if type < MessageType.hello ∨ MessageType.error < type then
    .error ⟨.rangeError, "invalid PrintDrop message type"⟩
  else .ok ()

/-- `requireUint64`: a number that does not fit 64 bits throws. -/
def requireUint64 (value : ℤ) (name : String) : Except JsError Unit :=
  if value < 0 ∨ 0xffffffffffffffff < value then
    .error ⟨.rangeError, name ++ " must be an unsigned 64-bit bigint"⟩
  else .ok ()

/-- The UTF-8 bytes of a code point. -/
def encodeCodePoint (point : ℕ) : Bytes :=
  if point < 0x80 then [UInt8.ofNat point]
  else if point < 0x800 then
    [UInt8.ofNat (0xc0 + point / 0x40), UInt8.ofNat (0x80 + point % 0x40)]
  else if point < 0x10000 then
    [UInt8.ofNat (0xe0 + point / 0x1000), UInt8.ofNat (0x80 + point / 0x40 % 0x40),
      UInt8.ofNat (0x80 + point % 0x40)]
  else
    [UInt8.ofNat (0xf0 + point / 0x40000), UInt8.ofNat (0x80 + point / 0x1000 % 0x40),
      UInt8.ofNat (0x80 + point / 0x40 % 0x40), UInt8.ofNat (0x80 + point % 0x40)]

/-- The first unit of a surrogate pair. -/
def isHighSurrogate (unit : UInt16) : Bool := 0xd800 ≤ unit && unit < 0xdc00

/-- The second unit of a surrogate pair. -/
def isLowSurrogate (unit : UInt16) : Bool := 0xdc00 ≤ unit && unit < 0xe000

/-- The bytes of a code unit that is not part of a pair; a lone surrogate is
replaced by U+FFFD. -/
def encodeUnit (unit : UInt16) : Bytes :=
  if isHighSurrogate unit || isLowSurrogate unit then encodeCodePoint 0xfffd
  else encodeCodePoint unit.toNat

/-- `textEncoder.encode`. -/
def textEncode : JsString → Bytes
  | [] => []
  | [unit] => encodeUnit unit
  | first :: second :: rest =>
    if isHighSurrogate first && isLowSurrogate second then
      encodeCodePoint
        (0x10000 + (first.toNat - 0xd800) * 0x400 + (second.toNat - 0xdc00)) ++ textEncode rest
    else encodeUnit first ++ textEncode (second :: rest)

/-- No code point is encoded without bytes. -/
theorem encodeCodePoint_ne_nil (point : ℕ) : encodeCodePoint point ≠ [] := by
  unfold encodeCodePoint
  split_ifs <;> simp

/-- A positive number that fits a byte is no zero byte. -/
private theorem zero_ne_ofNat {value : ℕ} (hpos : 0 < value) (hlt : value < 256) :
    (0 : UInt8) ≠ UInt8.ofNat value := by
  intro hzero
  have hvalue := congrArg UInt8.toNat hzero
  simp only [UInt8.toNat_zero, UInt8.toNat_ofNat'] at hvalue
  omega

/-- Only U+0000 is encoded with a zero byte. -/
theorem zero_not_mem_encodeCodePoint {point : ℕ} (hpos : 0 < point) (hpoint : point < 0x110000) :
    (0 : UInt8) ∉ encodeCodePoint point := by
  unfold encodeCodePoint
  split_ifs with hone htwo hthree
  · simp only [List.mem_cons, List.not_mem_nil, or_false]
    exact zero_ne_ofNat hpos (by omega)
  · simp only [List.mem_cons, List.not_mem_nil, or_false, not_or]
    exact ⟨zero_ne_ofNat (by omega) (by omega), zero_ne_ofNat (by omega) (by omega)⟩
  · simp only [List.mem_cons, List.not_mem_nil, or_false, not_or]
    exact ⟨zero_ne_ofNat (by omega) (by omega), zero_ne_ofNat (by omega) (by omega),
      zero_ne_ofNat (by omega) (by omega)⟩
  · simp only [List.mem_cons, List.not_mem_nil, or_false, not_or]
    exact ⟨zero_ne_ofNat (by omega) (by omega), zero_ne_ofNat (by omega) (by omega),
      zero_ne_ofNat (by omega) (by omega), zero_ne_ofNat (by omega) (by omega)⟩

/-- A lone unit other than U+0000 is encoded without a zero byte. -/
private theorem zero_not_mem_encodeUnit {unit : UInt16} (hunit : unit ≠ 0) :
    (0 : UInt8) ∉ encodeUnit unit := by
  have hpos : 0 < unit.toNat := by
    rw [Nat.pos_iff_ne_zero]
    exact fun hzero => hunit (UInt16.toNat_inj.mp hzero)
  have hlt := unit.toNat_lt
  unfold encodeUnit
  split
  · exact zero_not_mem_encodeCodePoint (by omega) (by omega)
  · exact zero_not_mem_encodeCodePoint hpos (by omega)

/-- A pair encodes a code point within the range of Unicode. -/
theorem surrogatePair_lt {first second : UInt16}
    (hfirst : isHighSurrogate first = true) (hsecond : isLowSurrogate second = true) :
    0x10000 + (first.toNat - 0xd800) * 0x400 + (second.toNat - 0xdc00) < 0x110000 := by
  simp only [isHighSurrogate, isLowSurrogate, Bool.and_eq_true, decide_eq_true_eq,
    UInt16.le_iff_toNat_le, UInt16.lt_iff_toNat_lt, UInt16.reduceToNat] at hfirst hsecond
  omega

/-- A string without a NUL unit is encoded without a NUL byte. -/
theorem zero_not_mem_textEncode {text : JsString} (hnul : (0 : UInt16) ∉ text) :
    (0 : UInt8) ∉ textEncode text := by
  fun_induction textEncode text with
  | case1 => simp
  | case2 unit => exact zero_not_mem_encodeUnit fun hzero => hnul (by simp [hzero])
  | case3 first second rest hpair ih =>
      obtain ⟨hfirst, hsecond⟩ := Bool.and_eq_true_iff.mp hpair
      simp only [List.mem_cons, not_or] at hnul
      simp only [List.mem_append, not_or]
      exact ⟨zero_not_mem_encodeCodePoint (by omega) (surrogatePair_lt hfirst hsecond),
        ih hnul.2.2⟩
  | case4 first second rest hpair ih =>
      rw [List.mem_cons, not_or] at hnul
      simp only [List.mem_append, not_or]
      exact ⟨zero_not_mem_encodeUnit (Ne.symm hnul.1), ih hnul.2⟩

/-- A string that is not empty is not encoded as the empty string. -/
theorem textEncode_ne_nil {text : JsString} (htext : text ≠ []) : textEncode text ≠ [] := by
  have hunit : ∀ unit, encodeUnit unit ≠ [] := by
    intro unit
    unfold encodeUnit
    split <;> exact encodeCodePoint_ne_nil _
  fun_cases textEncode text with
  | case1 => exact absurd rfl htext
  | case2 unit => exact hunit unit
  | case3 first second rest hpair => simp [encodeCodePoint_ne_nil]
  | case4 first second rest hpair => simp [hunit]

/-- `encodeFrame`. -/
def encodeFrame (type : ℕ) (payload : Bytes) : Except JsError Bytes := do
  requireMessageType type
  if relayMaxPayload < payload.length then
    .error ⟨.rangeError, "payload exceeds PrintDrop relay message limit"⟩
  else
    .ok (frameMagic ++ [1, UInt8.ofNat type] ++ writeU16BE 0 ++
      writeU32BE (UInt32.ofNat payload.length) ++ payload)

/-- What `decodeFrame` returns. -/
structure WebFrame where
  type : ℕ
  payload : Bytes
  deriving DecidableEq, Repr

/-- `decodeFrame`. -/
def decodeFrame (message : Bytes) : Except JsError WebFrame := do
  if message.length < frameHeaderSize ∨ relayWsMessageMaxSize < message.length then
    .error ⟨.rangeError, "invalid PrintDrop relay message size"⟩
  else if message.take 4 ≠ frameMagic then
    .error ⟨.error, "invalid PrintDrop frame magic"⟩
  else if byteAt message 4 ≠ 1 then
    .error ⟨.error, "unsupported PrintDrop protocol version"⟩
  else
    requireMessageType (byteAt message 5).toNat
    if readU16BE (message.drop 6) ≠ 0 then
      .error ⟨.error, "unsupported PrintDrop frame flags"⟩
    else
      let payloadLength := (readU32BE (message.drop 8)).toNat
      if relayMaxPayload < payloadLength ∨ frameHeaderSize + payloadLength ≠ message.length then
        .error ⟨.error, "invalid PrintDrop frame payload length"⟩
      else .ok { type := (byteAt message 5).toNat, payload := message.drop frameHeaderSize }

/-- The types from HELLO to ERROR pass. -/
theorem requireMessageType_ok {type : ℕ} (hlow : 1 ≤ type) (hhigh : type ≤ 7) :
    requireMessageType type = .ok () := by
  have hrange : ¬(type < MessageType.hello ∨ MessageType.error < type) := by
    simp only [MessageType.hello, MessageType.error]
    omega
  exact if_neg hrange

/-- A frame of a known type whose payload fits is encoded as its wire message. -/
theorem encodeFrame_eq_ok {type : ℕ} {payload : Bytes} (hlow : 1 ≤ type) (hhigh : type ≤ 7)
    (hsize : payload.length ≤ relayMaxPayload) :
    encodeFrame type payload = .ok (frameMessage (UInt8.ofNat type) payload) := by
  simp only [encodeFrame, requireMessageType_ok hlow hhigh, if_neg (Nat.not_lt.mpr hsize)]
  rfl

/-- What `decodeFrame` makes of the wire message of a payload that fits. -/
theorem decodeFrame_frameMessage {type : UInt8} {payload : Bytes} (hlow : 1 ≤ type.toNat)
    (hhigh : type.toNat ≤ 7) (hsize : payload.length ≤ relayMaxPayload) :
    decodeFrame (frameMessage type payload) =
      .ok { type := type.toNat, payload := payload } := by
  have hlength : (UInt32.ofNat payload.length).toNat = payload.length := by
    rw [UInt32.toNat_ofNat']
    simp only [relayMaxPayload, relayWsMessageMaxSize, frameHeaderSize] at hsize
    omega
  have hbounds : ¬(frameHeaderSize + payload.length < frameHeaderSize ∨
      relayWsMessageMaxSize < frameHeaderSize + payload.length) := by
    simp only [relayMaxPayload, relayWsMessageMaxSize, frameHeaderSize] at *
    omega
  have hflags : (frameMessage type payload).drop 6 =
      writeU16BE 0 ++ (writeU32BE (UInt32.ofNat payload.length) ++ payload) := by
    simp [frameMessage, frameHeaderBytes, frameMagic]
  have hpayloadLength : (frameMessage type payload).drop 8 =
      writeU32BE (UInt32.ofNat payload.length) ++ payload := by
    simp [frameMessage, frameHeaderBytes, frameMagic, writeU16BE]
  have hpayload : (frameMessage type payload).drop frameHeaderSize = payload := by
    simp [frameMessage, List.drop_left' (length_frameHeaderBytes _ _)]
  have hmagic : (frameMessage type payload).take 4 = frameMagic := rfl
  have hversion : byteAt (frameMessage type payload) 4 = 1 := rfl
  have htype : byteAt (frameMessage type payload) 5 = type := rfl
  simp only [decodeFrame, length_frameMessage, if_neg hbounds, hflags, hpayloadLength, hpayload,
    hmagic, hversion, htype, readU16BE_writeU16BE, readU32BE_writeU32BE, hlength,
    requireMessageType_ok hlow hhigh, bind, Except.bind]
  simp [Nat.not_lt.mpr hsize]

/-- No others do. -/
theorem requireMessageType_eq_ok_iff {type : ℕ} :
    requireMessageType type = .ok () ↔ 1 ≤ type ∧ type ≤ 7 := by
  constructor
  · intro hok
    unfold requireMessageType at hok
    split at hok
    · cases hok
    · simp only [MessageType.hello, MessageType.error] at *
      omega
  · rintro ⟨hlow, hhigh⟩
    exact requireMessageType_ok hlow hhigh

/-- `decodeFrame` takes exactly the wire messages of the payloads that fit. -/
theorem decodeFrame_eq_ok_iff {message : Bytes} {frame : WebFrame} :
    decodeFrame message = .ok frame ↔
      ∃ (type : UInt8) (payload : Bytes), (1 ≤ type.toNat ∧ type.toNat ≤ 7) ∧
        payload.length ≤ relayMaxPayload ∧ message = frameMessage type payload ∧
        frame = { type := type.toNat, payload := payload } := by
  constructor
  · intro hok
    have haccepted := hok
    unfold decodeFrame at hok
    split at hok
    · cases hok
    rename_i hbounds
    split at hok
    · cases hok
    rename_i hmagic
    split at hok
    · cases hok
    rename_i hversion
    rw [not_or, Nat.not_lt, Nat.not_lt] at hbounds
    rw [not_not] at hmagic hversion
    cases htype : requireMessageType (byteAt message 5).toNat with
    | error _ =>
        rw [htype] at hok
        cases hok
    | ok _ =>
        rw [htype] at hok
        simp only [bind, Except.bind] at hok
        split at hok
        · cases hok
        rename_i hflags
        split at hok
        · cases hok
        rename_i hsizes
        rw [not_not] at hflags
        rw [not_or, Nat.not_lt, not_not] at hsizes
        have hrange := requireMessageType_eq_ok_iff.mp htype
        have hpayload : (readU32BE (message.drop 8)).toNat =
            (message.drop frameHeaderSize).length := by
          rw [List.length_drop]
          omega
        have hmessage := eq_frameMessage
          (eq_frameHeaderBytes hbounds.1 hmagic hversion hflags) hpayload
        have hsize : (message.drop frameHeaderSize).length ≤ relayMaxPayload := by
          rw [← hpayload]
          exact hsizes.1
        refine ⟨byteAt message 5, message.drop frameHeaderSize, hrange, hsize, hmessage, ?_⟩
        rw [hmessage, decodeFrame_frameMessage hrange.1 hrange.2 hsize] at haccepted
        exact (Except.ok.inj haccepted).symm
  · rintro ⟨type, payload, ⟨hlow, hhigh⟩, hsize, rfl, rfl⟩
    exact decodeFrame_frameMessage hlow hhigh hsize

/-- What `decodeAck` returns. -/
structure WebAck where
  acknowledgedType : ℕ
  status : ℕ
  receivedBytes : ℕ
  deriving DecidableEq, Repr

/-- `decodeAck`. -/
def decodeAck (message : Bytes) : Except JsError WebAck := do
  let frame ← decodeFrame message
  if frame.type ≠ MessageType.ack ∨ frame.payload.length ≠ ackPayloadSize then
    .error ⟨.error, "expected PrintDrop ACK frame"⟩
  else
    let acknowledgedType := (byteAt frame.payload 0).toNat
    if ¬[MessageType.fileBegin, MessageType.chunk, MessageType.fileEnd].contains
        acknowledgedType then
      .error ⟨.error, "ACK references an unsupported message type"⟩
    else
      let status := (byteAt frame.payload 1).toNat
      if status < AckStatus.ok ∨ AckStatus.rejected < status then
        .error ⟨.error, "invalid PrintDrop ACK status"⟩
      else if byteAt frame.payload 2 ≠ 0 ∨ byteAt frame.payload 3 ≠ 0 then
        .error ⟨.error, "invalid PrintDrop ACK reserved bytes"⟩
      else
        .ok {
          acknowledgedType := acknowledgedType
          status := status
          receivedBytes := (readU64BE (frame.payload.drop 4)).toNat }

/-- The browser reads the acknowledgement the receiver encoded. -/
theorem decodeAck_frameMessage {ack : Ack} (htype : ackTypeIsAllowed ack.acknowledgedType = true)
    (hstatus : ack.status.toNat ≤ AckStatus.rejected) :
    decodeAck (frameMessage 6 (ackPayload ack)) =
      .ok {
        acknowledgedType := ack.acknowledgedType.toNat
        status := ack.status.toNat
        receivedBytes := ack.receivedBytes.toNat } := by
  have hframe : decodeFrame (frameMessage 6 (ackPayload ack)) =
      .ok { type := 6, payload := ackPayload ack } :=
    decodeFrame_frameMessage (by decide) (by decide)
      (by rw [length_ackPayload]; decide)
  have hread : readU64BE ((ackPayload ack).drop 4) = ack.receivedBytes := by
    simpa [ackPayload] using readU64BE_writeU64BE ack.receivedBytes []
  have hstatusByte : (byteAt (ackPayload ack) 1).toNat = ack.status.toNat := by
    show ack.status.toUInt8.toNat = _
    rw [UInt32.toNat_toUInt8]
    simp only [AckStatus.rejected] at hstatus
    omega
  have htypeByte : (byteAt (ackPayload ack) 0).toNat = ack.acknowledgedType.toNat ∧
      [MessageType.fileBegin, MessageType.chunk, MessageType.fileEnd].contains
        ack.acknowledgedType.toNat = true := by
    simp only [ackTypeIsAllowed, Bool.or_eq_true, beq_iff_eq] at htype
    rcases htype with (htype | htype) | htype <;>
      · rw [htype]
        simp only [ackPayload, htype]
        exact ⟨rfl, by decide⟩
  have hreserved : byteAt (ackPayload ack) 2 = 0 ∧ byteAt (ackPayload ack) 3 = 0 := ⟨rfl, rfl⟩
  simp only [decodeAck, hframe, hread, hstatusByte, htypeByte.1, htypeByte.2, hreserved.1,
    hreserved.2, length_ackPayload, bind, Except.bind]
  simp [MessageType.ack, AckStatus.ok, Nat.not_lt.mpr hstatus]

/-- `decodeAck` takes exactly the frames of the acknowledgements the receiver encodes. -/
theorem decodeAck_eq_ok {message : Bytes} {read : WebAck} (hok : decodeAck message = .ok read) :
    ∃ ack : Ack, ackTypeIsAllowed ack.acknowledgedType = true ∧
      ack.status.toNat ≤ AckStatus.rejected ∧ message = frameMessage 6 (ackPayload ack) := by
  unfold decodeAck at hok
  cases hframe : decodeFrame message with
  | error _ =>
      rw [hframe] at hok
      cases hok
  | ok frame =>
      rw [hframe] at hok
      simp only [bind, Except.bind] at hok
      obtain ⟨type, payload, -, -, rfl, rfl⟩ := decodeFrame_eq_ok_iff.mp hframe
      split at hok
      · cases hok
      rename_i hform
      split at hok
      · cases hok
      rename_i htypes
      split at hok
      · cases hok
      rename_i hstatus
      split at hok
      · cases hok
      rename_i hreserved
      rw [not_or, not_not, not_not] at hform hreserved
      rw [not_or, Nat.not_lt, Nat.not_lt] at hstatus
      have htype : type = 6 := UInt8.toNat_inj.mp hform.1
      have hallowed : ackTypeIsAllowed (ackOfPayload payload).acknowledgedType = true := by
        have hmem : (byteAt payload 0).toNat = 3 ∨ (byteAt payload 0).toNat = 4 ∨
            (byteAt payload 0).toNat = 5 := by
          simpa [MessageType.fileBegin, MessageType.chunk, MessageType.fileEnd] using
            List.contains_iff_mem.mp (not_not.mp htypes)
        simp only [ackTypeIsAllowed, Bool.or_eq_true, beq_iff_eq, ← UInt32.toNat_inj, ackOfPayload,
          UInt8.toNat_toUInt32]
        exact or_assoc.mpr hmem
      refine ⟨ackOfPayload payload, hallowed, ?_, ?_⟩
      · simpa [ackOfPayload] using hstatus.2
      · rw [htype, ← eq_ackPayload hform.2 hreserved]

/-- `encodeFileBegin`. -/
def encodeFileBegin (fileSize : ℤ) (sha256 : Bytes) (filename : JsString) :
    Except JsError Bytes := do
  requireUint64 fileSize "fileSize"
  if sha256.length ≠ sha256Bytes then
    .error ⟨.rangeError, "sha256 must contain exactly 32 bytes"⟩
  else if filename.length = 0 ∨ filename.contains 0 then
    .error ⟨.typeError, "filename must be a non-empty string without NUL bytes"⟩
  else
    let filenameBytes := textEncode filename
    if filenameBytes.length = 0 ∨ filenameMaxBytes < filenameBytes.length then
      .error ⟨.rangeError, "filename exceeds PrintDrop UTF-8 byte limit"⟩
    else
      .ok (writeU64BE (UInt64.ofInt fileSize) ++ sha256 ++
        writeU16BE (UInt16.ofNat filenameBytes.length) ++ filenameBytes)

/-- A natural number is stored as its low 64 bits. -/
theorem ofInt_natCast (value : ℕ) : UInt64.ofInt (value : ℤ) = UInt64.ofNat value := by
  apply UInt64.toNat_inj.mp
  rw [UInt64.ofInt, UInt64.toNat_ofNat', UInt64.toNat_ofNat']
  omega

/-- What `encodeFileBegin` checks of its arguments. -/
structure EncodableFileBegin (fileSize : ℤ) (sha256 : Bytes) (filename : JsString) : Prop where
  sizeNonneg : 0 ≤ fileSize
  sizeLt : fileSize < 2 ^ 64
  digestLength : sha256.length = 32
  filenameNonempty : filename ≠ []
  filenameNul : (0 : UInt16) ∉ filename
  filenameLength : (textEncode filename).length ≤ filenameMaxBytes

/-- The encoder succeeds exactly on the arguments that pass its checks. -/
theorem encodeFileBegin_eq_ok_iff {fileSize : ℤ} {sha256 : Bytes} {filename : JsString}
    {payload : Bytes} :
    encodeFileBegin fileSize sha256 filename = .ok payload ↔
      EncodableFileBegin fileSize sha256 filename ∧
        payload = fileBeginPayload (UInt64.ofInt fileSize) sha256 (textEncode filename) := by
  unfold encodeFileBegin requireUint64
  by_cases hsize : fileSize < 0 ∨ 0xffffffffffffffff < fileSize
  · rw [if_pos hsize]
    constructor
    · intro h
      cases h
    · rintro ⟨hargs, -⟩
      have := hargs.sizeNonneg
      have := hargs.sizeLt
      omega
  rw [if_neg hsize]
  simp only [bind, Except.bind]
  split
  · rename_i hdigest
    constructor
    · intro h
      cases h
    · rintro ⟨hargs, -⟩
      exact absurd hargs.digestLength hdigest
  split
  · rename_i hname
    constructor
    · intro h
      cases h
    · rintro ⟨hargs, -⟩
      rcases hname with hname | hname
      · exact absurd (List.length_eq_zero_iff.mp hname) hargs.filenameNonempty
      · exact absurd (List.contains_iff_mem.mp hname) hargs.filenameNul
  split
  · rename_i hlength
    constructor
    · intro h
      cases h
    · rintro ⟨hargs, -⟩
      rcases hlength with hlength | hlength
      · exact absurd (List.length_eq_zero_iff.mp hlength)
          (textEncode_ne_nil hargs.filenameNonempty)
      · exact absurd hargs.filenameLength (Nat.not_le.mpr hlength)
  · rename_i hdigest hname hlength
    constructor
    · intro h
      refine ⟨⟨by omega, by omega, not_not.mp hdigest, ?_, ?_, by omega⟩,
        (Except.ok.inj h).symm⟩
      · rintro rfl
        exact hname (.inl rfl)
      · intro hmem
        exact hname (.inr (List.contains_iff_mem.mpr hmem))
    · rintro ⟨-, rfl⟩
      rfl

end PrintDrop.Web
