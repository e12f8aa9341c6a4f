/-
# Enum fields and their bytes

The type of a frame and the status of an acknowledgement are C integers in memory and one
byte on the wire. The encoders check the byte that is left after the cast, so a field that
does not fit a byte may pass the check and be read back as another.
-/

import PrintDrop.Wire.Ack

namespace PrintDrop

/-- A header that is encoded is read back. -/
def HeaderRoundTrips (header : FrameHeader) : Prop :=
  ∀ encoded, frameEncodeHeader header = .ok encoded →
    ∀ out, frameDecodeHeader (some encoded) out = (.ok, header)

/-- A header and a payload that are encoded as a message are read back. -/
def MessageRoundTrips (header : FrameHeader) (payload : Buffer) (capacity : ℕ) : Prop :=
  ∀ message, relayMessageEncode (some header) payload capacity = .ok message →
    ∀ view, ∃ decoded, relayMessageDecode (.bytes message) view = (.ok, decoded) ∧
      decoded.header = header ∧ decoded.payload.size = payload.size ∧
      decoded.payload.data?.getD [] = payload.data?.getD []

/-- An acknowledgement that is encoded is read back. -/
def AckRoundTrips (ack : Ack) : Prop :=
  ∀ payload, ackEncode (some ack) = .ok payload →
    ∀ record, ackDecode (.bytes payload) record = (.ok, ack)

/-- A header that passes the checks of its encoder. -/
structure EncodableHeader (header : FrameHeader) : Prop where
  type : messageTypeIsValid header.type.toUInt8 = true
  flags : header.flags = 0
  payloadLength : header.payloadLength.toNat ≤ frameMaxPayload

/-- A header and a payload that pass the checks of the message encoder. -/
structure EncodableMessage (header : FrameHeader) (payload : Buffer) (capacity : ℕ) : Prop where
  encodable : EncodableHeader header
  valid : payload.isInvalid = false
  fits : payload.size ≤ relayMaxPayload
  announced : header.payloadLength.toNat = payload.size
  room : frameHeaderSize + payload.size ≤ capacity

/-- An acknowledgement that passes the checks of its encoder. -/
structure EncodableAck (ack : Ack) : Prop where
  type : ackTypeIsAllowed ack.acknowledgedType = true
  status : ackStatusIsValid ack.status.toUInt8 = true

theorem frameEncodeHeader_eq_ok_iff_encodable {header : FrameHeader} {encoded : Bytes} :
    frameEncodeHeader header = .ok encoded ↔
      EncodableHeader header ∧
        encoded = frameHeaderBytes header.type.toUInt8 header.payloadLength := by
  rw [frameEncodeHeader_eq_ok_iff]
  constructor
  · rintro ⟨htype, hflags, hlength, hencoded⟩
    exact ⟨⟨htype, hflags, hlength⟩, hencoded⟩
  · rintro ⟨⟨htype, hflags, hlength⟩, hencoded⟩
    exact ⟨htype, hflags, hlength, hencoded⟩

/-- A valid pointer addresses as many bytes as the size beside it says. -/
theorem Buffer.length_data {payload : Buffer} (hvalid : payload.isInvalid = false) :
    (payload.data?.getD []).length = payload.size := by
  cases payload with
  | null size =>
      have hsize : size = 0 := by simpa using hvalid
      rw [hsize]
      rfl
  | bytes data => rfl

theorem relayMessageEncode_eq_ok_iff {header : FrameHeader} {payload : Buffer} {capacity : ℕ}
    {message : Bytes} :
    relayMessageEncode (some header) payload capacity = .ok message ↔
      EncodableMessage header payload capacity ∧
        message = frameMessage header.type.toUInt8 (payload.data?.getD []) := by
  have hframe : payload.isInvalid = false → header.payloadLength.toNat = payload.size →
      frameHeaderBytes header.type.toUInt8 header.payloadLength ++ payload.data?.getD [] =
        frameMessage header.type.toUInt8 (payload.data?.getD []) := by
    intro hvalid hannounced
    rw [frameMessage, Buffer.length_data hvalid, ← hannounced, UInt32.ofNat_toNat]
  unfold relayMessageEncode
  dsimp only
  constructor
  · intro hok
    split at hok
    · cases hok
    rename_i hvalid
    split at hok
    · cases hok
    rename_i hsizes
    split at hok
    · cases hok
    rename_i hroom
    rw [Bool.not_eq_true] at hvalid
    rw [not_or, Nat.not_lt, not_not] at hsizes
    cases hencoded : frameEncodeHeader header with
    | error result =>
        rw [hencoded] at hok
        cases hok
    | ok encoded =>
        rw [hencoded] at hok
        obtain ⟨hheader, rfl⟩ := frameEncodeHeader_eq_ok_iff_encodable.mp hencoded
        refine ⟨⟨hheader, hvalid, hsizes.1, hsizes.2, Nat.not_lt.mp hroom⟩, ?_⟩
        rw [← Except.ok.inj hok, hframe hvalid hsizes.2]
  · rintro ⟨⟨hheader, hvalid, hfits, hannounced, hroom⟩, rfl⟩
    rw [frameEncodeHeader_eq_ok_iff_encodable.mpr ⟨hheader, rfl⟩, if_neg (by simp [hvalid]),
      if_neg (by simp [hannounced, hfits]), if_neg (Nat.not_lt.mpr hroom)]
    exact congrArg Except.ok (hframe hvalid hannounced)

theorem ackEncode_eq_ok_iff {ack : Ack} {payload : Bytes} :
    ackEncode (some ack) = .ok payload ↔ EncodableAck ack ∧ payload = ackPayload ack := by
  constructor
  · intro hok
    unfold ackEncode at hok
    dsimp only at hok
    split at hok
    · cases hok
    rename_i htype
    split at hok
    · cases hok
    rename_i hstatus
    rw [Bool.not_eq_true', Bool.not_eq_false] at htype hstatus
    exact ⟨⟨htype, hstatus⟩, (Except.ok.inj hok).symm⟩
  · rintro ⟨⟨htype, hstatus⟩, rfl⟩
    exact ackEncode_eq_ok htype hstatus

/-- A header is read back unless its type passes for a type that it is not. -/
theorem headerRoundTrips_iff {header : FrameHeader} :
    HeaderRoundTrips header ↔ (EncodableHeader header → header.type.toNat < 256) := by
  constructor
  · intro hround hencodable
    have hread := hround _ (frameEncodeHeader_eq_ok_iff_encodable.mpr ⟨hencodable, rfl⟩) default
    have hdecoded := frameDecodeHeader_frameHeaderBytes hencodable.type hencodable.payloadLength
      [] default
    rw [List.append_nil, hread] at hdecoded
    have htype := congrArg FrameHeader.type (Prod.mk.inj hdecoded).2
    exact toUInt8_toUInt32_eq_iff.mp htype.symm
  · intro hfits encoded hencoded out
    obtain ⟨hencodable, rfl⟩ := frameEncodeHeader_eq_ok_iff_encodable.mp hencoded
    have hdecoded := frameDecodeHeader_frameHeaderBytes hencodable.type hencodable.payloadLength
      [] out
    rw [List.append_nil, toUInt8_toUInt32_eq_iff.mpr (hfits hencodable)] at hdecoded
    rw [hdecoded, ← hencodable.flags]

/-- A message is read back under the same condition. -/
theorem messageRoundTrips_iff {header : FrameHeader} {payload : Buffer} {capacity : ℕ} :
    MessageRoundTrips header payload capacity ↔
      (EncodableMessage header payload capacity → header.type.toNat < 256) := by
  have hdecode : EncodableMessage header payload capacity → ∀ view,
      relayMessageDecode (.bytes (frameMessage header.type.toUInt8 (payload.data?.getD []))) view =
        (.ok, { header := { header with type := header.type.toUInt8.toUInt32 }
                payload := payloadBuffer (payload.data?.getD []) }) := by
    rintro ⟨hheader, hvalid, hfits, hannounced, -⟩ view
    have hlength := Buffer.length_data hvalid
    rw [relayMessageDecode_frameMessage hheader.type (by rw [hlength]; exact hfits), plainHeader,
      hlength, ← hannounced, UInt32.ofNat_toNat, ← hheader.flags]
  constructor
  · intro hround hencodable
    obtain ⟨decoded, hread, hheader, -⟩ := hround _
      (relayMessageEncode_eq_ok_iff.mpr ⟨hencodable, rfl⟩) ⟨default, .null 0⟩
    rw [hdecode hencodable] at hread
    rw [← (Prod.mk.inj hread).2] at hheader
    exact toUInt8_toUInt32_eq_iff.mp (congrArg FrameHeader.type hheader)
  · intro hfits message hencoded view
    obtain ⟨hencodable, rfl⟩ := relayMessageEncode_eq_ok_iff.mp hencoded
    refine ⟨_, hdecode hencodable view, ?_, ?_, data_payloadBuffer _⟩
    · rw [toUInt8_toUInt32_eq_iff.mpr (hfits hencodable)]
    · rw [size_payloadBuffer, Buffer.length_data hencodable.valid]

/-- An acknowledgement is read back unless its status passes for a status that it is not. -/
theorem ackRoundTrips_iff {ack : Ack} :
    AckRoundTrips ack ↔ (EncodableAck ack → ack.status.toNat < 256) := by
  constructor
  · intro hround hencodable
    have hread := hround _ (ackEncode_eq_ok_iff.mpr ⟨hencodable, rfl⟩) default
    obtain ⟨-, -, hfields, -⟩ := ackDecode_eq_ok_iff.mp hread
    rw [ackOfPayload_ackPayload] at hfields
    exact toUInt8_toUInt32_eq_iff.mp (congrArg Ack.status hfields).symm
  · intro hfits payload hencoded record
    obtain ⟨hencodable, rfl⟩ := ackEncode_eq_ok_iff.mp hencoded
    exact ackDecode_eq_ok_iff.mpr ⟨hencodable.type, hencodable.status,
      (ackOfPayload_ackPayload_of_lt hencodable.type (hfits hencodable)).symm, rfl⟩

/-- The encoders refuse what they cannot represent exactly where no field that they accept
by its low byte is larger than a byte. -/
theorem roundTrips_iff (header : FrameHeader) (payload : Buffer) (capacity : ℕ) (ack : Ack) :
    (HeaderRoundTrips header ↔ (EncodableHeader header → header.type.toNat < 256)) ∧
      (MessageRoundTrips header payload capacity ↔
        (EncodableMessage header payload capacity → header.type.toNat < 256)) ∧
      (AckRoundTrips ack ↔ (EncodableAck ack → ack.status.toNat < 256)) :=
  ⟨headerRoundTrips_iff, messageRoundTrips_iff, ackRoundTrips_iff⟩

/-- The type 257 is encoded as HELLO, and the status 256 as OK. -/
theorem narrowed_not_roundTrips :
    ¬HeaderRoundTrips ⟨257, 0, 0⟩ ∧ ¬MessageRoundTrips ⟨257, 0, 0⟩ (.null 0) 12 ∧
      ¬AckRoundTrips ⟨MessageType.chunk, 256, 0⟩ := by
  refine ⟨fun hround => ?_, fun hround => ?_, fun hround => ?_⟩
  · exact absurd (hround _ rfl default) (by decide)
  · obtain ⟨decoded, hread, hheader, -⟩ := hround _ rfl ⟨default, .null 0⟩
    obtain rfl := (Prod.mk.inj hread).2
    exact absurd hheader (by decide)
  · exact absurd (hround _ rfl default) (by decide)

end PrintDrop
