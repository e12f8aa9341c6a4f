/-
# Two codecs, one format

The receiver reads and writes the wire format in C, the browser in JavaScript. The two
codecs were written separately; here each is held to the other, over every byte string.
-/

import PrintDrop.Wire.WebProtocol

namespace PrintDrop

theorem messageTypeIsValid_iff {type : UInt8} :
    messageTypeIsValid type = true ↔ 1 ≤ type.toNat ∧ type.toNat ≤ 7 := by
  simp only [messageTypeIsValid, Bool.and_eq_true, decide_eq_true_eq, UInt8.le_iff_toNat_le]
  rfl

/-- The relay encoder makes no difference between the two forms of an empty payload. -/
theorem relayMessageEncode_payloadBuffer (header : FrameHeader) (payload : Bytes) (capacity : ℕ) :
    relayMessageEncode (some header) (payloadBuffer payload) capacity =
      relayMessageEncode (some header) (.bytes payload) capacity := by
  cases payload with
  | nil => rfl
  | cons value rest => rfl

/-- A message as both sides have decoded it: the same type and the same payload. -/
structure SameFrame (decoded : RelayMessageView) (frame : Web.WebFrame) : Prop where
  type : frame.type = decoded.header.type.toNat
  payload : frame.payload = decoded.payload.data?.getD []
  payloadSize : frame.payload.length = decoded.payload.size

/-- Encoding what has been decoded gives the message back, on both sides. -/
structure Reencodes (decoded : RelayMessageView) (frame : Web.WebFrame) (message : Bytes) :
    Prop where
  receiver : ∀ capacity, message.length ≤ capacity →
    relayMessageEncode
      (some {
        type := decoded.header.type
        flags := 0
        payloadLength := UInt32.ofNat decoded.payload.size })
      decoded.payload capacity = .ok message
  browser : Web.encodeFrame frame.type frame.payload = .ok message

/-- What the two decoders make of the message of a payload that fits. -/
private theorem decoded_frameMessage {type : UInt8} {payload : Bytes}
    (hvalid : messageTypeIsValid type = true) (hsize : payload.length ≤ relayMaxPayload) :
    SameFrame { header := plainHeader type.toUInt32 payload, payload := payloadBuffer payload }
        { type := type.toNat, payload := payload } ∧
      Reencodes { header := plainHeader type.toUInt32 payload, payload := payloadBuffer payload }
        { type := type.toNat, payload := payload } (frameMessage type payload) := by
  obtain ⟨hlow, hhigh⟩ := messageTypeIsValid_iff.mp hvalid
  have htype : type.toUInt32.toUInt8 = type := UInt8.toUInt8_toUInt32 type
  constructor
  · exact ⟨(UInt8.toNat_toUInt32 type).symm, (data_payloadBuffer payload).symm,
      (size_payloadBuffer payload).symm⟩
  constructor
  case receiver =>
    intro capacity hcapacity
    rw [length_frameMessage] at hcapacity
    rw [relayMessageEncode_payloadBuffer, size_payloadBuffer]
    have hvalid' : messageTypeIsValid type.toUInt32.toUInt8 = true := by
      rw [htype]
      exact hvalid
    have hencoded := relayMessageEncode_eq_frameMessage hvalid' hsize hcapacity
    rw [htype] at hencoded
    exact hencoded
  case browser =>
    have hencoded := Web.encodeFrame_eq_ok hlow hhigh hsize
    rw [UInt8.ofNat_toNat] at hencoded
    exact hencoded

/-- The decoders of the two sides accept the same messages, read the same in them, and
the encoders give them back. -/
theorem decoders_agree (message : Bytes) (view : RelayMessageView) :
    ((relayMessageDecode (.bytes message) view).1 = .ok ↔
        ∃ frame, Web.decodeFrame message = .ok frame) ∧
      ∀ (decoded : RelayMessageView) (frame : Web.WebFrame),
        relayMessageDecode (.bytes message) view = (.ok, decoded) →
          Web.decodeFrame message = .ok frame →
            SameFrame decoded frame ∧ Reencodes decoded frame message := by
  constructor
  · constructor
    · intro hok
      obtain ⟨type, payload, hvalid, hsize, hmessage, -⟩ :=
        relayMessageDecode_eq_ok_iff.mp (Prod.ext hok rfl)
      exact ⟨_, Web.decodeFrame_eq_ok_iff.mpr
        ⟨type, payload, messageTypeIsValid_iff.mp hvalid, hsize, hmessage, rfl⟩⟩
    · rintro ⟨frame, hframe⟩
      obtain ⟨type, payload, hrange, hsize, hmessage, -⟩ :=
        Web.decodeFrame_eq_ok_iff.mp hframe
      rw [relayMessageDecode_eq_ok_iff.mpr
        ⟨type, payload, messageTypeIsValid_iff.mpr hrange, hsize, hmessage, rfl⟩]
  · intro decoded frame hdecoded hframe
    obtain ⟨type, payload, hvalid, hsize, rfl, rfl⟩ := relayMessageDecode_eq_ok_iff.mp hdecoded
    obtain ⟨hlow, hhigh⟩ := messageTypeIsValid_iff.mp hvalid
    rw [Web.decodeFrame_frameMessage hlow hhigh hsize] at hframe
    obtain rfl := Except.ok.inj hframe
    exact decoded_frameMessage hvalid hsize

/-- A FILE_END frame. -/
def fileEndMessage : Bytes := frameMessage 5 []

/-- The two sides read a FILE_END frame alike. -/
theorem fileEndMessage_agrees : ∃ decoded frame,
    relayMessageDecode (.bytes fileEndMessage) ⟨default, .null 0⟩ = (.ok, decoded) ∧
      Web.decodeFrame fileEndMessage = .ok frame ∧ SameFrame decoded frame ∧
      Reencodes decoded frame fileEndMessage :=
  ⟨_, _, rfl, rfl, (decoders_agree fileEndMessage ⟨default, .null 0⟩).2 _ _ rfl rfl⟩

/-- An acknowledgement as the browser represents it. -/
def webAckOf (ack : Ack) : Web.WebAck where
  acknowledgedType := ack.acknowledgedType.toNat
  status := ack.status.toNat
  receivedBytes := ack.receivedBytes.toNat

/-- The receiver reads an acknowledgement in a message: it decodes an ACK frame, and the
payload of the frame as that acknowledgement. -/
def ReadsAck (message : Bytes) (view : RelayMessageView) (record : Ack)
    (decoded : RelayMessageView) (ack : Ack) : Prop :=
  relayMessageDecode (.bytes message) view = (.ok, decoded) ∧
    decoded.header.type = MessageType.ack ∧ ackDecode decoded.payload record = (.ok, ack)

theorem decodeAck_webAckOf {ack : Ack} (htype : ackTypeIsAllowed ack.acknowledgedType = true)
    (hstatus : ack.status.toNat ≤ 4) :
    Web.decodeAck (frameMessage 6 (ackPayload ack)) = .ok (webAckOf ack) :=
  Web.decodeAck_frameMessage htype hstatus

/-- The receiver reads an acknowledgement it can encode in the frame of its payload. -/
private theorem readsAck_frameMessage {ack : Ack}
    (htype : ackTypeIsAllowed ack.acknowledgedType = true) (hstatus : ack.status.toNat ≤ 4)
    (view : RelayMessageView) (record : Ack) :
    ReadsAck (frameMessage 6 (ackPayload ack)) view record
      { header := plainHeader 6 (ackPayload ack), payload := .bytes (ackPayload ack) } ack := by
  have hbyte : byteAt (ackPayload ack) 1 = ack.status.toUInt8 := rfl
  have hvalid : ackStatusIsValid (byteAt (ackPayload ack) 1) = true := by
    rw [ackStatusIsValid_iff, hbyte, UInt32.toNat_toUInt8]
    omega
  refine ⟨relayMessageDecode_frameMessage (by decide)
    (by rw [length_ackPayload]; decide) view, rfl, ?_⟩
  exact ackDecode_eq_ok_iff.mpr
    ⟨htype, hvalid, (ackOfPayload_ackPayload_of_lt htype (by omega)).symm, rfl⟩

/-- What the receiver reads is an acknowledgement in the frame of its payload. -/
private theorem ReadsAck.message_eq {message : Bytes} {view decoded : RelayMessageView}
    {record ack : Ack} (hreads : ReadsAck message view record decoded ack) :
    ackTypeIsAllowed ack.acknowledgedType = true ∧ ack.status.toNat ≤ 4 ∧
      message = frameMessage 6 (ackPayload ack) ∧ decoded.payload = .bytes (ackPayload ack) := by
  obtain ⟨hdecoded, htype, hack⟩ := hreads
  obtain ⟨type, payload, -, -, rfl, rfl⟩ := relayMessageDecode_eq_ok_iff.mp hdecoded
  have hbyte : type = 6 := by
    have htype' : type.toUInt32 = MessageType.ack := htype
    rw [← UInt8.toUInt8_toUInt32 type, htype']
    rfl
  have hbuffer : payloadBuffer payload = .bytes payload := by
    unfold payloadBuffer at hack ⊢
    split
    · rename_i hempty
      simp only [hempty, if_true] at hack
      cases hack
    · rfl
  dsimp only at hack
  rw [hbuffer] at hack
  obtain ⟨hallowed, hvalid, hfields, hpayload⟩ := ackDecode_eq_ok_iff.mp hack
  have hstatus : ack.status.toNat ≤ 4 := by
    rw [hfields]
    simpa [ackOfPayload] using ackStatusIsValid_iff.mp hvalid
  refine ⟨hallowed, hstatus, ?_, ?_⟩
  · rw [hbyte, ← hpayload]
  · rw [← hpayload]
    exact hbuffer

/-- What the receiver encodes is what the browser reads. -/
theorem decodeAck_encoded {ack : Ack} (htype : ackTypeIsAllowed ack.acknowledgedType = true)
    (hstatus : ack.status ≤ AckStatus.rejected) {capacity : ℕ}
    (hcapacity : frameHeaderSize + ackPayloadSize ≤ capacity) :
    ∃ payload message, ackEncode (some ack) = .ok payload ∧
      relayMessageEncode (some (plainHeader MessageType.ack payload)) (.bytes payload) capacity =
        .ok message ∧
      Web.decodeAck message = .ok (webAckOf ack) := by
  have hstatus' : ack.status.toNat ≤ 4 := UInt32.le_iff_toNat_le.mp hstatus
  have hvalid : ackStatusIsValid ack.status.toUInt8 = true := by
    rw [ackStatusIsValid_iff, UInt32.toNat_toUInt8]
    omega
  refine ⟨_, _, ackEncode_eq_ok htype hvalid, relayMessageEncode_eq_frameMessage (by decide)
    (by rw [length_ackPayload]; decide) hcapacity, ?_⟩
  exact decodeAck_webAckOf htype hstatus'

/-- An acknowledgement means the same on both sides: the browser reads what the receiver
encodes, and of every message both read the same or neither reads anything. -/
theorem acks_agree :
    (∀ (ack : Ack) (capacity : ℕ), ackTypeIsAllowed ack.acknowledgedType = true →
        ack.status ≤ AckStatus.rejected → frameHeaderSize + ackPayloadSize ≤ capacity →
          ∃ payload message, ackEncode (some ack) = .ok payload ∧
            relayMessageEncode (some (plainHeader MessageType.ack payload)) (.bytes payload)
              capacity = .ok message ∧
            Web.decodeAck message = .ok (webAckOf ack)) ∧
      ∀ (message : Bytes) (view : RelayMessageView) (record : Ack),
        ((∃ read, Web.decodeAck message = .ok read) ↔
            ∃ decoded ack, ReadsAck message view record decoded ack) ∧
          ∀ (read : Web.WebAck) (decoded : RelayMessageView) (ack : Ack),
            Web.decodeAck message = .ok read → ReadsAck message view record decoded ack →
              read = webAckOf ack ∧
                ∃ payload, ackEncode (some ack) = .ok payload ∧
                  decoded.payload = .bytes payload := by
  refine ⟨fun ack capacity htype hstatus hcapacity => decodeAck_encoded htype hstatus hcapacity,
    fun message view record => ⟨⟨?_, ?_⟩, ?_⟩⟩
  · rintro ⟨read, hread⟩
    obtain ⟨ack, htype, hstatus, rfl⟩ := Web.decodeAck_eq_ok hread
    exact ⟨_, ack, readsAck_frameMessage htype hstatus view record⟩
  · rintro ⟨decoded, ack, hreads⟩
    obtain ⟨htype, hstatus, rfl, -⟩ := hreads.message_eq
    exact ⟨_, decodeAck_webAckOf htype hstatus⟩
  · intro read decoded ack hread hreads
    obtain ⟨htype, hstatus, rfl, hpayload⟩ := hreads.message_eq
    rw [decodeAck_webAckOf htype hstatus] at hread
    have hvalid : ackStatusIsValid ack.status.toUInt8 = true := by
      rw [ackStatusIsValid_iff, UInt32.toNat_toUInt8]
      omega
    exact ⟨(Except.ok.inj hread).symm, _, ackEncode_eq_ok htype hvalid, hpayload⟩

/-- The acknowledgement of a chunk. -/
def chunkAck : Ack where
  acknowledgedType := MessageType.chunk
  status := AckStatus.ok
  receivedBytes := 5

/-- The acknowledgement of a chunk reaches the browser. -/
theorem chunkAck_agrees : ∃ payload message, ackEncode (some chunkAck) = .ok payload ∧
    relayMessageEncode (some (plainHeader MessageType.ack payload)) (.bytes payload) 24 =
      .ok message ∧
    Web.decodeAck message = .ok (webAckOf chunkAck) :=
  acks_agree.1 chunkAck 24 (by decide) (by decide) (by decide)

/-- The receiver reads in a payload what the browser put into it. -/
private theorem fileBeginDecode_encodeFileBegin {fileSize : ℤ} {sha256 : Bytes}
    {filename : Web.JsString} {payload : Bytes}
    (hencoded : Web.encodeFileBegin fileSize sha256 filename = .ok payload) (record : FileBegin) :
    ∃ metadata, fileBeginDecode (.bytes payload) record = (.ok, metadata) ∧
      (metadata.fileSize.toNat : ℤ) = fileSize ∧ metadata.sha256.toList = sha256 ∧
      metadata.filename = Web.textEncode filename := by
  obtain ⟨hargs, rfl⟩ := Web.encodeFileBegin_eq_ok_iff.mp hencoded
  refine ⟨_, fileBeginDecode_fileBeginPayload hargs.digestLength
    (Web.textEncode_ne_nil hargs.filenameNonempty) hargs.filenameLength
    (Web.zero_not_mem_textEncode hargs.filenameNul) record, ?_,
    Digest.toList_ofBytes hargs.digestLength, rfl⟩
  obtain ⟨size, rfl⟩ := Int.eq_ofNat_of_zero_le hargs.sizeNonneg
  have hsize : size < 2 ^ 64 := by exact_mod_cast hargs.sizeLt
  have hcast : (UInt64.ofInt (size : ℤ)).toNat = size := by
    rw [Web.ofInt_natCast, UInt64.toNat_ofNat_of_lt' hsize]
  exact congrArg Nat.cast hcast

/-- The metadata of a file survives every way through the two codecs: from the browser to
the receiver, through the receiver's encoder and decoder, and through its decoder and
encoder. -/
theorem fileBegin_roundTrips (record : FileBegin) :
    (∀ (fileSize : ℤ) (sha256 : Bytes) (filename : Web.JsString) (payload : Bytes),
        Web.encodeFileBegin fileSize sha256 filename = .ok payload →
          ∃ metadata, fileBeginDecode (.bytes payload) record = (.ok, metadata) ∧
            (metadata.fileSize.toNat : ℤ) = fileSize ∧ metadata.sha256.toList = sha256 ∧
            metadata.filename = Web.textEncode filename) ∧
      (∀ (metadata : FileBegin) (capacity : ℕ), 1 ≤ metadata.filename.length →
        metadata.filename.length ≤ filenameMaxBytes → (0 : UInt8) ∉ metadata.filename →
          fileBeginFixedSize + metadata.filename.length ≤ capacity →
            ∃ payload, fileBeginEncode (some metadata) (some capacity) = .ok payload ∧
              payload.length ≤ fileBeginMaxPayload ∧
              fileBeginDecode (.bytes payload) record = (.ok, metadata)) ∧
      ∀ (payload : Bytes) (metadata : FileBegin) (capacity : ℕ),
        fileBeginDecode (.bytes payload) record = (.ok, metadata) → payload.length ≤ capacity →
          fileBeginEncode (some metadata) (some capacity) = .ok payload := by
  refine ⟨fun _ _ _ _ hencoded => fileBeginDecode_encodeFileBegin hencoded record, ?_, ?_⟩
  · intro metadata capacity hname hlength hnul hcapacity
    have hne : metadata.filename ≠ [] := List.ne_nil_of_length_pos hname
    have hdigest : metadata.sha256.toList.length = 32 := Vector.length_toList
    refine ⟨_, fileBeginEncode_eq_ok hne hlength hcapacity, ?_, ?_⟩
    · rw [length_fileBeginPayload hdigest]
      exact Nat.add_le_add_left hlength _
    · rw [fileBeginDecode_fileBeginPayload hdigest hne hlength hnul, Digest.ofBytes_toList]
  · intro payload metadata capacity hdecoded hcapacity
    obtain ⟨hne, hlength, -, hpayload⟩ := fileBeginDecode_eq_ok hdecoded
    rw [hpayload, length_fileBeginPayload Vector.length_toList] at hcapacity
    rw [fileBeginEncode_eq_ok hne hlength hcapacity, ← hpayload]

/-- A file named `a`. -/
def smallFile : FileBegin where
  fileSize := 4
  sha256 := Digest.ofBytes (List.replicate 32 7)
  filename := ascii ['a']

/-- The metadata of a small file survives all three ways. -/
theorem smallFile_roundTrips :
    (∃ payload, Web.encodeFileBegin 4 (List.replicate 32 7) [0x61] = .ok payload ∧
      ∃ metadata, fileBeginDecode (.bytes payload) smallFile = (.ok, metadata) ∧
        (metadata.fileSize.toNat : ℤ) = 4 ∧ metadata.sha256.toList = List.replicate 32 7 ∧
        metadata.filename = Web.textEncode [0x61]) ∧
      ∃ payload, fileBeginEncode (some smallFile) (some 43) = .ok payload ∧
        payload.length ≤ fileBeginMaxPayload ∧
        fileBeginDecode (.bytes payload) smallFile = (.ok, smallFile) :=
  ⟨⟨_, rfl, (fileBegin_roundTrips smallFile).1 4 (List.replicate 32 7) [0x61] _ rfl⟩,
    (fileBegin_roundTrips smallFile).2.1 smallFile 43 (by decide) (by decide) (by decide)
      (by decide)⟩

end PrintDrop
