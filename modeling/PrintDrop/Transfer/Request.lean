/-
# Requests

The frames of a transfer in the sender's order, each with what the receiver has before it
and after it, and what a receiver that accepts one comes to.
-/

import PrintDrop.Transfer.System

namespace PrintDrop

universe u v w

variable {η : Type u} {σ : Type v} {τ : Type w}

/-- How much of the file a receiver has. -/
inductive Progress
  | fresh
  | received (offset : ℕ)
  | done

/-- A frame of the sender. -/
inductive Request
  | begin
  | chunk (offset : ℕ)
  | finish

namespace Request

variable (file : Web.File) (digest : Bytes)

/-- The end of the chunk at an offset. -/
def chunkEnd (offset : ℕ) : ℕ := min (offset + Web.fileChunkSize) file.size

def type : Request → ℕ
  | .begin => Web.MessageType.fileBegin
  | .chunk _ => Web.MessageType.chunk
  | .finish => Web.MessageType.fileEnd

def payload : Request → Bytes
  | .begin => fileBeginPayload (UInt64.ofNat file.size) digest (Web.textEncode file.name)
  | .chunk offset => file.slice offset (chunkEnd file offset)
  | .finish => []

/-- The byte count that the acknowledgement must have. -/
def expected : Request → ℕ
  | .begin => 0
  | .chunk offset => chunkEnd file offset
  | .finish => file.size

/-- Where the sender goes on behind the acknowledgement. -/
def next : Request → Option ℕ
  | .begin => some 0
  | .chunk offset => some (chunkEnd file offset)
  | .finish => none

def before : Request → Progress
  | .begin => .fresh
  | .chunk offset => .received offset
  | .finish => .received file.size

def after : Request → Progress
  | .begin => .received 0
  | .chunk offset => .received (chunkEnd file offset)
  | .finish => .done

/-- The message that carries the request. -/
def message (request : Request) : Bytes :=
  frameMessage (UInt8.ofNat request.type) (request.payload file digest)

/-- The request is made for this file: a chunk starts inside it. -/
def Valid : Request → Prop
  | .chunk offset => offset < file.size
  | _ => True

variable {file digest}

/-- The header's type field of a request. -/
def messageType : Request → MessageType
  | .begin => MessageType.fileBegin
  | .chunk _ => MessageType.chunk
  | .finish => MessageType.fileEnd

theorem toUInt32_type (request : Request) :
    (UInt8.ofNat request.type).toUInt32 = request.messageType := by
  cases request <;> rfl

theorem loopShouldAck_messageType (request : Request) :
    loopShouldAck request.messageType = true := by
  cases request <;> rfl

/-- The payload of a request fits into a relay message. -/
theorem length_payload_le (request : Request)
    (hbegin : Web.EncodableFileBegin file.size digest file.name) :
    (request.payload file digest).length ≤ relayMaxPayload := by
  cases request with
  | begin =>
      have hname := hbegin.filenameLength
      rw [payload, length_fileBeginPayload hbegin.digestLength]
      simp only [filenameMaxBytes, relayMaxPayload, relayWsMessageMaxSize, frameHeaderSize,
        fileBeginFixedSize] at *
      omega
  | chunk offset =>
      simp only [payload, Web.File.slice, List.length_take, chunkEnd, Web.fileChunkSize,
        relayMaxPayload, relayWsMessageMaxSize, frameHeaderSize]
      omega
  | finish => exact Nat.zero_le _

theorem encodeFrame_eq_message {request : Request}
    (hbegin : Web.EncodableFileBegin file.size digest file.name) :
    Web.encodeFrame request.type (request.payload file digest) =
      .ok (request.message file digest) := by
  have hsize : (request.payload file digest).length ≤ Web.relayMaxPayload :=
    request.length_payload_le hbegin
  have htype : 1 ≤ request.type ∧ request.type ≤ 7 := by
    cases request <;> simp [type, Web.MessageType.fileBegin, Web.MessageType.chunk,
      Web.MessageType.fileEnd]
  exact Web.encodeFrame_eq_ok htype.1 htype.2 hsize

/-- The receiver reads the request in its message. -/
theorem arrivedFrame_message {request : Request}
    (hbegin : Web.EncodableFileBegin file.size digest file.name) :
    arrivedFrame (request.message file digest) =
      some (plainHeader request.messageType (request.payload file digest),
        payloadBuffer (request.payload file digest)) := by
  have hvalid : messageTypeIsValid (UInt8.ofNat request.type) = true := by cases request <;> rfl
  rw [arrivedFrame, message,
    relayMessageDecode_frameMessage hvalid (request.length_payload_le hbegin), toUInt32_type]

/-- A chunk that starts inside the file takes it from one offset to the next. -/
theorem take_append_slice {offset : ℕ} (hoffset : offset < file.size) :
    file.content.take offset ++ file.slice offset (chunkEnd file offset) =
      file.content.take (chunkEnd file offset) := by
  have hle : offset ≤ chunkEnd file offset := by
    simp only [chunkEnd]
    omega
  rw [Web.File.slice, ← List.take_add, Nat.add_sub_cancel' hle]

theorem length_slice {offset : ℕ} (hoffset : offset < file.size) :
    (file.slice offset (chunkEnd file offset)).length = chunkEnd file offset - offset := by
  simp only [Web.File.slice, List.length_take, List.length_drop, chunkEnd, Web.File.size] at *
  omega

end Request

/-- What the sender announced, as the receiver decodes it. -/
def declaredFile (file : Web.File) (digest : Bytes) : FileBegin where
  fileSize := UInt64.ofNat file.size
  sha256 := Digest.ofBytes digest
  filename := Web.textEncode file.name

section Event

variable {file : Web.File} {digest : Bytes}

/-- The frame of a request passes the protocol's checks on header and payload. -/
theorem frameIsMalformed_request (request : Request)
    (hbegin : Web.EncodableFileBegin file.size digest file.name) :
    frameIsMalformed (plainHeader request.messageType (request.payload file digest))
      (payloadBuffer (request.payload file digest)) = false := by
  have hsize := request.length_payload_le hbegin
  have hlength : (UInt32.ofNat (request.payload file digest).length).toNat =
      (request.payload file digest).length := by
    rw [UInt32.toNat_ofNat']
    simp only [relayMaxPayload, relayWsMessageMaxSize, frameHeaderSize] at hsize
    omega
  have hmax : (request.payload file digest).length ≤ frameMaxPayload := by
    simp only [relayMaxPayload, relayWsMessageMaxSize, frameHeaderSize] at hsize
    simp only [frameMaxPayload]
    omega
  have hvalid : messageTypeIsValid request.messageType.toUInt8 = true := by
    cases request <;> rfl
  simp [frameIsMalformed, plainHeader, hvalid, hlength, hmax]

theorem isInvalid_payloadBuffer (payload : Bytes) :
    (payloadBuffer payload).isInvalid = false := by
  unfold payloadBuffer
  split <;> rfl

/-- The receiver's sanitizer on the announced name. -/
def sanitizedName (file : Web.File) : FilenameSanitized :=
  filenameSanitize (some (Web.textEncode file.name)) (some filenameCapacity)

/-- A waiting protocol reads a FILE_BEGIN as the announcement, if the name can be used. -/
theorem frameEvent_begin (hbegin : Web.EncodableFileBegin file.size digest file.name) :
    frameEvent .waitFile (plainHeader MessageType.fileBegin (Request.begin.payload file digest))
        (payloadBuffer (Request.begin.payload file digest)) =
      if (sanitizedName file).result = .ok then
        .begin (declaredFile file digest) ((sanitizedName file).output.getD [])
      else .refused .invalidMetadata := by
  have hwell := frameIsMalformed_request .begin hbegin
  have hdecode : fileBeginDecode (.bytes (Request.begin.payload file digest)) FileBegin.zero =
      (.ok, declaredFile file digest) :=
    fileBeginDecode_fileBeginPayload hbegin.digestLength
      (Web.textEncode_ne_nil hbegin.filenameNonempty) hbegin.filenameLength
      (Web.zero_not_mem_textEncode hbegin.filenameNul) FileBegin.zero
  have hnonempty : payloadBuffer (Request.begin.payload file digest) =
      .bytes (Request.begin.payload file digest) := by
    refine if_neg ?_
    simp [Request.payload, length_fileBeginPayload hbegin.digestLength, fileBeginFixedSize]
  have hmetadata : frameMetadata (payloadBuffer (Request.begin.payload file digest)) =
      if (sanitizedName file).result = .ok then
        some (declaredFile file digest, (sanitizedName file).output.getD [])
      else none := by
    rw [hnonempty, frameMetadata, hdecode]
    rfl
  unfold frameEvent
  rw [show MessageType.fileBegin = Request.begin.messageType from rfl, hwell, hmetadata]
  rw [if_neg Bool.false_ne_true, if_pos rfl]
  split
  · rename_i htype
    exact absurd rfl htype
  · split_ifs <;> rfl

theorem frameEvent_chunk (hbegin : Web.EncodableFileBegin file.size digest file.name)
    {offset : ℕ} (hoffset : offset < file.size) :
    frameEvent .receiving
        (plainHeader MessageType.chunk ((Request.chunk offset).payload file digest))
        (payloadBuffer ((Request.chunk offset).payload file digest)) =
      .chunk (file.slice offset (Request.chunkEnd file offset)) := by
  have hsize := Request.length_payload_le (.chunk offset) hbegin
  have hlength := Request.length_slice hoffset
  have hne : file.slice offset (Request.chunkEnd file offset) ≠ [] := by
    intro hnil
    rw [hnil] at hlength
    simp only [List.length_nil, Request.chunkEnd, Web.fileChunkSize] at hlength
    omega
  rw [frameEvent_eq_chunk_iff]
  simp only [Request.payload, relayMaxPayload, relayWsMessageMaxSize, frameHeaderSize,
    plainHeader, frameMaxPayload, UInt32.toNat_ofNat'] at *
  refine ⟨trivial, trivial, by omega, ?_, hne, by omega⟩
  exact if_neg (by simpa using hne)

theorem frameEvent_finish (hbegin : Web.EncodableFileBegin file.size digest file.name) :
    frameEvent .receiving (plainHeader MessageType.fileEnd (Request.finish.payload file digest))
      (payloadBuffer (Request.finish.payload file digest)) = .finish := by
  have hwell := frameIsMalformed_request .finish hbegin
  unfold frameEvent
  rw [show MessageType.fileEnd = Request.finish.messageType from rfl, hwell]
  rfl

end Event

section Receiver

variable {κ : Type v} {ops : ReceiverProtocolOps κ} {H : HandlerPhase → κ → Prop}
  {file : Web.File} {digest : Bytes}

/-- The receiver's protocol has this much of the file, starting from `fresh`. -/
def ReceiverAt (H : HandlerPhase → κ → Prop) (file : Web.File) (digest : Bytes)
    (fresh : ReceiverProtocol κ) : Progress → ReceiverProtocol κ → Prop
  | .fresh, p => p = fresh
  | .received offset, p => p.state = .receiving ∧ p.currentFile = declaredFile file digest ∧
      ∃ chunks : List Bytes, chunks.flatten = file.content.take offset ∧ HandlerInv H chunks p
  | .done, p => p.state = .complete ∧ p.currentFile = declaredFile file digest ∧
      ∃ chunks : List Bytes, chunks.flatten = file.content ∧ HandlerInv H chunks p

/-- A request that is accepted brings the receiver from where it has to be to where the
sender takes it to be. -/
theorem ReceiverAt.accept (hops : ops.Implements H fun _ => True) {context : κ}
    (hfresh : H .waiting context)
    (hbegin : Web.EncodableFileBegin file.size digest file.name) {request : Request}
    (hvalid : request.Valid file) {p p' : ReceiverProtocol κ}
    (hp : ReceiverAt H file digest (receiverProtocolInit context) (request.before file) p)
    (haccepted : receiverProtocolHandle ops p
      (some (plainHeader request.messageType (request.payload file digest)))
      (payloadBuffer (request.payload file digest)) = (.ok, p')) :
    ReceiverAt H file digest (receiverProtocolInit context) (request.after file) p' := by
  have hstep : ∀ {chunks}, HandlerInv H chunks p → HandlerInv H (chunks ++ passedChunk p
      (.handle (some (plainHeader request.messageType (request.payload file digest)))
        (payloadBuffer (request.payload file digest)))) p' := by
    intro chunks hinv
    have hnext := hinv.step hops (.handle
      (some (plainHeader request.messageType (request.payload file digest)))
      (payloadBuffer (request.payload file digest))) fun _ _ => trivial
    rwa [protocolCall, haccepted] at hnext
  have hpayload := isInvalid_payloadBuffer (request.payload file digest)
  cases request with
  | begin =>
      obtain rfl : p = receiverProtocolInit context := hp
      have hinv := hstep (.waiting rfl rfl hfresh)
      rw [receiverProtocolHandle_eq_actOn hpayload (.inl rfl)] at haccepted
      have hevent := frameEvent_begin hbegin
      change frameEvent (receiverProtocolInit context).state _ _ = _ at hevent
      rw [show Request.begin.messageType = MessageType.fileBegin from rfl, hevent] at haccepted
      split at haccepted
      swap
      · cases (Prod.mk.inj haccepted).1
      simp only [actOn] at haccepted
      split at haccepted
      swap
      · cases (Prod.mk.inj haccepted).1
      obtain rfl := (Prod.mk.inj haccepted).2
      exact ⟨rfl, rfl, [], by simp, hinv⟩
  | chunk offset =>
      obtain ⟨hstate, hfile, chunks, hchunks, hinv⟩ := hp
      have hinv' := hstep hinv
      have hevent := frameEvent_chunk hbegin hvalid
      have hpassed : passedChunk p (.handle
          (some (plainHeader MessageType.chunk ((Request.chunk offset).payload file digest)))
          (payloadBuffer ((Request.chunk offset).payload file digest))) =
          [file.slice offset (Request.chunkEnd file offset)] := by
        rw [passedChunk, if_pos hstate, wellFormedChunk_handle_eq_some_iff.mpr hevent]
        rfl
      rw [show (Request.chunk offset).messageType = MessageType.chunk from rfl, hpassed] at hinv'
      rw [receiverProtocolHandle_eq_actOn hpayload (.inr hstate), hstate,
        show (Request.chunk offset).messageType = MessageType.chunk from rfl, hevent]
        at haccepted
      simp only [actOn] at haccepted
      split at haccepted
      swap
      · cases (Prod.mk.inj haccepted).1
      obtain rfl := (Prod.mk.inj haccepted).2
      refine ⟨hstate, hfile, _, ?_, hinv'⟩
      rw [List.flatten_append, hchunks, List.flatten_singleton, Request.take_append_slice hvalid]
  | finish =>
      obtain ⟨hstate, hfile, chunks, hchunks, hinv⟩ := hp
      have hinv' := hstep hinv
      have hevent := frameEvent_finish hbegin
      have hpassed : passedChunk p (.handle
          (some (plainHeader MessageType.fileEnd (Request.finish.payload file digest)))
          (payloadBuffer (Request.finish.payload file digest))) = [] := by
        rw [passedChunk, if_pos hstate]
        rfl
      rw [show Request.finish.messageType = MessageType.fileEnd from rfl, hpassed,
        List.append_nil] at hinv'
      rw [receiverProtocolHandle_eq_actOn hpayload (.inr hstate), hstate,
        show Request.finish.messageType = MessageType.fileEnd from rfl, hevent] at haccepted
      simp only [actOn] at haccepted
      split at haccepted
      swap
      · cases (Prod.mk.inj haccepted).1
      obtain rfl := (Prod.mk.inj haccepted).2
      refine ⟨rfl, hfile, chunks, ?_, hinv'⟩
      rw [hchunks]
      exact List.take_length

end Receiver

end PrintDrop
