/-
# The receiver protocol

`receiver_protocol.c`: the state machine that turns frames into calls of a
handler. The handler's functions may do anything with their context; a
null handler function does not occur, as for the tables of the file receiver.
-/

import PrintDrop.Wire.Frame
import PrintDrop.Wire.FileBegin

namespace PrintDrop

universe u

/-- `pd_receiver_protocol_ops` on a context of type `κ`. -/
structure ReceiverProtocolOps (κ : Type u) where
  beginFile : κ → FileBegin → Bytes → Bool × κ
  writeChunk : κ → Bytes → Bool × κ
  finishFile : κ → Bool × κ
  abortFile : κ → κ

inductive ReceiverProtocolState
  | waitFile
  | receiving
  | complete
  | failed
  deriving DecidableEq, Repr

inductive ReceiverProtocolResult
  | ok
  | invalidArgument
  | invalidState
  | malformedFrame
  | unexpectedMessage
  | invalidMetadata
  | handlerError
  deriving DecidableEq, Repr

/-- `pd_receiver_protocol`, with the handler's context in it. -/
structure ReceiverProtocol (κ : Type u) where
  context : κ
  currentFile : FileBegin
  sanitizedFilename : Bytes
  state : ReceiverProtocolState
  fileActive : Bool

/-- A zeroed `pd_file_begin`. -/
def FileBegin.zero : FileBegin where
  fileSize := 0
  sha256 := Vector.replicate 32 0
  filename := []

/-- `pd_receiver_protocol_init`. -/
def receiverProtocolInit {κ : Type u} (context : κ) : ReceiverProtocol κ where
  context := context
  currentFile := FileBegin.zero
  sanitizedFilename := []
  state := .waitFile
  fileActive := false

variable {κ : Type u} (ops : ReceiverProtocolOps κ)

/-- The clean-up shared by `pd_receiver_protocol_fail` and `pd_receiver_protocol_abort`. -/
def receiverProtocolGiveUp (p : ReceiverProtocol κ) : ReceiverProtocol κ :=
  let p := if p.fileActive then
    { p with context := ops.abortFile p.context, fileActive := false }
  else p
  { p with state := .failed }

def receiverProtocolFail (p : ReceiverProtocol κ) (result : ReceiverProtocolResult) :
    ReceiverProtocolResult × ReceiverProtocol κ :=
  (result, receiverProtocolGiveUp ops p)

def receiverProtocolBeginFile (p : ReceiverProtocol κ) (payload : Buffer) :
    ReceiverProtocolResult × ReceiverProtocol κ :=
  match fileBeginDecode payload FileBegin.zero with
  | (.ok, metadata) =>
    let sanitized := filenameSanitize (some metadata.filename) (some filenameCapacity)
    if sanitized.result ≠ .ok then receiverProtocolFail ops p .invalidMetadata
    else
      let name := sanitized.output.getD []
      let begun := ops.beginFile p.context metadata name
      let p := { p with context := begun.2 }
      if !begun.1 then receiverProtocolFail ops p .handlerError
      else
        (.ok, { p with
          currentFile := metadata
          sanitizedFilename := name
          fileActive := true
          state := .receiving })
  | _ => receiverProtocolFail ops p .invalidMetadata

def receiverProtocolWriteChunk (p : ReceiverProtocol κ) (payload : Buffer) :
    ReceiverProtocolResult × ReceiverProtocol κ :=
  match payload with
  | .null _ => receiverProtocolFail ops p .malformedFrame
  | .bytes data =>
    if data.length = 0 ∨ frameMaxPayload < data.length then
      receiverProtocolFail ops p .malformedFrame
    else
      let written := ops.writeChunk p.context data
      let p := { p with context := written.2 }
      if !written.1 then receiverProtocolFail ops p .handlerError
      else (.ok, p)

def receiverProtocolFinishFile (p : ReceiverProtocol κ) (payload : Buffer) :
    ReceiverProtocolResult × ReceiverProtocol κ :=
  if payload.size ≠ 0 then receiverProtocolFail ops p .malformedFrame
  else
    let finished := ops.finishFile p.context
    let p := { p with context := finished.2 }
    if !finished.1 then receiverProtocolFail ops p .handlerError
    else (.ok, { p with fileActive := false, state := .complete })

/-- The checks on a frame that do not depend on the state. -/
def frameIsMalformed (header : FrameHeader) (payload : Buffer) : Bool :=
  !messageTypeIsValid header.type.toUInt8 || header.flags != 0 ||
    frameMaxPayload < header.payloadLength.toNat || header.payloadLength.toNat != payload.size

/-- `pd_receiver_protocol_handle`. -/
def receiverProtocolHandle (p : ReceiverProtocol κ) (header : Option FrameHeader)
    (payload : Buffer) : ReceiverProtocolResult × ReceiverProtocol κ :=
  match header with
  | none => (.invalidArgument, p)
  | some header =>
    if payload.isInvalid then (.invalidArgument, p)
    else if p.state = .complete ∨ p.state = .failed then (.invalidState, p)
    else if frameIsMalformed header payload then receiverProtocolFail ops p .malformedFrame
    else if p.state = .waitFile then
      if header.type ≠ MessageType.fileBegin then
        receiverProtocolFail ops p .unexpectedMessage
      else receiverProtocolBeginFile ops p payload
    else if header.type = MessageType.chunk then receiverProtocolWriteChunk ops p payload
    else if header.type = MessageType.fileEnd then receiverProtocolFinishFile ops p payload
    else receiverProtocolFail ops p .unexpectedMessage

/-- `pd_receiver_protocol_abort`. -/
def receiverProtocolAbort (p : ReceiverProtocol κ) : ReceiverProtocol κ :=
  if p.state = .complete ∨ p.state = .failed then p else receiverProtocolGiveUp ops p

/-! ## What a frame asks for

Whether a frame is acted on, and how, depends on the protocol's state and the frame
alone. `handle` first finds that out and then calls the handler.
-/

/-- What a live protocol reads in a frame. -/
inductive FrameEvent
  | begin (file : FileBegin) (name : Bytes)
  | chunk (data : Bytes)
  | finish
  | refused (result : ReceiverProtocolResult)
  deriving DecidableEq

/-- The metadata of a FILE_BEGIN payload and the name it is stored under. -/
def frameMetadata (payload : Buffer) : Option (FileBegin × Bytes) :=
  match fileBeginDecode payload FileBegin.zero with
  | (.ok, metadata) =>
    let sanitized := filenameSanitize (some metadata.filename) (some filenameCapacity)
    if sanitized.result = .ok then some (metadata, sanitized.output.getD []) else none
  | _ => none

/-- The name a payload is stored under is a safe one. -/
theorem safeFilename_of_frameMetadata {payload : Buffer} {file : FileBegin} {name : Bytes}
    (hmetadata : frameMetadata payload = some (file, name)) : SafeFilename name := by
  unfold frameMetadata at hmetadata
  split at hmetadata
  · extract_lets sanitized at hmetadata
    split at hmetadata
    · rename_i hok
      obtain ⟨-, rfl⟩ := Prod.mk.inj (Option.some.inj hmetadata)
      obtain ⟨name, hname⟩ := filenameSanitize_ok hok
      have houtput : sanitized.output = some name := hname
      rw [houtput]
      exact safeFilename_of_sanitize hok hname
    · cases hmetadata
  · cases hmetadata

/-- The payload of a chunk that is passed on to the handler. -/
def frameChunk : Buffer → Option Bytes
  | .null _ => none
  | .bytes data => if data.length = 0 ∨ frameMaxPayload < data.length then none else some data

/-- The event of a frame in state `waitFile` or `receiving`. -/
def frameEvent (state : ReceiverProtocolState) (header : FrameHeader) (payload : Buffer) :
    FrameEvent :=
  if frameIsMalformed header payload then .refused .malformedFrame
  else if state = .waitFile then
    if header.type ≠ MessageType.fileBegin then .refused .unexpectedMessage
    else
      match frameMetadata payload with
      | some (file, name) => .begin file name
      | none => .refused .invalidMetadata
  else if header.type = MessageType.chunk then
    match frameChunk payload with
    | some data => .chunk data
    | none => .refused .malformedFrame
  else if header.type = MessageType.fileEnd then
    if payload.size ≠ 0 then .refused .malformedFrame else .finish
  else .refused .unexpectedMessage

/-- Acting on an event: one call of the handler at most, and what its answer leads to. -/
def actOn (p : ReceiverProtocol κ) : FrameEvent → ReceiverProtocolResult × ReceiverProtocol κ
  | .refused result => receiverProtocolFail ops p result
  | .begin file name =>
    let begun := ops.beginFile p.context file name
    if begun.1 then
      (.ok, { p with
        context := begun.2
        currentFile := file
        sanitizedFilename := name
        fileActive := true
        state := .receiving })
    else receiverProtocolFail ops { p with context := begun.2 } .handlerError
  | .chunk data =>
    let written := ops.writeChunk p.context data
    if written.1 then (.ok, { p with context := written.2 })
    else receiverProtocolFail ops { p with context := written.2 } .handlerError
  | .finish =>
    let finished := ops.finishFile p.context
    if finished.1 then
      (.ok, { p with context := finished.2, fileActive := false, state := .complete })
    else receiverProtocolFail ops { p with context := finished.2 } .handlerError

variable {ops}

private theorem receiverProtocolBeginFile_eq_actOn (p : ReceiverProtocol κ) (payload : Buffer) :
    receiverProtocolBeginFile ops p payload =
      actOn ops p (match frameMetadata payload with
        | some (file, name) => .begin file name
        | none => .refused .invalidMetadata) := by
  unfold receiverProtocolBeginFile frameMetadata
  rcases fileBeginDecode payload FileBegin.zero with ⟨result, metadata⟩
  cases result with
  | ok =>
      dsimp only
      by_cases hname :
          (filenameSanitize (some metadata.filename) (some filenameCapacity)).result = .ok
      · simp only [hname, ne_eq, not_true_eq_false, if_false, if_true, actOn]
        split <;> simp_all
      · simp [hname, actOn]
  | invalidArgument | invalidFilename | bufferTooSmall | malformed => rfl

private theorem receiverProtocolWriteChunk_eq_actOn (p : ReceiverProtocol κ) (payload : Buffer) :
    receiverProtocolWriteChunk ops p payload =
      actOn ops p (match frameChunk payload with
        | some data => .chunk data
        | none => .refused .malformedFrame) := by
  unfold receiverProtocolWriteChunk frameChunk
  cases payload with
  | null size => rfl
  | bytes data =>
      dsimp only
      by_cases hsize : data.length = 0 ∨ frameMaxPayload < data.length
      · rw [if_pos hsize, if_pos hsize]
        rfl
      · simp only [hsize, if_false, actOn]
        split <;> simp_all

private theorem receiverProtocolFinishFile_eq_actOn (p : ReceiverProtocol κ) (payload : Buffer) :
    receiverProtocolFinishFile ops p payload =
      actOn ops p (if payload.size ≠ 0 then .refused .malformedFrame else .finish) := by
  unfold receiverProtocolFinishFile
  by_cases hsize : payload.size = 0
  · simp only [hsize, ne_eq, not_true_eq_false, if_false, actOn]
    split <;> simp_all
  · simp [hsize, actOn]

/-- A live protocol acts on the event of the frame. -/
theorem receiverProtocolHandle_eq_actOn {p : ReceiverProtocol κ} {header : FrameHeader}
    {payload : Buffer} (hpayload : payload.isInvalid = false)
    (hlive : p.state = .waitFile ∨ p.state = .receiving) :
    receiverProtocolHandle ops p (some header) payload =
      actOn ops p (frameEvent p.state header payload) := by
  have hopen : ¬(p.state = .complete ∨ p.state = .failed) := by
    rcases hlive with hstate | hstate <;> simp [hstate]
  unfold receiverProtocolHandle frameEvent
  dsimp only
  rw [if_neg (by simp [hpayload]), if_neg hopen, receiverProtocolBeginFile_eq_actOn,
    receiverProtocolWriteChunk_eq_actOn, receiverProtocolFinishFile_eq_actOn]
  split_ifs <;> rfl

/-- A protocol that is done, or is given no frame, leaves everything as it is. -/
theorem receiverProtocolHandle_eq_self {p : ReceiverProtocol κ} {header : Option FrameHeader}
    {payload : Buffer} (hidle : header = none ∨ payload.isInvalid = true ∨
      p.state = .complete ∨ p.state = .failed) :
    (receiverProtocolHandle ops p header payload).1 ≠ .ok ∧
      (receiverProtocolHandle ops p header payload).2 = p := by
  unfold receiverProtocolHandle
  cases header with
  | none => simp
  | some header =>
      dsimp only
      split
      · simp
      · rename_i hpayload
        rw [if_pos (by simpa [hpayload] using hidle)]
        simp

/-- Aborting a protocol that is not complete leaves it failed. -/
theorem receiverProtocolAbort_state {p : ReceiverProtocol κ} (hp : p.state ≠ .complete) :
    (receiverProtocolAbort ops p).state = .failed := by
  unfold receiverProtocolAbort
  split
  · rename_i hdone
    exact hdone.resolve_left hp
  · rfl

/-- Aborting a complete protocol does nothing. -/
theorem receiverProtocolAbort_complete {p : ReceiverProtocol κ} (hp : p.state = .complete) :
    receiverProtocolAbort ops p = p := if_pos (.inl hp)

/-- The bytes of an acted-on chunk are within the frame limit. -/
theorem frameChunk_eq_some {payload : Buffer} {data : Bytes}
    (hchunk : frameChunk payload = some data) :
    payload = .bytes data ∧ data ≠ [] ∧ data.length ≤ frameMaxPayload := by
  cases payload with
  | null size => cases hchunk
  | bytes bytes =>
      unfold frameChunk at hchunk
      dsimp only at hchunk
      split at hchunk
      · cases hchunk
      · rename_i hsize
        obtain rfl := Option.some.inj hchunk
        rw [not_or, not_lt] at hsize
        exact ⟨rfl, fun hnil => hsize.1 (by simp [hnil]), hsize.2⟩

/-- Which frames are chunks to a receiving protocol. -/
theorem frameEvent_eq_chunk_iff {header : FrameHeader} {payload : Buffer} {data : Bytes} :
    frameEvent .receiving header payload = .chunk data ↔
      header.type = MessageType.chunk ∧ header.flags = 0 ∧
        header.payloadLength.toNat = data.length ∧ payload = .bytes data ∧ data ≠ [] ∧
          data.length ≤ frameMaxPayload := by
  constructor
  · intro hevent
    unfold frameEvent at hevent
    rw [if_neg (by decide : ¬ReceiverProtocolState.receiving = .waitFile)] at hevent
    split at hevent
    · cases hevent
    rename_i hwell
    split at hevent
    · rename_i htype
      split at hevent
      · rename_i bytes hchunk
        obtain rfl := FrameEvent.chunk.inj hevent
        obtain ⟨rfl, hne, hle⟩ := frameChunk_eq_some hchunk
        simp only [frameIsMalformed, Bool.or_eq_true, Bool.not_eq_true', bne_iff_ne, ne_eq,
          decide_eq_true_eq, not_or, not_not, Bool.not_eq_false] at hwell
        exact ⟨htype, hwell.1.1.2, hwell.2, rfl, hne, hle⟩
      · cases hevent
    · split at hevent
      · split at hevent <;> cases hevent
      · cases hevent
  · rintro ⟨htype, hflags, hlength, rfl, hne, hle⟩
    have hwell : frameIsMalformed header (.bytes data) = false := by
      simp [frameIsMalformed, htype, hflags, hlength, hle]
      decide
    have hchunk : frameChunk (.bytes data) = some data := by
      simp [frameChunk, hne, hle]
    simp [frameEvent, hwell, htype, hchunk]

/-- What a receiving protocol reads the end of its file in. -/
theorem frameEvent_eq_finish {header : FrameHeader} {payload : Buffer}
    (hevent : frameEvent .receiving header payload = .finish) :
    frameIsMalformed header payload = false ∧ header.type = MessageType.fileEnd ∧
      payload.size = 0 := by
  unfold frameEvent at hevent
  rw [if_neg (by decide : ¬ReceiverProtocolState.receiving = .waitFile)] at hevent
  split at hevent
  · cases hevent
  rename_i hwell
  split at hevent
  · split at hevent <;> cases hevent
  split at hevent
  · rename_i htype
    split at hevent
    · cases hevent
    · rename_i hsize
      exact ⟨Bool.eq_false_iff.mpr hwell, htype, not_not.mp hsize⟩
  · cases hevent

/-- Only a protocol that waits for a file reads a beginning in a frame. -/
theorem frameEvent_begin_state {state : ReceiverProtocolState} {header : FrameHeader}
    {payload : Buffer} {file : FileBegin} {name : Bytes}
    (hevent : frameEvent state header payload = .begin file name) : state = .waitFile := by
  unfold frameEvent at hevent
  split at hevent
  · cases hevent
  split at hevent
  · assumption
  · split at hevent
    · split at hevent <;> cases hevent
    · split at hevent
      · split at hevent <;> cases hevent
      · cases hevent

/-- Only a receiving protocol reads a chunk or the end of a file in a frame. -/
theorem frameEvent_receiving_state {state : ReceiverProtocolState} {header : FrameHeader}
    {payload : Buffer} (hevent : (∃ data, frameEvent state header payload = .chunk data) ∨
      frameEvent state header payload = .finish) : state ≠ .waitFile := by
  rintro rfl
  unfold frameEvent at hevent
  rw [if_pos rfl] at hevent
  split at hevent
  · simp at hevent
  · split at hevent
    · simp at hevent
    · split at hevent <;> simp at hevent

end PrintDrop
