/-
# What an error acknowledgement says

The receiver loop answers a frame that it refuses with one of four error statuses. What
was wrong with the frame is told here from the frames themselves: from the file and the
chunks that were accepted before, and, for a storage failure, from the calls that the
handler makes of its sink and its hash. The reasons are then compared with the status.

A digest that differs and a byte count that is broken reach the loop as a handler that
failed, and so they are reported as storage errors.
-/

import PrintDrop.Receiver.EventStream
import PrintDrop.Receiver.Reliable

namespace PrintDrop

universe u v w

/-- The file that a pass accepts, if it accepts one. -/
def LoopPass.acceptedFile (pass : LoopPass) : Option FileBegin :=
  match pass.frame with
  | none => none
  | some (header, payload) =>
    if pass.accepted ∧ header.type = MessageType.fileBegin then
      (frameMetadata payload).map Prod.fst
    else none

/-- The bytes of the chunk that a pass accepts. -/
def LoopPass.acceptedChunk (pass : LoopPass) : Bytes :=
  match pass.frame with
  | none => []
  | some (header, payload) =>
    if pass.accepted ∧ header.type = MessageType.chunk then payload.data?.getD [] else []

def acceptedFile (passes : List LoopPass) : Option FileBegin :=
  passes.findSome? LoopPass.acceptedFile

def acceptedData (passes : List LoopPass) : Bytes := passes.flatMap LoopPass.acceptedChunk

theorem acceptedFile_concat (passes : List LoopPass) (pass : LoopPass) :
    acceptedFile (passes ++ [pass]) = (acceptedFile passes).or pass.acceptedFile := by
  rw [acceptedFile, List.findSome?_append, acceptedFile]
  cases hpass : pass.acceptedFile with
  | none => simp [hpass]
  | some file => simp [hpass]

theorem acceptedData_concat (passes : List LoopPass) (pass : LoopPass) :
    acceptedData (passes ++ [pass]) = acceptedData passes ++ pass.acceptedChunk := by
  simp [acceptedData]

/-- The acknowledgement that a pass sends. -/
def LoopPass.answer (pass : LoopPass) : Option Ack :=
  match pass.calls with
  | [_, .send _ (.bytes payload) _] => some (ackOfPayload payload)
  | _ => none

section Reasons

variable (file : Option FileBegin) (data : Bytes) (header : FrameHeader) (payload : Buffer)

/-- The frame is not one of the protocol: no payload where there should be one, a header
that is not valid or does not fit its payload, or a payload that its type does not have. -/
def BreaksFormat : Prop :=
  payload.isInvalid = true ∨ frameIsMalformed header payload = true ∨
    file.isSome = true ∧ (header.type = MessageType.chunk ∧ frameChunk payload = none ∨
      header.type = MessageType.fileEnd ∧ payload.size ≠ 0)

/-- The frame comes out of turn: the first one is a FILE_BEGIN, and none of the others. -/
def BreaksOrder : Prop :=
  file = none ∧ header.type ≠ MessageType.fileBegin ∨
    file.isSome = true ∧ header.type ≠ MessageType.chunk ∧ header.type ≠ MessageType.fileEnd

/-- The metadata of a FILE_BEGIN cannot be decoded, or its file name not be made safe. -/
def RefusesMetadata : Prop :=
  file = none ∧ header.type = MessageType.fileBegin ∧ ¬BreaksFormat file header payload ∧
    frameMetadata payload = none

/-- A chunk goes beyond the declared size, or the file ends before it is reached. -/
def BreaksByteCount : Prop :=
  ¬BreaksFormat file header payload ∧ ∃ declared, file = some declared ∧
    (header.type = MessageType.chunk ∧ declared.fileSize.toNat < data.length + payload.size ∨
      header.type = MessageType.fileEnd ∧ data.length ≠ declared.fileSize.toNat)

end Reasons

section Storage

variable {σ : Type u} {τ : Type v} (platform : ReceivePlatform σ τ) (h : Win32ReceiveHandler σ τ)

/-- The file ends with all its bytes, the hash returns a digest, and the digest of the
bytes is not the declared one. -/
def DigestDiffers (digestOf : Bytes → Digest) (file : Option FileBegin) (data : Bytes)
    (header : FrameHeader) (payload : Buffer) : Prop :=
  ¬BreaksFormat file header payload ∧ header.type = MessageType.fileEnd ∧
    ∃ declared, file = some declared ∧ data.length = declared.fileSize.toNat ∧
      (platform.sha256Ops.finish h.integrity).1.1 = .ok ∧ digestOf data ≠ declared.sha256

/-- The file cannot be created, written or committed, or the hash not be run. -/
inductive StorageFails (header : FrameHeader) (payload : Buffer) : Prop
  | jobId (htype : header.type = MessageType.fileBegin)
    (hdraw : (jobIdCreate h.entropy.head?.join).1 ≠ .ok)
  | create {file : FileBegin} {name : Bytes} (htype : header.type = MessageType.fileBegin)
    (hmetadata : frameMetadata payload = some (file, name))
    (hfailed : (platform.sinkInit h.sink h.rootDirectory
      (jobIdCreate h.entropy.head?.join).2 name).1 = false)
  | beginSink {file : FileBegin} {name : Bytes} (htype : header.type = MessageType.fileBegin)
    (hmetadata : frameMetadata payload = some (file, name))
    (hfailed : (platform.sinkOps.begin (platform.sinkInit h.sink h.rootDirectory
      (jobIdCreate h.entropy.head?.join).2 name).2 file.fileSize).1 ≠ .ok)
  | beginHash (htype : header.type = MessageType.fileBegin)
    (hfailed : (platform.sha256Ops.begin (platform.sha256Init h.integrity)).1 ≠ .ok)
  | write {data : Bytes} (htype : header.type = MessageType.chunk) (hdata : payload = .bytes data)
    (hfailed : (platform.sinkOps.write h.sink data).1 ≠ (.ok, data.length))
  | updateHash {data : Bytes} (htype : header.type = MessageType.chunk)
    (hdata : payload = .bytes data)
    (hfailed : (platform.sha256Ops.update h.integrity data).1 ≠ .ok)
  | finishHash (htype : header.type = MessageType.fileEnd)
    (hfailed : (platform.sha256Ops.finish h.integrity).1.1 ≠ .ok)
  | commit (htype : header.type = MessageType.fileEnd)
    (hfailed : (platform.sinkOps.commit h.sink).1 ≠ .ok)

end Storage

/-- The protocol waits for a file while none has been accepted, and receives after that. -/
def StateFor (state : ReceiverProtocolState) (file : Option FileBegin) : Prop :=
  state = .waitFile ∧ file = none ∨ state = .receiving ∧ file.isSome = true

/-- What the event of a frame says about it. -/
inductive EventCause (file : Option FileBegin) (header : FrameHeader) (payload : Buffer) :
    FrameEvent → Prop
  | format (hformat : BreaksFormat file header payload) :
    EventCause file header payload (.refused .malformedFrame)
  | order (hformat : ¬BreaksFormat file header payload) (horder : BreaksOrder file header) :
    EventCause file header payload (.refused .unexpectedMessage)
  | metadata (hmetadata : RefusesMetadata file header payload) :
    EventCause file header payload (.refused .invalidMetadata)
  | begin {begun : FileBegin} {name : Bytes} (hformat : ¬BreaksFormat file header payload)
    (hfile : file = none) (htype : header.type = MessageType.fileBegin)
    (hmetadata : frameMetadata payload = some (begun, name)) :
    EventCause file header payload (.begin begun name)
  | chunk {data : Bytes} (hformat : ¬BreaksFormat file header payload)
    (hfile : file.isSome = true) (htype : header.type = MessageType.chunk)
    (hdata : payload = .bytes data) (hne : data ≠ []) (hsize : data.length ≤ frameMaxPayload) :
    EventCause file header payload (.chunk data)
  | finish (hformat : ¬BreaksFormat file header payload) (hfile : file.isSome = true)
    (htype : header.type = MessageType.fileEnd) : EventCause file header payload .finish

/-- A payload and a header that are right by themselves may still not go together. -/
theorem breaksFormat_iff (file : Option FileBegin) {header : FrameHeader} {payload : Buffer}
    (hpayload : payload.isInvalid = false) (hwell : ¬frameIsMalformed header payload = true) :
    BreaksFormat file header payload ↔ file.isSome = true ∧
      (header.type = MessageType.chunk ∧ frameChunk payload = none ∨
        header.type = MessageType.fileEnd ∧ payload.size ≠ 0) := by
  simp [BreaksFormat, hpayload, hwell]

theorem frameEvent_cause {state : ReceiverProtocolState} {file : Option FileBegin}
    (hstate : StateFor state file) (header : FrameHeader) {payload : Buffer}
    (hpayload : payload.isInvalid = false) :
    EventCause file header payload (frameEvent state header payload) := by
  unfold frameEvent
  split
  · rename_i hmalformed
    exact .format (.inr (.inl hmalformed))
  rename_i hwell
  have hformat := breaksFormat_iff file hpayload hwell
  rcases hstate with ⟨rfl, rfl⟩ | ⟨rfl, hfile⟩
  · have hnone : ¬BreaksFormat none header payload := fun hbroken => by simp [hformat] at hbroken
    rw [if_pos rfl]
    split
    · rename_i htype
      exact .order hnone (.inl ⟨rfl, htype⟩)
    rename_i htype
    cases hmetadata : frameMetadata payload with
    | none => exact .metadata ⟨rfl, not_not.mp htype, hnone, hmetadata⟩
    | some metadata =>
        obtain ⟨begun, name⟩ := metadata
        exact .begin hnone rfl (not_not.mp htype) hmetadata
  rw [if_neg (by decide)]
  split
  · rename_i htype
    cases hchunk : frameChunk payload with
    | none => exact .format (hformat.mpr ⟨hfile, .inl ⟨htype, hchunk⟩⟩)
    | some data =>
        obtain ⟨hdata, hne, hsize⟩ := frameChunk_eq_some hchunk
        refine .chunk (fun hbroken => ?_) hfile htype hdata hne hsize
        rcases (hformat.mp hbroken).2 with ⟨-, hnone⟩ | ⟨hend, -⟩
        · rw [hchunk] at hnone
          cases hnone
        · rw [htype] at hend
          cases hend
  rename_i hnotChunk
  split
  · rename_i htype
    by_cases hsize : payload.size = 0
    · rw [if_neg (not_not.mpr hsize)]
      refine .finish (fun hbroken => ?_) hfile htype
      rcases (hformat.mp hbroken).2 with ⟨hchunk, -⟩ | ⟨-, hne⟩
      · exact hnotChunk hchunk
      · exact hne hsize
    · rw [if_pos hsize]
      exact .format (hformat.mpr ⟨hfile, .inr ⟨htype, hsize⟩⟩)
  · rename_i hnotEnd
    refine .order (fun hbroken => ?_) (.inr ⟨hfile, hnotChunk, hnotEnd⟩)
    rcases (hformat.mp hbroken).2 with ⟨hchunk, -⟩ | ⟨hend, -⟩
    · exact hnotChunk hchunk
    · exact hnotEnd hend

section Handler

variable {σ : Type u} {τ : Type v} {platform : ReceivePlatform σ τ} {h : Win32ReceiveHandler σ τ}
  {R : SinkPhase → σ → Prop} {Q : HashPhase → τ → Prop}

theorem win32ReceiveBegin_fails (hinitialized : h.initialized = true) (hactive : h.active = false)
    {header : FrameHeader} {payload : Buffer} {file : FileBegin} {name : Bytes}
    (htype : header.type = MessageType.fileBegin)
    (hmetadata : frameMetadata payload = some (file, name))
    (hfailed : (win32ReceiveBegin platform h file name).1 = false) :
    StorageFails platform h header payload := by
  unfold win32ReceiveBegin at hfailed
  rw [if_neg (by simp [hinitialized, hactive])] at hfailed
  dsimp only at hfailed
  split at hfailed
  · rename_i hdraw
    exact .jobId htype hdraw
  split at hfailed
  · rename_i hcreated
    exact .create htype hmetadata (by simpa using hcreated)
  rw [if_neg (by simp [fileReceiverConfigureIntegrity, fileReceiverInit])] at hfailed
  split at hfailed
  · rename_i hbegun
    by_contra hboth
    refine hbegun (fileReceiverBegin_eq_ok _ _ rfl ?_ fun _ => ?_)
    · by_contra hsink
      exact hboth (.beginSink htype hmetadata hsink)
    · by_contra hhash
      exact hboth (.beginHash htype hhash)
  · cases hfailed

/-- A chunk that fits is taken unless the sink or the hash does not take it. -/
theorem win32ReceiveChunk_fails (hactive : h.active = true) {file : FileBegin} {data chunk : Bytes}
    (hrep : Represents R Q (announcedBy file) (.receiving data) h.toReceiverState)
    (hne : chunk ≠ []) (hsize : chunk.length ≤ frameMaxPayload)
    (hfits : data.length + chunk.length ≤ file.fileSize.toNat)
    (hfailed : (win32ReceiveChunk platform h chunk).1 = false) :
    (platform.sinkOps.write h.sink chunk).1 ≠ (.ok, chunk.length) ∨
      (platform.sha256Ops.update h.integrity chunk).1 ≠ .ok := by
  by_contra hboth
  obtain ⟨hsink, hhash⟩ := not_or.mp hboth
  have hok := fileReceiverWrite_eq_ok platform.sinkOps platform.sha256Ops hrep hne hsize hfits
    (not_not.mp hsink) fun _ _ => not_not.mp hhash
  simp [win32ReceiveChunk, hactive, hok] at hfailed

/-- A file that has all its bytes is finished unless the hash fails or returns another
digest, or the sink does not commit. -/
theorem win32ReceiveFinish_fails (hactive : h.active = true) {file : FileBegin} {data : Bytes}
    (hrep : Represents R Q (announcedBy file) (.receiving data) h.toReceiverState)
    (hlength : data.length = file.fileSize.toNat)
    (hfailed : (win32ReceiveFinish platform h).1 = false) :
    (platform.sha256Ops.finish h.integrity).1.1 ≠ .ok ∨
      (platform.sha256Ops.finish h.integrity).1.2 ≠ file.sha256 ∨
      (platform.sinkOps.commit h.sink).1 ≠ .ok := by
  by_contra hall
  obtain ⟨hhash, hrest⟩ := not_or.mp hall
  obtain ⟨hdigest, hcommit⟩ := not_or.mp hrest
  have hfinished : ∀ digest ∈ (announcedBy file).sha256,
      (platform.sha256Ops.finish h.integrity).1 = (.ok, digest) := by
    intro digest hsha256
    obtain rfl := Option.some.inj hsha256
    exact Prod.ext (not_not.mp hhash) (not_not.mp hdigest)
  have hok := fileReceiverFinish_eq_ok platform.sinkOps platform.sha256Ops hrep hlength hfinished
    (not_not.mp hcommit)
  simp [win32ReceiveFinish, hactive, hok] at hfailed

end Handler

/-! ## Following a session -/

section Session

variable {σ : Type u} {τ : Type v} {platform : ReceivePlatform σ τ} {digestOf : Bytes → Digest}
  {before : List LoopPass} {p : ReceiverProtocol (Win32ReceiveHandler σ τ)}
  {header : FrameHeader} {payload : Buffer}

/-- Every platform goes through the phases in which its hash is fed the received data. -/
theorem ReceivePlatform.implements_fedAt (platform : ReceivePlatform σ τ) :
    platform.Implements (fun _ _ => True) platform.sha256Ops.FedAt :=
  ⟨FileSinkOps.implements_trivial _, IntegrityOps.implements_fedAt _, fun _ => trivial,
    fun _ => trivial⟩

/-- A protocol whose handler has received what the passes have accepted. -/
inductive Tracking (platform : ReceivePlatform σ τ) (before : List LoopPass)
    (p : ReceiverProtocol (Win32ReceiveHandler σ τ)) : Prop
  | waiting (hstate : p.state = .waitFile) (hfile : acceptedFile before = none)
    (hdata : acceptedData before = []) (hinitialized : p.context.initialized = true)
    (hcontext : HandlerAt (fun _ _ => True) platform.sha256Ops.FedAt True .waiting p.context)
  | receiving {file : FileBegin} (hstate : p.state = .receiving)
    (hfile : acceptedFile before = some file) (hactive : p.context.active = true)
    (hrep : Represents (fun _ _ => True) platform.sha256Ops.FedAt (announcedBy file)
      (.receiving (acceptedData before)) p.context.toReceiverState)

theorem Tracking.live (htracking : Tracking platform before p) :
    p.state = .waitFile ∨ p.state = .receiving := by
  cases htracking with
  | waiting hstate => exact .inl hstate
  | receiving hstate => exact .inr hstate

/-- A protocol whose file has been accepted is receiving it. -/
theorem Tracking.receiving_of_isSome (htracking : Tracking platform before p)
    (hsome : (acceptedFile before).isSome = true) :
    ∃ file, acceptedFile before = some file ∧ p.context.active = true ∧
      Represents (fun _ _ => True) platform.sha256Ops.FedAt (announcedBy file)
        (.receiving (acceptedData before)) p.context.toReceiverState := by
  cases htracking with
  | waiting _ hnone =>
      rw [hnone] at hsome
      cases hsome
  | receiving _ hfile hactive hrep => exact ⟨_, hfile, hactive, hrep⟩

theorem Tracking.stateFor (htracking : Tracking platform before p) :
    StateFor p.state (acceptedFile before) := by
  cases htracking with
  | waiting hstate hfile => exact .inl ⟨hstate, hfile⟩
  | receiving hstate hfile => exact .inr ⟨hstate, by rw [hfile]; rfl⟩

/-- A chunk that the handler takes is added to what it has received. -/
theorem win32ReceiveChunk_represents {h : Win32ReceiveHandler σ τ} {announced : Announced}
    {data chunk : Bytes} {R : SinkPhase → σ → Prop} {Q : HashPhase → τ → Prop}
    (hplatform : platform.Implements R Q)
    (hrep : Represents R Q announced (.receiving data) h.toReceiverState)
    (hok : (win32ReceiveChunk platform h chunk).1 = true) :
    (win32ReceiveChunk platform h chunk).2.active = true ∧
      Represents R Q announced (.receiving (data ++ chunk))
        (win32ReceiveChunk platform h chunk).2.toReceiverState := by
  unfold win32ReceiveChunk at hok ⊢
  split at hok
  · cases hok
  rename_i hactive
  have hwritten : (fileReceiverWrite platform.sinkOps platform.sha256Ops h.toReceiverState
      (.bytes chunk)).1 = .ok := beq_iff_eq.mp hok
  have hne : chunk ≠ [] := by
    rintro rfl
    simp [fileReceiverWrite, hrep.state] at hwritten
  rw [if_neg hactive]
  rw [Bool.not_eq_true', Bool.not_eq_false] at hactive
  cases fileReceiverWrite_outcome hplatform.sink hplatform.hash hrep hne with
  | accepted _ _ hrep' => exact ⟨hactive, hrep'⟩
  | refused hresult =>
      rcases hresult with ⟨hresult, -⟩ | ⟨hresult, -⟩ <;> simp [hwritten] at hresult
  | failed hresult => rcases hresult with hresult | hresult <;> simp [hwritten] at hresult

/-- **Step lemma.** An accepted frame that does not end the file. -/
theorem Tracking.accept (htracking : Tracking platform before p)
    {next : ReceiverProtocol (Win32ReceiveHandler σ τ)} {pass : LoopPass}
    (houtcome : HandleOutcome (win32ReceiveHandlerOps platform) p header payload (.ok, next))
    (hframe : pass.frame = some (header, payload)) (haccepted : pass.accepted = true)
    (hnotEnd : header.type ≠ MessageType.fileEnd) : Tracking platform (before ++ [pass]) next := by
  have hfile : pass.acceptedFile = if header.type = MessageType.fileBegin then
      (frameMetadata payload).map Prod.fst else none := by
    simp [LoopPass.acceptedFile, hframe, haccepted]
  have hchunk : pass.acceptedChunk = if header.type = MessageType.chunk then
      payload.data?.getD [] else [] := by
    simp [LoopPass.acceptedChunk, hframe, haccepted]
  cases houtcome with
  | @began file name hstate htype hmetadata hbegun _ hcontext hnext =>
      rw [if_pos htype, hmetadata, Option.map_some] at hfile
      rw [if_neg (by rw [htype]; decide)] at hchunk
      have hcontext' : next.context = (win32ReceiveBegin platform p.context file name).2 := hcontext
      cases htracking with
      | waiting _ hnone hdata _ hwaiting =>
          cases win32ReceiveBegin_outcome platform.implements_fedAt hwaiting file name with
          | active _ hphase =>
              obtain ⟨hactive, hrep⟩ := hphase
              have hbegun : acceptedFile (before ++ [pass]) = some file := by
                rw [acceptedFile_concat, hnone, hfile]
                rfl
              refine .receiving hnext hbegun (by rw [hcontext', hactive]) ?_
              rw [acceptedData_concat, hdata, hchunk, hcontext']
              exact hrep
          | refused hresult _ => exact absurd (hbegun.symm.trans hresult) (by decide)
      | receiving hreceiving =>
          rw [hstate] at hreceiving
          cases hreceiving
  | @wrote data hstate htype hpayload hwritten _ hcontext hnext =>
      rw [if_neg (by rw [htype]; decide)] at hfile
      rw [if_pos htype, hpayload] at hchunk
      have hcontext' : next.context = (win32ReceiveChunk platform p.context data).2 := hcontext
      cases htracking with
      | waiting hwaiting =>
          rw [hstate] at hwaiting
          cases hwaiting
      | @receiving file _ hsome _ hrep =>
          obtain ⟨hactive, hrep'⟩ :=
            win32ReceiveChunk_represents platform.implements_fedAt hrep hwritten
          have hbegun : acceptedFile (before ++ [pass]) = some file := by
            rw [acceptedFile_concat, hsome, hfile]
            rfl
          refine .receiving hnext hbegun (by rw [hcontext', hactive]) ?_
          rw [acceptedData_concat, hchunk, hcontext']
          exact hrep'
  | finished _ htype => exact absurd htype hnotEnd
  | refused hresult => exact absurd rfl hresult

/-- Why a frame is refused, with the status it is answered with. What the handler fails
for, whatever it is, is reported as a storage error. -/
inductive RefusedFor (platform : ReceivePlatform σ τ) (h : Win32ReceiveHandler σ τ)
    (digestOf : Bytes → Digest) (file : Option FileBegin) (data : Bytes) (header : FrameHeader)
    (payload : Buffer) : AckStatus → Prop
  | format (hformat : BreaksFormat file header payload) :
    RefusedFor platform h digestOf file data header payload AckStatus.protocolError
  | order (hformat : ¬BreaksFormat file header payload) (horder : BreaksOrder file header) :
    RefusedFor platform h digestOf file data header payload AckStatus.protocolError
  | metadata (hmetadata : RefusesMetadata file header payload) :
    RefusedFor platform h digestOf file data header payload AckStatus.rejected
  | handler (hformat : ¬BreaksFormat file header payload) (horder : ¬BreaksOrder file header)
    (hmetadata : ¬RefusesMetadata file header payload)
    (hcause : BreaksByteCount file data header payload ∨
      DigestDiffers platform h digestOf file data header payload ∨
        StorageFails platform h header payload) :
    RefusedFor platform h digestOf file data header payload AckStatus.storageError

/-- A frame is in order if its type is the one that is due. -/
theorem not_breaksOrder {file : Option FileBegin} (htype : file = none ∧
    header.type = MessageType.fileBegin ∨ file.isSome = true ∧
      (header.type = MessageType.chunk ∨ header.type = MessageType.fileEnd)) :
    ¬BreaksOrder file header := by
  rintro (⟨hnone, hother⟩ | ⟨hsome, hnotChunk, hnotEnd⟩)
  · rcases htype with ⟨-, hbegin⟩ | ⟨hsome, -⟩
    · exact hother hbegin
    · rw [hnone] at hsome
      cases hsome
  · rcases htype with ⟨hnone, -⟩ | ⟨-, hchunk | hend⟩
    · rw [hnone] at hsome
      cases hsome
    · exact hnotChunk hchunk
    · exact hnotEnd hend

/-- A file that has been accepted has no metadata to refuse. -/
theorem not_refusesMetadata {file : Option FileBegin} (hfile : file.isSome = true) :
    ¬RefusesMetadata file header payload := by
  rintro ⟨hnone, -⟩
  rw [hnone] at hfile
  cases hfile

/-- The answer of the handler to what an event asks of it. -/
inductive HandlerAnswer (platform : ReceivePlatform σ τ) (h : Win32ReceiveHandler σ τ) :
    FrameEvent → Bool → Prop
  | begin (file : FileBegin) (name : Bytes) :
    HandlerAnswer platform h (.begin file name) (win32ReceiveBegin platform h file name).1
  | chunk (data : Bytes) :
    HandlerAnswer platform h (.chunk data) (win32ReceiveChunk platform h data).1
  | finish : HandlerAnswer platform h .finish (win32ReceiveFinish platform h).1

/-- A frame that is refused after the handler was asked is refused because it failed. -/
theorem handler_refused {event : FrameEvent} {answer : Bool}
    (hanswer : HandlerAnswer platform p.context event answer) {result : ReceiverProtocolResult}
    {next : ReceiverProtocol (Win32ReceiveHandler σ τ)}
    (hacted : actOn (win32ReceiveHandlerOps platform) p event = (result, next))
    (hrefused : result ≠ .ok) : result = .handlerError ∧ answer = false := by
  have hresult : (actOn (win32ReceiveHandlerOps platform) p event).1 = result := by rw [hacted]
  cases hanswer with
  | begin file name | chunk data | finish =>
      simp only [actOn] at hresult
      split at hresult
      · exact absurd hresult.symm hrefused
      · rename_i hfailed
        exact ⟨hresult.symm, Bool.eq_false_iff.mpr hfailed⟩

/-- **Step lemma**, for a frame that the protocol refuses. -/
theorem Tracking.refused (hcomputes : platform.sha256Ops.Computes digestOf)
    (htracking : Tracking platform before p) {result : ReceiverProtocolResult}
    {next : ReceiverProtocol (Win32ReceiveHandler σ τ)}
    (hhandled : receiverProtocolHandle (win32ReceiveHandlerOps platform) p (some header) payload =
      (result, next)) (hrefused : result ≠ .ok) :
    RefusedFor platform p.context digestOf (acceptedFile before) (acceptedData before) header
      payload (loopErrorStatus result) := by
  cases hpayload : payload.isInvalid with
  | true =>
      have hself : receiverProtocolHandle (win32ReceiveHandlerOps platform) p (some header)
          payload = (.invalidArgument, p) := by simp [receiverProtocolHandle, hpayload]
      rw [hself] at hhandled
      obtain ⟨rfl, -⟩ := Prod.mk.inj hhandled
      exact .format (.inl hpayload)
  | false =>
      rw [receiverProtocolHandle_eq_actOn hpayload htracking.live] at hhandled
      have hcause := frameEvent_cause htracking.stateFor header hpayload
      cases hevent : frameEvent p.state header payload with
      | refused refusal =>
          rw [hevent] at hcause hhandled
          obtain ⟨rfl, -⟩ := Prod.mk.inj hhandled
          cases hcause with
          | format hformat => exact .format hformat
          | order hformat horder => exact .order hformat horder
          | metadata hmetadata => exact .metadata hmetadata
      | begin file name =>
          rw [hevent] at hcause hhandled
          obtain ⟨rfl, hfailed⟩ := handler_refused (.begin file name) hhandled hrefused
          cases hcause with
          | begin hformat hnone htype hmetadata =>
          refine .handler hformat (not_breaksOrder (.inl ⟨hnone, htype⟩)) ?_ (.inr (.inr ?_))
          · rintro ⟨-, -, -, hundecoded⟩
            rw [hmetadata] at hundecoded
            cases hundecoded
          · cases htracking with
            | waiting _ _ _ hinitialized hwaiting =>
                exact win32ReceiveBegin_fails hinitialized hwaiting.1 htype hmetadata hfailed
            | receiving _ hsome =>
                rw [hnone] at hsome
                cases hsome
      | chunk data =>
          rw [hevent] at hcause hhandled
          obtain ⟨rfl, hfailed⟩ := handler_refused (.chunk data) hhandled hrefused
          cases hcause with
          | chunk hformat hsome htype hdata hne hsize =>
          refine .handler hformat (not_breaksOrder (.inr ⟨hsome, .inl htype⟩))
            (not_refusesMetadata hsome) ?_
          obtain ⟨file, hfile, hactive, hrep⟩ := htracking.receiving_of_isSome hsome
          by_cases hfits : (acceptedData before).length + data.length ≤ file.fileSize.toNat
          · refine .inr (.inr ?_)
            rcases win32ReceiveChunk_fails hactive hrep hne hsize hfits hfailed with
              hsink | hhash
            · exact .write htype hdata hsink
            · exact .updateHash htype hdata hhash
          · refine .inl ⟨hformat, file, hfile, .inl ⟨htype, ?_⟩⟩
            rw [hdata]
            exact Nat.not_le.mp hfits
      | finish =>
          rw [hevent] at hcause hhandled
          obtain ⟨rfl, hfailed⟩ := handler_refused .finish hhandled hrefused
          cases hcause with
          | finish hformat hsome htype =>
          refine .handler hformat (not_breaksOrder (.inr ⟨hsome, .inr htype⟩))
            (not_refusesMetadata hsome) ?_
          obtain ⟨file, hfile, hactive, hrep⟩ := htracking.receiving_of_isSome hsome
          by_cases hlength : (acceptedData before).length = file.fileSize.toNat
          swap
          · exact .inl ⟨hformat, file, hfile, .inr ⟨htype, hlength⟩⟩
          refine .inr ?_
          by_cases hhash : (platform.sha256Ops.finish p.context.integrity).1.1 = .ok
          swap
          · exact .inr (.finishHash htype hhash)
          -- What the hash returned is the digest of what the passes have accepted.
          have hdigest : (platform.sha256Ops.finish p.context.integrity).1.2 =
              digestOf (acceptedData before) := hcomputes (hrep.hash _ rfl) hhash
          rcases win32ReceiveFinish_fails hactive hrep hlength hfailed with
            hother | hother | hother
          · exact absurd hhash hother
          · rw [hdigest] at hother
            exact .inl ⟨hformat, htype, file, hfile, hlength, hhash, hother⟩
          · exact .inr (.commit htype hother)

variable {ι : Type w} {io : ReceiverLoopIoOps ι}

variable (platform io) in
/-- **Step lemma.** A pass that goes on is one that accepts a frame. -/
theorem Tracking.pass {loop : ReceiverLoop (Win32ReceiveHandler σ τ) (ι × List LinkCall)}
    (htracking : Tracking platform before loop.protocol)
    (hgoesOn : (receiverLoopTurn (runtimeLoopOps platform io).recordedLink loop).1 = none) :
    Tracking platform (before ++ [loopPass (runtimeLoopOps platform io) loop])
      (receiverLoopTurn (runtimeLoopOps platform io).recordedLink loop).2.protocol := by
  cases passSeen_receiverLoopTurn (runtimeLoopOps platform io) htracking.live with
  | nothing _ hresult =>
      rw [hresult] at hgoesOn
      cases hgoesOn
  | @accepted header payload next ok houtcome hpass hresult hprotocol =>
      rw [hprotocol hgoesOn]
      refine htracking.accept houtcome (by rw [hpass]; rfl) (by rw [hpass]) ?_
      intro hend
      rw [hresult, if_pos hend] at hgoesOn
      split at hgoesOn <;> cases hgoesOn
  | answered _ _ _ _ hresult =>
      rw [hresult] at hgoesOn
      cases hgoesOn
  | unanswered _ hresult =>
      rw [hresult] at hgoesOn
      cases hgoesOn

variable (platform io) in
/-- **Run lemma.** Each pass of a run is the pass of a loop that tracks the passes before. -/
theorem Tracking.run (earlier : List LoopPass) : ∀ {count : ℕ} {before after : List LoopPass}
    {pass : LoopPass} {loop : ReceiverLoop (Win32ReceiveHandler σ τ) (ι × List LinkCall)},
    Tracking platform before loop.protocol →
    loopPasses (runtimeLoopOps platform io) count loop = earlier ++ pass :: after →
    Tracking platform (before ++ earlier) (receiverLoopTurns
        (runtimeLoopOps platform io).recordedLink earlier.length loop).2.protocol ∧
      pass = loopPass (runtimeLoopOps platform io) (receiverLoopTurns
        (runtimeLoopOps platform io).recordedLink earlier.length loop).2 := by
  induction earlier with
  | nil =>
      intro count before after pass loop htracking hsplit
      cases count with
      | zero => cases hsplit
      | succ count =>
          obtain ⟨rfl, -⟩ := List.cons.inj hsplit
          rw [List.append_nil]
          exact ⟨htracking, rfl⟩
  | cons first earlier ih =>
      intro count before after pass loop htracking hsplit
      cases count with
      | zero => cases hsplit
      | succ count =>
          unfold loopPasses at hsplit
          obtain ⟨rfl, hrest⟩ := List.cons.inj hsplit
          have hnext := htracking.pass platform io
          rw [List.length_cons]
          unfold receiverLoopTurns
          cases hturn : receiverLoopTurn (runtimeLoopOps platform io).recordedLink loop with
          | mk result next =>
          rw [hturn] at hrest hnext
          cases result with
          | some result => simp at hrest
          | none =>
              have hrun := ih (hnext rfl) hrest
              rwa [List.append_assoc, List.singleton_append] at hrun

end Session

end PrintDrop
