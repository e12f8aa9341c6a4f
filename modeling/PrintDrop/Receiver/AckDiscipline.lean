/-
# Acknowledgements

What the receiver loop sends, frame by frame, when the protocol runs over the receive
handler and the progress of the loop is the byte counter of the handler's file receiver.
-/

import PrintDrop.Receiver.LoopRun
import PrintDrop.Receiver.Handler

namespace PrintDrop

universe u v w

variable {σ : Type u} {τ : Type v} {ι : Type w}

/-- The second receiver has received, and expects, as many bytes as the first. -/
structure SameCount (before after : FileReceiver) : Prop where
  received : after.receivedBytes = before.receivedBytes
  expected : after.expectedBytes = before.expectedBytes

section Counter

variable {sinkOps : FileSinkOps σ} {integrityOps : IntegrityOps τ} {m : ReceiverState σ τ}

theorem sameCount_abortResources :
    SameCount m.receiver (fileReceiverAbortResources sinkOps integrityOps m).receiver := by
  unfold fileReceiverAbortResources
  split <;> dsimp only <;> split <;> exact ⟨rfl, rfl⟩

theorem sameCount_fail {before : FileReceiver} (hm : SameCount before m.receiver)
    (result : FileReceiveResult) :
    SameCount before (fileReceiverFail sinkOps integrityOps m result).2.receiver :=
  ⟨sameCount_abortResources.received.trans hm.received,
    sameCount_abortResources.expected.trans hm.expected⟩

theorem sameCount_begin :
    SameCount m.receiver (fileReceiverBegin sinkOps integrityOps m).2.receiver := by
  unfold fileReceiverBegin
  dsimp only
  split
  · exact ⟨rfl, rfl⟩
  split
  · exact ⟨rfl, rfl⟩
  split
  · split
    · exact sameCount_fail (by exact ⟨rfl, rfl⟩) _
    · exact ⟨rfl, rfl⟩
  · exact ⟨rfl, rfl⟩

theorem sameCount_abort :
    SameCount m.receiver (fileReceiverAbort sinkOps integrityOps m).receiver := by
  unfold fileReceiverAbort
  split
  · exact ⟨rfl, rfl⟩
  · exact ⟨sameCount_abortResources.received, sameCount_abortResources.expected⟩

theorem sameCount_commit {before : FileReceiver} (hm : SameCount before m.receiver) :
    SameCount before (fileReceiverCommit sinkOps integrityOps m).2.receiver := by
  unfold fileReceiverCommit
  dsimp only
  split
  · exact sameCount_fail (by exact ⟨hm.received, hm.expected⟩) _
  · exact ⟨hm.received, hm.expected⟩

theorem sameCount_finish :
    SameCount m.receiver (fileReceiverFinish sinkOps integrityOps m).2.receiver := by
  unfold fileReceiverFinish
  dsimp only
  split
  · exact ⟨rfl, rfl⟩
  split
  · exact ⟨rfl, rfl⟩
  split
  · split
    · exact sameCount_fail (by exact ⟨rfl, rfl⟩) _
    split
    · exact sameCount_fail (by exact ⟨rfl, rfl⟩) _
    split
    · split <;> exact ⟨rfl, rfl⟩
    · exact sameCount_commit ⟨rfl, rfl⟩
  · exact sameCount_commit ⟨rfl, rfl⟩

/-- Only a receiver that has all its bytes is finished. -/
theorem receivedBytes_of_finish_ok
    (hok : (fileReceiverFinish sinkOps integrityOps m).1 = .ok) :
    m.receiver.receivedBytes = m.receiver.expectedBytes := by
  by_contra hne
  unfold fileReceiverFinish at hok
  split at hok
  · cases hok
  · cases hok

/-- A write counts its bytes if it succeeds, and none if it does not. -/
inductive WriteCount (before : FileReceiver) (data : Bytes)
    (outcome : FileReceiveResult × ReceiverState σ τ) : Prop
  | counted (hresult : outcome.1 = .ok)
    (hreceived : outcome.2.receiver.receivedBytes.toNat =
      before.receivedBytes.toNat + data.length)
    (hexpected : outcome.2.receiver.expectedBytes = before.expectedBytes)
  | refused (hresult : outcome.1 ≠ .ok) (hsame : SameCount before outcome.2.receiver)

/-- The bytes that fit below the announced size fit the counter. -/
private theorem toNat_add_chunk {received expected : UInt64} {data : Bytes}
    (hdata : data.length ≤ frameMaxPayload)
    (hfits : ¬(expected < received ∨ expected - received < UInt64.ofNat data.length)) :
    (received + UInt64.ofNat data.length).toNat = received.toNat + data.length := by
  have hsize : (UInt64.ofNat data.length).toNat = data.length :=
    toNat_ofNat_of_le_frameMaxPayload hdata
  rw [toNat_add_of_fits (fits_of_not_exceeds hfits), hsize]

theorem fileReceiverWrite_count (data : Bytes) :
    WriteCount m.receiver data (fileReceiverWrite sinkOps integrityOps m (.bytes data)) := by
  unfold fileReceiverWrite
  dsimp only
  split
  · exact .refused (fun heq => nomatch heq) ⟨rfl, rfl⟩
  split
  · exact .refused (fun heq => nomatch heq) ⟨rfl, rfl⟩
  split
  · exact .refused (fun heq => nomatch heq) ⟨rfl, rfl⟩
  split
  · exact .refused (fun heq => nomatch heq) ⟨rfl, rfl⟩
  rename_i hsize
  split
  · exact .refused (fun heq => nomatch heq) ⟨rfl, rfl⟩
  rename_i hfits
  split
  · exact .refused (fun heq => nomatch heq) (sameCount_fail (by exact ⟨rfl, rfl⟩) _)
  split
  · split
    · exact .refused (fun heq => nomatch heq) (sameCount_fail (by exact ⟨rfl, rfl⟩) _)
    · exact .counted rfl (toNat_add_chunk (Nat.not_lt.mp hsize) hfits) rfl
  · exact .counted rfl (toNat_add_chunk (Nat.not_lt.mp hsize) hfits) rfl

end Counter

section Handler

variable {platform : ReceivePlatform σ τ} {h : Win32ReceiveHandler σ τ}

theorem win32ReceiveBegin_ok_count {metadata : FileBegin} {name : Bytes}
    (hok : (win32ReceiveBegin platform h metadata name).1 = true) :
    (win32ReceiveBegin platform h metadata name).2.receiver.receivedBytes = 0 ∧
      (win32ReceiveBegin platform h metadata name).2.receiver.expectedBytes =
        metadata.fileSize := by
  unfold win32ReceiveBegin at hok ⊢
  dsimp only at hok ⊢
  split at hok
  · cases hok
  split at hok
  · cases hok
  split at hok
  · cases hok
  split at hok
  · cases hok
  split at hok
  · cases hok
  rename_i hinactive hid hsink hconfigured hbegun
  rw [if_neg hinactive, if_neg hid, if_neg hsink, if_neg hconfigured, if_neg hbegun]
  exact ⟨sameCount_begin.received, sameCount_begin.expected⟩

/-- A handler that has counted nothing has counted nothing when a file could not be begun. -/
theorem win32ReceiveBegin_error_count {metadata : FileBegin} {name : Bytes}
    (hzero : h.receiver.receivedBytes = 0) :
    (win32ReceiveBegin platform h metadata name).2.receiver.receivedBytes = 0 := by
  unfold win32ReceiveBegin
  dsimp only
  split
  · exact hzero
  split
  · exact hzero
  split
  · exact hzero
  split
  · rfl
  split <;> exact sameCount_begin.received

/-- What a chunk does to the counter behind the handler. -/
theorem win32ReceiveChunk_count (data : Bytes) :
    ((win32ReceiveChunk platform h data).1 = true →
        (win32ReceiveChunk platform h data).2.receiver.receivedBytes.toNat =
            h.receiver.receivedBytes.toNat + data.length ∧
          (win32ReceiveChunk platform h data).2.receiver.expectedBytes =
            h.receiver.expectedBytes) ∧
      ((win32ReceiveChunk platform h data).1 = false →
        SameCount h.receiver (win32ReceiveChunk platform h data).2.receiver) := by
  unfold win32ReceiveChunk
  split
  · exact ⟨(fun hok => nomatch hok), fun _ => ⟨rfl, rfl⟩⟩
  dsimp only
  have hcount : WriteCount h.receiver data (fileReceiverWrite platform.sinkOps platform.sha256Ops
      h.toReceiverState (.bytes data)) := fileReceiverWrite_count data
  cases hcount with
  | counted hresult hreceived hexpected =>
      exact ⟨fun _ => ⟨hreceived, hexpected⟩, fun herror => by simp [hresult] at herror⟩
  | refused hresult hsame =>
      exact ⟨(fun hok => absurd (beq_iff_eq.mp hok) hresult), fun _ => hsame⟩

theorem win32ReceiveFinish_count :
    SameCount h.receiver (win32ReceiveFinish platform h).2.receiver := by
  unfold win32ReceiveFinish
  split
  · exact ⟨rfl, rfl⟩
  · exact sameCount_finish

theorem receivedBytes_of_win32ReceiveFinish_ok
    (hok : (win32ReceiveFinish platform h).1 = true) :
    h.receiver.receivedBytes = h.receiver.expectedBytes := by
  unfold win32ReceiveFinish at hok
  split at hok
  · cases hok
  · exact receivedBytes_of_finish_ok (beq_iff_eq.mp hok)

theorem win32ReceiveAbort_count :
    SameCount h.receiver (win32ReceiveAbort platform h).receiver := by
  unfold win32ReceiveAbort
  split
  · exact ⟨rfl, rfl⟩
  · exact sameCount_abort

end Handler

/-! ## The discipline -/

/-- The size that a pass announces, if it accepts a file. -/
def LoopPass.announcedSize (pass : LoopPass) : Option UInt64 :=
  match pass.frame with
  | none => none
  | some (header, payload) =>
    if pass.accepted ∧ header.type = MessageType.fileBegin then
      (frameMetadata payload).map fun metadata => metadata.1.fileSize
    else none

/-- The size of the payload that a pass accepts, if that is the payload of a chunk. -/
def LoopPass.chunkSize (pass : LoopPass) : ℕ :=
  match pass.frame with
  | none => 0
  | some (header, payload) =>
    if pass.accepted ∧ header.type = MessageType.chunk then payload.size else 0

/-- The size of the file that was accepted. -/
def declaredSize (passes : List LoopPass) : Option UInt64 :=
  passes.findSome? LoopPass.announcedSize

/-- The total payload size of the chunks that were accepted. -/
def chunkTotal (passes : List LoopPass) : ℕ := (passes.map LoopPass.chunkSize).sum

theorem chunkTotal_concat (passes : List LoopPass) (pass : LoopPass) :
    chunkTotal (passes ++ [pass]) = chunkTotal passes + pass.chunkSize := by
  simp [chunkTotal]

theorem declaredSize_concat (passes : List LoopPass) (pass : LoopPass) :
    declaredSize (passes ++ [pass]) = (declaredSize passes).or pass.announcedSize := by
  rw [declaredSize, List.findSome?_append, declaredSize]
  cases hpass : pass.announcedSize with
  | none => simp [hpass]
  | some size => simp [hpass]

/-- What a pass sends between the passes before it and the passes after it. An accepted
frame is answered once, with success, its own type and the count of the bytes accepted so
far; a refused one at most once and never with success, and then nothing follows. -/
inductive PassDiscipline (before : List LoopPass) (pass : LoopPass) (after : List LoopPass) : Prop
  | nothing (hpass : pass = ⟨[.receive none], false⟩) (hlast : after = [])
  | accepted {header : FrameHeader} {payload : Buffer} {count : UInt64} {ok : Bool}
    (hpass : pass = ⟨[.receive (some (header, payload)),
      ackCall ⟨header.type, AckStatus.ok, count⟩ ok], true⟩)
    (hcount : count.toNat = chunkTotal (before ++ [pass]))
    (hbegin : header.type = MessageType.fileBegin → count = 0)
    (hend : header.type = MessageType.fileEnd → declaredSize before = some count)
    (hlast : ok = false ∨ header.type = MessageType.fileEnd → after = [])
  | answered {header : FrameHeader} {payload : Buffer} {status : AckStatus} {count : UInt64}
    {ok : Bool} (hpass : pass = ⟨[.receive (some (header, payload)),
      ackCall ⟨header.type, status, count⟩ ok], false⟩)
    (htype : loopShouldAck header.type = true) (hstatus : status ≠ AckStatus.ok)
    (hcount : count.toNat = chunkTotal before) (hlast : after = [])
  | unanswered {header : FrameHeader} {payload : Buffer}
    (hpass : pass = ⟨[.receive (some (header, payload))], false⟩) (hlast : after = [])

/-- Every pass of a run keeps the discipline between those before it and those after it. -/
def KeepsDiscipline (passes : List LoopPass) : Prop :=
  ∀ before pass after, passes = before ++ pass :: after → PassDiscipline before pass after

/-- `pd_runtime_progress`. -/
def runtimeProgress (handler : Win32ReceiveHandler σ τ) : UInt64 := handler.receiver.receivedBytes

/-- The functions that `pd_win32_receiver_run_session` runs the loop with. -/
def runtimeLoopOps (platform : ReceivePlatform σ τ) (io : ReceiverLoopIoOps ι) :
    ReceiverLoopOps (Win32ReceiveHandler σ τ) ι where
  io := io
  handler := win32ReceiveHandlerOps platform
  progress := some runtimeProgress

/-- A loop whose protocol is live and whose counter says what its passes have accepted. -/
structure Counting (before : List LoopPass)
    (loop : ReceiverLoop (Win32ReceiveHandler σ τ) (ι × List LinkCall)) : Prop where
  live : loop.protocol.state = .waitFile ∨ loop.protocol.state = .receiving
  counted : loop.protocol.context.receiver.receivedBytes.toNat = chunkTotal before
  waiting : loop.protocol.state = .waitFile →
    loop.protocol.context.receiver.receivedBytes = 0 ∧ declaredSize before = none
  receiving : loop.protocol.state = .receiving →
    declaredSize before = some loop.protocol.context.receiver.expectedBytes

section Session

variable (platform : ReceivePlatform σ τ) (io : ReceiverLoopIoOps ι)
  {before : List LoopPass} {loop : ReceiverLoop (Win32ReceiveHandler σ τ) (ι × List LinkCall)}

/-- A refused frame leaves the counter as it is. -/
theorem Counting.receivedBytes_refused (hcounting : Counting before loop) {header : FrameHeader}
    {payload : Buffer} (hrefused : (receiverProtocolHandle (win32ReceiveHandlerOps platform)
      loop.protocol (some header) payload).1 ≠ .ok) :
    (receiverProtocolHandle (win32ReceiveHandlerOps platform) loop.protocol (some header)
      payload).2.context.receiver.receivedBytes =
        loop.protocol.context.receiver.receivedBytes := by
  refine receiverProtocolHandle_refused (N := fun h => h.receiver.receivedBytes =
    loop.protocol.context.receiver.receivedBytes) ?_ ?_ ?_ ?_ hcounting.live rfl hrefused
  · intro h file name hstate hh _
    have hzero := (hcounting.waiting hstate).1
    rw [hzero] at hh ⊢
    exact win32ReceiveBegin_error_count hh
  · intro h data hh herror
    exact ((win32ReceiveChunk_count data).2 herror).received.trans hh
  · intro h hh _
    exact win32ReceiveFinish_count.received.trans hh
  · intro h hh
    exact win32ReceiveAbort_count.received.trans hh

/-- What an accepted frame comes to, over the receive handler. -/
structure AcceptedFrame (before : List LoopPass) (header : FrameHeader)
    (next : ReceiverProtocol (Win32ReceiveHandler σ τ)) (pass : LoopPass) : Prop where
  counted : next.context.receiver.receivedBytes.toNat = chunkTotal (before ++ [pass])
  begin : header.type = MessageType.fileBegin → next.context.receiver.receivedBytes = 0
  finish : header.type = MessageType.fileEnd →
    declaredSize before = some next.context.receiver.receivedBytes
  receiving : header.type ≠ MessageType.fileEnd → next.state = .receiving ∧
    declaredSize (before ++ [pass]) = some next.context.receiver.expectedBytes

/-- **Step lemma**, for a frame that the protocol accepts. -/
theorem Counting.accept (hcounting : Counting before loop) {header : FrameHeader}
    {payload : Buffer} {next : ReceiverProtocol (Win32ReceiveHandler σ τ)} {pass : LoopPass}
    (houtcome : HandleOutcome (win32ReceiveHandlerOps platform) loop.protocol header payload
      (.ok, next)) (hframe : pass.frame = some (header, payload))
    (haccepted : pass.accepted = true) :
    AcceptedFrame before header next pass := by
  have hchunk : pass.chunkSize = if header.type = MessageType.chunk then payload.size else 0 := by
    simp [LoopPass.chunkSize, hframe, haccepted]
  have hannounced : pass.announcedSize = if header.type = MessageType.fileBegin then
      (frameMetadata payload).map fun metadata => metadata.1.fileSize else none := by
    simp [LoopPass.announcedSize, hframe, haccepted]
  cases houtcome with
  | @began file name hstate htype hmetadata hbegun _ hcontext hnext =>
      obtain ⟨hzero, hundeclared⟩ := hcounting.waiting hstate
      obtain ⟨hreceived, hexpected⟩ := win32ReceiveBegin_ok_count hbegun
      have hcontext' : next.context =
          (win32ReceiveBegin platform loop.protocol.context file name).2 := hcontext
      have hsilent : chunkTotal before = 0 := by
        rw [← hcounting.counted, hzero]
        rfl
      refine ⟨?_, fun _ => by rw [hcontext', hreceived], ?_, fun _ => ⟨hnext, ?_⟩⟩
      · rw [hcontext', hreceived, chunkTotal_concat, hsilent, hchunk, htype,
          if_neg (by decide)]
        rfl
      · rw [htype]
        exact fun hend => absurd hend (by decide)
      · rw [declaredSize_concat, hundeclared, hannounced, if_pos htype, hmetadata, hcontext',
          hexpected]
        rfl
  | @wrote data hstate htype hpayload hwritten _ hcontext hnext =>
      obtain ⟨hreceived, hexpected⟩ := (win32ReceiveChunk_count data).1 hwritten
      have hcontext' : next.context =
          (win32ReceiveChunk platform loop.protocol.context data).2 := hcontext
      refine ⟨?_, ?_, ?_, fun _ => ⟨hnext, ?_⟩⟩
      · rw [hcontext', hreceived, chunkTotal_concat, hcounting.counted, hchunk, if_pos htype,
          hpayload]
        rfl
      · rw [htype]
        exact fun hbegin => absurd hbegin (by decide)
      · rw [htype]
        exact fun hend => absurd hend (by decide)
      · rw [declaredSize_concat, hcounting.receiving hstate, hcontext', hexpected]
        rfl
  | finished hstate htype hfinished _ hcontext _ =>
      have hcontext' : next.context = (win32ReceiveFinish platform loop.protocol.context).2 :=
        hcontext
      have hsame : SameCount loop.protocol.context.receiver next.context.receiver := by
        rw [hcontext']
        exact win32ReceiveFinish_count
      refine ⟨?_, ?_, fun _ => ?_, fun hnotEnd => absurd htype hnotEnd⟩
      · rw [hsame.received, hcounting.counted, chunkTotal_concat, hchunk, htype,
          if_neg (by decide)]
        rfl
      · rw [htype]
        exact fun hbegin => absurd hbegin (by decide)
      · rw [hsame.received, hcounting.receiving hstate,
          receivedBytes_of_win32ReceiveFinish_ok hfinished]
  | refused hresult => exact absurd rfl hresult

/-- **Step lemma.** A pass of a loop that counts keeps the discipline, and a pass that does
not end the loop leaves it counting. -/
theorem Counting.pass (hcounting : Counting before loop) :
    ((receiverLoopTurn (runtimeLoopOps platform io).recordedLink loop).1 = none →
      Counting (before ++ [loopPass (runtimeLoopOps platform io) loop])
        (receiverLoopTurn (runtimeLoopOps platform io).recordedLink loop).2) ∧
    ∀ after, ((receiverLoopTurn (runtimeLoopOps platform io).recordedLink loop).1 ≠ none →
        after = []) →
      PassDiscipline before (loopPass (runtimeLoopOps platform io) loop) after := by
  cases passSeen_receiverLoopTurn (runtimeLoopOps platform io) hcounting.live with
  | nothing hpass hresult =>
      rw [hresult]
      exact ⟨(fun hnone => nomatch hnone), fun after hended => .nothing hpass (hended (by simp))⟩
  | @accepted header payload next ok houtcome hpass hresult hprotocol =>
      have haccepted : AcceptedFrame before header next
          (loopPass (runtimeLoopOps platform io) loop) :=
        hcounting.accept platform houtcome (by rw [hpass]; rfl) (by rw [hpass])
      constructor
      · intro hnone
        have hnext := hprotocol hnone
        rw [hresult] at hnone
        have hnotEnd : header.type ≠ MessageType.fileEnd := by
          intro hend
          rw [if_pos hend] at hnone
          split at hnone <;> cases hnone
        obtain ⟨hreceiving, hdeclared⟩ := haccepted.receiving hnotEnd
        refine ⟨.inr (by rw [hnext, hreceiving]), by rw [hnext, haccepted.counted], ?_, ?_⟩
        · rw [hnext, hreceiving]
          exact fun hwaiting => nomatch hwaiting
        · rw [hnext, hdeclared]
          exact fun _ => rfl
      · intro after hended
        refine .accepted hpass haccepted.counted haccepted.begin haccepted.finish fun hlast => ?_
        refine hended ?_
        rw [hresult]
        rcases hlast with rfl | hend
        · simp
        · rw [if_pos hend]
          split <;> simp
  | @answered header payload result next ok hhandled hrefused htype hpass hresult =>
      rw [hresult]
      refine ⟨(fun hnone => nomatch hnone), fun after hended =>
        .answered hpass htype (loopErrorStatus_ne_ok result) ?_ (hended (by simp))⟩
      have hhandled' : receiverProtocolHandle (win32ReceiveHandlerOps platform) loop.protocol
          (some header) payload = (result, next) := hhandled
      have hsame := hcounting.receivedBytes_refused platform (by rw [hhandled']; exact hrefused)
      rw [hhandled'] at hsame
      have hprogress : progressOf (runtimeLoopOps platform io) next =
          loop.protocol.context.receiver.receivedBytes := hsame
      rw [hprogress, hcounting.counted]
  | unanswered hpass hresult =>
      rw [hresult]
      exact ⟨(fun hnone => nomatch hnone),
        fun after hended => .unanswered hpass (hended (by simp))⟩

/-- **Run lemma.** A loop that counts keeps the discipline over any further passes, and its
link is called by its passes only. -/
theorem Counting.run (count : ℕ) : ∀ {before : List LoopPass}
    {loop : ReceiverLoop (Win32ReceiveHandler σ τ) (ι × List LinkCall)}, Counting before loop →
    (∀ earlier pass after, loopPasses (runtimeLoopOps platform io) count loop =
        earlier ++ pass :: after → PassDiscipline (before ++ earlier) pass after) ∧
      (receiverLoopTurns (runtimeLoopOps platform io).recordedLink count loop).2.io.2 =
        loop.io.2 ++ (loopPasses (runtimeLoopOps platform io) count loop).flatMap
          LoopPass.calls := by
  induction count with
  | zero =>
      intro before loop _
      refine ⟨fun earlier pass after hsplit => ?_, by simp [receiverLoopTurns, loopPasses]⟩
      simp [loopPasses] at hsplit
  | succ count ih =>
      intro before loop hcounting
      obtain ⟨hcounts, hdiscipline⟩ := hcounting.pass platform io
      have hlog := linkLog_receiverLoopTurn (runtimeLoopOps platform io) hcounting.live
      unfold loopPasses receiverLoopTurns
      cases hturn : receiverLoopTurn (runtimeLoopOps platform io).recordedLink loop with
      | mk result next =>
      rw [hturn] at hcounts hdiscipline hlog
      cases result with
      | some result =>
          refine ⟨fun earlier pass after hsplit => ?_, by simpa using hlog⟩
          cases earlier with
          | nil =>
              obtain ⟨rfl, rfl⟩ := List.cons.inj hsplit
              simpa using hdiscipline [] fun _ => rfl
          | cons first earlier =>
              obtain ⟨-, hrest⟩ := List.cons.inj hsplit
              simp at hrest
      | none =>
          obtain ⟨hpasses, hcalls⟩ := ih (hcounts rfl)
          refine ⟨fun earlier pass after hsplit => ?_, ?_⟩
          · cases earlier with
            | nil =>
                obtain ⟨rfl, rfl⟩ := List.cons.inj hsplit
                simpa using hdiscipline _ fun hended => absurd rfl hended
            | cons first earlier =>
                obtain ⟨rfl, hrest⟩ := List.cons.inj hsplit
                simpa using hpasses earlier pass after hrest
          · have hnext : next.io.2 = loop.io.2 ++
                (loopPass (runtimeLoopOps platform io) loop).calls := hlog
            simp only [List.flatMap_cons]
            rw [hcalls, hnext, List.append_assoc]

end Session

/-- The loop of a session acknowledges every frame that the protocol accepts, once, with its
type and the count of the bytes accepted so far, and stops at the first frame that is refused
or cannot be answered: over every link, every sink, every hash and every random source. -/
theorem ackDiscipline (platform : ReceivePlatform σ τ) (io : ReceiverLoopIoOps ι)
    (rootDirectory : WideString) (sink : σ) (sha256 : τ) (entropy : List RandomDraw) (link : ι)
    (count : ℕ) :
    let ops := runtimeLoopOps platform io
    let start := receiverLoopStart ops.recordedLink
      (.fresh (Win32ReceiveHandler.fresh rootDirectory sink sha256 entropy) (link, []))
    (receiverLoopTurns ops.recordedLink count start).2.io.2 =
        (loopPasses ops count start).flatMap LoopPass.calls ∧
      KeepsDiscipline (loopPasses ops count start) := by
  intro ops start
  have hstart : Counting [] start :=
    ⟨.inl rfl, rfl, fun _ => ⟨rfl, rfl⟩, fun hstate => nomatch hstate⟩
  obtain ⟨hpasses, hcalls⟩ := hstart.run platform io count
  exact ⟨hcalls, hpasses⟩

end PrintDrop
