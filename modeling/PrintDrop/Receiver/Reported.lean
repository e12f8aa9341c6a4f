/-
# What the receiver loop reports

The last event of a run and the result of the loop tell the operator whether a file was
received. Whether one was is decided earlier, when the handler finishes it: the answer to
the last frame may still be lost.
-/

import PrintDrop.Receiver.LoopRun

namespace PrintDrop

universe u v

variable {κ : Type u} {ι : Type v}

/-- The functions of a loop, with a log of the calls of the handler and of the link. -/
def ReceiverLoopOps.recorded (ops : ReceiverLoopOps κ ι) :
    ReceiverLoopOps (κ × List HandlerCall) (ι × List LinkCall) where
  io := ops.io.recorded
  handler := ops.handler.recorded
  progress := ops.progress.map fun progress context => progress context.1

/-- A loop over recorded functions. -/
abbrev RecordedLoop (κ : Type u) (ι : Type v) :=
  ReceiverLoop (κ × List HandlerCall) (ι × List LinkCall)

/-- The run of a loop from its start, for a number of passes at most. -/
def recordedRun (ops : ReceiverLoopOps κ ι) (context : κ) (io : ι) (count : ℕ) :
    Option ReceiverLoopResult × RecordedLoop κ ι :=
  receiverLoopTurns ops.recorded count
    (receiverLoopStart ops.recorded (.fresh (context, []) (io, [])))

/-- `finish_file` has returned true. -/
def FileCommitted (loop : RecordedLoop κ ι) : Prop :=
  ∃ call ∈ loop.protocol.context.2, call.isFinished = true

/-- A call of `send_frame` has returned false. -/
def SendFailed (loop : RecordedLoop κ ι) : Prop :=
  ∃ header payload, LinkCall.send header payload false ∈ loop.io.2

/-- The outcome that a run reports is that of the file. A run that has not ended has
committed none. -/
def ReportsTruly : Option ReceiverLoopResult × RecordedLoop κ ι → Prop
  | (none, loop) => ¬FileCommitted loop
  | (some result, loop) =>
    (result = .ok ∧ lastEvent loop = some .complete ↔ FileCommitted loop) ∧
      (¬(result = .ok ∧ lastEvent loop = some .complete) →
        lastEvent loop = some .failed ∧ ¬FileCommitted loop)

/-- A protocol in step with the log of its handler. -/
def InStep (loop : RecordedLoop κ ι) : Prop :=
  ∃ chunks, HandlerInv (fun phase context => LogOf phase context.2) chunks loop.protocol

/-- A file has been committed exactly when the protocol is complete. -/
theorem fileCommitted_iff {loop : RecordedLoop κ ι} (hstep : InStep loop) :
    FileCommitted loop ↔ loop.protocol.state = .complete := by
  obtain ⟨chunks, hinv⟩ := hstep
  have hcount : FileCommitted loop ↔ 0 < loop.protocol.context.2.countP HandlerCall.isFinished :=
    List.countP_pos_iff.symm
  rw [hcount]
  cases hinv with
  | waiting hstate _ hlog => simp [hlog.finishes, HandlerPhase.finishes, hstate]
  | receiving hstate _ hlog => simp [hlog.finishes, HandlerPhase.finishes, hstate]
  | complete hstate _ hlog => simp [hlog.finishes, HandlerPhase.finishes, hstate]
  | rejected hstate _ hlog =>
      rcases hlog with hlog | hlog <;> simp [hlog.finishes, HandlerPhase.finishes, hstate]
  | aborted hstate _ hlog => simp [hlog.finishes, HandlerPhase.finishes, hstate]

variable (ops : ReceiverLoopOps κ ι)

/-- A pass calls the protocol once or twice, so it keeps it in step with its handler. -/
theorem HandlerInv.turn {H : HandlerPhase → κ → Prop} {chunks : List Bytes}
    {loopOps : ReceiverLoopOps κ ι} (hops : loopOps.handler.Implements H fun _ => True)
    {loop : ReceiverLoop κ ι} (hinv : HandlerInv H chunks loop.protocol)
    (hlive : loop.protocol.state = .waitFile ∨ loop.protocol.state = .receiving) :
    ∃ chunks', HandlerInv H chunks' (receiverLoopTurn loopOps loop).2.protocol := by
  have hrun : ∀ calls, (receiverLoopTurn loopOps loop).2.protocol =
      runCalls loopOps.handler loop.protocol calls →
        ∃ chunks', HandlerInv H chunks' (receiverLoopTurn loopOps loop).2.protocol := by
    intro calls hcalls
    rw [hcalls]
    exact ⟨_, hinv.run hops calls⟩
  have hhandle : ∀ {header : FrameHeader} {payload : Buffer} {result : ReceiverProtocolResult}
      {next : ReceiverProtocol κ},
      receiverProtocolHandle loopOps.handler loop.protocol (some header) payload =
        (result, next) →
      next = runCalls loopOps.handler loop.protocol [.handle (some header) payload] :=
    fun hhandled => (congrArg Prod.snd hhandled).symm
  cases receiverLoopTurn_pass loopOps hlive with
  | nothing _ _ hprotocol => exact hrun [.abort] hprotocol
  | @accepted _ header payload next sent _ hhandled _ _ _ hprotocol =>
      rw [hhandle hhandled] at hprotocol
      cases hsent : sent.1 with
      | true =>
          rw [hsent, if_pos rfl] at hprotocol
          exact hrun [.handle (some header) payload] hprotocol
      | false =>
          rw [hsent, if_neg Bool.false_ne_true] at hprotocol
          exact hrun [.handle (some header) payload, .abort] hprotocol
  | @answered _ header payload _ _ _ _ hhandled _ _ _ _ hprotocol =>
      rw [hhandle hhandled] at hprotocol
      exact hrun [.handle (some header) payload, .abort] hprotocol
  | @unanswered _ header payload _ _ _ hhandled _ _ hprotocol =>
      rw [hhandle hhandled] at hprotocol
      exact hrun [.handle (some header) payload, .abort] hprotocol

theorem inStep_receiverLoopTurn {loop : RecordedLoop κ ι} (hstep : InStep loop)
    (hlive : loop.protocol.state = .waitFile ∨ loop.protocol.state = .receiving) :
    InStep (receiverLoopTurn ops.recorded loop).2 := by
  obtain ⟨chunks, hinv⟩ := hstep
  exact hinv.turn ops.handler.recorded_implements hlive

/-- A loop that goes on: its protocol is live, and every frame it sent arrived. -/
structure GoesOn (loop : RecordedLoop κ ι) : Prop where
  inStep : InStep loop
  live : loop.protocol.state = .waitFile ∨ loop.protocol.state = .receiving
  sent : ¬SendFailed loop

/-- How one pass may leave a loop that went on until then. -/
inductive PassReported (outcome : Option ReceiverLoopResult × RecordedLoop κ ι) : Prop
  | goesOn (hresult : outcome.1 = none) (hnext : GoesOn outcome.2)
  | committed (hresult : outcome.1 = some .ok) (hstate : outcome.2.protocol.state = .complete)
    (hsent : ¬SendFailed outcome.2)
  | failed {result : ReceiverLoopResult} (hresult : outcome.1 = some result)
    (hfailed : result ≠ .ok)
    (hstate : outcome.2.protocol.state = .complete → SendFailed outcome.2)

/-- A log gets a failed call only by one. -/
private theorem sendFailed_concat {log : List LinkCall} {calls : List LinkCall}
    (hlog : ¬∃ header payload, LinkCall.send header payload false ∈ log)
    (hcalls : ∀ header payload, LinkCall.send header payload false ∉ calls) :
    ¬∃ header payload, LinkCall.send header payload false ∈ log ++ calls := by
  rintro ⟨header, payload, hmem⟩
  rcases List.mem_append.mp hmem with hmem | hmem
  · exact hlog ⟨header, payload, hmem⟩
  · exact hcalls header payload hmem

/-- **Step lemma.** -/
theorem passReported_receiverLoopTurn {loop : RecordedLoop κ ι} (hloop : GoesOn loop) :
    PassReported (receiverLoopTurn ops.recorded loop) := by
  have hinStep := inStep_receiverLoopTurn ops hloop.inStep hloop.live
  cases receiverLoopTurn_pass ops.recorded hloop.live with
  | nothing _ hresult hprotocol =>
      refine .failed hresult (by decide) fun hcomplete => ?_
      rw [hprotocol, receiverProtocolAbort_state] at hcomplete
      · cases hcomplete
      · rcases hloop.live with hstate | hstate <;> simp [hstate]
  | @accepted io header payload next sent hreceived hhandled htype hsent hresult hprotocol hio =>
      have houtcome := receiverProtocolHandle_outcome ops.recorded.handler header payload
        hloop.live
      rw [hhandled] at houtcome
      have hnext : next.state =
          if header.type = MessageType.fileEnd then .complete else .receiving :=
        houtcome.accepted_state rfl
      have hlog := ReceiverLoopIoOps.recorded_answer hreceived hsent
      cases hok : sent.1 with
      | true =>
          rw [hok, if_pos rfl] at hresult hprotocol
          have hnotFailed : ¬SendFailed (receiverLoopTurn ops.recorded loop).2 := by
            unfold SendFailed
            rw [hio, hlog]
            refine sendFailed_concat hloop.sent fun _ _ hmem => ?_
            simp [hok] at hmem
          by_cases hend : header.type = MessageType.fileEnd
          · rw [if_pos hend] at hresult hnext
            exact .committed hresult (by rw [hprotocol, hnext]) hnotFailed
          · rw [if_neg hend] at hresult hnext
            exact .goesOn hresult ⟨hinStep, .inr (by rw [hprotocol, hnext]), hnotFailed⟩
      | false =>
          rw [hok, if_neg Bool.false_ne_true] at hresult
          refine .failed hresult (by decide) fun _ => ?_
          refine ⟨(answerFrame ops.recorded header AckStatus.ok next io).1,
            (answerFrame ops.recorded header AckStatus.ok next io).2, ?_⟩
          rw [hio, hlog]
          exact List.mem_append_right _ (by simp [hok])
  | @answered _ header payload result next _ hreceived hhandled hrefused _ _ hresult hprotocol =>
      have houtcome := receiverProtocolHandle_outcome ops.recorded.handler header payload
        hloop.live
      rw [hhandled] at houtcome
      refine .failed hresult (by decide) fun hcomplete => ?_
      rw [hprotocol, receiverProtocolAbort_state (houtcome.refused_state hloop.live hrefused)]
        at hcomplete
      cases hcomplete
  | @unanswered _ header payload result next hreceived hhandled hrefused hresult hprotocol =>
      have houtcome := receiverProtocolHandle_outcome ops.recorded.handler header payload
        hloop.live
      rw [hhandled] at houtcome
      refine .failed hresult (by decide) fun hcomplete => ?_
      rw [hprotocol, receiverProtocolAbort_state (houtcome.refused_state hloop.live hrefused)]
        at hcomplete
      cases hcomplete

/-- **Run lemma.** A run reports truly unless it has committed a file and failed to send. -/
theorem reportsTruly_of_goesOn (count : ℕ) : ∀ {loop : RecordedLoop κ ι}, GoesOn loop →
    (ReportsTruly (receiverLoopTurns ops.recorded count loop) ↔
      ¬(FileCommitted (receiverLoopTurns ops.recorded count loop).2 ∧
        SendFailed (receiverLoopTurns ops.recorded count loop).2)) := by
  induction count with
  | zero =>
      intro loop hloop
      have hnot : ¬FileCommitted loop := by
        rw [fileCommitted_iff hloop.inStep]
        rcases hloop.live with hstate | hstate <;> simp [hstate]
      exact iff_of_true hnot fun hboth => hnot hboth.1
  | succ count ih =>
      intro loop hloop
      have hreported := endReported_receiverLoopTurn ops.recorded loop
      have hinStep := inStep_receiverLoopTurn ops hloop.inStep hloop.live
      have hpass := passReported_receiverLoopTurn ops hloop
      unfold receiverLoopTurns
      cases hturn : receiverLoopTurn ops.recorded loop with
      | mk result next =>
      rw [hturn] at hreported hinStep hpass
      cases hpass with
      | goesOn hresult hnext =>
          obtain rfl : result = none := hresult
          exact ih hnext
      | committed hresult hstate hsent =>
          obtain rfl : result = some .ok := hresult
          have hlast : lastEvent next = some .complete := hreported _ rfl
          have hcommitted : FileCommitted next := (fileCommitted_iff hinStep).mpr hstate
          refine iff_of_true ⟨iff_of_true ⟨rfl, hlast⟩ hcommitted, fun hnot => ?_⟩
            fun hboth => hsent hboth.2
          exact absurd ⟨rfl, hlast⟩ hnot
      | @failed failure hresult hfailed hstate =>
          obtain rfl : result = some failure := hresult
          have hlast : lastEvent next = some .failed := by
            have hlast := hreported _ rfl
            rwa [if_neg hfailed] at hlast
          have hsent : FileCommitted next → SendFailed next := fun hcommitted =>
            hstate ((fileCommitted_iff hinStep).mp hcommitted)
          constructor
          · rintro ⟨hiff, -⟩ ⟨hcommitted, -⟩
            exact hfailed (hiff.mpr hcommitted).1
          · intro hnot
            have hnotCommitted : ¬FileCommitted next := fun hcommitted =>
              hnot ⟨hcommitted, hsent hcommitted⟩
            exact ⟨iff_of_false (fun hok => hfailed hok.1) hnotCommitted,
              fun _ => ⟨hlast, hnotCommitted⟩⟩

/-- A loop that has started goes on. -/
theorem goesOn_start (context : κ) (io : ι) :
    GoesOn (receiverLoopStart ops.recorded (.fresh (context, []) (io, []))) where
  inStep := ⟨[], .waiting rfl rfl ⟨rfl, rfl, rfl, rfl, .nil⟩⟩
  live := .inl rfl
  sent := by
    rintro ⟨header, payload, hmem⟩
    exact List.not_mem_nil hmem

/-- The outcome that the loop reports is that of the file, over every link and every
handler, exactly in the runs in which no frame fails to be sent once a file is committed. -/
theorem reportsTruly_iff (context : κ) (io : ι) (count : ℕ) :
    ReportsTruly (recordedRun ops context io count) ↔
      ¬(FileCommitted (recordedRun ops context io count).2 ∧
        SendFailed (recordedRun ops context io count).2) :=
  reportsTruly_of_goesOn ops count (goesOn_start ops context io)

/-- A link that delivers given frames and sends what it is told it can send. -/
def scriptedLink : ReceiverLoopIoOps (List (FrameHeader × Buffer) × List Bool) where
  receiveFrame io := (io.1.head?, io.1.tail, io.2)
  sendFrame io _ _ := (io.2.headD false, io.1, io.2.tail)

/-- A loop over such a link and a handler to which everything succeeds. -/
def scriptedLoop : ReceiverLoopOps Unit (List (FrameHeader × Buffer) × List Bool) where
  io := scriptedLink
  handler := {
    beginFile := fun _ _ _ => (true, ())
    writeChunk := fun _ _ => (true, ())
    finishFile := fun _ => (true, ())
    abortFile := fun _ => () }
  progress := some fun _ => 0

/-- The frames of an empty file. -/
def emptyFileFrames : List (FrameHeader × Buffer) :=
  let payload := fileBeginPayload 0 (List.replicate 32 0) (ascii ['a'])
  [(plainHeader MessageType.fileBegin payload, .bytes payload),
    (plainHeader MessageType.fileEnd [], .null 0)]

/-- The file is committed, the answer to its last frame is lost, and the loop reports that
it failed. -/
theorem lostAnswer_not_reportsTruly :
    (recordedRun scriptedLoop () (emptyFileFrames, [true, false]) 2).1 = some .sendError ∧
      lastEvent (recordedRun scriptedLoop () (emptyFileFrames, [true, false]) 2).2 =
        some .failed ∧
      ¬ReportsTruly (recordedRun scriptedLoop () (emptyFileFrames, [true, false]) 2) := by
  refine ⟨by decide, by decide, fun htruly => ?_⟩
  refine (reportsTruly_of_goesOn scriptedLoop 2 (goesOn_start scriptedLoop () _)).mp htruly
    ⟨⟨.finish true, by decide, rfl⟩, ?_⟩
  exact ⟨_, _, List.getLast_mem (by decide)⟩

end PrintDrop
