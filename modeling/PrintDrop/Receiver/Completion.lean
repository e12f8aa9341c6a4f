/-
# What a loop has done when it reports a complete file

The reports of a loop at any time of its run, and not only at its end: their counts never
decrease and keep within the size of the file, and a file that is reported complete has
been written, hashed and committed, as the log of the sink tells.
-/

import PrintDrop.Receiver.EventStream

namespace PrintDrop

universe u v w

section Handler

variable {κ : Type u} {ι : Type v}

/-- A pass that ends the loop well has finished the file that was being received. -/
theorem receiverLoopTurn_finished {loopOps : ReceiverLoopOps κ ι} {loop : ReceiverLoop κ ι}
    (hlive : loop.protocol.state = .waitFile ∨ loop.protocol.state = .receiving)
    (hok : (receiverLoopTurn loopOps loop).1 = some .ok) :
    loop.protocol.state = .receiving ∧
      (receiverLoopTurn loopOps loop).2.protocol.state = .complete := by
  cases receiverLoopTurn_pass loopOps hlive with
  | nothing _ hresult | answered _ _ _ _ _ hresult | unanswered _ _ _ hresult =>
      rw [hok] at hresult
      cases hresult
  | @accepted _ header payload next sent _ hhandled _ _ hresult hprotocol =>
      have houtcome := receiverProtocolHandle_outcome loopOps.handler header payload hlive
      rw [hhandled] at houtcome
      rw [hok] at hresult
      cases hsent : sent.1 with
      | false =>
          rw [hsent, if_neg Bool.false_ne_true] at hresult
          cases hresult
      | true =>
          rw [hsent, if_pos rfl] at hresult hprotocol
          have hend : header.type = MessageType.fileEnd := by
            by_contra hother
            rw [if_neg hother] at hresult
            cases hresult
          cases houtcome with
          | began _ htype =>
              rw [hend] at htype
              cases htype
          | wrote _ htype =>
              rw [hend] at htype
              cases htype
          | finished hstate _ _ _ _ hnext =>
              rw [hprotocol]
              exact ⟨hstate, hnext⟩
          | refused hresult => exact absurd rfl hresult

end Handler

variable {σ : Type u} {τ : Type v} {ι : Type w}

/-- The loop has committed a file of these many bytes, of which all have arrived: it has
written them in chunks, and their hash is the announced one. -/
def CommittedFile (digestOf : Bytes → Digest)
    (loop : ReceiverLoop (Win32ReceiveHandler (σ × List SinkCall) τ) (ι × List LinkCall))
    (report : ReceiverLoopReport) : Prop :=
  ∃ (file : FileBegin) (chunks : List Bytes),
    loop.protocol.context.sink.2 = writtenLog file.fileSize chunks ++ [.commit .ok] ∧
    digestOf chunks.flatten = file.sha256 ∧ chunks.flatten.length = file.fileSize.toNat ∧
    report.receivedBytes = file.fileSize ∧ report.totalBytes = file.fileSize

/-- What the reports of a loop are like, at any time of its run. -/
structure SoundReports (digestOf : Bytes → Digest)
    (loop : ReceiverLoop (Win32ReceiveHandler (σ × List SinkCall) τ) (ι × List LinkCall)) :
    Prop where
  rising : loop.reports.Pairwise fun earlier later => earlier.receivedBytes ≤ later.receivedBytes
  within : ∀ report ∈ loop.reports, report.receivedBytes ≤ report.totalBytes
  committed : ∀ report ∈ loop.reports, report.event = .complete → CommittedFile digestOf loop report

/-- The phases of a handler over a recorded sink, with what its hash has been fed. -/
abbrev RecordedAt (ops : IntegrityOps τ) :
    HandlerPhase → Win32ReceiveHandler (σ × List SinkCall) τ → Prop :=
  HandlerAt (fun phase (sink : σ × List SinkCall) => True ∧ SinkLog phase sink.2) ops.FedAt True

/-- A loop that is still running. -/
structure Going (platform : ReceivePlatform σ τ)
    (loop : ReceiverLoop (Win32ReceiveHandler (σ × List SinkCall) τ) (ι × List LinkCall)) :
    Prop where
  ready : loop.reports.head? = some ⟨.ready, 0, 0⟩
  streaming : ∃ before, Streaming before loop
  handler : ∃ chunks, HandlerInv (RecordedAt platform.sha256Ops) chunks loop.protocol

variable {platform : ReceivePlatform σ τ} {io : ReceiverLoopIoOps ι} {digestOf : Bytes → Digest}
  {loop : ReceiverLoop (Win32ReceiveHandler (σ × List SinkCall) τ) (ι × List LinkCall)}

theorem recorded_implements (platform : ReceivePlatform σ τ) :
    (win32ReceiveHandlerOps platform.recorded).Implements (RecordedAt platform.sha256Ops)
      fun _ => True := by
  have hplatform : platform.Implements (fun _ _ => True) platform.sha256Ops.FedAt :=
    ⟨FileSinkOps.implements_trivial _, IntegrityOps.implements_fedAt _, fun _ => trivial,
      fun _ => trivial⟩
  exact win32ReceiveHandlerOps_implements_leaking hplatform.recorded

/-- A session that has just started. -/
theorem going_start (platform : ReceivePlatform σ τ) (io : ReceiverLoopIoOps ι)
    (root : WideString) (sink : σ) (sha256 : τ) (entropy : List RandomDraw) (link : ι) :
    Going platform (receiverLoopStart (runtimeLoopOps platform.recorded io).recordedLink
      (.fresh (Win32ReceiveHandler.fresh root (sink, []) sha256 entropy) (link, []))) where
  ready := rfl
  streaming := ⟨[], streaming_start platform.recorded io root (sink, []) sha256 entropy link⟩
  handler := ⟨[], handlerInv_fresh root ⟨trivial, rfl⟩ trivial entropy⟩

/-- Every report of a file but the first is behind its start. -/
private theorem head_or_mem_fromStart {total : UInt64} {reports : List ReceiverLoopReport}
    (hreports : FileReports total reports) {report : ReceiverLoopReport}
    (hreport : report ∈ reports) :
    reports.head? = some report ∨ report ∈ fromStart reports := by
  obtain ⟨chunks, hevents⟩ := hreports.events
  cases reports with
  | nil => cases hreport
  | cons first rest =>
      obtain ⟨hfirst, hrest⟩ := List.cons.inj hevents
      rcases List.mem_cons.mp hreport with rfl | hmem
      · exact .inl rfl
      apply Or.inr
      cases rest with
      | nil => cases hmem
      | cons second rest =>
          have hsecond : second.event = .fileStarted := (List.cons.inj hrest).1
          have hstart : fromStart (first :: second :: rest) = second :: rest := by
            simp [fromStart, hfirst, hsecond]
          rw [hstart]
          exact hmem

/-- The counts that a running loop has reported. -/
theorem Going.soundReports (hgoing : Going platform loop) : SoundReports digestOf loop := by
  obtain ⟨before, hstreaming⟩ := hgoing.streaming
  rcases hstreaming.counting.live with hstate | hstate
  · -- Nothing but that the loop is ready.
    have hreports := hstreaming.waiting hstate
    refine ⟨hstreaming.rising.pairwise, fun report hreport => ?_,
      fun report hreport hcomplete => ?_⟩
    · rw [hreports, List.mem_singleton] at hreport
      rw [hreport]
      exact UInt64.le_refl _
    · rw [hreports, List.mem_singleton] at hreport
      rw [hreport] at hcomplete
      cases hcomplete
  · obtain ⟨-, hwithin, hreports⟩ := hstreaming.receiving hstate
    refine ⟨hstreaming.rising.pairwise, fun report hreport => ?_,
      fun report hreport hcomplete => absurd hcomplete (hreports.ne_complete report hreport)⟩
    rcases head_or_mem_fromStart hreports hreport with hhead | hmem
    · obtain rfl := Option.some.inj (hgoing.ready.symm.trans hhead)
      exact UInt64.le_refl _
    · rw [hreports.total report hmem]
      exact UInt64.le_trans (hstreaming.rising.reached report hreport) hwithin

variable (io) in
/-- A pass adds to what has been reported. -/
theorem Going.reports_append (hgoing : Going platform loop) :
    ∃ more, (receiverLoopTurn (runtimeLoopOps platform.recorded io).recordedLink loop).2.reports =
      loop.reports ++ more := by
  obtain ⟨before, hstreaming⟩ := hgoing.streaming
  rw [receiverLoopTurn_reports _ hstreaming.counting.live, List.append_assoc]
  exact ⟨_, rfl⟩

/-- A pass over a protocol that waits for a file leaves nothing received. -/
private theorem receivedBytes_turn {before : List LoopPass} (hcounting : Counting before loop)
    (hstate : loop.protocol.state = .waitFile) :
    (receiverLoopTurn (runtimeLoopOps platform.recorded io).recordedLink
      loop).2.protocol.context.receiver.receivedBytes = 0 := by
  have hzero := (hcounting.waiting hstate).1
  have hrefused : ∀ {header : FrameHeader} {payload : Buffer} {result : ReceiverProtocolResult}
      {next : ReceiverProtocol (Win32ReceiveHandler (σ × List SinkCall) τ)},
      receiverProtocolHandle (win32ReceiveHandlerOps platform.recorded) loop.protocol
        (some header) payload = (result, next) → result ≠ .ok →
          next.context.receiver.receivedBytes = 0 := by
    intro header payload result next hhandled hnotOk
    have hnotOk' : (receiverProtocolHandle (win32ReceiveHandlerOps platform.recorded)
        loop.protocol (some header) payload).1 ≠ .ok := by rwa [hhandled]
    have hsame := hcounting.receivedBytes_refused platform.recorded hnotOk'
    rw [hhandled] at hsame
    rw [hsame, hzero]
  cases receiverLoopTurn_pass (runtimeLoopOps platform.recorded io).recordedLink hcounting.live with
  | nothing _ _ hprotocol =>
      rw [hprotocol]
      exact (sameCount_receiverProtocolAbort _).received.trans hzero
  | @accepted _ header payload next sent _ hhandled _ _ _ hprotocol =>
      have hnext : next.context.receiver.receivedBytes = 0 := by
        cases streamStep_of_accepted hcounting.live hhandled with
        | began _ _ _ hreceived => exact hreceived
        | wrote hother | finished hother =>
            rw [hstate] at hother
            cases hother
      rw [hprotocol]
      split
      · exact hnext
      · exact (sameCount_receiverProtocolAbort _).received.trans hnext
  | answered _ hhandled hnotOk _ _ _ hprotocol =>
      rw [hprotocol]
      exact (sameCount_receiverProtocolAbort _).received.trans (hrefused hhandled hnotOk)
  | unanswered _ hhandled hnotOk _ hprotocol =>
      rw [hprotocol]
      exact (sameCount_receiverProtocolAbort _).received.trans (hrefused hhandled hnotOk)

/-- A handler that has finished over a recorded sink has committed the file. -/
private theorem committedFile_of_finished
    (hcomputes : platform.sha256Ops.Computes digestOf) {chunks : List Bytes}
    {next : ReceiverLoop (Win32ReceiveHandler (σ × List SinkCall) τ) (ι × List LinkCall)}
    (hinv : HandlerInv (RecordedAt platform.sha256Ops) chunks next.protocol)
    (hcomplete : next.protocol.state = .complete) :
    CommittedFile digestOf next
      (reportOf (runtimeLoopOps platform.recorded io).recordedLink .complete next.protocol) := by
  obtain ⟨-, hrep⟩ := hinv.complete_context hcomplete
  obtain ⟨⟨-, written, hwritten, hlog⟩, hlength⟩ := hrep.sink
  obtain ⟨running, hfed, hfinish⟩ := hrep.hash _ rfl
  have hdigest := hcomputes hfed (by rw [hfinish])
  rw [hfinish, ← hwritten] at hdigest
  have hreceived : next.protocol.context.receiver.receivedBytes =
      next.protocol.currentFile.fileSize :=
    UInt64.toNat_inj.mp (hrep.received.trans hlength)
  rw [← hwritten] at hlength
  exact ⟨next.protocol.currentFile, written, hlog, hdigest.symm, hlength, hreceived,
    reportOf_totalBytes _ _ (by rw [hcomplete]; decide)⟩

/-- The counts of a pass that ends the loop. -/
private theorem within_turn (hgoing : Going platform loop) {result : ReceiverLoopResult}
    (hended : (receiverLoopTurn (runtimeLoopOps platform.recorded io).recordedLink loop).1 =
      some result) :
    ∀ report ∈
      (receiverLoopTurn (runtimeLoopOps platform.recorded io).recordedLink loop).2.reports,
        report.receivedBytes ≤ report.totalBytes := by
  obtain ⟨before, hstreaming⟩ := hgoing.streaming
  have hlive := hstreaming.counting.live
  have hreports := receiverLoopTurn_reports
    (runtimeLoopOps platform.recorded io).recordedLink hlive
  intro report hreport
  rcases hlive with hstate | hstate
  · -- Nothing has been received, whatever is reported.
    have hzero : report.receivedBytes = 0 := by
      rw [hreports, hstreaming.waiting hstate, List.mem_append, List.mem_append,
        List.mem_singleton, List.mem_singleton] at hreport
      rcases hreport with (rfl | hreport) | rfl
      · rfl
      · unfold verifyingReports at hreport
        split at hreport
        · cases hreport
        split at hreport
        · rw [List.mem_singleton.mp hreport]
          exact (hstreaming.counting.waiting hstate).1
        · cases hreport
      · exact receivedBytes_turn hstreaming.counting hstate
    rw [hzero]
    exact UInt64.zero_le
  · have hstarted := (hstreaming.receiving hstate).2.2
    obtain ⟨-, hstream⟩ := hstreaming.pass platform.recorded io
    have hsized := (hstream result hended).sized
    rw [hreports, List.append_assoc] at hreport hsized
    rw [fromStart_append hstarted.started] at hsized
    rcases List.mem_append.mp hreport with hreport | hreport
    · have hsound : SoundReports (fun _ => Vector.replicate 32 0) loop := hgoing.soundReports
      exact hsound.within report hreport
    · exact (hsized report (List.mem_append_right _ hreport)).2.1

/-- Only a pass that has finished a file reports one complete. -/
private theorem complete_turn (hgoing : Going platform loop) {result : ReceiverLoopResult}
    (hended : (receiverLoopTurn (runtimeLoopOps platform.recorded io).recordedLink loop).1 =
      some result) {report : ReceiverLoopReport}
    (hreport : report ∈
      (receiverLoopTurn (runtimeLoopOps platform.recorded io).recordedLink loop).2.reports)
    (hcomplete : report.event = .complete) :
    result = .ok ∧
      report = reportOf (runtimeLoopOps platform.recorded io).recordedLink .complete
        (receiverLoopTurn (runtimeLoopOps platform.recorded io).recordedLink loop).2.protocol := by
  obtain ⟨before, hstreaming⟩ := hgoing.streaming
  rw [receiverLoopTurn_reports _ hstreaming.counting.live, hended, List.mem_append,
    List.mem_append, List.mem_singleton] at hreport
  rcases hreport with (hreport | hreport) | rfl
  · -- A running loop has reported none.
    obtain ⟨file, hevents, -⟩ := hstreaming.events
    have hmem : report.event ∈ loop.reports.map ReceiverLoopReport.event :=
      List.mem_map.mpr ⟨report, hreport, rfl⟩
    rw [hevents, hcomplete] at hmem
    cases file <;> simp [fileEvents] at hmem
  · unfold verifyingReports at hreport
    split at hreport
    · cases hreport
    split at hreport
    · rw [List.mem_singleton.mp hreport] at hcomplete
      cases hcomplete
    · cases hreport
  · cases result with
    | ok => exact ⟨rfl, rfl⟩
    | receiveError | protocolError | sendError => cases hcomplete

variable (io)

/-- What a pass makes of the handler. -/
private theorem handler_turn (hgoing : Going platform loop) :
    ∃ chunks, HandlerInv (RecordedAt platform.sha256Ops) chunks
      (receiverLoopTurn (runtimeLoopOps platform.recorded io).recordedLink loop).2.protocol := by
  obtain ⟨before, hstreaming⟩ := hgoing.streaming
  obtain ⟨chunks, hhandler⟩ := hgoing.handler
  have hops : (runtimeLoopOps platform.recorded io).recordedLink.handler.Implements
      (RecordedAt platform.sha256Ops) fun _ => True := recorded_implements platform
  exact hhandler.turn hops hstreaming.counting.live

/-- **Step lemma.** A pass after which the loop is still running. -/
theorem Going.goesOn (hgoing : Going platform loop)
    (hnone : (receiverLoopTurn (runtimeLoopOps platform.recorded io).recordedLink loop).1 = none) :
    Going platform
      (receiverLoopTurn (runtimeLoopOps platform.recorded io).recordedLink loop).2 := by
  obtain ⟨more, hmore⟩ := hgoing.reports_append io
  obtain ⟨before, hstreaming⟩ := hgoing.streaming
  refine ⟨?_, ⟨_, (hstreaming.pass platform.recorded io).1 hnone⟩, handler_turn io hgoing⟩
  rw [hmore, List.head?_append, hgoing.ready, Option.some_or]

/-- **Step lemma.** The pass that ends the loop. -/
theorem Going.ends (hgoing : Going platform loop)
    (hcomputes : platform.sha256Ops.Computes digestOf) {result : ReceiverLoopResult}
    (hended : (receiverLoopTurn (runtimeLoopOps platform.recorded io).recordedLink loop).1 =
      some result) :
    SoundReports digestOf
      (receiverLoopTurn (runtimeLoopOps platform.recorded io).recordedLink loop).2 := by
  obtain ⟨before, hstreaming⟩ := hgoing.streaming
  obtain ⟨chunks, hhandler⟩ := handler_turn io hgoing
  refine ⟨((hstreaming.pass platform.recorded io).2 result hended).rising,
    within_turn hgoing hended, fun report hreport hcomplete => ?_⟩
  obtain ⟨rfl, rfl⟩ := complete_turn hgoing hended hreport hcomplete
  obtain ⟨-, hnext⟩ := receiverLoopTurn_finished hstreaming.counting.live hended
  exact committedFile_of_finished hcomputes hhandler hnext

end PrintDrop
