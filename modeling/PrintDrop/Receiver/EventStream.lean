/-
# The event stream of the receiver loop

What the loop reports from its start to its end, when the protocol runs over the receive
handler: which events there are and in which order, and the byte counts they carry. An
event is reported before or after the protocol has handled a frame, so its counts are read
in the state of that moment.
-/

import PrintDrop.Receiver.AckDiscipline
import PrintDrop.Receiver.Calls
import PrintDrop.Receiver.Reported

namespace PrintDrop

universe u v w

section Reports

variable {κ : Type u} {ι : Type v} (ops : ReceiverLoopOps κ ι)

/-- What is reported with an event while the protocol is in a given state. -/
def reportOf (event : ReceiverLoopEvent) (protocol : ReceiverProtocol κ) : ReceiverLoopReport where
  event := event
  receivedBytes := progressOf ops protocol
  totalBytes := if protocol.state = .waitFile then 0 else protocol.currentFile.fileSize

@[simp]
theorem reportOf_event (event : ReceiverLoopEvent) (protocol : ReceiverProtocol κ) :
    (reportOf ops event protocol).event = event := rfl

theorem reportOf_totalBytes (event : ReceiverLoopEvent) {protocol : ReceiverProtocol κ}
    (hstate : protocol.state ≠ .waitFile) :
    (reportOf ops event protocol).totalBytes = protocol.currentFile.fileSize := if_neg hstate

theorem loopEmit_reports (loop : ReceiverLoop κ ι) (event : ReceiverLoopEvent) :
    (loopEmit ops loop event).reports = loop.reports ++ [reportOf ops event loop.protocol] := rfl

/-- What is reported of a received frame before it is handled. -/
def verifyingReports (frame : Option (FrameHeader × Buffer)) (protocol : ReceiverProtocol κ) :
    List ReceiverLoopReport :=
  match frame with
  | none => []
  | some (header, _) =>
    if header.type = MessageType.fileEnd then [reportOf ops .verifying protocol] else []

/-- The event at the end of a pass, by the frame that was received and the result. -/
def passEvent (frame : Option (FrameHeader × Buffer)) :
    Option ReceiverLoopResult → ReceiverLoopEvent
  | some .ok => .complete
  | some _ => .failed
  | none =>
    match frame with
    | some (header, _) => if header.type = MessageType.fileBegin then .fileStarted else .progress
    | none => .progress

theorem loopGiveUp_reports (loop : ReceiverLoop κ ι) {result : ReceiverLoopResult}
    (hresult : result ≠ .ok) (frame : Option (FrameHeader × Buffer)) :
    (loopGiveUp ops loop result).2.reports = loop.reports ++
      [reportOf ops (passEvent frame (loopGiveUp ops loop result).1)
        (loopGiveUp ops loop result).2.protocol] := by
  cases result with
  | ok => exact absurd rfl hresult
  | receiveError => rfl
  | protocolError => rfl
  | sendError => rfl

@[simp]
theorem loopSendAck_reports (loop : ReceiverLoop κ ι) (type : MessageType) (status : AckStatus) :
    (loopSendAck ops loop type status).2.reports = loop.reports := by
  unfold loopSendAck
  split <;> rfl

/-- **Step lemma.** A pass over a live protocol reports at most one event before it handles
its frame, and one at its end. -/
theorem receiverLoopTurn_reports {loop : ReceiverLoop κ ι}
    (hlive : loop.protocol.state = .waitFile ∨ loop.protocol.state = .receiving) :
    (receiverLoopTurn ops loop).2.reports =
      loop.reports ++ verifyingReports ops (ops.io.receiveFrame loop.io).1 loop.protocol ++
        [reportOf ops (passEvent (ops.io.receiveFrame loop.io).1 (receiverLoopTurn ops loop).1)
          (receiverLoopTurn ops loop).2.protocol] := by
  unfold receiverLoopTurn
  cases hreceived : ops.io.receiveFrame loop.io with
  | mk received io =>
  cases received with
  | none =>
      have hgiveUp := loopGiveUp_reports ops { loop with io := io }
        (show ReceiverLoopResult.receiveError ≠ .ok by decide) none
      simpa [verifyingReports] using hgiveUp
  | some frame =>
  obtain ⟨header, payload⟩ := frame
  have hverified : (if header.type = MessageType.fileEnd then
      loopEmit ops { loop with io := io } .verifying else { loop with io := io }) =
        ⟨io, loop.protocol, loop.reports ++
          verifyingReports ops (some (header, payload)) loop.protocol⟩ := by
    by_cases hend : header.type = MessageType.fileEnd
    · rw [if_pos hend, verifyingReports, if_pos hend]
      rfl
    · rw [if_neg hend, verifyingReports, if_neg hend, List.append_nil]
  dsimp only
  rw [hverified]
  have houtcome := receiverProtocolHandle_outcome ops.handler header payload hlive
  cases hhandled : receiverProtocolHandle ops.handler loop.protocol (some header) payload with
  | mk result next =>
  rw [hhandled] at houtcome
  dsimp only
  split
  · split
    · rw [loopGiveUp_reports ops _ (by decide) (some (header, payload)), loopSendAck_reports]
    · rw [loopGiveUp_reports ops _ (by decide) (some (header, payload))]
  rename_i haccepted
  have htype : loopShouldAck header.type = true := houtcome.shouldAck (not_not.mp haccepted)
  rw [if_pos htype]
  split
  · rw [loopGiveUp_reports ops _ (by decide) (some (header, payload)), loopSendAck_reports]
  simp only [loopShouldAck, Bool.or_eq_true, beq_iff_eq] at htype
  rcases htype with (htype | htype) | htype
  · simp [htype, loopEmit_reports, passEvent]
  · have hbegin : header.type ≠ MessageType.fileBegin := by
      rw [htype]
      decide
    rw [if_neg hbegin, if_pos htype]
    simp [loopEmit_reports, passEvent, if_neg hbegin]
  · rw [if_neg (by rw [htype]; decide), if_neg (by rw [htype]; decide), if_pos htype]
    simp [loopEmit_reports, passEvent]

end Reports

section CurrentFile

variable {κ : Type u} {ops : ReceiverProtocolOps κ} {p : ReceiverProtocol κ}

@[simp]
theorem receiverProtocolGiveUp_currentFile :
    (receiverProtocolGiveUp ops p).currentFile = p.currentFile := by
  unfold receiverProtocolGiveUp
  dsimp only
  split <;> rfl

@[simp]
theorem receiverProtocolAbort_currentFile :
    (receiverProtocolAbort ops p).currentFile = p.currentFile := by
  unfold receiverProtocolAbort
  split
  · rfl
  · exact receiverProtocolGiveUp_currentFile

/-- Aborting a protocol leaves it done. -/
theorem receiverProtocolAbort_ne_waitFile : (receiverProtocolAbort ops p).state ≠ .waitFile := by
  by_cases hcomplete : p.state = .complete
  · rw [receiverProtocolAbort_complete hcomplete, hcomplete]
    decide
  · rw [receiverProtocolAbort_state hcomplete]
    decide

/-- The file that an accepted FILE_BEGIN announces becomes the current one. -/
theorem currentFile_of_began {header : FrameHeader} {payload : Buffer} {file : FileBegin}
    {name : Bytes} (hstate : p.state = .waitFile)
    (hmetadata : frameMetadata payload = some (file, name))
    (hok : (receiverProtocolHandle ops p (some header) payload).1 = .ok) :
    (receiverProtocolHandle ops p (some header) payload).2.currentFile = file := by
  have hpayload : payload.isInvalid = false := by
    by_contra hinvalid
    exact (receiverProtocolHandle_eq_self
      (.inr (.inl (Bool.eq_true_of_not_eq_false hinvalid)))).1 hok
  rw [receiverProtocolHandle_eq_actOn hpayload (.inl hstate)] at hok ⊢
  cases hevent : frameEvent p.state header payload with
  | refused result =>
      rw [hevent] at hok
      exact absurd hok (frameEvent_refused_ne_ok hevent)
  | begin begun stored =>
      have hbegun := (frameEvent_eq_begin hevent).2
      rw [hmetadata] at hbegun
      obtain ⟨rfl, rfl⟩ := Prod.mk.inj (Option.some.inj hbegun)
      rw [hevent] at hok
      simp only [actOn] at hok ⊢
      split
      · rfl
      · rename_i hfailed
        rw [if_neg hfailed] at hok
        cases hok
  | chunk data =>
      have hreceiving := frameEvent_receiving_state (.inl ⟨data, hevent⟩)
      exact absurd hstate hreceiving
  | finish => exact absurd hstate (frameEvent_receiving_state (.inr hevent))

variable (ops) in
/-- While a file is being received it stays the current one, whatever is received. -/
theorem receiverProtocolHandle_currentFile (hstate : p.state = .receiving) (header : FrameHeader)
    (payload : Buffer) :
    (receiverProtocolHandle ops p (some header) payload).2.currentFile = p.currentFile := by
  cases hpayload : payload.isInvalid with
  | true => rw [(receiverProtocolHandle_eq_self (.inr (.inl hpayload))).2]
  | false =>
      rw [receiverProtocolHandle_eq_actOn hpayload (.inr hstate)]
      cases hevent : frameEvent p.state header payload with
      | refused result => exact receiverProtocolGiveUp_currentFile
      | begin file name =>
          have hwaiting := frameEvent_begin_state hevent
          rw [hstate] at hwaiting
          cases hwaiting
      | chunk data =>
          simp only [actOn]
          split
          · rfl
          · exact receiverProtocolGiveUp_currentFile
      | finish =>
          simp only [actOn]
          split
          · rfl
          · exact receiverProtocolGiveUp_currentFile

end CurrentFile

section Within

variable {σ : Type u} {τ : Type v}

/-- A write that succeeds keeps within the announced size. -/
theorem fileReceiverWrite_within {sinkOps : FileSinkOps σ} {integrityOps : IntegrityOps τ}
    {m : ReceiverState σ τ} {data : Bytes}
    (hok : (fileReceiverWrite sinkOps integrityOps m (.bytes data)).1 = .ok) :
    m.receiver.receivedBytes.toNat + data.length ≤ m.receiver.expectedBytes.toNat := by
  have hattempt : WriteAttempt sinkOps integrityOps m (.bytes data) := fileReceiverWrite_attempt _ _
  cases hattempt with
  | refused hrefused _ =>
      rw [hok] at hrefused
      rcases hrefused with hrefused | hrefused | hrefused | hrefused <;> cases hrefused
  | attempted hdata _ _ hroom hsize _ =>
      obtain rfl := Buffer.bytes.inj hdata
      have hreceived : m.receiver.receivedBytes.toNat ≤ m.receiver.expectedBytes.toNat :=
        UInt64.le_iff_toNat_le.mp (UInt64.not_lt.mp fun hlt => hroom (.inl hlt))
      rw [exceeds_iff hreceived, toNat_ofNat_of_le_frameMaxPayload hsize] at hroom
      exact Nat.not_lt.mp hroom

/-- A chunk that is written keeps the counter behind the handler within the announced size. -/
theorem win32ReceiveChunk_within {platform : ReceivePlatform σ τ} {h : Win32ReceiveHandler σ τ}
    {data : Bytes} (hok : (win32ReceiveChunk platform h data).1 = true) :
    (win32ReceiveChunk platform h data).2.receiver.receivedBytes ≤
      (win32ReceiveChunk platform h data).2.receiver.expectedBytes := by
  have hwritten : (fileReceiverWrite platform.sinkOps platform.sha256Ops h.toReceiverState
      (.bytes data)).1 = .ok := by
    unfold win32ReceiveChunk at hok
    split at hok
    · cases hok
    · exact beq_iff_eq.mp hok
  have hwithin := fileReceiverWrite_within hwritten
  obtain ⟨hreceived, hexpected⟩ := (win32ReceiveChunk_count data).1 hok
  rw [UInt64.le_iff_toNat_le, hreceived, hexpected]
  exact hwithin

end Within

/-! ## Streams -/

/-- The events of a run that has ended. A file is complete only if it was started and
verified. -/
structure EventStream where
  /-- The number of chunks reported of the file, if one was started. -/
  file : Option ℕ
  verifying : Bool
  complete : Bool
  complete_of : complete = true → file.isSome = true ∧ verifying = true

/-- The events of a file that is being received, by the number of its chunks. -/
def fileEvents : Option ℕ → List ReceiverLoopEvent
  | none => []
  | some chunks => .fileStarted :: List.replicate chunks .progress

def EventStream.events (stream : EventStream) : List ReceiverLoopEvent :=
  .ready :: (fileEvents stream.file ++
    ((if stream.verifying then [.verifying] else []) ++
      [if stream.complete then .complete else .failed]))

/-- The reports from the start of a file on. -/
def fromStart (reports : List ReceiverLoopReport) : List ReceiverLoopReport :=
  reports.dropWhile fun report => report.event != .fileStarted

/-- The reports of a run that has ended, given the size its sender declared. -/
structure StreamOf (declared : Option UInt64) (reports : List ReceiverLoopReport) : Prop where
  ordered : ∃ stream : EventStream, reports.map ReceiverLoopReport.event = stream.events
  rising : reports.Pairwise fun earlier later => earlier.receivedBytes ≤ later.receivedBytes
  sized : ∀ report ∈ fromStart reports, declared = some report.totalBytes ∧
    report.receivedBytes ≤ report.totalBytes ∧
      (report.event = .complete → report.receivedBytes = report.totalBytes)

/-- Counts that never decrease and have reached no more than a given one. -/
structure Rising (reports : List ReceiverLoopReport) (received : UInt64) : Prop where
  pairwise : reports.Pairwise fun earlier later => earlier.receivedBytes ≤ later.receivedBytes
  reached : ∀ report ∈ reports, report.receivedBytes ≤ received

theorem Rising.concat {reports : List ReceiverLoopReport} {received : UInt64}
    (hrising : Rising reports received) {report : ReceiverLoopReport}
    (hle : received ≤ report.receivedBytes) :
    Rising (reports ++ [report]) report.receivedBytes where
  pairwise := by
    rw [List.pairwise_append]
    refine ⟨hrising.pairwise, List.pairwise_singleton _ _, ?_⟩
    intro earlier hearlier later hlater
    rw [List.mem_singleton.mp hlater]
    exact UInt64.le_trans (hrising.reached earlier hearlier) hle
  reached := by
    intro earlier hearlier
    rcases List.mem_append.mp hearlier with hearlier | hearlier
    · exact UInt64.le_trans (hrising.reached earlier hearlier) hle
    · rw [List.mem_singleton.mp hearlier]
      exact UInt64.le_refl _

/-- The reports of a file that is being received: its events, and the same total in each
from its start on. -/
structure FileReports (total : UInt64) (reports : List ReceiverLoopReport) : Prop where
  events : ∃ chunks, reports.map ReceiverLoopReport.event = .ready :: fileEvents (some chunks)
  total : ∀ report ∈ fromStart reports, report.totalBytes = total

theorem fromStart_append {reports : List ReceiverLoopReport}
    (hstarted : ∃ report ∈ reports, report.event = .fileStarted)
    (later : List ReceiverLoopReport) :
    fromStart (reports ++ later) = fromStart reports ++ later := by
  obtain ⟨report, hreport, hevent⟩ := hstarted
  rw [fromStart, List.dropWhile_append, if_neg, fromStart]
  rw [List.isEmpty_iff, List.dropWhile_eq_nil_iff]
  intro hall
  have hother := hall report hreport
  rw [hevent] at hother
  simp at hother

/-- Nothing is reported from the start of a file on if none was started. -/
theorem fromStart_eq_nil {reports : List ReceiverLoopReport}
    (hevents : .fileStarted ∉ reports.map ReceiverLoopReport.event) : fromStart reports = [] := by
  rw [fromStart, List.dropWhile_eq_nil_iff]
  intro report hreport
  rw [bne_iff_ne]
  rintro hevent
  exact hevents (List.mem_map.mpr ⟨report, hreport, hevent⟩)

theorem FileReports.started {total : UInt64} {reports : List ReceiverLoopReport}
    (hreports : FileReports total reports) :
    ∃ report ∈ reports, report.event = .fileStarted := by
  obtain ⟨chunks, hevents⟩ := hreports.events
  have hmem : ReceiverLoopEvent.fileStarted ∈ reports.map ReceiverLoopReport.event := by
    rw [hevents]
    simp [fileEvents]
  obtain ⟨report, hreport, hevent⟩ := List.mem_map.mp hmem
  exact ⟨report, hreport, hevent⟩

theorem FileReports.ne_complete {total : UInt64} {reports : List ReceiverLoopReport}
    (hreports : FileReports total reports) :
    ∀ report ∈ reports, report.event ≠ .complete := by
  intro report hreport hcomplete
  obtain ⟨chunks, hevents⟩ := hreports.events
  have hmem : report.event ∈ reports.map ReceiverLoopReport.event :=
    List.mem_map.mpr ⟨report, hreport, rfl⟩
  rw [hevents, hcomplete] at hmem
  simp [fileEvents] at hmem

theorem fileReports_began {total : UInt64} {report : ReceiverLoopReport}
    (hevent : report.event = .fileStarted) (htotal : report.totalBytes = total) :
    FileReports total ([⟨.ready, 0, 0⟩] ++ [report]) where
  events := ⟨0, by simp [hevent, fileEvents]⟩
  total := by
    intro started hstarted
    have hsingle : fromStart ([⟨.ready, 0, 0⟩] ++ [report]) = [report] := by
      simp [fromStart, hevent]
    rw [hsingle] at hstarted
    rw [List.mem_singleton.mp hstarted, htotal]

theorem FileReports.wrote {total : UInt64} {reports : List ReceiverLoopReport}
    (hreports : FileReports total reports) {report : ReceiverLoopReport}
    (hevent : report.event = .progress) (htotal : report.totalBytes = total) :
    FileReports total (reports ++ [report]) where
  events := by
    obtain ⟨chunks, hevents⟩ := hreports.events
    refine ⟨chunks + 1, ?_⟩
    rw [List.map_append, hevents]
    simp [fileEvents, hevent, List.replicate_succ']
  total := by
    intro later hlater
    rw [fromStart_append hreports.started] at hlater
    rcases List.mem_append.mp hlater with hlater | hlater
    · exact hreports.total later hlater
    · rw [List.mem_singleton.mp hlater, htotal]

section Session

variable {σ : Type u} {τ : Type v} {ι : Type w}

/-- A loop that is still running: what it has reported so far fits its counter and the file
that is being received. -/
structure Streaming (before : List LoopPass)
    (loop : ReceiverLoop (Win32ReceiveHandler σ τ) (ι × List LinkCall)) : Prop where
  counting : Counting before loop
  rising : Rising loop.reports loop.protocol.context.receiver.receivedBytes
  waiting : loop.protocol.state = .waitFile → loop.reports = [⟨.ready, 0, 0⟩]
  receiving : loop.protocol.state = .receiving →
    loop.protocol.currentFile.fileSize = loop.protocol.context.receiver.expectedBytes ∧
      loop.protocol.context.receiver.receivedBytes ≤
        loop.protocol.context.receiver.expectedBytes ∧
      FileReports loop.protocol.context.receiver.expectedBytes loop.reports

/-- The last report of a run, given whether the last frame was announced as being verified. -/
structure LastReport (loop : ReceiverLoop (Win32ReceiveHandler σ τ) (ι × List LinkCall))
    (verifying : Bool) (last : ReceiverLoopReport) : Prop where
  event : last.event = .complete ∧ verifying = true ∧ loop.protocol.state = .receiving ∨
    last.event = .failed
  received : loop.protocol.context.receiver.receivedBytes ≤ last.receivedBytes
  sized : loop.protocol.state = .receiving →
    last.totalBytes = loop.protocol.context.receiver.expectedBytes ∧
      last.receivedBytes ≤ loop.protocol.context.receiver.expectedBytes ∧
      (last.event = .complete →
        last.receivedBytes = loop.protocol.context.receiver.expectedBytes)

variable {platform : ReceivePlatform σ τ} {io : ReceiverLoopIoOps ι} {before : List LoopPass}
  {loop : ReceiverLoop (Win32ReceiveHandler σ τ) (ι × List LinkCall)}

/-- The events of a loop that is still running. -/
theorem Streaming.events (hstreaming : Streaming before loop) :
    ∃ file : Option ℕ, loop.reports.map ReceiverLoopReport.event = .ready :: fileEvents file ∧
      (loop.protocol.state = .receiving → file.isSome = true) := by
  rcases hstreaming.counting.live with hstate | hstate
  · refine ⟨none, ?_, fun hreceiving => ?_⟩
    · rw [hstreaming.waiting hstate]
      rfl
    · rw [hstate] at hreceiving
      cases hreceiving
  · obtain ⟨chunks, hevents⟩ := (hstreaming.receiving hstate).2.2.events
    exact ⟨some chunks, hevents, fun _ => rfl⟩

/-- The reports that end a run. -/
def endReports (platform : ReceivePlatform σ τ) (io : ReceiverLoopIoOps ι)
    (loop : ReceiverLoop (Win32ReceiveHandler σ τ) (ι × List LinkCall)) (verifying : Bool)
    (last : ReceiverLoopReport) : List ReceiverLoopReport :=
  (if verifying then
    [reportOf (runtimeLoopOps platform io).recordedLink .verifying loop.protocol] else []) ++ [last]

/-- A run that ends well reported has a stream. -/
theorem Streaming.ended (hstreaming : Streaming before loop) {verifying : Bool}
    {last : ReceiverLoopReport} (hlast : LastReport loop verifying last)
    {declared : Option UInt64} (hdeclared : loop.protocol.state = .receiving →
      declared = some loop.protocol.context.receiver.expectedBytes) :
    StreamOf declared (loop.reports ++ endReports platform io loop verifying last) := by
  have hverified : Rising (loop.reports ++ if verifying then
      [reportOf (runtimeLoopOps platform io).recordedLink .verifying loop.protocol] else [])
      loop.protocol.context.receiver.receivedBytes := by
    cases verifying with
    | true => exact hstreaming.rising.concat (UInt64.le_refl _)
    | false => simpa using hstreaming.rising
  refine ⟨?_, ?_, ?_⟩
  · obtain ⟨file, hevents, hfile⟩ := hstreaming.events
    refine ⟨⟨file, verifying, last.event == .complete, fun hcomplete => ?_⟩, ?_⟩
    · rcases hlast.event with ⟨-, hverifying, hstate⟩ | hfailed
      · exact ⟨hfile hstate, hverifying⟩
      · rw [hfailed] at hcomplete
        cases hcomplete
    · rw [List.map_append, hevents, EventStream.events, List.cons_append, endReports]
      rcases hlast.event with ⟨hcomplete, -, -⟩ | hfailed
      · cases verifying <;> simp [hcomplete]
      · cases verifying <;> simp [hfailed]
  · rw [endReports, ← List.append_assoc]
    exact (hverified.concat hlast.received).pairwise
  · intro report hreport
    rcases hstreaming.counting.live with hstate | hstate
    · -- No file was started.
      rw [fromStart_eq_nil] at hreport
      · cases hreport
      rw [hstreaming.waiting hstate]
      rcases hlast.event with ⟨-, -, hreceiving⟩ | hfailed
      · rw [hstate] at hreceiving
        cases hreceiving
      · cases verifying <;> simp [endReports, hfailed]
    · obtain ⟨hsize, hwithin, hreports⟩ := hstreaming.receiving hstate
      obtain ⟨htotal, hreceived, hcomplete⟩ := hlast.sized hstate
      rw [fromStart_append hreports.started, List.mem_append, endReports, List.mem_append,
        List.mem_singleton] at hreport
      rw [hdeclared hstate]
      rcases hreport with hreport | hreport | rfl
      · have hmem : report ∈ loop.reports := (List.dropWhile_sublist _).mem hreport
        rw [hreports.total report hreport]
        exact ⟨rfl, UInt64.le_trans (hstreaming.rising.reached report hmem) hwithin,
          fun hevent => absurd hevent (hreports.ne_complete report hmem)⟩
      · split at hreport
        · obtain rfl := List.mem_singleton.mp hreport
          rw [reportOf_totalBytes _ _ (by rw [hstate]; decide), hsize]
          exact ⟨rfl, hwithin, (by rintro ⟨⟩)⟩
        · cases hreport
      · rw [htotal]
        exact ⟨rfl, hreceived, hcomplete⟩

/-- What a frame that is accepted does to the counter and the current file. -/
inductive StreamStep (p next : ReceiverProtocol (Win32ReceiveHandler σ τ)) (header : FrameHeader) :
    Prop
  | began (hstate : p.state = .waitFile) (htype : header.type = MessageType.fileBegin)
    (hnext : next.state = .receiving) (hreceived : next.context.receiver.receivedBytes = 0)
    (hsize : next.currentFile.fileSize = next.context.receiver.expectedBytes)
  | wrote (hstate : p.state = .receiving) (htype : header.type = MessageType.chunk)
    (hnext : next.state = .receiving) (hfile : next.currentFile = p.currentFile)
    (hexpected : next.context.receiver.expectedBytes = p.context.receiver.expectedBytes)
    (hreceived : p.context.receiver.receivedBytes ≤ next.context.receiver.receivedBytes)
    (hwithin : next.context.receiver.receivedBytes ≤ next.context.receiver.expectedBytes)
  | finished (hstate : p.state = .receiving) (htype : header.type = MessageType.fileEnd)
    (hnext : next.state = .complete) (hfile : next.currentFile = p.currentFile)
    (hsame : SameCount p.context.receiver next.context.receiver)
    (hall : p.context.receiver.receivedBytes = p.context.receiver.expectedBytes)

theorem streamStep_of_accepted {p next : ReceiverProtocol (Win32ReceiveHandler σ τ)}
    {header : FrameHeader} {payload : Buffer}
    (hlive : p.state = .waitFile ∨ p.state = .receiving)
    (hhandled : receiverProtocolHandle (win32ReceiveHandlerOps platform) p (some header) payload =
      (.ok, next)) : StreamStep p next header := by
  have houtcome := receiverProtocolHandle_outcome (win32ReceiveHandlerOps platform) header payload
    hlive
  rw [hhandled] at houtcome
  have hfile : p.state = .receiving → next.currentFile = p.currentFile := by
    intro hstate
    have hfile := receiverProtocolHandle_currentFile (win32ReceiveHandlerOps platform) hstate
      header payload
    rwa [hhandled] at hfile
  cases houtcome with
  | @began file name hstate htype hmetadata hbegun _ hcontext hnext =>
      obtain ⟨hreceived, hexpected⟩ := win32ReceiveBegin_ok_count hbegun
      have hcontext' : next.context = (win32ReceiveBegin platform p.context file name).2 := hcontext
      have hcurrent : next.currentFile = file := by
        have hok : (receiverProtocolHandle (win32ReceiveHandlerOps platform) p (some header)
            payload).1 = .ok := by rw [hhandled]
        have hcurrent := currentFile_of_began hstate hmetadata hok
        rwa [hhandled] at hcurrent
      exact .began hstate htype hnext (by rw [hcontext', hreceived])
        (by rw [hcurrent, hcontext', hexpected])
  | @wrote data hstate htype _ hwritten _ hcontext hnext =>
      obtain ⟨hreceived, hexpected⟩ := (win32ReceiveChunk_count data).1 hwritten
      have hcontext' : next.context = (win32ReceiveChunk platform p.context data).2 := hcontext
      refine .wrote hstate htype hnext (hfile hstate) (by rw [hcontext', hexpected]) ?_ ?_
      · rw [hcontext', UInt64.le_iff_toNat_le, hreceived]
        exact Nat.le_add_right _ _
      · rw [hcontext']
        exact win32ReceiveChunk_within hwritten
  | finished hstate htype hfinished _ hcontext hnext =>
      have hcontext' : next.context = (win32ReceiveFinish platform p.context).2 := hcontext
      refine .finished hstate htype hnext (hfile hstate) ?_
        (receivedBytes_of_win32ReceiveFinish_ok hfinished)
      rw [hcontext']
      exact win32ReceiveFinish_count
  | refused hresult => exact absurd rfl hresult

theorem sameCount_receiverProtocolAbort (p : ReceiverProtocol (Win32ReceiveHandler σ τ)) :
    SameCount p.context.receiver
      (receiverProtocolAbort (win32ReceiveHandlerOps platform) p).context.receiver := by
  unfold receiverProtocolAbort
  split
  · exact ⟨rfl, rfl⟩
  unfold receiverProtocolGiveUp
  dsimp only
  split
  · exact win32ReceiveAbort_count
  · exact ⟨rfl, rfl⟩

variable (platform io)

/-- The last report of a run that fails, from what the protocol was before it was aborted. -/
theorem lastReport_failed (verifying : Bool) {next : ReceiverProtocol (Win32ReceiveHandler σ τ)}
    (hreceived : loop.protocol.context.receiver.receivedBytes ≤
      next.context.receiver.receivedBytes)
    (hnext : loop.protocol.state = .receiving →
      next.currentFile.fileSize = loop.protocol.context.receiver.expectedBytes ∧
        next.context.receiver.receivedBytes ≤ loop.protocol.context.receiver.expectedBytes) :
    LastReport loop verifying (reportOf (runtimeLoopOps platform io).recordedLink .failed
      (receiverProtocolAbort (win32ReceiveHandlerOps platform) next)) := by
  have hcount : (reportOf (runtimeLoopOps platform io).recordedLink .failed
      (receiverProtocolAbort (win32ReceiveHandlerOps platform) next)).receivedBytes =
        next.context.receiver.receivedBytes := (sameCount_receiverProtocolAbort next).received
  refine ⟨.inr rfl, by rw [hcount]; exact hreceived, fun hstate => ?_⟩
  obtain ⟨hsize, hwithin⟩ := hnext hstate
  refine ⟨?_, by rw [hcount]; exact hwithin, (by rintro ⟨⟩)⟩
  rw [reportOf_totalBytes _ _ receiverProtocolAbort_ne_waitFile,
    receiverProtocolAbort_currentFile, hsize]

theorem endReports_eq (header : FrameHeader) (payload : Buffer) (last : ReceiverLoopReport) :
    verifyingReports (runtimeLoopOps platform io).recordedLink (some (header, payload))
        loop.protocol ++ [last] =
      endReports platform io loop (header.type == MessageType.fileEnd) last := by
  simp [endReports, verifyingReports]

/-- A refused frame leaves the counter and, while a file is received, the current file. -/
theorem Streaming.refused (hstreaming : Streaming before loop) {header : FrameHeader}
    {payload : Buffer} {result : ReceiverProtocolResult}
    {next : ReceiverProtocol (Win32ReceiveHandler σ τ)}
    (hhandled : receiverProtocolHandle (win32ReceiveHandlerOps platform) loop.protocol
      (some header) payload = (result, next)) (hrefused : result ≠ .ok) (verifying : Bool) :
    LastReport loop verifying (reportOf (runtimeLoopOps platform io).recordedLink .failed
      (receiverProtocolAbort (win32ReceiveHandlerOps platform) next)) := by
  have hnotOk : (receiverProtocolHandle (win32ReceiveHandlerOps platform) loop.protocol
      (some header) payload).1 ≠ .ok := by rwa [hhandled]
  have hsame := hstreaming.counting.receivedBytes_refused platform hnotOk
  rw [hhandled] at hsame
  refine lastReport_failed platform io verifying ?_ fun hstate => ?_
  · rw [hsame]
    exact UInt64.le_refl _
  have hfile := receiverProtocolHandle_currentFile (win32ReceiveHandlerOps platform) hstate
    header payload
  rw [hhandled] at hfile
  obtain ⟨hsize, hwithin, -⟩ := hstreaming.receiving hstate
  exact ⟨by rw [hfile, hsize], by rw [hsame]; exact hwithin⟩

/-- A frame that is accepted but cannot be answered. -/
theorem Streaming.unanswered (hstreaming : Streaming before loop) {header : FrameHeader}
    {next : ReceiverProtocol (Win32ReceiveHandler σ τ)}
    (hstep : StreamStep loop.protocol next header) (verifying : Bool) :
    LastReport loop verifying (reportOf (runtimeLoopOps platform io).recordedLink .failed
      (receiverProtocolAbort (win32ReceiveHandlerOps platform) next)) := by
  cases hstep with
  | began hstate _ _ hreceived _ =>
      refine lastReport_failed platform io verifying ?_ fun hreceiving => ?_
      · rw [(hstreaming.counting.waiting hstate).1, hreceived]
        exact UInt64.le_refl _
      · rw [hstate] at hreceiving
        cases hreceiving
  | wrote hstate _ _ hfile hexpected hreceived hwithin =>
      obtain ⟨hsize, -, -⟩ := hstreaming.receiving hstate
      exact lastReport_failed platform io verifying hreceived fun _ =>
        ⟨by rw [hfile, hsize], by rw [← hexpected]; exact hwithin⟩
  | finished hstate _ _ hfile hsame _ =>
      obtain ⟨hsize, hwithin, -⟩ := hstreaming.receiving hstate
      refine lastReport_failed platform io verifying ?_ fun _ => ⟨by rw [hfile, hsize], ?_⟩
      · rw [hsame.received]
        exact UInt64.le_refl _
      · rw [hsame.received]
        exact hwithin

/-- An accepted FILE_END that is answered. -/
theorem Streaming.finished (hstreaming : Streaming before loop) {header : FrameHeader}
    {next : ReceiverProtocol (Win32ReceiveHandler σ τ)}
    (hstep : StreamStep loop.protocol next header) (hend : header.type = MessageType.fileEnd) :
    LastReport loop true
      (reportOf (runtimeLoopOps platform io).recordedLink .complete next) := by
  cases hstep with
  | began _ htype =>
      rw [hend] at htype
      cases htype
  | wrote _ htype =>
      rw [hend] at htype
      cases htype
  | finished hstate _ hnext hfile hsame hall =>
      obtain ⟨hsize, hwithin, -⟩ := hstreaming.receiving hstate
      have hcount : (reportOf (runtimeLoopOps platform io).recordedLink .complete
          next).receivedBytes = loop.protocol.context.receiver.receivedBytes := hsame.received
      refine ⟨.inl ⟨rfl, rfl, hstate⟩, by rw [hcount]; exact UInt64.le_refl _, fun _ => ?_⟩
      refine ⟨?_, by rw [hcount]; exact hwithin, fun _ => by rw [hcount, hall]⟩
      rw [reportOf_totalBytes _ _ (by rw [hnext]; decide), hfile, hsize]

/-- The size that was declared stays the one the file receiver expects. -/
theorem Counting.declaredSize_concat (hcounting : Counting before loop) (pass : LoopPass)
    (hstate : loop.protocol.state = .receiving) :
    declaredSize (before ++ [pass]) = some loop.protocol.context.receiver.expectedBytes := by
  rw [PrintDrop.declaredSize_concat, hcounting.receiving hstate, Option.some_or]

/-- An accepted frame that is answered and does not end the file. -/
theorem Streaming.goesOn (hstreaming : Streaming before loop) {header : FrameHeader}
    {next : ReceiverLoop (Win32ReceiveHandler σ τ) (ι × List LinkCall)} {pass : LoopPass}
    (hstep : StreamStep loop.protocol next.protocol header)
    (hnotEnd : header.type ≠ MessageType.fileEnd) (hcounting : Counting (before ++ [pass]) next)
    (hreports : next.reports = loop.reports ++
      [reportOf (runtimeLoopOps platform io).recordedLink
        (if header.type = MessageType.fileBegin then .fileStarted else .progress)
        next.protocol]) :
    Streaming (before ++ [pass]) next := by
  have htotal : next.protocol.state = .receiving → (reportOf
      (runtimeLoopOps platform io).recordedLink
      (if header.type = MessageType.fileBegin then .fileStarted else .progress)
      next.protocol).totalBytes = next.protocol.currentFile.fileSize := by
    intro hnext
    exact reportOf_totalBytes _ _ (by rw [hnext]; decide)
  cases hstep with
  | began hstate htype hnext hreceived hsize =>
      have hzero := (hstreaming.counting.waiting hstate).1
      rw [if_pos htype] at htotal hreports
      refine ⟨hcounting, ?_, fun hwaiting => ?_, fun _ => ⟨hsize, ?_, ?_⟩⟩
      · rw [hreports]
        refine hstreaming.rising.concat ?_
        rw [hzero]
        exact UInt64.zero_le
      · rw [hnext] at hwaiting
        cases hwaiting
      · rw [hreceived]
        exact UInt64.zero_le
      · rw [hreports, hstreaming.waiting hstate]
        exact fileReports_began rfl (by rw [htotal hnext, hsize])
  | wrote hstate htype hnext hfile hexpected hreceived hwithin =>
      obtain ⟨hsize, -, hstarted⟩ := hstreaming.receiving hstate
      have hfileSize : next.protocol.currentFile.fileSize =
          next.protocol.context.receiver.expectedBytes := by rw [hfile, hsize, hexpected]
      rw [if_neg (by rw [htype]; decide)] at htotal hreports
      refine ⟨hcounting, ?_, fun hwaiting => ?_, fun _ => ⟨hfileSize, hwithin, ?_⟩⟩
      · rw [hreports]
        exact hstreaming.rising.concat hreceived
      · rw [hnext] at hwaiting
        cases hwaiting
      · rw [hreports, hexpected]
        exact hstarted.wrote rfl (by rw [htotal hnext, hfileSize, hexpected])
  | finished _ htype => exact absurd htype hnotEnd

/-- **Step lemma.** A pass that goes on keeps what has been reported in order, and one that
ends the run completes its stream. -/
theorem Streaming.pass (hstreaming : Streaming before loop) :
    ((receiverLoopTurn (runtimeLoopOps platform io).recordedLink loop).1 = none →
      Streaming (before ++ [loopPass (runtimeLoopOps platform io) loop])
        (receiverLoopTurn (runtimeLoopOps platform io).recordedLink loop).2) ∧
    ∀ result, (receiverLoopTurn (runtimeLoopOps platform io).recordedLink loop).1 = some result →
      StreamOf (declaredSize (before ++ [loopPass (runtimeLoopOps platform io) loop]))
        (receiverLoopTurn (runtimeLoopOps platform io).recordedLink loop).2.reports := by
  have hlive := hstreaming.counting.live
  have hcounts := (hstreaming.counting.pass platform io).1
  have hreports := receiverLoopTurn_reports (runtimeLoopOps platform io).recordedLink hlive
  have hended : ∀ {verifying last}, LastReport loop verifying last →
      (receiverLoopTurn (runtimeLoopOps platform io).recordedLink loop).2.reports =
        loop.reports ++ endReports platform io loop verifying last →
      StreamOf (declaredSize (before ++ [loopPass (runtimeLoopOps platform io) loop]))
        (receiverLoopTurn (runtimeLoopOps platform io).recordedLink loop).2.reports := by
    intro verifying last hlast hsplit
    rw [hsplit]
    exact hstreaming.ended hlast (hstreaming.counting.declaredSize_concat _)
  cases receiverLoopTurn_pass (runtimeLoopOps platform io).recordedLink hlive with
  | nothing hreceived hresult hprotocol _ =>
      rw [hreceived, hresult, hprotocol] at hreports
      refine ⟨(by rw [hresult]; rintro ⟨⟩), fun _ _ => ?_⟩
      have hlast : LastReport loop false (reportOf (runtimeLoopOps platform io).recordedLink
          .failed (receiverProtocolAbort (win32ReceiveHandlerOps platform) loop.protocol)) :=
        lastReport_failed platform io false (UInt64.le_refl _) fun hstate =>
          ⟨(hstreaming.receiving hstate).1, (hstreaming.receiving hstate).2.1⟩
      refine hended hlast ?_
      rw [hreports, List.append_assoc]
      rfl
  | @accepted _ header payload next sent hreceived hhandled _ hsent hresult hprotocol _ =>
      have hstep : StreamStep loop.protocol next header := streamStep_of_accepted hlive hhandled
      rw [hreceived] at hreports
      cases hok : sent.1 with
      | false =>
          rw [hok, if_neg Bool.false_ne_true] at hresult hprotocol
          rw [hresult, hprotocol] at hreports
          refine ⟨(by rw [hresult]; rintro ⟨⟩), fun _ _ => ?_⟩
          refine hended (hstreaming.unanswered platform io hstep
            (header.type == MessageType.fileEnd)) ?_
          rw [hreports, List.append_assoc, endReports_eq]
          rfl
      | true =>
          rw [hok, if_pos rfl] at hresult hprotocol
          by_cases hend : header.type = MessageType.fileEnd
          · rw [if_pos hend] at hresult
            rw [hresult, hprotocol] at hreports
            refine ⟨(by rw [hresult]; rintro ⟨⟩), fun _ _ => ?_⟩
            refine hended (hstreaming.finished platform io hstep hend) ?_
            rw [hreports, List.append_assoc, endReports_eq, hend]
            rfl
          · rw [if_neg hend] at hresult
            rw [← hprotocol] at hstep
            refine ⟨fun hnone => hstreaming.goesOn platform io hstep hend (hcounts hnone) ?_,
              (by rw [hresult]; rintro _ ⟨⟩)⟩
            rw [hreports, hresult, verifyingReports, if_neg hend, List.append_nil]
            rfl
  | @answered _ header payload _ next _ hreceived hhandled hrefused _ _ hresult hprotocol _ =>
      rw [hreceived, hresult, hprotocol] at hreports
      refine ⟨(by rw [hresult]; rintro ⟨⟩), fun _ _ => ?_⟩
      refine hended (hstreaming.refused platform io hhandled hrefused
        (header.type == MessageType.fileEnd)) ?_
      rw [hreports, List.append_assoc, endReports_eq]
      rfl
  | @unanswered _ header payload _ next hreceived hhandled hrefused hresult hprotocol _ =>
      rw [hreceived, hresult, hprotocol] at hreports
      refine ⟨(by rw [hresult]; rintro ⟨⟩), fun _ _ => ?_⟩
      refine hended (hstreaming.refused platform io hhandled hrefused
        (header.type == MessageType.fileEnd)) ?_
      rw [hreports, List.append_assoc, endReports_eq]
      rfl

/-- **Run lemma.** However the run of a loop goes on, its reports form a stream when it
ends. -/
theorem Streaming.run (count : ℕ) : ∀ {before : List LoopPass}
    {loop : ReceiverLoop (Win32ReceiveHandler σ τ) (ι × List LinkCall)}, Streaming before loop →
    (receiverLoopTurns (runtimeLoopOps platform io).recordedLink count loop).1 ≠ none →
      StreamOf (declaredSize (before ++ loopPasses (runtimeLoopOps platform io) count loop))
        (receiverLoopTurns (runtimeLoopOps platform io).recordedLink count loop).2.reports := by
  induction count with
  | zero =>
      intro before loop _ hended
      exact absurd rfl hended
  | succ count ih =>
      intro before loop hstreaming hended
      obtain ⟨hgoesOn, hstream⟩ := hstreaming.pass platform io
      unfold receiverLoopTurns at hended ⊢
      unfold loopPasses
      cases hturn : receiverLoopTurn (runtimeLoopOps platform io).recordedLink loop with
      | mk result next =>
      rw [hturn] at hgoesOn hstream hended
      cases result with
      | some result => exact hstream result rfl
      | none =>
          have hrest := ih (hgoesOn rfl) hended
          rwa [List.append_assoc, List.singleton_append] at hrest

/-- A session that has just started has reported that it is ready. -/
theorem streaming_start (rootDirectory : WideString) (sink : σ) (sha256 : τ)
    (entropy : List RandomDraw) (link : ι) :
    Streaming [] (receiverLoopStart (runtimeLoopOps platform io).recordedLink
      (.fresh (Win32ReceiveHandler.fresh rootDirectory sink sha256 entropy) (link, []))) where
  counting := ⟨.inl rfl, rfl, fun _ => ⟨rfl, rfl⟩, (by rintro ⟨⟩)⟩
  rising := by
    refine ⟨List.pairwise_singleton _ _, ?_⟩
    intro report hreport
    rw [List.mem_singleton.mp hreport]
    exact UInt64.le_refl _
  waiting _ := rfl
  receiving := by rintro ⟨⟩

end Session

/-- The reports of a session that ends form a stream: in order, with counts that never
decrease, and from the start of a file on with its declared size. This holds over every
link, every sink, every hash and every random source. -/
theorem eventStream {σ : Type u} {τ : Type v} {ι : Type w} (platform : ReceivePlatform σ τ)
    (io : ReceiverLoopIoOps ι) (rootDirectory : WideString) (sink : σ) (sha256 : τ)
    (entropy : List RandomDraw) (link : ι) (count : ℕ) :
    let ops := runtimeLoopOps platform io
    let start := receiverLoopStart ops.recordedLink
      (.fresh (Win32ReceiveHandler.fresh rootDirectory sink sha256 entropy) (link, []))
    let outcome := receiverLoopTurns ops.recordedLink count start
    outcome.1 ≠ none → StreamOf (declaredSize (loopPasses ops count start)) outcome.2.reports := by
  intro ops start outcome hended
  exact (streaming_start platform io rootDirectory sink sha256 entropy link).run platform io count
    hended

/-- The empty file is received, and its run is reported in four events. -/
theorem eventStream_emptyFile :
    let ops := runtimeLoopOps (constantPlatform (Vector.replicate 32 0)) scriptedLink
    let start := receiverLoopStart ops.recordedLink
      (.fresh (Win32ReceiveHandler.fresh [67] () () [some (Vector.replicate 16 0)])
        ((emptyFileFrames, [true, true]), []))
    let outcome := receiverLoopTurns ops.recordedLink 2 start
    outcome.1 = some .ok ∧ StreamOf (declaredSize (loopPasses ops 2 start)) outcome.2.reports ∧
      outcome.2.reports.map ReceiverLoopReport.event =
        [.ready, .fileStarted, .verifying, .complete] :=
  ⟨by decide +kernel,
    eventStream (constantPlatform (Vector.replicate 32 0)) scriptedLink [67] () ()
      [some (Vector.replicate 16 0)] (emptyFileFrames, [true, true]) 2 (by decide +kernel),
    by decide +kernel⟩

end PrintDrop
