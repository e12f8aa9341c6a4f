/-
# The discipline of handler calls

Which calls the receiver protocol makes of its handler, whatever the frames and
whatever the handler answers.

The first part describes a handler by the phases the protocol may bring it
through, as the file receiver describes its sink. A handler table that implements
such a description is kept in step by every frame and every abort. The second
part applies this to a table that records its calls.
-/

import PrintDrop.Receiver.Protocol

namespace PrintDrop

universe u

/-- Where a handler is, with the chunks it has been passed. -/
inductive HandlerPhase
  /-- No file has been begun. -/
  | waiting
  /-- A file was to be begun, without success. -/
  | refused
  | active (file : FileBegin) (name : Bytes) (chunks : List Bytes)
  /-- A file is begun; the last chunk, or finishing, did not succeed. -/
  | broken (file : FileBegin) (name : Bytes) (chunks : List Bytes)
  | finished (file : FileBegin) (name : Bytes) (chunks : List Bytes)
  | aborted (file : FileBegin) (name : Bytes) (chunks : List Bytes)

variable {κ : Type u}

/-- A handler table keeps `H` along the phases, where finishing is asked of it only
in contexts that are `ready`. -/
structure ReceiverProtocolOps.Implements (ops : ReceiverProtocolOps κ)
    (H : HandlerPhase → κ → Prop) (ready : κ → Prop) : Prop where
  begin_ok : ∀ {context file name}, H .waiting context →
    (ops.beginFile context file name).1 = true →
    H (.active file name []) (ops.beginFile context file name).2
  begin_error : ∀ {context file name}, H .waiting context →
    (ops.beginFile context file name).1 = false → H .refused (ops.beginFile context file name).2
  write_ok : ∀ {context file name chunks chunk}, H (.active file name chunks) context →
    chunk ≠ [] → chunk.length ≤ frameMaxPayload → (ops.writeChunk context chunk).1 = true →
    H (.active file name (chunks ++ [chunk])) (ops.writeChunk context chunk).2
  write_error : ∀ {context file name chunks chunk}, H (.active file name chunks) context →
    chunk ≠ [] → chunk.length ≤ frameMaxPayload → (ops.writeChunk context chunk).1 = false →
    H (.broken file name (chunks ++ [chunk])) (ops.writeChunk context chunk).2
  finish_ok : ∀ {context file name chunks}, H (.active file name chunks) context →
    (ops.finishFile context).1 = true → H (.finished file name chunks) (ops.finishFile context).2
  finish_error : ∀ {context file name chunks}, H (.active file name chunks) context →
    ready context → (ops.finishFile context).1 = false →
    H (.broken file name chunks) (ops.finishFile context).2
  abort_active : ∀ {context file name chunks}, H (.active file name chunks) context →
    H (.aborted file name chunks) (ops.abortFile context)
  abort_broken : ∀ {context file name chunks}, H (.broken file name chunks) context →
    H (.aborted file name chunks) (ops.abortFile context)

/-- The protocol is in step with its handler, which has been passed these chunks. -/
inductive HandlerInv (H : HandlerPhase → κ → Prop) : List Bytes → ReceiverProtocol κ → Prop
  | waiting {p : ReceiverProtocol κ} (hstate : p.state = .waitFile)
    (hactive : p.fileActive = false) (hcontext : H .waiting p.context) : HandlerInv H [] p
  | receiving {p : ReceiverProtocol κ} {chunks : List Bytes} (hstate : p.state = .receiving)
    (hactive : p.fileActive = true)
    (hcontext : H (.active p.currentFile p.sanitizedFilename chunks) p.context) :
    HandlerInv H chunks p
  | complete {p : ReceiverProtocol κ} {chunks : List Bytes} (hstate : p.state = .complete)
    (hactive : p.fileActive = false)
    (hcontext : H (.finished p.currentFile p.sanitizedFilename chunks) p.context) :
    HandlerInv H chunks p
  | rejected {p : ReceiverProtocol κ} (hstate : p.state = .failed) (hactive : p.fileActive = false)
    (hcontext : H .waiting p.context ∨ H .refused p.context) : HandlerInv H [] p
  | aborted {p : ReceiverProtocol κ} {chunks : List Bytes} (hstate : p.state = .failed)
    (hactive : p.fileActive = false)
    (hcontext : H (.aborted p.currentFile p.sanitizedFilename chunks) p.context) :
    HandlerInv H chunks p

/-- A protocol that receives is over an active handler. -/
theorem HandlerInv.receiving_context {H : HandlerPhase → κ → Prop} {chunks : List Bytes}
    {p : ReceiverProtocol κ} (hinv : HandlerInv H chunks p) (hstate : p.state = .receiving) :
    H (.active p.currentFile p.sanitizedFilename chunks) p.context := by
  cases hinv with
  | receiving _ _ hcontext => exact hcontext
  | waiting hother | complete hother | rejected hother | aborted hother =>
      simp [hstate] at hother

/-- A protocol that is complete is over a handler that has finished. -/
theorem HandlerInv.complete_context {H : HandlerPhase → κ → Prop} {chunks : List Bytes}
    {p : ReceiverProtocol κ} (hinv : HandlerInv H chunks p) (hstate : p.state = .complete) :
    H (.finished p.currentFile p.sanitizedFilename chunks) p.context := by
  cases hinv with
  | complete _ _ hcontext => exact hcontext
  | waiting hother | receiving hother | rejected hother | aborted hother =>
      simp [hstate] at hother

/-- A call of one of the protocol's two entry points. -/
inductive ProtocolCall
  | handle (header : Option FrameHeader) (payload : Buffer)
  | abort
  deriving DecidableEq

/-- The protocol after a call. -/
def protocolCall (ops : ReceiverProtocolOps κ) (p : ReceiverProtocol κ) :
    ProtocolCall → ReceiverProtocol κ
  | .handle header payload => (receiverProtocolHandle ops p header payload).2
  | .abort => receiverProtocolAbort ops p

/-- The protocol after a sequence of calls. -/
def runCalls (ops : ReceiverProtocolOps κ) (p : ReceiverProtocol κ) (calls : List ProtocolCall) :
    ReceiverProtocol κ :=
  calls.foldl (protocolCall ops) p

/-- The payload of a well-formed CHUNK frame: the right type, no flags, a length
consistent with the header, from one byte to 1 MiB. -/
def wellFormedChunk : ProtocolCall → Option Bytes
  | .handle (some header) (.bytes data) =>
    if header.type = MessageType.chunk ∧ header.flags = 0 ∧
        header.payloadLength.toNat = data.length ∧ 1 ≤ data.length ∧
          data.length ≤ 1024 * 1024 then
      some data
    else none
  | _ => none

/-- The payloads of the well-formed CHUNK frames handled in state `receiving`. -/
def handledChunks (ops : ReceiverProtocolOps κ) (p : ReceiverProtocol κ) :
    List ProtocolCall → List Bytes
  | [] => []
  | call :: rest =>
    (if p.state = .receiving then (wellFormedChunk call).toList else []) ++
      handledChunks ops (protocolCall ops p call) rest

/-- A well-formed FILE_END frame. -/
def isWellFormedEnd : ProtocolCall → Bool
  | .handle (some header) payload =>
    !payload.isInvalid && !frameIsMalformed header payload &&
      header.type == MessageType.fileEnd && payload.size == 0
  | _ => false

theorem isWellFormedEnd_of_event {header : FrameHeader} {payload : Buffer}
    (hpayload : payload.isInvalid = false)
    (hevent : frameEvent .receiving header payload = .finish) :
    isWellFormedEnd (.handle (some header) payload) = true := by
  obtain ⟨hwell, htype, hsize⟩ := frameEvent_eq_finish hevent
  simp [isWellFormedEnd, hpayload, hwell, htype, hsize]

theorem wellFormedChunk_handle_eq_some_iff {header : FrameHeader} {payload : Buffer}
    {data : Bytes} :
    wellFormedChunk (.handle (some header) payload) = some data ↔
      frameEvent .receiving header payload = .chunk data := by
  rw [frameEvent_eq_chunk_iff]
  cases payload with
  | null size => simp [wellFormedChunk]
  | bytes bytes =>
      simp only [wellFormedChunk, Option.ite_none_right_eq_some, Option.some.injEq,
        Buffer.bytes.injEq, frameMaxPayload, Nat.one_le_iff_ne_zero, ne_eq,
        List.length_eq_zero_iff]
      constructor
      · rintro ⟨⟨htype, hflags, hlength, hne, hle⟩, rfl⟩
        exact ⟨htype, hflags, hlength, rfl, hne, hle⟩
      · rintro ⟨htype, hflags, hlength, rfl, hne, hle⟩
        exact ⟨⟨htype, hflags, hlength, hne, hle⟩, rfl⟩

variable {ops : ReceiverProtocolOps κ} {H : HandlerPhase → κ → Prop} {ready : κ → Prop}

/-- The chunk an event passes to the handler. -/
def FrameEvent.passed : FrameEvent → List Bytes
  | .chunk data => [data]
  | _ => []

/-- The chunk a call passes to the handler of a protocol in this state. -/
def passedChunk (p : ReceiverProtocol κ) (call : ProtocolCall) : List Bytes :=
  if p.state = .receiving then (wellFormedChunk call).toList else []

theorem receiverProtocolGiveUp_inactive {p : ReceiverProtocol κ} (hactive : p.fileActive = false) :
    receiverProtocolGiveUp ops p = { p with state := .failed } := by
  simp [receiverProtocolGiveUp, hactive]

theorem receiverProtocolGiveUp_active {p : ReceiverProtocol κ} (hactive : p.fileActive = true) :
    receiverProtocolGiveUp ops p =
      { p with context := ops.abortFile p.context, fileActive := false, state := .failed } := by
  simp [receiverProtocolGiveUp, hactive]

/-- A protocol that waits for a file acts on an event. -/
private theorem HandlerInv.actOn_waiting (hops : ops.Implements H ready) {p : ReceiverProtocol κ}
    (hactive : p.fileActive = false) (hcontext : H .waiting p.context) {event : FrameEvent}
    (hevent : (∀ data, event ≠ .chunk data) ∧ event ≠ .finish) :
    HandlerInv H [] (actOn ops p event).2 := by
  cases event with
  | refused result =>
      simp only [actOn, receiverProtocolFail, receiverProtocolGiveUp_inactive hactive]
      exact .rejected rfl hactive (.inl hcontext)
  | begin file name =>
      simp only [actOn]
      split
      · rename_i hbegun
        exact .receiving rfl rfl (hops.begin_ok hcontext hbegun)
      · rename_i hbegun
        rw [Bool.not_eq_true] at hbegun
        rw [receiverProtocolFail, receiverProtocolGiveUp_inactive]
        · exact .rejected rfl hactive (.inr (hops.begin_error hcontext hbegun))
        · exact hactive
  | chunk data => exact absurd rfl (hevent.1 data)
  | finish => exact absurd rfl hevent.2

/-- A receiving protocol acts on an event. -/
private theorem HandlerInv.actOn_receiving (hops : ops.Implements H ready) {p : ReceiverProtocol κ}
    {chunks : List Bytes} (hstate : p.state = .receiving) (hactive : p.fileActive = true)
    (hcontext : H (.active p.currentFile p.sanitizedFilename chunks) p.context)
    {event : FrameEvent} (hbegin : ∀ file name, event ≠ .begin file name)
    (hsize : ∀ data, event = .chunk data → data ≠ [] ∧ data.length ≤ frameMaxPayload)
    (hready : event = .finish → ready p.context) :
    HandlerInv H (chunks ++ event.passed) (actOn ops p event).2 := by
  cases event with
  | refused result =>
      simp only [actOn, receiverProtocolFail, receiverProtocolGiveUp_active hactive,
        FrameEvent.passed, List.append_nil]
      exact .aborted rfl rfl (hops.abort_active hcontext)
  | begin file name => exact absurd rfl (hbegin file name)
  | chunk data =>
      obtain ⟨hne, hle⟩ := hsize data rfl
      simp only [actOn]
      split
      · rename_i hwritten
        exact .receiving hstate hactive (hops.write_ok hcontext hne hle hwritten)
      · rename_i hwritten
        rw [Bool.not_eq_true] at hwritten
        rw [receiverProtocolFail, receiverProtocolGiveUp_active]
        · exact .aborted rfl rfl (hops.abort_broken (hops.write_error hcontext hne hle hwritten))
        · exact hactive
  | finish =>
      simp only [actOn, FrameEvent.passed, List.append_nil]
      split
      · rename_i hfinished
        exact .complete rfl rfl (hops.finish_ok hcontext hfinished)
      · rename_i hfinished
        rw [Bool.not_eq_true] at hfinished
        rw [receiverProtocolFail, receiverProtocolGiveUp_active]
        · exact .aborted rfl rfl (hops.abort_broken
            (hops.finish_error hcontext (hready rfl) hfinished))
        · exact hactive

/-- A protocol that is complete or has failed is not changed by any call. -/
theorem protocolCall_eq_self {p : ReceiverProtocol κ}
    (hdone : p.state = .complete ∨ p.state = .failed) (call : ProtocolCall) :
    protocolCall ops p call = p := by
  cases call with
  | handle header payload => exact (receiverProtocolHandle_eq_self (.inr (.inr hdone))).2
  | abort => simp [protocolCall, receiverProtocolAbort, hdone]

theorem runCalls_eq_self {p : ReceiverProtocol κ}
    (hdone : p.state = .complete ∨ p.state = .failed) (calls : List ProtocolCall) :
    runCalls ops p calls = p := by
  induction calls with
  | nil => rfl
  | cons call rest ih =>
      rw [runCalls, List.foldl_cons, protocolCall_eq_self hdone]
      exact ih

/-- A call that ends the file of a receiving protocol finds its handler ready. -/
def EndsReady (ready : κ → Prop) (p : ReceiverProtocol κ) (call : ProtocolCall) : Prop :=
  p.state = .receiving → isWellFormedEnd call = true → ready p.context

/-- A frame keeps the protocol in step with its handler. -/
private theorem HandlerInv.handle (hops : ops.Implements H ready) {p : ReceiverProtocol κ}
    {chunks : List Bytes} (hinv : HandlerInv H chunks p) {header : FrameHeader} {payload : Buffer}
    (hpayload : payload.isInvalid = false) (hlive : p.state = .waitFile ∨ p.state = .receiving)
    (hready : EndsReady ready p (.handle (some header) payload)) :
    HandlerInv H (chunks ++ passedChunk p (.handle (some header) payload))
      (protocolCall ops p (.handle (some header) payload)) := by
  simp only [protocolCall, receiverProtocolHandle_eq_actOn hpayload hlive]
  cases hinv with
  | waiting hstate hactive hcontext =>
      rw [passedChunk, if_neg (by simp [hstate]), List.append_nil]
      refine HandlerInv.actOn_waiting hops hactive hcontext ⟨?_, ?_⟩
      · intro data hevent
        exact frameEvent_receiving_state (.inl ⟨data, hevent⟩) hstate
      · intro hevent
        exact frameEvent_receiving_state (.inr hevent) hstate
  | receiving hstate hactive hcontext =>
      have hsize : ∀ data, frameEvent p.state header payload = .chunk data →
          data ≠ [] ∧ data.length ≤ frameMaxPayload := by
        intro data hevent
        rw [hstate, frameEvent_eq_chunk_iff] at hevent
        exact hevent.2.2.2.2
      have hbegin : ∀ file name, frameEvent p.state header payload ≠ .begin file name := by
        intro file name hevent
        have hwait := frameEvent_begin_state hevent
        simp [hstate] at hwait
      have hpassed : passedChunk p (.handle (some header) payload) =
          (frameEvent p.state header payload).passed := by
        rw [passedChunk, if_pos hstate, hstate]
        cases hchunk : wellFormedChunk (.handle (some header) payload) with
        | some data =>
            rw [wellFormedChunk_handle_eq_some_iff.mp hchunk]
            rfl
        | none =>
            have hnot : ∀ data, frameEvent .receiving header payload ≠ .chunk data := by
              intro data hevent
              rw [wellFormedChunk_handle_eq_some_iff.mpr hevent] at hchunk
              cases hchunk
            cases hevent : frameEvent .receiving header payload with
            | chunk data => exact absurd hevent (hnot data)
            | begin file name => rfl
            | finish => rfl
            | refused result => rfl
      rw [hpassed]
      refine HandlerInv.actOn_receiving hops hstate hactive hcontext hbegin hsize ?_
      intro hevent
      rw [hstate] at hevent
      exact hready hstate (isWellFormedEnd_of_event hpayload hevent)
  | complete hstate hactive hcontext => simp [hstate] at hlive
  | rejected hstate hactive hcontext => simp [hstate] at hlive
  | aborted hstate hactive hcontext => simp [hstate] at hlive

/-- A call that does not reach the handler's file passes no chunk. -/
private theorem passedChunk_of_not_live {p : ReceiverProtocol κ} {call : ProtocolCall}
    (hidle : p.state ≠ .receiving ∨ wellFormedChunk call = none) : passedChunk p call = [] := by
  unfold passedChunk
  rcases hidle with hstate | hchunk
  · rw [if_neg hstate]
  · simp [hchunk]

/-- **Step lemma.** A call keeps the protocol in step with its handler. -/
theorem HandlerInv.step (hops : ops.Implements H ready) {p : ReceiverProtocol κ}
    {chunks : List Bytes}
    (hinv : HandlerInv H chunks p) (call : ProtocolCall) (hready : EndsReady ready p call) :
    HandlerInv H (chunks ++ passedChunk p call) (protocolCall ops p call) := by
  by_cases hdone : p.state = .complete ∨ p.state = .failed
  · rw [protocolCall_eq_self hdone, passedChunk_of_not_live (.inl ?_), List.append_nil]
    · exact hinv
    · rcases hdone with hstate | hstate <;> simp [hstate]
  have hlive : p.state = .waitFile ∨ p.state = .receiving := by
    cases hstate : p.state <;> simp_all
  cases call with
  | abort =>
      rw [passedChunk_of_not_live (.inr rfl), List.append_nil]
      simp only [protocolCall, receiverProtocolAbort, if_neg hdone]
      cases hinv with
      | waiting hstate hactive hcontext =>
          rw [receiverProtocolGiveUp_inactive hactive]
          exact .rejected rfl hactive (.inl hcontext)
      | receiving hstate hactive hcontext =>
          rw [receiverProtocolGiveUp_active hactive]
          exact .aborted rfl rfl (hops.abort_active hcontext)
      | complete hstate hactive hcontext => exact absurd (.inl hstate) hdone
      | rejected hstate hactive hcontext => exact absurd (.inr hstate) hdone
      | aborted hstate hactive hcontext => exact absurd (.inr hstate) hdone
  | handle header payload =>
      cases header with
      | none =>
          rw [passedChunk_of_not_live (.inr rfl), List.append_nil]
          exact hinv
      | some header =>
          cases hpayload : payload.isInvalid with
          | true =>
              have hnull : wellFormedChunk (.handle (some header) payload) = none := by
                cases payload with
                | null size => rfl
                | bytes data => simp at hpayload
              rw [passedChunk_of_not_live (.inr hnull), List.append_nil]
              have hsame : (receiverProtocolHandle ops p (some header) payload).2 = p :=
                (receiverProtocolHandle_eq_self (.inr (.inl hpayload))).2
              simpa [protocolCall, hsame] using hinv
          | false => exact hinv.handle hops hpayload hlive hready

/-- **Run lemma.** Every sequence of calls keeps the protocol in step with a handler
that is always ready. -/
theorem HandlerInv.run (hops : ops.Implements H fun _ => True) (calls : List ProtocolCall) :
    ∀ {p : ReceiverProtocol κ} {chunks : List Bytes}, HandlerInv H chunks p →
      HandlerInv H (chunks ++ handledChunks ops p calls) (runCalls ops p calls) := by
  induction calls with
  | nil =>
      intro p chunks hinv
      simpa [handledChunks, runCalls] using hinv
  | cons call rest ih =>
      intro p chunks hinv
      have hrest := ih (hinv.step hops call fun _ _ => trivial)
      rw [List.append_assoc] at hrest
      exact hrest

/-! ## Recorded calls -/

/-- A call of the handler with the answer it gave. -/
inductive HandlerCall
  | begin (file : FileBegin) (name : Bytes) (ok : Bool)
  | write (data : Bytes) (ok : Bool)
  | finish (ok : Bool)
  | abort
  deriving DecidableEq

namespace HandlerCall

/-- A file was begun successfully. -/
def isBegun : HandlerCall → Bool
  | .begin _ _ ok => ok
  | _ => false

/-- A file was finished successfully. -/
def isFinished : HandlerCall → Bool
  | .finish ok => ok
  | _ => false

def isAbort : HandlerCall → Bool
  | .abort => true
  | _ => false

/-- The data of a call of `write_chunk`. -/
def written : HandlerCall → Option Bytes
  | .write data _ => some data
  | _ => none

/-- Whether a call may follow the ones before it: at most one successful `begin_file`,
everything else only between it and a successful `finish_file` or an abort. -/
def Follows (before : List HandlerCall) : HandlerCall → Prop
  | .begin _ _ _ => before.countP isBegun = 0
  | .write _ _ | .finish _ | .abort =>
    before.countP isBegun = 1 ∧ before.countP isFinished = 0 ∧ before.countP isAbort = 0

end HandlerCall

/-- The handler table that also logs every call. -/
def ReceiverProtocolOps.recorded (ops : ReceiverProtocolOps κ) :
    ReceiverProtocolOps (κ × List HandlerCall) where
  beginFile context file name :=
    let begun := ops.beginFile context.1 file name
    (begun.1, begun.2, context.2 ++ [.begin file name begun.1])
  writeChunk context data :=
    let written := ops.writeChunk context.1 data
    (written.1, written.2, context.2 ++ [.write data written.1])
  finishFile context :=
    let finished := ops.finishFile context.1
    (finished.1, finished.2, context.2 ++ [.finish finished.1])
  abortFile context := (ops.abortFile context.1, context.2 ++ [.abort])

/-- Every call of the log may follow the ones before it. -/
def Disciplined (log : List HandlerCall) : Prop :=
  ∀ before call after, log = before ++ call :: after → call.Follows before

theorem Disciplined.nil : Disciplined [] := by
  intro before call after hlog
  simp at hlog

theorem Disciplined.snoc {log : List HandlerCall} (hlog : Disciplined log) {call : HandlerCall}
    (hcall : call.Follows log) : Disciplined (log ++ [call]) := by
  intro before next after hsplit
  rcases List.append_eq_append_iff.mp hsplit with ⟨rest, hbefore, hrest⟩ | ⟨rest, hprior, hrest⟩
  · cases rest with
    | nil =>
        simp only [List.nil_append, List.cons.injEq] at hrest
        rw [hbefore, List.append_nil, ← hrest.1]
        exact hcall
    | cons first rest => simp at hrest
  · cases rest with
    | nil =>
        simp only [List.nil_append, List.cons.injEq] at hrest
        rw [hrest.1, ← List.append_nil before, ← hprior]
        exact hcall
    | cons first rest =>
        simp only [List.cons_append, List.cons.injEq] at hrest
        exact hlog before next rest (by rw [hprior, hrest.1])

namespace HandlerPhase

/-- How many calls of each kind have been made in a phase, and what was written. -/
def begun : HandlerPhase → ℕ
  | .waiting | .refused => 0
  | .active _ _ _ | .broken _ _ _ | .finished _ _ _ | .aborted _ _ _ => 1

def finishes : HandlerPhase → ℕ
  | .finished _ _ _ => 1
  | _ => 0

def aborts : HandlerPhase → ℕ
  | .aborted _ _ _ => 1
  | _ => 0

def chunks : HandlerPhase → List Bytes
  | .waiting | .refused => []
  | .active _ _ chunks | .broken _ _ chunks | .finished _ _ chunks | .aborted _ _ chunks => chunks

end HandlerPhase

/-- The log of a handler that is in a phase. -/
structure LogOf (phase : HandlerPhase) (log : List HandlerCall) : Prop where
  begun : log.countP HandlerCall.isBegun = phase.begun
  finishes : log.countP HandlerCall.isFinished = phase.finishes
  aborts : log.countP HandlerCall.isAbort = phase.aborts
  written : log.filterMap HandlerCall.written = phase.chunks
  disciplined : Disciplined log

/-- One more call takes the log from one phase to the next. -/
private theorem LogOf.snoc {phase next : HandlerPhase} {log : List HandlerCall}
    (hlog : LogOf phase log) {call : HandlerCall} (hcall : call.Follows log)
    (hbegun : next.begun = phase.begun + call.isBegun.toNat)
    (hfinishes : next.finishes = phase.finishes + call.isFinished.toNat)
    (haborts : next.aborts = phase.aborts + call.isAbort.toNat)
    (hchunks : next.chunks = phase.chunks ++ call.written.toList) :
    LogOf next (log ++ [call]) := by
  refine ⟨?_, ?_, ?_, ?_, hlog.disciplined.snoc hcall⟩
  · cases hkind : call.isBegun <;> simp [List.countP_append, hlog.begun, hbegun, hkind]
  · cases hkind : call.isFinished <;> simp [List.countP_append, hlog.finishes, hfinishes, hkind]
  · cases hkind : call.isAbort <;> simp [List.countP_append, hlog.aborts, haborts, hkind]
  · cases hkind : call.written <;> simp [List.filterMap_append, hlog.written, hchunks, hkind]

/-- A recording table keeps its log in step with the phases. -/
theorem ReceiverProtocolOps.recorded_implements (ops : ReceiverProtocolOps κ) :
    ops.recorded.Implements (fun phase context => LogOf phase context.2) fun _ => True := by
  have hopen : ∀ {file name chunks log}, LogOf (.active file name chunks) log →
      log.countP HandlerCall.isBegun = 1 ∧ log.countP HandlerCall.isFinished = 0 ∧
        log.countP HandlerCall.isAbort = 0 := fun hlog =>
    ⟨hlog.begun, hlog.finishes, hlog.aborts⟩
  have hbroken : ∀ {file name chunks log}, LogOf (.broken file name chunks) log →
      log.countP HandlerCall.isBegun = 1 ∧ log.countP HandlerCall.isFinished = 0 ∧
        log.countP HandlerCall.isAbort = 0 := fun hlog =>
    ⟨hlog.begun, hlog.finishes, hlog.aborts⟩
  constructor
  case begin_ok =>
    intro context file name hlog hok
    refine hlog.snoc hlog.begun ?_ rfl rfl rfl
    have hok' : (ops.beginFile context.1 file name).1 = true := hok
    simp [HandlerPhase.begun, HandlerCall.isBegun, hok']
  case begin_error =>
    intro context file name hlog hok
    refine hlog.snoc hlog.begun ?_ rfl rfl rfl
    have hok' : (ops.beginFile context.1 file name).1 = false := hok
    simp [HandlerPhase.begun, HandlerCall.isBegun, hok']
  case write_ok =>
    intro context file name chunks chunk hlog _ _ _
    exact hlog.snoc (hopen hlog) rfl rfl rfl rfl
  case write_error =>
    intro context file name chunks chunk hlog _ _ _
    exact hlog.snoc (hopen hlog) rfl rfl rfl rfl
  case finish_ok =>
    intro context file name chunks hlog hok
    refine hlog.snoc (hopen hlog) rfl ?_ rfl (by simp [HandlerPhase.chunks, HandlerCall.written])
    have hok' : (ops.finishFile context.1).1 = true := hok
    simp [HandlerPhase.finishes, HandlerCall.isFinished, hok']
  case finish_error =>
    intro context file name chunks hlog _ hok
    refine hlog.snoc (hopen hlog) rfl ?_ rfl (by simp [HandlerPhase.chunks, HandlerCall.written])
    have hok' : (ops.finishFile context.1).1 = false := hok
    simp [HandlerPhase.finishes, HandlerCall.isFinished, hok']
  case abort_active =>
    intro context file name chunks hlog
    exact hlog.snoc (hopen hlog) rfl rfl rfl (by simp [HandlerPhase.chunks, HandlerCall.written])
  case abort_broken =>
    intro context file name chunks hlog
    exact hlog.snoc (hbroken hlog) rfl rfl rfl
      (by simp [HandlerPhase.chunks, HandlerCall.written])

/-- What the log of a handler and the protocol that drives it have to do with each
other, `chunks` being the payloads of the chunks handled while receiving. -/
structure CallDiscipline (chunks : List Bytes)
    (p : ReceiverProtocol (κ × List HandlerCall)) : Prop where
  disciplined : Disciplined p.context.2
  begunOnce : p.context.2.countP HandlerCall.isBegun ≤ 1
  written : p.context.2.filterMap HandlerCall.written = chunks
  abortedOnce : p.context.2.countP HandlerCall.isAbort ≤ 1
  fileActive : p.fileActive = true ↔ p.state = .receiving
  abortedOnFailure : p.state = .failed → p.context.2.countP HandlerCall.isBegun = 1 →
    p.context.2.countP HandlerCall.isAbort = 1

/-- A protocol in step with its log keeps the discipline. -/
theorem CallDiscipline.of_handlerInv {p : ReceiverProtocol (κ × List HandlerCall)}
    {chunks : List Bytes}
    (hinv : HandlerInv (fun phase context => LogOf phase context.2) chunks p) :
    CallDiscipline chunks p := by
  cases hinv with
  | waiting hstate hactive hlog =>
      exact ⟨hlog.disciplined, by simp [hlog.begun, HandlerPhase.begun], hlog.written,
        by simp [hlog.aborts, HandlerPhase.aborts], by simp [hstate, hactive],
        by simp [hstate]⟩
  | receiving hstate hactive hlog =>
      exact ⟨hlog.disciplined, by simp [hlog.begun, HandlerPhase.begun], hlog.written,
        by simp [hlog.aborts, HandlerPhase.aborts], by simp [hstate, hactive],
        by simp [hstate]⟩
  | complete hstate hactive hlog =>
      exact ⟨hlog.disciplined, by simp [hlog.begun, HandlerPhase.begun], hlog.written,
        by simp [hlog.aborts, HandlerPhase.aborts], by simp [hstate, hactive],
        by simp [hstate]⟩
  | rejected hstate hactive hlog =>
      rcases hlog with hlog | hlog <;>
        exact ⟨hlog.disciplined, by simp [hlog.begun, HandlerPhase.begun], hlog.written,
          by simp [hlog.aborts, HandlerPhase.aborts], by simp [hstate, hactive],
          by simp [hlog.begun, HandlerPhase.begun]⟩
  | aborted hstate hactive hlog =>
      exact ⟨hlog.disciplined, by simp [hlog.begun, HandlerPhase.begun], hlog.written,
        by simp [hlog.aborts, HandlerPhase.aborts], by simp [hstate, hactive],
        fun _ _ => hlog.aborts⟩

/-- **Handler call discipline.** After any sequence of frames and aborts the log of
the handler's calls is disciplined, and what follows the end of a transfer calls the
handler no more. -/
theorem receiverProtocol_callDiscipline (ops : ReceiverProtocolOps κ) (context : κ)
    (calls : List ProtocolCall) :
    CallDiscipline (handledChunks ops.recorded (receiverProtocolInit (context, [])) calls)
        (runCalls ops.recorded (receiverProtocolInit (context, [])) calls) ∧
      ∀ later : List ProtocolCall,
        (runCalls ops.recorded (receiverProtocolInit (context, [])) calls).state = .complete ∨
            (runCalls ops.recorded (receiverProtocolInit (context, [])) calls).state = .failed →
          (runCalls ops.recorded (receiverProtocolInit (context, [])) (calls ++ later)).context =
            (runCalls ops.recorded (receiverProtocolInit (context, [])) calls).context := by
  constructor
  · have hinit : HandlerInv (fun phase context => LogOf phase context.2) []
        (receiverProtocolInit (context, ([] : List HandlerCall))) :=
      .waiting rfl rfl ⟨rfl, rfl, rfl, rfl, .nil⟩
    exact .of_handlerInv (hinit.run ops.recorded_implements calls)
  · intro later hdone
    rw [runCalls, List.foldl_append]
    exact congrArg ReceiverProtocol.context (runCalls_eq_self hdone later)

end PrintDrop
