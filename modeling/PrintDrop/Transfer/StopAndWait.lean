/-
# Stop and wait

The frames of an upload are the file, in order, and each of them is sent only behind the
acknowledgement of the one before it, whatever the receiver and the socket do.
-/

import PrintDrop.Transfer.UploadRecord

namespace PrintDrop

open Math

universe u

variable {η : Type u}

section Invariant

variable (options : Web.SendFileOptions η)

/-- The digest can be announced, and it is the one that was given, if one was. -/
structure Announces (digest : Bytes) : Prop where
  encodable : Web.EncodableFileBegin options.file.size digest options.file.name
  given : ∀ chosen, options.sha256Digest = some chosen → digest = chosen

/-- The exchanges are those of the requests made so far, and all but the last were
answered. -/
structure Exchanged (digest : Bytes) (made : List Request) (next : Option ℕ)
    (exchanges : List Web.Exchange) : Prop where
  announces : Announces options digest
  inOrder : Made options.file made next
  messages : exchanges.map Web.Exchange.message =
    made.map (Request.message options.file digest)
  older : Web.OlderAnswered exchanges

/-- What holds of a sender and its record in each phase. -/
inductive UploadInv (u : Web.Upload η) : Prop
  | hashing {hasher : η} {processed : ℕ} (hphase : u.sender.phase = .hashing hasher processed)
    (hgiven : options.sha256Digest = none) (hexchanges : Web.exchangesOf u.record = [])
    (hprogress : Web.progressOf u.record = [])
  | reading {digest : Bytes} {made : List Request} {offset : ℕ}
    (hphase : u.sender.phase = .reading offset) (hoffset : offset < options.file.size)
    (hexchanged : Exchanged options digest made (some offset) (Web.exchangesOf u.record))
    (hanswered : Web.Answered (Web.exchangesOf u.record))
    (hprogress : Reported options.file.size offset (Web.progressOf u.record))
  | waiting {digest : Bytes} {request : Request} {made : List Request} {last : Web.Exchange}
    {older : List Web.Exchange}
    (hphase : u.sender.phase = .waiting request.type (request.expected options.file)
      (request.next options.file))
    (hlast : Web.exchangesOf u.record = last :: older)
    (hexchanged : Exchanged options digest (request :: made) (request.next options.file)
      (last :: older))
    (hquiet : last.events.find? Web.UploadEvent.isReceived = none)
    (hprogress : Reported options.file.size (request.first options.file)
      (Web.progressOf u.record))
  | resolved {digest : Bytes} {made : List Request} (hphase : u.sender.phase = .resolved)
    (hexchanged : Exchanged options digest made none (Web.exchangesOf u.record))
    (hanswered : Web.Answered (Web.exchangesOf u.record))
    (hprogress : if options.file.size = 0 then Web.progressOf u.record = [(0, 0)]
      else Reported options.file.size options.file.size (Web.progressOf u.record))
  | rejected {error : Web.JsError} (hphase : u.sender.phase = .rejected error)
    (hexchanged : Web.exchangesOf u.record = [] ∨ ∃ digest made next,
      Exchanged options digest made next (Web.exchangesOf u.record))
    (hprogress : Reported options.file.size options.file.size (Web.progressOf u.record))

variable {options}

theorem Exchanged.noted {digest : Bytes} {made : List Request} {next : Option ℕ}
    {exchanges : List Web.Exchange} (h : Exchanged options digest made next exchanges)
    (event : Web.UploadEvent) :
    Exchanged options digest made next (Web.noted event exchanges) :=
  ⟨h.announces, h.inOrder, by rw [Web.map_message_noted]; exact h.messages, h.older.noted⟩

/-- The entries behind an event that leads to no report and no frame. -/
theorem exchangesOf_event (record : List Web.UploadEntry) (event : Web.UploadEvent) :
    Web.exchangesOf (record ++ [.event event]) = Web.noted event (Web.exchangesOf record) := by
  simpa using Web.exchangesOf_append record [] [] (by simp)

theorem progressOf_event (record : List Web.UploadEntry) (event : Web.UploadEvent) :
    Web.progressOf (record ++ [.event event]) = Web.progressOf record := by
  simpa [Web.progressOf] using @Web.progressOf_append event record [] []

theorem Exchanged.event {digest : Bytes} {made : List Request} {next : Option ℕ}
    {record : List Web.UploadEntry}
    (h : Exchanged options digest made next (Web.exchangesOf record)) (event : Web.UploadEvent) :
    Exchanged options digest made next (Web.exchangesOf (record ++ [.event event])) := by
  rw [exchangesOf_event]
  exact h.noted event

theorem Answered.event {record : List Web.UploadEntry}
    (h : Web.Answered (Web.exchangesOf record)) (event : Web.UploadEvent) :
    Web.Answered (Web.exchangesOf (record ++ [.event event])) := by
  rw [exchangesOf_event]
  exact h.noted

/-- An event that changes no phase, and is none that a wait ends with. -/
private theorem UploadInv.keep {u : Web.Upload η} (h : UploadInv options u)
    {event : Web.UploadEvent} {sender : Web.Sender η} (hphase : sender.phase = u.sender.phase)
    (hquiet : (∃ type count next, u.sender.phase = .waiting type count next) →
      event.isReceived = false) :
    UploadInv options ⟨sender, u.record ++ [.event event]⟩ := by
  cases h with
  | hashing hold hgiven hexchanges hprogress =>
      refine .hashing (hphase.trans hold) hgiven ?_ ((progressOf_event _ _).trans hprogress)
      rw [exchangesOf_event, hexchanges]
      rfl
  | reading hold hoffset hexchanged hanswered hprogress =>
      rw [← progressOf_event _ event] at hprogress
      exact .reading (hphase.trans hold) hoffset (hexchanged.event event)
        (Answered.event hanswered event) hprogress
  | @waiting digest request made last older hold hlast hexchanged hfirst hprogress =>
      rw [← progressOf_event _ event] at hprogress
      have hevent := hquiet ⟨_, _, _, hold⟩
      refine .waiting (hphase.trans hold) ?_ (hexchanged.noted event) ?_ hprogress
      · rw [exchangesOf_event, hlast]
        rfl
      · simp [hfirst, hevent]
  | resolved hold hexchanged hanswered hprogress =>
      rw [← progressOf_event _ event] at hprogress
      exact .resolved (hphase.trans hold) (hexchanged.event event)
        (Answered.event hanswered event) hprogress
  | rejected hold hexchanged hprogress =>
      rw [← progressOf_event _ event] at hprogress
      refine .rejected (hphase.trans hold) ?_ hprogress
      rcases hexchanged with hnone | ⟨digest, made, next, hexchanged⟩
      · left
        rw [exchangesOf_event, hnone]
        rfl
      · exact .inr ⟨digest, made, next, hexchanged.event event⟩

/-- An event that a sender rejects on. -/
private theorem UploadInv.reject {u : Web.Upload η} (h : UploadInv options u)
    (event : Web.UploadEvent) {sender : Web.Sender η} {error : Web.JsError}
    (hphase : sender.phase = .rejected error) (hrunning : u.sender.phase ≠ .resolved) :
    UploadInv options ⟨sender, u.record ++ [.event event]⟩ := by
  have hevent := progressOf_event u.record event
  cases h with
  | hashing hold hgiven hexchanges hprogress =>
      refine .rejected hphase ?_ ?_
      · left
        rw [exchangesOf_event, hexchanges]
        rfl
      · rw [hevent, hprogress]
        exact .nothing
  | reading hold hoffset hexchanged hanswered hprogress =>
      refine .rejected hphase (.inr ⟨_, _, _, hexchanged.event event⟩) ?_
      rw [hevent]
      exact hprogress.mono hoffset.le
  | @waiting digest request made last older hold hlast hexchanged hfirst hprogress =>
      rw [← hlast] at hexchanged
      refine .rejected hphase (.inr ⟨_, _, _, hexchanged.event event⟩) ?_
      rw [hevent]
      exact hprogress.mono hexchanged.inOrder.first_le
  | resolved hold => exact absurd hold hrunning
  | rejected hold hexchanged hprogress =>
      refine .rejected hphase ?_ ?_
      · rcases hexchanged with hnone | ⟨digest, made, next, hexchanged⟩
        · left
          rw [exchangesOf_event, hnone]
          rfl
        · exact .inr ⟨digest, made, next, hexchanged.event event⟩
      · rwa [hevent]

/-- The sender makes its next request: its first one, or one behind an answer. -/
private theorem UploadInv.request {record : List Web.UploadEntry} {event : Web.UploadEvent}
    (reports : List Web.UploadEntry) {digest : Bytes} {request : Request} {made : List Request}
    {sender : Web.Sender η} (hannounces : Announces options digest)
    (hreports : ∀ entry ∈ reports, ∃ current total, entry = .progress current total)
    (hmade : Made options.file (request :: made) (request.next options.file))
    (hmessages : (Web.exchangesOf record).map Web.Exchange.message =
      made.map (Request.message options.file digest))
    (holder : Web.OlderAnswered (Web.exchangesOf record))
    (hanswered : Web.exchangesOf record ≠ [] →
      Web.Answered (Web.noted event (Web.exchangesOf record)))
    (hprogress : Reported options.file.size (request.first options.file)
      (Web.progressOf record ++ Web.progressOf reports)) :
    UploadInv options ⟨sender.requested options.file digest request,
      record ++ .event event :: reports ++
        [request.message options.file digest].map .sent⟩ := by
  have hexchanged : Exchanged options digest (request :: made) (request.next options.file)
      (⟨request.message options.file digest, []⟩ ::
        Web.noted event (Web.exchangesOf record)) := by
    refine ⟨hannounces, hmade, ?_, ?_, holder.noted⟩
    · exact congrArg₂ List.cons rfl (Web.map_message_noted.trans hmessages)
    · intro hne
      refine hanswered fun hnil => hne ?_
      rw [hnil]
      rfl
  refine .waiting rfl (Web.exchangesOf_append record reports _ hreports) hexchanged rfl ?_
  rw [Web.progressOf_append]
  exact hprogress

theorem checkAck_eq_ok_iff {type count : ℕ} {data : Bytes} :
    Web.Sender.checkAck type count data = .ok () ↔ Web.Acknowledges type count data := by
  unfold Web.Sender.checkAck Web.Acknowledges
  cases hdecoded : Web.decodeAck data with
  | error error => simp [bind, Except.bind]
  | ok ack =>
      simp only [bind, Except.bind, Except.ok.injEq, exists_eq_left']
      split_ifs <;> simp_all

/-- The acknowledgement that passes the sender's checks answers the last frame. -/
private theorem answered_of_checkAck {digest : Bytes} {request : Request} {made : List Request}
    {last : Web.Exchange} {older : List Web.Exchange} {next : Option ℕ} {data : Bytes}
    (hexchanged : Exchanged options digest (request :: made) next (last :: older))
    (hquiet : last.events.find? Web.UploadEvent.isReceived = none)
    (hack : Web.Sender.checkAck request.type (request.expected options.file) data = .ok ()) :
    Web.Answered (Web.noted (.sender (.message data)) (last :: older)) := by
  have hencodable := hexchanged.announces.encodable
  have hlast : last.message = request.message options.file digest :=
    (List.cons.inj hexchanged.messages).1
  refine ⟨data, ?_, ?_⟩
  · simp [hquiet, Web.UploadEvent.isReceived]
  · show Web.Acknowledges (Web.frameType last.message)
      (Web.fileBytesIn ((last :: older).map Web.Exchange.message)) data
    rw [hexchanged.messages, ← Made.expected_eq hencodable hexchanged.inOrder, hlast,
      Made.frameType_message hencodable]
    exact checkAck_eq_ok_iff.mp hack

/-- The progress calls behind a request's acknowledgement. -/
def Request.reports (file : Web.File) : Request → List Web.UploadEntry
  | .begin => []
  | .chunk offset => [.progress (chunkEnd file offset) file.size]
  | .finish => if file.size = 0 then [.progress 0 0] else []

theorem reports_progress (request : Request) (file : Web.File) :
    ∀ entry ∈ request.reports file, ∃ current total,
      entry = Web.UploadEntry.progress current total := by
  cases request with
  | begin => simp [Request.reports]
  | chunk offset => simp [Request.reports]
  | finish =>
      unfold Request.reports
      split <;> simp

theorem reportsOf_request {s : Web.Sender η} {request : Request} {data : Bytes}
    (hphase : s.phase = .waiting request.type (request.expected options.file)
      (request.next options.file))
    (hack : Web.Sender.checkAck request.type (request.expected options.file) data = .ok ()) :
    s.reportsOf options (.sender (.message data)) = request.reports options.file := by
  simp only [Web.Sender.reportsOf, hphase, hack]
  cases request with
  | begin | chunk _ | finish => rfl

/-- What was reported when the sender goes on from an offset. -/
theorem reported_next {digest : Bytes} {request : Request} {made : List Request} {offset : ℕ}
    {record : List Web.UploadEntry} {exchanges : List Web.Exchange}
    (hexchanged : Exchanged options digest (request :: made) (some offset) exchanges)
    (hprogress : Reported options.file.size (request.first options.file)
      (Web.progressOf record)) :
    Reported options.file.size offset
      (Web.progressOf record ++ Web.progressOf (request.reports options.file)) := by
  cases hexchanged.inOrder with
  | begin => simpa [Request.reports, Request.first, Web.progressOf] using hprogress
  | @chunk made offset prior hoffset =>
      refine Reported.chunk hprogress ?_ (Nat.min_le_right _ _)
      simp only [Request.first, Request.chunkEnd, Web.fileChunkSize]
      omega

/-- Behind an answer the sender goes on from an offset: it reads, ends the file or rejects. -/
private theorem UploadInv.goOn {u : Web.Upload η} {digest : Bytes} {request : Request}
    {made : List Request} {last : Web.Exchange} {older : List Web.Exchange} {data : Bytes}
    {offset : ℕ} (hlast : Web.exchangesOf u.record = last :: older)
    (hexchanged : Exchanged options digest (request :: made) (some offset) (last :: older))
    (hanswered : Web.Answered (Web.noted (.sender (.message data)) (last :: older)))
    (hprogress : Reported options.file.size (request.first options.file)
      (Web.progressOf u.record)) :
    UploadInv options ⟨u.sender.sendFrom options offset,
      u.record ++ .event (.sender (.message data)) :: request.reports options.file ++
        ((u.sender.sendFrom options offset).sent.drop u.sender.sent.length).map .sent⟩ := by
  have hencodable := hexchanged.announces.encodable
  have hreported := reported_next hexchanged hprogress
  have hsilent := reports_progress request options.file
  have hnoted := hexchanged.noted (.sender (.message data))
  have hexchanges : Web.exchangesOf (u.record ++ .event (.sender (.message data)) ::
      request.reports options.file ++ ([] : List Bytes).map .sent) =
        Web.noted (.sender (.message data)) (last :: older) := by
    rw [Web.exchangesOf_append u.record _ _ hsilent, hlast]
    rfl
  rw [← hexchanges] at hnoted
  rw [sendFrom_eq u.sender hencodable]
  split
  case isTrue hmore =>
    simp only [List.drop_length]
    refine .reading rfl hmore hnoted ?_ ?_
    · rwa [hexchanges]
    · rwa [Web.progressOf_append]
  case isFalse hend =>
    split
    case isTrue =>
      simp only [Web.Sender.reject, List.drop_length]
      refine .rejected rfl (.inr ⟨digest, request :: made, some offset, hnoted⟩) ?_
      rw [Web.progressOf_append]
      exact hreported.mono (hexchanged.inOrder.le_size rfl)
    case isFalse =>
      simp only [Web.Sender.requested, List.drop_left]
      refine UploadInv.request _ hexchanged.announces hsilent
        (.finish hexchanged.inOrder (Nat.le_of_not_lt hend)) ?_ ?_ (fun _ => ?_) ?_
      · rw [hlast]
        exact hexchanged.messages
      · rw [hlast]
        exact hexchanged.older
      · rwa [hlast]
      · exact hreported.mono (hexchanged.inOrder.le_size rfl)

/-- The last acknowledgement resolves. -/
private theorem UploadInv.resolve {u : Web.Upload η} {digest : Bytes} {made : List Request}
    {last : Web.Exchange} {older : List Web.Exchange} {data : Bytes} {sender : Web.Sender η}
    (hphase : sender.phase = .resolved)
    (hlast : Web.exchangesOf u.record = last :: older)
    (hexchanged : Exchanged options digest (.finish :: made) none (last :: older))
    (hanswered : Web.Answered (Web.noted (.sender (.message data)) (last :: older)))
    (hprogress : Reported options.file.size options.file.size (Web.progressOf u.record)) :
    UploadInv options ⟨sender, u.record ++ .event (.sender (.message data)) ::
      Request.finish.reports options.file ++ ([] : List Bytes).map .sent⟩ := by
  have hnoted := hexchanged.noted (.sender (.message data))
  have hexchanges : Web.exchangesOf (u.record ++ .event (.sender (.message data)) ::
      Request.finish.reports options.file ++ ([] : List Bytes).map .sent) =
        Web.noted (.sender (.message data)) (last :: older) := by
    rw [Web.exchangesOf_append u.record _ _ (reports_progress .finish options.file), hlast]
    rfl
  rw [← hexchanges] at hnoted hanswered
  refine .resolved hphase hnoted hanswered ?_
  rw [Web.progressOf_append, Request.reports]
  by_cases hempty : options.file.size = 0
  · rw [if_pos hempty, if_pos hempty, hprogress.empty hempty]
    rfl
  · rw [if_neg hempty, if_neg hempty]
    simpa [Web.progressOf] using hprogress

/-- A message that the sender is handed keeps the invariant. -/
private theorem UploadInv.message {u : Web.Upload η} (h : UploadInv options u) (data : Bytes) :
    UploadInv options ⟨u.sender.onMessage options data,
      u.record ++ .event (.sender (.message data)) ::
        u.sender.reportsOf options (.sender (.message data)) ++
        ((u.sender.onMessage options data).sent.drop u.sender.sent.length).map .sent⟩ := by
  by_cases hwaiting : ∃ type count next, u.sender.phase = .waiting type count next
  · cases h with
    | hashing hphase => simp [hphase] at hwaiting
    | reading hphase => simp [hphase] at hwaiting
    | resolved hphase => simp [hphase] at hwaiting
    | rejected hphase => simp [hphase] at hwaiting
    | @waiting digest request made last older hphase hlast hexchanged hquiet hprogress =>
        cases hcheck : Web.Sender.checkAck request.type (request.expected options.file) data with
        | error error =>
            have hreports : u.sender.reportsOf options (.sender (.message data)) = [] := by
              simp [Web.Sender.reportsOf, hphase, hcheck]
            have hnext : u.sender.onMessage options data = u.sender.reject error := by
              simp [Web.Sender.onMessage, hphase, hcheck]
            rw [hreports, hnext]
            simp only [Web.Sender.reject, List.drop_length, List.map_nil, List.append_nil]
            exact UploadInv.reject (.waiting hphase hlast hexchanged hquiet hprogress) _ rfl
              (by rw [hphase]; rintro ⟨⟩)
        | ok _ =>
            have hanswered := answered_of_checkAck hexchanged hquiet hcheck
            rw [reportsOf_request hphase hcheck]
            cases hnext : request.next options.file with
            | some offset =>
                have hgoes : u.sender.onMessage options data =
                    u.sender.sendFrom options offset := by
                  simp [Web.Sender.onMessage, hphase, hcheck, hnext]
                rw [hnext] at hexchanged
                rw [hgoes]
                exact UploadInv.goOn hlast hexchanged hanswered hprogress
            | none =>
                have hends : u.sender.onMessage options data =
                    { u.sender with phase := .resolved } := by
                  simp [Web.Sender.onMessage, hphase, hcheck, hnext]
                cases request with
                | begin => cases hnext
                | chunk offset => cases hnext
                | finish =>
                    rw [hends]
                    simp only [List.drop_length]
                    exact UploadInv.resolve rfl hlast hexchanged hanswered hprogress
  · have hreports : u.sender.reportsOf options (.sender (.message data)) = [] := by
      simp only [Web.Sender.reportsOf]
      split
      case h_1 hphase => exact absurd ⟨_, _, _, hphase⟩ hwaiting
      case h_2 => rfl
    have hnext : u.sender.onMessage options data = u.sender := by
      unfold Web.Sender.onMessage
      split
      case h_1 hphase => exact absurd ⟨_, _, _, hphase⟩ hwaiting
      case h_2 => rfl
    rw [hreports, hnext]
    simp only [List.drop_length, List.map_nil, List.append_nil]
    exact h.keep rfl fun hwaits => absurd hwaits hwaiting

/-- An event that only a waiting sender minds. -/
private theorem UploadInv.failWait {u : Web.Upload η} (h : UploadInv options u)
    (event : Web.UploadEvent) {sender : Web.Sender η} (hphase : sender.phase = u.sender.phase)
    (hsent : sender.sent = u.sender.sent) (message : String) :
    (sender.failWait message).sent = u.sender.sent ∧
      UploadInv options ⟨sender.failWait message, u.record ++ [.event event]⟩ := by
  unfold Web.Sender.failWait
  split
  case h_1 hwaiting =>
    refine ⟨hsent, h.reject event rfl ?_⟩
    rw [← hphase, hwaiting]
    rintro ⟨⟩
  case h_2 hnot =>
    refine ⟨hsent, h.keep hphase ?_⟩
    rintro ⟨type, count, next, hwaiting⟩
    exact absurd (hphase.trans hwaiting) (hnot _ _ _)

/-- Reading a slice keeps the invariant. -/
private theorem UploadInv.sliceRead {u : Web.Upload η} (h : UploadInv options u)
    {sender : Web.Sender η} (hstep : u.sender.step options .sliceRead = some sender) :
    UploadInv options ⟨sender, u.record ++ [.event (.sender .sliceRead)] ++
      (sender.sent.drop u.sender.sent.length).map .sent⟩ := by
  simp only [Web.Sender.step] at hstep
  cases h with
  | hashing hphase hgiven hexchanges hprogress =>
      simp only [hphase] at hstep
      obtain rfl := Option.some.inj hstep
      rcases hashFrom_eq options u.sender _ _ with
        hmore | ⟨error, hrejected⟩ | ⟨digest, hencodable, hbegun⟩
      · rw [hmore]
        simp only [List.drop_length, List.map_nil, List.append_nil]
        refine .hashing rfl hgiven ?_ ((progressOf_event _ _).trans hprogress)
        rw [exchangesOf_event, hexchanges]
        rfl
      · rw [hrejected]
        simp only [Web.Sender.reject, List.drop_length, List.map_nil, List.append_nil]
        exact UploadInv.reject (.hashing hphase hgiven hexchanges hprogress) _ rfl
          (by rw [hphase]; rintro ⟨⟩)
      · rw [hbegun]
        simp only [Web.Sender.requested, List.drop_left]
        refine UploadInv.request [] ⟨hencodable, ?_⟩ (by simp) .begin ?_ ?_ ?_ ?_
        · rw [hgiven]
          rintro chosen ⟨⟩
        · rw [hexchanges]
          rfl
        · rw [hexchanges]
          trivial
        · exact fun hne => absurd hexchanges hne
        · rw [hprogress]
          exact .nothing
  | reading hphase hoffset hexchanged hanswered hprogress =>
      rename_i digest made offset
      simp only [hphase] at hstep
      obtain rfl := Option.some.inj hstep
      have hrequest := sendFrameAndWait_request u.sender hexchanged.announces.encodable
        (.chunk offset)
      simp only [Request.type, Request.payload, Request.expected, Request.next,
        Request.chunkEnd] at hrequest
      rw [hrequest]
      split
      · simp only [Web.Sender.reject, List.drop_length, List.map_nil, List.append_nil]
        exact UploadInv.reject (.reading hphase hoffset hexchanged hanswered hprogress) _ rfl
          (by rw [hphase]; rintro ⟨⟩)
      · simp only [Web.Sender.requested, List.drop_left]
        refine UploadInv.request [] hexchanged.announces (by simp)
          (.chunk hexchanged.inOrder hoffset) hexchanged.messages hexchanged.older
          (fun _ => hanswered.noted) ?_
        simpa [Request.first, Web.progressOf] using hprogress
  | waiting hphase => simp [hphase] at hstep
  | resolved hphase => simp [hphase] at hstep
  | rejected hphase => simp [hphase] at hstep

/-- Every event keeps the invariant. -/
theorem UploadInv.step {u next : Web.Upload η} (h : UploadInv options u)
    {event : Web.UploadEvent} (hstep : Web.Upload.step options u event = some next) :
    UploadInv options next := by
  -- an event that sends nothing and reports nothing
  have hplain {event : Web.UploadEvent} {sender : Web.Sender η}
      (hsent : sender.sent = u.sender.sent)
      (hinv : UploadInv options ⟨sender, u.record ++ [.event event]⟩) :
      UploadInv options ⟨sender, u.record ++ .event event :: [] ++
        (sender.sent.drop u.sender.sent.length).map .sent⟩ := by
    rw [hsent, List.drop_length, List.map_nil, List.append_nil]
    exact hinv
  obtain ⟨sender, hsender, rfl⟩ := Option.map_eq_some_iff.mp hstep
  cases event with
  | text data =>
      obtain rfl := Option.some.inj hsender
      have hfails := h.failWait (.text data) rfl rfl
        "Receiver sent a non-binary WebSocket message"
      exact hplain hfails.1 hfails.2
  | sender event =>
      cases event with
      | sliceRead => exact h.sliceRead hsender
      | message data =>
          obtain rfl := Option.some.inj hsender
          exact h.message data
      | closing =>
          obtain rfl := Option.some.inj hsender
          exact hplain rfl (h.keep rfl fun _ => rfl)
      | socketError =>
          obtain rfl := Option.some.inj hsender
          have hfails := h.failWait (.sender .socketError) rfl rfl
            "Network error while waiting for receiver ACK"
          exact hplain hfails.1 hfails.2
      | socketClose =>
          obtain rfl := Option.some.inj hsender
          have hfails := @UploadInv.failWait _ _ _ h (.sender .socketClose)
            { u.sender with readyState := 3 } rfl rfl "Receiver disconnected during transfer"
          exact hplain hfails.1 hfails.2
      | ackTimeout =>
          simp only [Web.Sender.step] at hsender
          split at hsender
          case h_1 =>
            obtain rfl := Option.some.inj hsender
            have hfails := h.failWait (.sender .ackTimeout) rfl rfl
              "Timed out waiting for receiver ACK"
            exact hplain hfails.1 hfails.2
          case h_2 => cases hsender
      | sliceFailed error =>
          simp only [Web.Sender.step] at hsender
          split at hsender
          case h_1 hphase =>
            obtain rfl := Option.some.inj hsender
            exact hplain rfl (h.reject _ rfl (by rw [hphase]; rintro ⟨⟩))
          case h_2 hphase =>
            obtain rfl := Option.some.inj hsender
            exact hplain rfl (h.reject _ rfl (by rw [hphase]; rintro ⟨⟩))
          case h_3 => cases hsender

variable (options) in
/-- The invariant holds of a sender that has just been started. -/
theorem UploadInv.start (readyState : ℕ) :
    UploadInv options (Web.Upload.start options readyState) := by
  have hrejected (sender : Web.Sender η) (error : Web.JsError) (hsent : sender.sent = []) :
      UploadInv options ⟨sender.reject error, (sender.reject error).sent.map .sent⟩ := by
    have hnone : (sender.reject error).sent = [] := hsent
    rw [hnone]
    exact .rejected rfl (.inl rfl) .nothing
  have hbegun (sender : Web.Sender η) (digest : Bytes) (hsent : sender.sent = [])
      (hannounces : Announces options digest) :
      UploadInv options ⟨sender.requested options.file digest .begin,
        (sender.requested options.file digest .begin).sent.map .sent⟩ := by
    have hfirst : (sender.requested options.file digest .begin).sent =
        [Request.begin.message options.file digest] := by
      simp [Web.Sender.requested, hsent]
    rw [hfirst]
    exact .waiting rfl rfl ⟨hannounces, .begin, rfl, fun h => absurd rfl h, trivial⟩ rfl .nothing
  unfold Web.Upload.start Web.Sender.start
  simp only
  split
  case isTrue => exact hrejected _ _ rfl
  case isFalse =>
    split
    case isTrue => exact hrejected _ _ rfl
    case isFalse =>
      split
      case h_1 hgiven =>
        rcases hashFrom_eq options ⟨.hashing options.hasher.create 0, readyState, []⟩ _ _ with
          hmore | ⟨error, herror⟩ | ⟨digest, hencodable, hfirst⟩
        · rw [hmore]
          exact .hashing rfl hgiven rfl rfl
        · rw [herror]
          exact hrejected _ _ rfl
        · rw [hfirst]
          refine hbegun _ _ rfl ⟨hencodable, ?_⟩
          rw [hgiven]
          rintro chosen ⟨⟩
      case h_2 digest hgiven =>
        split
        case isTrue => exact hrejected _ _ rfl
        case isFalse =>
          rcases @sendBegin_eq _ options ⟨.hashing options.hasher.create 0, readyState, []⟩
            digest with ⟨error, herror⟩ | ⟨hencodable, hfirst⟩
          · rw [herror]
            exact hrejected _ _ rfl
          · rw [hfirst]
            refine hbegun _ _ rfl ⟨hencodable, ?_⟩
            rw [hgiven]
            rintro chosen ⟨⟩
            rfl

theorem uploadInv_of_reachable {readyState : ℕ} {u : Web.Upload η}
    (hrun : (Web.Upload.system options readyState).Reachable u) : UploadInv options u :=
  hrun.invariant (.start options readyState) fun _ h _ hstep => h.step hstep

/-! ## Stop and wait -/

variable (options) in
/-- What is promised of a sender and the record of its run. -/
structure StopsAndWaits (u : Web.Upload η) : Prop where
  /-- The frames are the beginning of FILE_BEGIN, the file in chunks, and FILE_END. -/
  frames : ∃ (digest : Bytes) (chunks : List Bytes),
    (∀ chosen, options.sha256Digest = some chosen → digest = chosen) ∧
    (∀ chunk ∈ chunks, chunk ≠ [] ∧ chunk.length ≤ 48 * 1024) ∧
    chunks.flatten = options.file.content ∧
    Web.framesOf u.record <+: uploadFrames (fileBeginPayload (UInt64.ofNat options.file.size)
      digest (Web.textEncode options.file.name)) chunks
  /-- A frame with another one behind it was answered: what was received first is its
  acknowledgement, with status OK and the bytes of the file sent so far. -/
  answered : ∀ newer last older, Web.exchangesOf u.record = newer ++ last :: older →
    newer ≠ [] → Web.Answered (last :: older)
  /-- Whatever else is received first behind the last frame rejects. -/
  refused : ∀ last older event, Web.exchangesOf u.record = last :: older →
    last.events.find? Web.UploadEvent.isReceived = some event →
      Web.Answered (last :: older) ∨ ∃ error, u.sender.phase = .rejected error
  /-- The progress calls are of the file's size, and strictly increase up to it. -/
  progress : (∀ report ∈ Web.progressOf u.record,
      report.1 ≤ options.file.size ∧ report.2 = options.file.size) ∧
    ((Web.progressOf u.record).map Prod.fst).Pairwise (· < ·)
  /-- For an empty file there is one, behind its end. -/
  empty : options.file.size = 0 →
    (u.sender.phase = .resolved → Web.progressOf u.record = [(0, 0)]) ∧
      (u.sender.phase ≠ .resolved → Web.progressOf u.record = [])

theorem Exchanged.frames {digest : Bytes} {made : List Request} {next : Option ℕ}
    {record : List Web.UploadEntry}
    (h : Exchanged options digest made next (Web.exchangesOf record)) :
    Web.framesOf record = (made.map (Request.message options.file digest)).reverse := by
  rw [Web.framesOf_eq, h.messages]

/-- The frames of a record are a beginning of the upload. -/
theorem framesOf_beginning {record : List Web.UploadEntry}
    (hexchanged : Web.exchangesOf record = [] ∨ ∃ digest made next,
      Exchanged options digest made next (Web.exchangesOf record)) :
    ∃ (digest : Bytes) (chunks : List Bytes),
      (∀ chosen, options.sha256Digest = some chosen → digest = chosen) ∧
      (∀ chunk ∈ chunks, chunk ≠ [] ∧ chunk.length ≤ 48 * 1024) ∧
      chunks.flatten = options.file.content ∧
      Web.framesOf record <+: uploadFrames (fileBeginPayload (UInt64.ofNat options.file.size)
        digest (Web.textEncode options.file.name)) chunks := by
  rcases hexchanged with hnone | ⟨digest, made, next, hexchanged⟩
  · obtain ⟨chunks, hchunks, hflatten, -⟩ :=
      @Made.frames_beginning options.file (options.sha256Digest.getD []) _ _ .begin
    refine ⟨options.sha256Digest.getD [], chunks, ?_, hchunks, hflatten, ?_⟩
    · intro chosen hchosen
      rw [hchosen, Option.getD_some]
    · rw [Web.framesOf_eq, hnone]
      exact List.nil_prefix
  · obtain ⟨chunks, hchunks, hflatten, hprefix⟩ :=
      @Made.frames_beginning options.file digest _ _ hexchanged.inOrder
    rw [← hexchanged.frames] at hprefix
    exact ⟨digest, chunks, hexchanged.announces.given, hchunks, hflatten, hprefix⟩

theorem olderAnswered_append {newer older : List Web.Exchange} {last : Web.Exchange}
    (h : Web.OlderAnswered (newer ++ last :: older)) (hnewer : newer ≠ []) :
    Web.Answered (last :: older) := by
  induction newer with
  | nil => exact absurd rfl hnewer
  | cons first newer ih =>
      cases newer with
      | nil => exact h.1 (List.cons_ne_nil _ _)
      | cons second newer => exact ih h.2 (List.cons_ne_nil _ _)

private theorem UploadInv.exchanged {u : Web.Upload η} (h : UploadInv options u) :
    Web.exchangesOf u.record = [] ∨ ∃ digest made next,
      Exchanged options digest made next (Web.exchangesOf u.record) := by
  cases h with
  | hashing hphase hgiven hexchanges hprogress => exact .inl hexchanges
  | reading hphase hoffset hexchanged hanswered hprogress => exact .inr ⟨_, _, _, hexchanged⟩
  | waiting hphase hlast hexchanged hquiet hprogress =>
      rw [← hlast] at hexchanged
      exact .inr ⟨_, _, _, hexchanged⟩
  | resolved hphase hexchanged hanswered hprogress => exact .inr ⟨_, _, _, hexchanged⟩
  | rejected hphase hexchanged hprogress => exact hexchanged

private theorem UploadInv.refused {u : Web.Upload η} (h : UploadInv options u)
    {last : Web.Exchange} {older : List Web.Exchange} {event : Web.UploadEvent}
    (hexchanges : Web.exchangesOf u.record = last :: older)
    (hreceived : last.events.find? Web.UploadEvent.isReceived = some event) :
    Web.Answered (last :: older) ∨ ∃ error, u.sender.phase = .rejected error := by
  cases h with
  | hashing hphase hgiven hnone hprogress =>
      rw [hnone] at hexchanges
      cases hexchanges
  | reading hphase hoffset hexchanged hanswered hprogress =>
      rw [hexchanges] at hanswered
      exact .inl hanswered
  | waiting hphase hlast hexchanged hquiet hprogress =>
      obtain ⟨rfl, -⟩ := List.cons.inj (hlast.symm.trans hexchanges)
      rw [hquiet] at hreceived
      cases hreceived
  | resolved hphase hexchanged hanswered hprogress =>
      rw [hexchanges] at hanswered
      exact .inl hanswered
  | rejected hphase hexchanged hprogress => exact .inr ⟨_, hphase⟩

/-- The calls so far, except for the one that an empty file ends with. -/
private theorem UploadInv.reported {u : Web.Upload η} (h : UploadInv options u) :
    Reported options.file.size options.file.size (Web.progressOf u.record) ∧
        ¬ (options.file.size = 0 ∧ u.sender.phase = .resolved) ∨
      options.file.size = 0 ∧ u.sender.phase = .resolved ∧
        Web.progressOf u.record = [(0, 0)] := by
  cases h with
  | hashing hphase hgiven hexchanges hprogress =>
      left
      rw [hprogress, hphase]
      exact ⟨.nothing, (by rintro ⟨-, ⟨⟩⟩)⟩
  | reading hphase hoffset hexchanged hanswered hprogress =>
      left
      rw [hphase]
      exact ⟨hprogress.mono hoffset.le, (by rintro ⟨-, ⟨⟩⟩)⟩
  | waiting hphase hlast hexchanged hquiet hprogress =>
      left
      rw [hphase]
      exact ⟨hprogress.mono hexchanged.inOrder.first_le, (by rintro ⟨-, ⟨⟩⟩)⟩
  | resolved hphase hexchanged hanswered hprogress =>
      by_cases hempty : options.file.size = 0
      · rw [if_pos hempty] at hprogress
        exact .inr ⟨hempty, hphase, hprogress⟩
      · rw [if_neg hempty] at hprogress
        exact .inl ⟨hprogress, fun h => hempty h.1⟩
  | rejected hphase hexchanged hprogress =>
      left
      rw [hphase]
      exact ⟨hprogress, (by rintro ⟨-, ⟨⟩⟩)⟩

/-- Every run of `sendFile`, whatever the receiver and the socket do, is stop and wait, and
sends the file. -/
theorem sender_stopsAndWaits {readyState : ℕ} {u : Web.Upload η}
    (hrun : (Web.Upload.system options readyState).Reachable u) : StopsAndWaits options u := by
  have hinv := uploadInv_of_reachable hrun
  have holder : Web.OlderAnswered (Web.exchangesOf u.record) := by
    rcases hinv.exchanged with hnone | ⟨digest, made, next, hexchanged⟩
    · rw [hnone]
      trivial
    · exact hexchanged.older
  refine ⟨framesOf_beginning hinv.exchanged, ?_, ?_, ?_, ?_⟩
  · intro newer last older hexchanges hnewer
    rw [hexchanges] at holder
    exact olderAnswered_append holder hnewer
  · intro last older event hexchanges hreceived
    exact hinv.refused hexchanges hreceived
  · rcases hinv.reported with ⟨hreported, -⟩ | ⟨hempty, -, hprogress⟩
    · exact ⟨fun report hreport => ⟨hreported.bounded report hreport,
        hreported.total report hreport⟩, hreported.increasing⟩
    · rw [hprogress, hempty]
      exact ⟨by simp, List.pairwise_singleton _ _⟩
  · intro hempty
    rcases hinv.reported with ⟨hreported, hopen⟩ | ⟨-, hphase, hprogress⟩
    · exact ⟨fun hphase => absurd ⟨hempty, hphase⟩ hopen, fun _ => hreported.empty hempty⟩
    · exact ⟨fun _ => hprogress, fun hnot => absurd hphase hnot⟩

end Invariant

/-- A file of one byte, with a digest. -/
def oneByteUpload : Web.SendFileOptions Unit where
  file := ⟨[0x61], [0x68]⟩
  hasher := ⟨(), fun _ _ => (), fun _ => []⟩
  sha256Digest := some (List.replicate 32 0)

/-- The acknowledgements of the three frames, and the slice between them. -/
def oneByteEvents : List Web.UploadEvent :=
  [.sender (.message (ackMessage ⟨MessageType.fileBegin, AckStatus.ok, 0⟩)),
    .sender .sliceRead,
    .sender (.message (ackMessage ⟨MessageType.chunk, AckStatus.ok, 1⟩)),
    .sender (.message (ackMessage ⟨MessageType.fileEnd, AckStatus.ok, 1⟩))]

/-- A run to the end of a file. -/
theorem sender_stopsAndWaits_oneByte : ∃ u,
    (Web.Upload.system oneByteUpload 1).run (Web.Upload.start oneByteUpload 1) oneByteEvents =
        some u ∧ Web.progressOf u.record = [(1, 1)] ∧ StopsAndWaits oneByteUpload u := by
  have hsome : ((Web.Upload.system oneByteUpload 1).run (Web.Upload.start oneByteUpload 1)
      oneByteEvents).map (fun u => Web.progressOf u.record) = some [(1, 1)] := by
    decide +kernel
  obtain ⟨u, hrun, hprogress⟩ := Option.map_eq_some_iff.mp hsome
  have hreachable := TransitionSystem.reachable_of_run oneByteEvents hrun
  exact ⟨u, hrun, hprogress, sender_stopsAndWaits hreachable⟩

end PrintDrop
