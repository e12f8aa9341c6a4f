/-
# The record of an upload

The requests that a sender has made so far, the frames and answers in the record of its run,
and its calls of `onUploadProgress`: what each of them says of how far the file has come.
-/

import PrintDrop.Sender.Upload
import PrintDrop.Transfer.Agreement

namespace PrintDrop

/-- The requests of a sender, the last one first, and the offset it goes on from behind the
last one's acknowledgement. -/
inductive Made (file : Web.File) : List Request → Option ℕ → Prop
  | begin : Made file [.begin] (some 0)
  | chunk {made : List Request} {offset : ℕ} (prior : Made file made (some offset))
    (hoffset : offset < file.size) :
    Made file (.chunk offset :: made) (some (Request.chunkEnd file offset))
  | finish {made : List Request} {offset : ℕ} (prior : Made file made (some offset))
    (hend : file.size ≤ offset) : Made file (.finish :: made) none

/-- Where in the file a request starts. -/
def Request.first (file : Web.File) : Request → ℕ
  | .begin => 0
  | .chunk offset => offset
  | .finish => file.size

/-- The frames of a whole upload. -/
def uploadFrames (announcement : Bytes) (chunks : List Bytes) : List Bytes :=
  frameMessage (UInt8.ofNat Web.MessageType.fileBegin) announcement ::
    chunks.map (frameMessage (UInt8.ofNat Web.MessageType.chunk)) ++
      [frameMessage (UInt8.ofNat Web.MessageType.fileEnd) []]

namespace Made

variable {file : Web.File} {digest : Bytes} {request : Request} {made : List Request}
  {next : Option ℕ}

theorem le_size (h : Made file made next) {offset : ℕ} (hnext : next = some offset) :
    offset ≤ file.size := by
  cases h with
  | begin =>
      cases hnext
      exact Nat.zero_le _
  | chunk =>
      cases hnext
      exact Nat.min_le_right _ _
  | finish => cases hnext

theorem first_le (h : Made file (request :: made) next) : request.first file ≤ file.size := by
  cases h with
  | begin => exact Nat.zero_le _
  | chunk prior hoffset => exact hoffset.le
  | finish prior hend => exact le_rfl

/-- Every sender that has begun can come to the end of the file. -/
theorem complete (h : Made file made next) : ∃ more, Made file (more ++ made) none := by
  cases next with
  | none => exact ⟨[], h⟩
  | some offset =>
      induction hleft : file.size - offset using Nat.strong_induction_on
        generalizing made offset with
      | _ left ih =>
          by_cases hoffset : offset < file.size
          · have hmore : file.size - Request.chunkEnd file offset < left := by
              simp only [Request.chunkEnd, Web.fileChunkSize]
              omega
            obtain ⟨more, hdone⟩ := ih _ hmore _ (.chunk h hoffset) rfl
            exact ⟨more ++ [.chunk offset], by simpa using hdone⟩
          · exact ⟨[.finish], .finish h (Nat.le_of_not_lt hoffset)⟩

/-- The frames so far: the announcement, chunks that hold the file up to the offset, and the
end behind the last of them. -/
theorem frames (h : Made file made next) : ∃ chunks : List Bytes,
    (∀ chunk ∈ chunks, chunk ≠ [] ∧ chunk.length ≤ Web.fileChunkSize) ∧
    chunks.flatten = file.content.take (next.getD file.size) ∧
    (made.map (Request.message file digest)).reverse =
      Request.begin.message file digest ::
        chunks.map (frameMessage (UInt8.ofNat Web.MessageType.chunk)) ++
        (if next = none then [frameMessage (UInt8.ofNat Web.MessageType.fileEnd) []] else []) := by
  induction h with
  | begin => exact ⟨[], by simp, by simp, by simp⟩
  | @chunk made offset prior hoffset ih =>
      obtain ⟨chunks, hchunks, hflatten, hframes⟩ := ih
      let slice := file.slice offset (Request.chunkEnd file offset)
      have hlength : slice.length = Request.chunkEnd file offset - offset :=
        Request.length_slice hoffset
      have hslice : slice ≠ [] ∧ slice.length ≤ Web.fileChunkSize := by
        simp only [Request.chunkEnd, Web.fileChunkSize] at hlength ⊢
        constructor
        · intro hnil
          rw [hnil, List.length_nil] at hlength
          omega
        · omega
      refine ⟨chunks ++ [slice], ?_, ?_, ?_⟩
      · intro chunk hchunk
        rcases List.mem_append.mp hchunk with hold | hnew
        · exact hchunks chunk hold
        · rwa [List.mem_singleton.mp hnew]
      · rw [List.flatten_append, hflatten]
        simpa using Request.take_append_slice hoffset
      · rw [List.map_cons, List.reverse_cons, hframes]
        simp [Request.message, Request.type, Request.payload, slice]
  | @finish made offset prior hend ih =>
      obtain ⟨chunks, hchunks, hflatten, hframes⟩ := ih
      refine ⟨chunks, hchunks, ?_, ?_⟩
      · rw [hflatten]
        simp only [Option.getD_some, Option.getD_none, Web.File.size] at hend ⊢
        rw [List.take_of_length_le hend, List.take_length]
      · rw [List.map_cons, List.reverse_cons, hframes]
        simp [Request.message, Request.type, Request.payload]

/-- What was sent so far is the beginning of a whole upload of the file. -/
theorem frames_beginning (h : Made file made next) : ∃ chunks : List Bytes,
    (∀ chunk ∈ chunks, chunk ≠ [] ∧ chunk.length ≤ Web.fileChunkSize) ∧
    chunks.flatten = file.content ∧
    (made.map (Request.message file digest)).reverse <+:
      uploadFrames (Request.begin.payload file digest) chunks := by
  obtain ⟨more, hdone⟩ := h.complete
  obtain ⟨chunks, hchunks, hflatten, hframes⟩ := @frames file digest _ _ hdone
  refine ⟨chunks, hchunks, ?_, ?_⟩
  · rw [hflatten, Option.getD_none, Web.File.size, List.take_length]
  · rw [List.map_append, List.reverse_append] at hframes
    exact ⟨_, hframes⟩

section

variable (hbegin : Web.EncodableFileBegin file.size digest file.name)

include hbegin

theorem decodeFrame_message (request : Request) :
    Web.decodeFrame (request.message file digest) =
      .ok { type := request.type, payload := request.payload file digest } := by
  have hsize : (request.payload file digest).length ≤ Web.relayMaxPayload :=
    request.length_payload_le hbegin
  have htype : (UInt8.ofNat request.type).toNat = request.type := by cases request <;> rfl
  have hrange : 1 ≤ request.type ∧ request.type ≤ 7 := by
    cases request with
    | begin | chunk _ | finish => exact ⟨Nat.le_of_ble_eq_true rfl, Nat.le_of_ble_eq_true rfl⟩
  rw [Request.message, Web.decodeFrame_frameMessage (by rw [htype]; exact hrange.1)
    (by rw [htype]; exact hrange.2) hsize, htype]

theorem frameType_message (request : Request) :
    Web.frameType (request.message file digest) = request.type := by
  rw [Web.frameType, decodeFrame_message hbegin request]

/-- The chunks so far hold the file up to the offset. -/
theorem fileBytesIn_eq (h : Made file made next) :
    Web.fileBytesIn (made.map (Request.message file digest)) = next.getD file.size := by
  induction h with
  | begin =>
      simp only [Web.fileBytesIn, List.map_cons, List.map_nil, decodeFrame_message hbegin]
      rfl
  | @chunk made offset prior hoffset ih =>
      have hlength := Request.length_slice hoffset
      have hle : offset ≤ Request.chunkEnd file offset := by
        simp only [Request.chunkEnd]
        omega
      rw [Web.fileBytesIn, List.map_cons, List.map_cons, List.sum_cons,
        decodeFrame_message hbegin]
      show (file.slice offset (Request.chunkEnd file offset)).length + Web.fileBytesIn _ = _
      rw [ih, hlength, Option.getD_some, Option.getD_some, Nat.sub_add_cancel hle]
  | @finish made offset prior hend ih =>
      rw [Web.fileBytesIn, List.map_cons, List.map_cons, List.sum_cons,
        decodeFrame_message hbegin]
      show 0 + Web.fileBytesIn _ = _
      rw [ih, Nat.zero_add]
      exact Nat.le_antisymm (prior.le_size rfl) hend

/-- The count that the last request's acknowledgement must have is what was sent so far. -/
theorem expected_eq (h : Made file (request :: made) next) :
    request.expected file =
      Web.fileBytesIn ((request :: made).map (Request.message file digest)) := by
  rw [fileBytesIn_eq hbegin h]
  cases h with
  | begin | chunk _ _ | finish _ _ => rfl

end

end Made

namespace Web

/-- Every frame but the last was answered. -/
def OlderAnswered : List Exchange → Prop
  | [] => True
  | _ :: older => (older ≠ [] → Answered older) ∧ OlderAnswered older

/-- An event goes to the last exchange. -/
def noted (event : UploadEvent) (exchanges : List Exchange) : List Exchange :=
  Exchange.note exchanges (.event event)

variable {event : UploadEvent} {exchanges : List Exchange}

theorem map_message_noted : (noted event exchanges).map Exchange.message =
    exchanges.map Exchange.message := by
  cases exchanges <;> rfl

theorem OlderAnswered.noted (h : OlderAnswered exchanges) :
    OlderAnswered (noted event exchanges) := by
  cases exchanges with
  | nil => trivial
  | cons last older => exact h

/-- What has been received first stays what has been received first. -/
theorem Answered.noted (h : Answered exchanges) : Answered (noted event exchanges) := by
  cases exchanges with
  | nil => exact h.elim
  | cons last older =>
      obtain ⟨data, hfirst, hack⟩ := h
      refine ⟨data, ?_, hack⟩
      simp only [List.find?_append, hfirst, Option.some_or]

/-- A record with an event, reports and frames behind it. -/
theorem exchangesOf_append (record reports : List UploadEntry) (sent : List Bytes)
    (hreports : ∀ entry ∈ reports, ∃ current total, entry = .progress current total) :
    exchangesOf (record ++ .event event :: reports ++ sent.map .sent) =
      (sent.reverse.map fun message => ⟨message, []⟩) ++ noted event (exchangesOf record) := by
  have hsilent (exchanges : List Exchange) :
      reports.foldl Exchange.note exchanges = exchanges := by
    induction reports with
    | nil => rfl
    | cons entry reports ih =>
        obtain ⟨⟨current, total, rfl⟩, hrest⟩ := List.forall_mem_cons.mp hreports
        exact ih hrest
  have hsent (exchanges : List Exchange) :
      (sent.map UploadEntry.sent).foldl Exchange.note exchanges =
        (sent.reverse.map fun message => ⟨message, []⟩) ++ exchanges := by
    induction sent generalizing exchanges with
    | nil => rfl
    | cons message sent ih =>
        rw [List.map_cons, List.foldl_cons, ih]
        simp [Exchange.note]
  rw [exchangesOf, List.foldl_append, List.foldl_append, List.foldl_cons, hsilent, hsent]
  rfl

/-- The frames are those of the exchanges. -/
theorem framesOf_eq (record : List UploadEntry) :
    framesOf record = ((exchangesOf record).map Exchange.message).reverse := by
  induction record using List.reverseRecOn with
  | nil => rfl
  | append_singleton record entry ih =>
      have hexchanges : exchangesOf (record ++ [entry]) =
          Exchange.note (exchangesOf record) entry := by
        rw [exchangesOf, List.foldl_append]
        rfl
      rw [framesOf, List.filterMap_append, ← framesOf, ih, hexchanges]
      cases entry with
      | event event =>
          show _ ++ [] = ((noted event (exchangesOf record)).map Exchange.message).reverse
          rw [map_message_noted, List.append_nil]
      | sent message => simp [Exchange.note, UploadEntry.sent?]
      | progress current total => simp [Exchange.note, UploadEntry.sent?]

theorem progressOf_append (record reports : List UploadEntry) (sent : List Bytes) :
    progressOf (record ++ .event event :: reports ++ sent.map .sent) =
      progressOf record ++ progressOf reports := by
  have hsent : (sent.map UploadEntry.sent).filterMap UploadEntry.progress? = [] := by
    induction sent with
    | nil => rfl
    | cons message sent ih => rwa [List.map_cons, List.filterMap_cons]
  rw [progressOf, List.filterMap_append, List.filterMap_append, hsent, List.append_nil]
  rfl

end Web

/-- The calls of `onUploadProgress` so far, for a file of a size that was acknowledged up to an
offset. Before its end an empty file has none. -/
structure Reported (size upTo : ℕ) (progress : List (ℕ × ℕ)) : Prop where
  total : ∀ report ∈ progress, report.2 = size
  bounded : ∀ report ∈ progress, report.1 ≤ upTo
  increasing : (progress.map Prod.fst).Pairwise (· < ·)
  empty : size = 0 → progress = []

namespace Reported

variable {size upTo : ℕ} {progress : List (ℕ × ℕ)}

theorem nothing : Reported size upTo [] :=
  ⟨by simp, by simp, List.Pairwise.nil, fun _ => rfl⟩

theorem mono (h : Reported size upTo progress) {further : ℕ} (hle : upTo ≤ further) :
    Reported size further progress :=
  ⟨h.total, fun report hreport => (h.bounded report hreport).trans hle, h.increasing, h.empty⟩

/-- A chunk takes the file further. -/
theorem chunk (h : Reported size upTo progress) {further : ℕ} (hlt : upTo < further)
    (hsize : further ≤ size) : Reported size further (progress ++ [(further, size)]) := by
  refine ⟨?_, ?_, ?_, fun hempty => absurd hlt (by omega)⟩
  · intro report hreport
    rcases List.mem_append.mp hreport with hold | hnew
    · exact h.total report hold
    · rw [List.mem_singleton.mp hnew]
  · intro report hreport
    rcases List.mem_append.mp hreport with hold | hnew
    · exact (h.bounded report hold).trans hlt.le
    · rw [List.mem_singleton.mp hnew]
  · rw [List.map_append, List.pairwise_append]
    refine ⟨h.increasing, List.pairwise_singleton _ _, ?_⟩
    intro value hvalue last hlast
    obtain ⟨report, hreport, rfl⟩ := List.mem_map.mp hvalue
    rw [List.map_singleton, List.mem_singleton] at hlast
    rw [hlast]
    exact (h.bounded report hreport).trans_lt hlt

end Reported

end PrintDrop
