/-
# A transfer without faults

Where neither the link, the sender's socket and file nor anything on the receiver's
platform fails, a transfer of a file whose name can be used comes to its end: one party
is always able to go on, and every step brings the sender nearer to its last
acknowledgement.
-/

import PrintDrop.Receiver.Reliable
import PrintDrop.Sender.HashFile
import PrintDrop.Transfer.Agreement

namespace PrintDrop

open Math

universe u v w

variable {η : Type u} {σ : Type v} {τ : Type w}

section Accept

variable {platform : ReceivePlatform σ τ} {R : SinkPhase → σ → Prop} {Q : HashPhase → τ → Prop}
  {sha256 : Bytes → Digest} {file : Web.File} {digest : Bytes}
  {context : Win32ReceiveHandler σ τ}

/-- What a fresh receiver needs to accept the requests of a file. -/
structure Acceptable (sha256 : Bytes → Digest) (file : Web.File) (digest : Bytes)
    (context : Win32ReceiveHandler σ τ) : Prop where
  encodable : Web.EncodableFileBegin file.size digest file.name
  name : (sanitizedName file).result = .ok
  digest : sha256 file.content = Digest.ofBytes digest
  initialized : context.initialized = true
  entropy : (jobIdCreate context.entropy.head?.join).1 = .ok

theorem toNat_fileSize (hencodable : Web.EncodableFileBegin file.size digest file.name) :
    (declaredFile file digest).fileSize.toNat = file.size := by
  have hlt := hencodable.sizeLt
  rw [declaredFile, UInt64.toNat_ofNat']
  omega

/-- A receiver that is where a request needs it accepts the request. -/
theorem ReceiverAt.handle_ok (hplatform : platform.Reliable R Q sha256)
    (hfresh : HandlerAt R Q True .waiting context)
    (hacceptable : Acceptable sha256 file digest context) {request : Request}
    (hvalid : request.Valid file) {p : ReceiverProtocol (Win32ReceiveHandler σ τ)}
    (hp : ReceiverAt (HandlerAt R Q True) file digest (receiverProtocolInit context)
      (request.before file) p) :
    (receiverProtocolHandle (win32ReceiveHandlerOps platform) p
      (some (plainHeader request.messageType (request.payload file digest)))
      (payloadBuffer (request.payload file digest))).1 = .ok := by
  have hpayload := isInvalid_payloadBuffer (request.payload file digest)
  have hencodable := hacceptable.encodable
  cases request with
  | begin =>
      obtain rfl : p = receiverProtocolInit context := hp
      have hbegun : ((win32ReceiveHandlerOps platform).beginFile
          (receiverProtocolInit context).context (declaredFile file digest)
            ((sanitizedName file).output.getD [])).1 = true :=
        win32ReceiveBegin_ok hplatform hfresh hacceptable.initialized hacceptable.entropy _ _
      have hevent := frameEvent_begin hencodable
      rw [if_pos hacceptable.name] at hevent
      rw [receiverProtocolHandle_eq_actOn hpayload (.inl rfl)]
      change (actOn _ _ (frameEvent .waitFile _ _)).1 = _
      rw [show Request.begin.messageType = MessageType.fileBegin from rfl, hevent, actOn]
      rw [if_pos hbegun]
  | chunk offset =>
      obtain ⟨hstate, hfile, chunks, hchunks, hinv⟩ := hp
      have hcontext := hinv.receiving_context hstate
      have hevent := frameEvent_chunk hencodable hvalid
      obtain ⟨-, -, -, -, hne, hsize⟩ := frameEvent_eq_chunk_iff.mp hevent
      have hfits : chunks.flatten.length +
          (file.slice offset (Request.chunkEnd file offset)).length ≤
            p.currentFile.fileSize.toNat := by
        have hinside : offset < file.content.length := hvalid
        rw [hfile, toNat_fileSize hencodable, hchunks, Request.length_slice hvalid,
          List.length_take]
        simp only [Request.chunkEnd, Web.File.size]
        omega
      have hwritten : ((win32ReceiveHandlerOps platform).writeChunk p.context
          (file.slice offset (Request.chunkEnd file offset))).1 = true :=
        win32ReceiveChunk_ok hplatform hcontext hne hsize hfits
      rw [receiverProtocolHandle_eq_actOn hpayload (.inr hstate), hstate,
        show (Request.chunk offset).messageType = MessageType.chunk from rfl, hevent, actOn]
      rw [if_pos hwritten]
  | finish =>
      obtain ⟨hstate, hfile, chunks, hchunks, hinv⟩ := hp
      have hcontext := hinv.receiving_context hstate
      have hcontent : chunks.flatten = file.content := by
        rw [hchunks]
        exact List.take_length
      have hfinished : ((win32ReceiveHandlerOps platform).finishFile p.context).1 = true :=
        win32ReceiveFinish_ok hplatform hcontext
          (by rw [hfile, toNat_fileSize hencodable, hcontent]; rfl)
          (by rw [hfile, hcontent]; exact hacceptable.digest)
      rw [receiverProtocolHandle_eq_actOn hpayload (.inr hstate), hstate,
        show Request.finish.messageType = MessageType.fileEnd from rfl,
        frameEvent_finish hencodable, actOn]
      rw [if_pos hfinished]

/-- The receiver counts what the sender expects it to have. -/
theorem ReceiverAt.receivedBytes {request : Request} (hvalid : request.Valid file)
    {fresh p : ReceiverProtocol (Win32ReceiveHandler σ τ)}
    (hp : ReceiverAt (HandlerAt R Q True) file digest fresh (request.after file) p) :
    p.context.receiver.receivedBytes.toNat = request.expected file := by
  have hcount : ∀ {chunks : List Bytes}, HandlerInv (HandlerAt R Q True) chunks p →
      p.state = .receiving ∨ p.state = .complete →
      p.context.receiver.receivedBytes.toNat = chunks.flatten.length := by
    intro chunks hinv hstate
    rcases hstate with hreceiving | hcomplete
    · exact toNat_receivedBytes (.inl (hinv.receiving_context hreceiving))
    · exact toNat_receivedBytes (.inr (hinv.complete_context hcomplete))
  cases request with
  | begin =>
      obtain ⟨hstate, -, chunks, hchunks, hinv⟩ := hp
      rw [hcount hinv (.inl hstate), hchunks]
      rfl
  | chunk offset =>
      obtain ⟨hstate, -, chunks, hchunks, hinv⟩ := hp
      rw [hcount hinv (.inl hstate), hchunks, List.length_take]
      simp only [Request.expected, Request.chunkEnd, Web.File.size]
      omega
  | finish =>
      obtain ⟨hstate, -, chunks, hchunks, hinv⟩ := hp
      rw [hcount hinv (.inr hstate), hchunks]
      rfl

end Accept

/-! ## Runs without faults -/

/-- What has to be given for a transfer that cannot fail: an open socket, a file of a size
and a name that both sides take, the file's own digest or a hasher that computes it, and
a receiver whose random source and platform do not fail. -/
structure FaultFreeSetup (setup : TransferSetup η σ τ) (R : SinkPhase → σ → Prop)
    (Q : HashPhase → τ → Prop) (sha256 : Bytes → Digest) : Prop where
  readyState : setup.readyState = 1
  size : setup.options.file.size ≤ Web.maxSafeInteger
  nonempty : setup.options.file.name ≠ []
  noNul : (0 : UInt16) ∉ setup.options.file.name
  nameLength : (Web.textEncode setup.options.file.name).length ≤ 120
  sanitized : (sanitizedName setup.options.file).result = .ok
  given : ∀ digest ∈ setup.options.sha256Digest,
    digest = (sha256 setup.options.file.content).toList
  hasher : setup.options.sha256Digest = none → ∀ pieces : List Bytes,
    pieces.flatten = setup.options.file.content →
      setup.options.hasher.array
        (pieces.foldl setup.options.hasher.update setup.options.hasher.create) =
          (sha256 setup.options.file.content).toList
  entropy : (jobIdCreate setup.entropy.head?.join).1 = .ok
  platform : setup.platform.Reliable R Q sha256
  sink : R .idle setup.sink
  hash : Q .idle setup.hash

/-- The steps that are not faults: slices are read, messages are handed over, and sending
succeeds. -/
def FaultFree (_ : TransferState η σ τ) : TransferAction → Prop
  | .sender .sliceRead => True
  | .deliver => True
  | .receive sendSucceeds _ => sendSucceeds = true
  | _ => False

section FaultFree

variable {setup : TransferSetup η σ τ} {R : SinkPhase → σ → Prop} {Q : HashPhase → τ → Prop}
  {sha256 : Bytes → Digest}

/-- The handler's phases with the log of its sink. -/
abbrev LoggedAt (R : SinkPhase → σ → Prop) (Q : HashPhase → τ → Prop) :
    HandlerPhase → LoggedHandler σ τ → Prop :=
  HandlerAt (fun phase sink => R phase sink.1 ∧ SinkLog phase sink.2) Q True

/-- The digest the sender declares. -/
def declaredDigest (sha256 : Bytes → Digest) (setup : TransferSetup η σ τ) : Bytes :=
  (sha256 setup.options.file.content).toList

/-- A transfer without faults has an open socket and a link that is not cut. -/
structure Healthy (s : TransferState η σ τ) : Prop where
  readyState : s.sender.readyState = 1
  upCut : s.upCut = false
  downCut : s.downCut = false

/-- The receiver has this much of the file. -/
abbrev Holds (R : SinkPhase → σ → Prop) (Q : HashPhase → τ → Prop) (sha256 : Bytes → Digest)
    (setup : TransferSetup η σ τ) (progress : Progress) (s : TransferState η σ τ) : Prop :=
  ReceiverAt (LoggedAt R Q) setup.options.file (declaredDigest sha256 setup) setup.protocol
    progress s.loop.protocol

/-- A transfer without faults that has not come to its end: the sender reads, or a request
is on its way, or its answer is; or all is done. -/
inductive OnTrack (R : SinkPhase → σ → Prop) (Q : HashPhase → τ → Prop)
    (sha256 : Bytes → Digest) (setup : TransferSetup η σ τ) (s : TransferState η σ τ) : Prop
  | hashing {pieces : List Bytes} {processed : ℕ}
    (hphase : s.sender.phase = .hashing
      (pieces.foldl setup.options.hasher.update setup.options.hasher.create) processed)
    (hgiven : setup.options.sha256Digest = none)
    (hpieces : pieces.flatten = setup.options.file.content.take processed)
    (hprocessed : processed < setup.options.file.size) (hhealthy : Healthy s) (hup : s.up = [])
    (hdown : s.down = []) (hresult : s.result = none) (hreceiver : Holds R Q sha256 setup .fresh s)
  | reading {offset : ℕ} (hphase : s.sender.phase = .reading offset)
    (hoffset : offset < setup.options.file.size) (hhealthy : Healthy s) (hup : s.up = [])
    (hdown : s.down = []) (hresult : s.result = none)
    (hreceiver : Holds R Q sha256 setup (.received offset) s)
  | pending {request : Request}
    (hphase : s.sender.phase = .waiting request.type (request.expected setup.options.file)
      (request.next setup.options.file))
    (hvalid : request.Valid setup.options.file) (hhealthy : Healthy s)
    (hup : s.up = [request.message setup.options.file (declaredDigest sha256 setup)])
    (hdown : s.down = []) (hresult : s.result = none)
    (hreceiver : Holds R Q sha256 setup (request.before setup.options.file) s)
  | answered {request : Request} {count : UInt64}
    (hphase : s.sender.phase = .waiting request.type (request.expected setup.options.file)
      (request.next setup.options.file))
    (hvalid : request.Valid setup.options.file) (hhealthy : Healthy s) (hup : s.up = [])
    (hdown : s.down = [ackMessage ⟨request.messageType, AckStatus.ok, count⟩])
    (hcount : count.toNat = request.expected setup.options.file)
    (hresult : s.result =
      if request.messageType = MessageType.fileEnd then some .ok else none)
    (hreceiver : Holds R Q sha256 setup (request.after setup.options.file) s)
  | resolved (hphase : s.sender.phase = .resolved) (hup : s.up = []) (hdown : s.down = [])
    (hresult : s.result = some .ok) (hreceiver : Holds R Q sha256 setup .done s)

/-- How far the sender is from its end where it goes on. -/
def remainingFrom (setup : TransferSetup η σ τ) : Option ℕ → ℕ
  | some offset => 3 * (setup.options.file.size - offset) + 3
  | none => 0

/-- How far a transfer is from its end. -/
def remaining (setup : TransferSetup η σ τ) (s : TransferState η σ τ) : ℕ :=
  match s.sender.phase with
  | .hashing _ processed =>
    3 * setup.options.file.size + 6 + (setup.options.file.size - processed)
  | .reading offset => remainingFrom setup (some offset)
  | .waiting _ _ next => remainingFrom setup next + 1 + s.up.length
  | _ => 0

/-! ### Steps -/

theorem FaultFreeSetup.encodable (hsetup : FaultFreeSetup setup R Q sha256) :
    Web.EncodableFileBegin setup.options.file.size (declaredDigest sha256 setup)
      setup.options.file.name where
  sizeNonneg := Int.natCast_nonneg _
  sizeLt := by
    have hsize := hsetup.size
    simp only [Web.maxSafeInteger] at hsize
    omega
  digestLength := Vector.length_toList
  filenameNonempty := hsetup.nonempty
  filenameNul := hsetup.noNul
  filenameLength := hsetup.nameLength

theorem FaultFreeSetup.waiting (hsetup : FaultFreeSetup setup R Q sha256) :
    LoggedAt R Q .waiting setup.protocol.context :=
  ⟨rfl, rfl, ⟨hsetup.sink, rfl⟩, hsetup.hash⟩

theorem FaultFreeSetup.acceptable (hsetup : FaultFreeSetup setup R Q sha256) :
    Acceptable sha256 setup.options.file (declaredDigest sha256 setup)
      setup.protocol.context where
  encodable := hsetup.encodable
  name := hsetup.sanitized
  digest := (Digest.ofBytes_toList _).symm
  initialized := rfl
  entropy := hsetup.entropy

/-- The receiver's handler keeps the phases. -/
theorem FaultFreeSetup.implements (hsetup : FaultFreeSetup setup R Q sha256) :
    (win32ReceiveHandlerOps setup.platform.recorded).Implements (LoggedAt R Q) fun _ => True :=
  win32ReceiveHandlerOps_implements_leaking hsetup.platform.recorded.toImplements

section Steps

variable {s : TransferState η σ τ}

/-- On a healthy socket every request is made. -/
private theorem onTrack_requested {request : Request}
    (hvalid : request.Valid setup.options.file) (hhealthy : Healthy s) (hup : s.up = [])
    (hdown : s.down = []) (hresult : s.result = none)
    (hreceiver : Holds R Q sha256 setup (request.before setup.options.file) s) :
    OnTrack R Q sha256 setup (TransferSetup.withSender s
      (s.sender.requested setup.options.file (declaredDigest sha256 setup) request)) := by
  refine .pending rfl hvalid ⟨hhealthy.readyState, hhealthy.upCut, hhealthy.downCut⟩ ?_ hdown
    hresult hreceiver
  simp [TransferSetup.withSender, Web.Sender.requested, hup, hhealthy.upCut]

/-- A request that has just been made is one message away from its answer. -/
private theorem remaining_requested {digest : Bytes} (request : Request) (hup : s.up = []) :
    remaining setup (TransferSetup.withSender s
      (s.sender.requested setup.options.file digest request)) ≤
        remainingFrom setup (request.next setup.options.file) + 2 := by
  simp only [remaining, TransferSetup.withSender, Web.Sender.requested, hup, List.drop_left]
  split <;> simp

/-- Reading for the hash leads to more reading or to FILE_BEGIN. -/
private theorem onTrack_hashFrom (hsetup : FaultFreeSetup setup R Q sha256)
    {pieces : List Bytes} {processed : ℕ} (hgiven : setup.options.sha256Digest = none)
    (hpieces : pieces.flatten = setup.options.file.content.take processed)
    (hhealthy : Healthy s) (hup : s.up = []) (hdown : s.down = []) (hresult : s.result = none)
    (hreceiver : Holds R Q sha256 setup .fresh s) :
    OnTrack R Q sha256 setup (TransferSetup.withSender s (s.sender.hashFrom setup.options
      (pieces.foldl setup.options.hasher.update setup.options.hasher.create) processed)) ∧
    remaining setup (TransferSetup.withSender s (s.sender.hashFrom setup.options
      (pieces.foldl setup.options.hasher.update setup.options.hasher.create) processed)) ≤
        3 * setup.options.file.size + 6 + (setup.options.file.size - processed) := by
  unfold Web.Sender.hashFrom
  split
  · rename_i hprocessed
    refine ⟨.hashing rfl hgiven hpieces hprocessed
      ⟨hhealthy.readyState, hhealthy.upCut, hhealthy.downCut⟩ ?_ hdown hresult hreceiver, ?_⟩
    · simp [TransferSetup.withSender, hup]
    · simp [remaining, TransferSetup.withSender]
  · rename_i hprocessed
    have hcontent : pieces.flatten = setup.options.file.content := by
      rw [hpieces, List.take_of_length_le (not_lt.mp hprocessed)]
    have hdigest : setup.options.hasher.array
        (pieces.foldl setup.options.hasher.update setup.options.hasher.create) =
          declaredDigest sha256 setup := by
      rw [hsetup.hasher hgiven pieces hcontent, declaredDigest]
    dsimp only
    rw [hdigest, if_neg (not_not.mpr hsetup.encodable.digestLength),
      sendBegin_of_encodable s.sender hsetup.encodable,
      if_neg (not_not.mpr hhealthy.readyState)]
    refine ⟨onTrack_requested trivial hhealthy hup hdown hresult hreceiver, ?_⟩
    refine (remaining_requested .begin hup).trans ?_
    simp only [Request.next, remainingFrom]
    omega

/-- Behind an answer the sender reads on or makes its last request. -/
private theorem onTrack_sendFrom (hsetup : FaultFreeSetup setup R Q sha256) {offset : ℕ}
    (hoffset : offset ≤ setup.options.file.size) (hhealthy : Healthy s) (hup : s.up = [])
    (hdown : s.down = []) (hresult : s.result = none)
    (hreceiver : Holds R Q sha256 setup (.received offset) s) :
    OnTrack R Q sha256 setup (TransferSetup.withSender s
      (s.sender.sendFrom setup.options offset)) ∧
    remaining setup (TransferSetup.withSender s (s.sender.sendFrom setup.options offset)) ≤
      3 * (setup.options.file.size - offset) + 3 := by
  rw [sendFrom_eq s.sender hsetup.encodable]
  split
  · rename_i hinside
    refine ⟨.reading rfl hinside ⟨hhealthy.readyState, hhealthy.upCut, hhealthy.downCut⟩ ?_ hdown
      hresult hreceiver, ?_⟩
    · simp [TransferSetup.withSender, hup]
    · simp [remaining, remainingFrom, TransferSetup.withSender]
  · rename_i houtside
    rw [if_neg (not_not.mpr hhealthy.readyState)]
    obtain rfl := Nat.le_antisymm hoffset (not_lt.mp houtside)
    refine ⟨onTrack_requested trivial hhealthy hup hdown hresult hreceiver, ?_⟩
    refine (remaining_requested .finish hup).trans ?_
    simp only [Request.next, remainingFrom]
    omega

/-- A slice is read by a sender that awaits one. -/
private theorem OnTrack.sliceRead (hsetup : FaultFreeSetup setup R Q sha256)
    {sender : Web.Sender η} (hs : OnTrack R Q sha256 setup s)
    (hstep : s.sender.step setup.options .sliceRead = some sender) :
    OnTrack R Q sha256 setup (TransferSetup.withSender s sender) ∧
      remaining setup (TransferSetup.withSender s sender) < remaining setup s := by
  simp only [Web.Sender.step] at hstep
  cases hs with
  | hashing hphase hgiven hpieces hprocessed hhealthy hup hdown hresult hreceiver =>
      rename_i pieces processed
      simp only [hphase] at hstep
      obtain rfl := Option.some.inj hstep
      have hread : (pieces ++ [setup.options.file.slice processed
          (min (processed + Web.hashChunkSize) setup.options.file.size)]).flatten =
            setup.options.file.content.take
              (min (processed + Web.hashChunkSize) setup.options.file.size) := by
        rw [List.flatten_append, hpieces, List.flatten_singleton, Web.File.slice, ← List.take_add]
        congr 1
        omega
      have hnext := onTrack_hashFrom hsetup hgiven hread hhealthy hup hdown hresult hreceiver
      rw [List.foldl_append] at hnext
      refine ⟨hnext.1, hnext.2.trans_lt ?_⟩
      simp only [remaining, hphase, Web.hashChunkSize]
      omega
  | reading hphase hoffset hhealthy hup hdown hresult hreceiver =>
      rename_i offset
      simp only [hphase] at hstep
      obtain rfl := Option.some.inj hstep
      have hrequest := sendFrameAndWait_request s.sender hsetup.encodable (.chunk offset)
      simp only [Request.type, Request.payload, Request.expected, Request.next,
        Request.chunkEnd] at hrequest
      rw [hrequest, if_neg (not_not.mpr hhealthy.readyState)]
      refine ⟨onTrack_requested hoffset hhealthy hup hdown hresult hreceiver, ?_⟩
      refine (remaining_requested (.chunk offset) hup).trans_lt ?_
      simp only [remaining, remainingFrom, hphase, Request.next, Request.chunkEnd,
        Web.fileChunkSize]
      omega
  | pending hphase => simp [hphase] at hstep
  | answered hphase => simp [hphase] at hstep
  | resolved hphase => simp [hphase] at hstep

/-- The answer to a request passes the sender's checks. -/
private theorem checkAck_request {request : Request} {count : UInt64}
    (hcount : count.toNat = request.expected setup.options.file) :
    Web.Sender.checkAck request.type (request.expected setup.options.file)
      (ackMessage ⟨request.messageType, AckStatus.ok, count⟩) = .ok () := by
  have hallowed : ackTypeIsAllowed request.messageType = true :=
    request.loopShouldAck_messageType
  refine (checkAck_ackMessage hallowed (Nat.zero_le _)).mpr ⟨?_, rfl, hcount⟩
  cases request <;> rfl

/-- An answer is handed over to the sender that waits for it. -/
private theorem OnTrack.deliver (hsetup : FaultFreeSetup setup R Q sha256) {message : Bytes}
    {rest : List Bytes} (hs : OnTrack R Q sha256 setup s) (hmessage : s.down = message :: rest) :
    OnTrack R Q sha256 setup (TransferSetup.withSender { s with down := rest }
        (s.sender.onMessage setup.options message)) ∧
      remaining setup (TransferSetup.withSender { s with down := rest }
        (s.sender.onMessage setup.options message)) < remaining setup s := by
  cases hs with
  | hashing _ _ _ _ _ _ hdown => simp [hdown] at hmessage
  | reading _ _ _ _ hdown => simp [hdown] at hmessage
  | pending _ _ _ _ hdown => simp [hdown] at hmessage
  | resolved _ _ hdown => simp [hdown] at hmessage
  | answered hphase hvalid hhealthy hup hdown hcount hresult hreceiver =>
      rename_i request count
      rw [hdown, List.cons.injEq] at hmessage
      obtain ⟨rfl, rfl⟩ := hmessage
      rw [onMessage_request hphase, checkAck_request hcount]
      have hhealthy' : Healthy { s with down := [] } :=
        ⟨hhealthy.readyState, hhealthy.upCut, hhealthy.downCut⟩
      have hgoOn : ∀ {offset}, offset ≤ setup.options.file.size → s.result = none →
          Holds R Q sha256 setup (.received offset) s →
          OnTrack R Q sha256 setup (TransferSetup.withSender { s with down := [] }
            (s.sender.sendFrom setup.options offset)) ∧
          remaining setup (TransferSetup.withSender { s with down := [] }
            (s.sender.sendFrom setup.options offset)) ≤
              3 * (setup.options.file.size - offset) + 3 := by
        intro offset hoffset hrunning hholds
        exact onTrack_sendFrom hsetup hoffset hhealthy' hup rfl hrunning hholds
      cases request with
      | begin =>
          obtain ⟨hnext, hless⟩ := hgoOn (Nat.zero_le _) hresult hreceiver
          refine ⟨hnext, hless.trans_lt ?_⟩
          simp only [remaining, remainingFrom, hphase, Request.next]
          omega
      | chunk offset =>
          obtain ⟨hnext, hless⟩ := hgoOn (by simp only [Request.chunkEnd]; omega) hresult hreceiver
          refine ⟨hnext, hless.trans_lt ?_⟩
          simp only [remaining, remainingFrom, hphase, Request.next]
          omega
      | finish =>
          refine ⟨.resolved rfl ?_ rfl hresult hreceiver, ?_⟩
          · simp [Request.next, TransferSetup.withSender, hup]
          · simp [remaining, Request.next, TransferSetup.withSender, hphase]

/-- The loop takes a request and answers it. -/
private theorem OnTrack.receive (hsetup : FaultFreeSetup setup R Q sha256) {message : Bytes}
    {rest : List Bytes} (hs : OnTrack R Q sha256 setup s) (hmessage : s.up = message :: rest)
    (failedArrives : Bool) :
    OnTrack R Q sha256 setup (setup.turn { s with up := rest } (arrivedFrame message) true
        failedArrives) ∧
      remaining setup (setup.turn { s with up := rest } (arrivedFrame message) true
        failedArrives) < remaining setup s := by
  cases hs with
  | hashing _ _ _ _ _ hup => simp [hup] at hmessage
  | reading _ _ _ hup => simp [hup] at hmessage
  | answered _ _ _ hup => simp [hup] at hmessage
  | resolved _ hup => simp [hup] at hmessage
  | pending hphase hvalid hhealthy hup hdown hresult hreceiver =>
      rename_i request
      have hlength : s.up.length = 1 := by simp [hup]
      rw [hup, List.cons.injEq] at hmessage
      obtain ⟨rfl, rfl⟩ := hmessage
      rw [Request.arrivedFrame_message hsetup.encodable]
      have hok := ReceiverAt.handle_ok hsetup.platform.recorded hsetup.waiting hsetup.acceptable
        hvalid hreceiver
      have houtcome := turn_outcome setup { s with up := [] } request
        (request.payload setup.options.file (declaredDigest sha256 setup)) true failedArrives
      cases houtcome with
      | accepted hhandled hprotocol hresult' hdown' =>
          have hafter := hreceiver.accept hsetup.implements hsetup.waiting hsetup.encodable hvalid
            hhandled
          have hholds : Holds R Q sha256 setup (request.after setup.options.file)
              (setup.turn { s with up := [] } _ true failedArrives) :=
            hprotocol ▸ hafter
          refine ⟨.answered hphase hvalid ⟨hhealthy.readyState, hhealthy.upCut, hhealthy.downCut⟩
            rfl ?_ (ReceiverAt.receivedBytes hvalid hafter) hresult' hholds, ?_⟩
          · rw [hdown']
            simp [TransferState.downWith, hhealthy.downCut, hdown]
          · cases request with
            | begin | chunk offset | finish =>
                simp [remaining, TransferSetup.turn, hphase, hlength]
      | unanswered hfails => exact absurd hfails (by decide)
      | refused hhandled hnotOk =>
          rw [hhandled] at hok
          exact absurd hok hnotOk

/-- Every step that is no fault keeps the transfer on its track and brings it nearer to its
end. -/
theorem OnTrack.step (hsetup : FaultFreeSetup setup R Q sha256) {t : TransferState η σ τ}
    {action : TransferAction} (hs : OnTrack R Q sha256 setup s) (hallowed : FaultFree s action)
    (hstep : setup.step s action = some t) :
    OnTrack R Q sha256 setup t ∧ remaining setup t < remaining setup s := by
  cases action with
  | sender event =>
      cases event with
      | sliceRead =>
          obtain ⟨sender, hsender, rfl⟩ := Option.map_eq_some_iff.mp hstep
          exact hs.sliceRead hsetup hsender
      | sliceFailed | message | closing | socketError | socketClose | ackTimeout =>
          exact absurd hallowed id
  | deliver =>
      simp only [TransferSetup.step] at hstep
      split at hstep
      · cases hstep
      · rename_i message rest hmessage
        obtain rfl := Option.some.inj hstep
        exact hs.deliver hsetup hmessage
  | receive sendSucceeds failedArrives =>
      obtain rfl : sendSucceeds = true := hallowed
      simp only [TransferSetup.step] at hstep
      split at hstep
      · rename_i message rest _ hmessage
        obtain rfl := Option.some.inj hstep
        exact hs.receive hsetup hmessage failedArrives
      · cases hstep
  | receiveFails | cutUp | cutDown => exact absurd hallowed id

end Steps

/-- What a transfer has come to that succeeded: the promise has resolved, the loop has
returned OK, and the file's bytes have been written and committed. -/
structure Succeeded (setup : TransferSetup η σ τ) (s : TransferState η σ τ) : Prop where
  resolved : s.sender.phase = .resolved
  result : s.result = some .ok
  committed : ∃ chunks : List Bytes, chunks.flatten = setup.options.file.content ∧
    s.loop.protocol.context.sink.2 =
      writtenLog (UInt64.ofNat setup.options.file.size) chunks ++ [.commit .ok]

/-- The end of the track is success. -/
private theorem succeeded_of_done {s : TransferState η σ τ}
    (hphase : s.sender.phase = .resolved) (hresult : s.result = some .ok)
    (hreceiver : Holds R Q sha256 setup .done s) : Succeeded setup s := by
  obtain ⟨hcomplete, hfile, chunks, hchunks, hinv⟩ := hreceiver
  obtain ⟨-, hrep⟩ := hinv.complete_context hcomplete
  obtain ⟨⟨-, written, hwritten, hlog⟩, -⟩ := hrep.sink
  rw [hfile] at hlog
  exact ⟨hphase, hresult, written, hwritten.trans hchunks, hlog⟩

/-- Until it has succeeded, one of the parties can go on without a fault. -/
theorem OnTrack.enabled {s : TransferState η σ τ} (hs : OnTrack R Q sha256 setup s) :
    Succeeded setup s ∨
      ∃ action target, FaultFree s action ∧ setup.step s action = some target := by
  have hsome : ∀ {action}, FaultFree s action → (setup.step s action).isSome →
      ∃ action target, FaultFree s action ∧ setup.step s action = some target :=
    fun hallowed htaken => ⟨_, _, hallowed, Option.eq_some_of_isSome htaken⟩
  cases hs with
  | hashing hphase =>
      have hallowed : FaultFree s (.sender .sliceRead) := trivial
      exact .inr (hsome hallowed (by simp [TransferSetup.step, Web.Sender.step, hphase]))
  | reading hphase =>
      have hallowed : FaultFree s (.sender .sliceRead) := trivial
      exact .inr (hsome hallowed (by simp [TransferSetup.step, Web.Sender.step, hphase]))
  | pending _ _ _ hup _ hresult =>
      have hallowed : FaultFree s (.receive true false) := rfl
      exact .inr (hsome hallowed (by simp [TransferSetup.step, hresult, hup]))
  | answered _ _ _ _ hdown =>
      have hallowed : FaultFree s .deliver := trivial
      exact .inr (hsome hallowed (by simp [TransferSetup.step, Web.Sender.step, hdown]))
  | resolved hphase _ _ hresult hreceiver =>
      exact .inl (succeeded_of_done hphase hresult hreceiver)

/-- A sender that starts on a usable file is on the track. -/
theorem onTrack_start (hsetup : FaultFreeSetup setup R Q sha256) :
    OnTrack R Q sha256 setup setup.start := by
  have hhealthy : Healthy { setup.start with sender := uncheckedSender setup, up := [] } :=
    ⟨hsetup.readyState, rfl, rfl⟩
  rw [start_eq_withSender, Web.Sender.start, if_neg (not_lt.mpr hsetup.size),
    if_neg (not_not.mpr hsetup.readyState)]
  cases hgiven : setup.options.sha256Digest with
  | none =>
      have hnone : ([] : List Bytes).flatten = setup.options.file.content.take 0 := rfl
      exact (onTrack_hashFrom hsetup hgiven hnone hhealthy rfl rfl rfl rfl).1
  | some digest =>
      obtain rfl : digest = declaredDigest sha256 setup := hsetup.given digest hgiven
      dsimp only
      rw [if_neg (not_not.mpr hsetup.encodable.digestLength),
        sendBegin_of_encodable _ hsetup.encodable, if_neg (not_not.mpr hsetup.readyState)]
      exact onTrack_requested trivial hhealthy rfl rfl rfl rfl

/-- An acknowledgement on its way passes the checks of a sender that waits for it. -/
private theorem OnTrack.checkAck {s : TransferState η σ τ} (hs : OnTrack R Q sha256 setup s)
    {message : Bytes} {rest : List Bytes} (hmessage : s.down = message :: rest) :
    ∃ expectedType expectedReceivedBytes next,
      s.sender.phase = .waiting expectedType expectedReceivedBytes next ∧
        Web.Sender.checkAck expectedType expectedReceivedBytes message = .ok () := by
  cases hs with
  | hashing _ _ _ _ _ _ hdown => simp [hdown] at hmessage
  | reading _ _ _ _ hdown => simp [hdown] at hmessage
  | pending _ _ _ _ hdown => simp [hdown] at hmessage
  | resolved _ _ hdown => simp [hdown] at hmessage
  | answered hphase _ _ _ hdown hcount =>
      rw [hdown, List.cons.injEq] at hmessage
      rw [← hmessage.1]
      exact ⟨_, _, _, hphase, checkAck_request hcount⟩

/-- **Success.** Without faults a transfer succeeds, whatever the order of its steps: it is
never stuck, every acknowledgement passes the sender's checks, and after finitely many
steps the promise has resolved, the loop has returned OK, and the file's bytes have been
committed. -/
theorem sendFile_succeeds (setup : TransferSetup η σ τ)
    (hsetup : FaultFreeSetup setup R Q sha256) :
    setup.system.Inevitable FaultFree (Succeeded setup) setup.start ∧
      ∀ s, setup.system.RunWithin FaultFree s → ∀ message rest, s.down = message :: rest →
        ∃ expectedType expectedReceivedBytes next,
          s.sender.phase = .waiting expectedType expectedReceivedBytes next ∧
            Web.Sender.checkAck expectedType expectedReceivedBytes message = .ok () := by
  have hstart := onTrack_start hsetup
  refine ⟨TransitionSystem.Inevitable.of_measure (P := OnTrack R Q sha256 setup) (remaining setup)
    OnTrack.enabled (fun hs hallowed hstep => hs.step hsetup hallowed hstep) hstart, ?_⟩
  intro s hrun message rest hmessage
  have hs : OnTrack R Q sha256 setup s :=
    hrun.invariant (P := OnTrack R Q sha256 setup) hstart
      fun _ hs hallowed hstep => (hs.step hsetup hallowed hstep).1
  exact hs.checkAck hmessage

/-- Nothing fails on the smooth platform. -/
theorem smoothPlatform_reliable : smoothPlatform.Reliable (fun _ _ => True) (fun _ _ => True)
    (fun _ => oneByteDigest) where
  toImplements := ⟨FileSinkOps.implements_trivial _, by constructor <;> (intros; trivial),
    fun _ => trivial, fun _ => trivial⟩
  sinkInit _ := rfl
  sinkBegin _ := rfl
  sinkWrite _ := rfl
  sinkCommit _ := rfl
  hashBegin _ := rfl
  hashUpdate _ := rfl
  hashFinish _ := rfl

/-- The smooth transfer cannot fail. -/
theorem smoothTransfer_faultFree :
    FaultFreeSetup smoothTransfer (fun _ _ => True) (fun _ _ => True) fun _ => oneByteDigest where
  readyState := rfl
  size := by decide
  nonempty := by decide
  noNul := by decide
  nameLength := by decide
  sanitized := by decide
  given := by
    intro digest hgiven
    exact (Option.some.inj hgiven).symm
  hasher := by
    intro hgiven
    cases hgiven
  entropy := rfl
  platform := smoothPlatform_reliable
  sink := trivial
  hash := trivial

/-- The smooth transfer with the incremental hasher, and without a digest. -/
def hashedTransfer : TransferSetup Web.IncrementalSha256 Unit Unit where
  options := {
    file := smoothTransfer.options.file
    hasher := Web.incrementalHasher
    sha256Digest := none }
  readyState := 1
  platform := smoothPlatform
  root := smoothTransfer.root
  sink := ()
  hash := ()
  entropy := smoothTransfer.entropy

/-- It cannot fail either, as the hasher computes the digest of the file. -/
theorem hashedTransfer_faultFree :
    FaultFreeSetup hashedTransfer (fun _ _ => True) (fun _ _ => True) fun _ => oneByteDigest where
  readyState := rfl
  size := by decide
  nonempty := by decide
  noNul := by decide
  nameLength := by decide
  sanitized := by decide
  given := by
    intro digest hgiven
    cases hgiven
  hasher := by
    intro _ pieces hpieces
    have hdigest : Sha256.hash hashedTransfer.options.file.content = oneByteDigest.toList := by
      decide +kernel
    rw [← hdigest]
    exact Web.incrementalHasher_array hpieces (by decide)
  entropy := rfl
  platform := smoothPlatform_reliable
  sink := trivial
  hash := trivial

/-- Neither transfer can fail, so both succeed. -/
theorem smoothTransfer_succeeds :
    (smoothTransfer.system.Inevitable FaultFree (Succeeded smoothTransfer) smoothTransfer.start ∧
      ∀ s, smoothTransfer.system.RunWithin FaultFree s → ∀ message rest,
        s.down = message :: rest → ∃ expectedType expectedReceivedBytes next,
          s.sender.phase = .waiting expectedType expectedReceivedBytes next ∧
            Web.Sender.checkAck expectedType expectedReceivedBytes message = .ok ()) ∧
      hashedTransfer.system.Inevitable FaultFree (Succeeded hashedTransfer) hashedTransfer.start :=
  ⟨sendFile_succeeds smoothTransfer smoothTransfer_faultFree,
    (sendFile_succeeds hashedTransfer hashedTransfer_faultFree).1⟩

end FaultFree

end PrintDrop
