/-
# The sender

`sendFile` of `web/sender.js` with `hashFileIncremental`, `sendFrameAndWait` and
`waitForAck`. An asynchronous function is a state machine here: a state for every
`await` that can take time, and a step for every event that can settle it.

A message's listener reads its data without giving way to other events, which is how a
socket with `binaryType` `arraybuffer` behaves, and the progress callbacks return
normally. A file's slices hold its bytes; reading one may fail.
-/

import PrintDrop.Wire.WebProtocol

namespace PrintDrop.Web

universe u

/-- `Number.MAX_SAFE_INTEGER`. -/
def maxSafeInteger : ℕ := 2 ^ 53 - 1

def hashChunkSize : ℕ := 1024 * 1024

/-- A `File`. -/
structure File where
  name : JsString
  content : Bytes

namespace File

def size (file : File) : ℕ := file.content.length

/-- The bytes of `slice(first, last)`. -/
def slice (file : File) (first last : ℕ) : Bytes := (file.content.drop first).take (last - first)

end File

/-- What `hasherFactory` returns, as functions of the hasher's state. -/
structure Hasher (η : Type u) where
  create : η
  update : η → Bytes → η
  array : η → Bytes

/-- The arguments of `sendFile`. -/
structure SendFileOptions (η : Type u) where
  file : File
  hasher : Hasher η
  sha256Digest : Option Bytes

/-- Where `sendFile` is: reading for the hash, reading for a chunk, waiting for an
acknowledgement or done. Behind an acknowledgement it goes on from the offset `next`, or
it resolves. -/
inductive SenderPhase (η : Type u)
  | hashing (hasher : η) (processed : ℕ)
  | reading (offset : ℕ)
  | waiting (expectedType expectedReceivedBytes : ℕ) (next : Option ℕ)
  | resolved
  | rejected (error : JsError)

/-- Whether the promise has resolved can be evaluated. -/
instance {η : Type u} : (phase : SenderPhase η) → Decidable (phase = .resolved)
  | .resolved => isTrue rfl
  | .hashing _ _ | .reading _ | .waiting _ _ _ | .rejected _ => isFalse nofun

/-- The state of `sendFile` and of its socket, with the messages sent so far. -/
structure Sender (η : Type u) where
  phase : SenderPhase η
  readyState : ℕ
  sent : List Bytes

variable {η : Type u} (options : SendFileOptions η)

namespace Sender

def reject (s : Sender η) (error : JsError) : Sender η := { s with phase := .rejected error }

/-- `sendFrameAndWait` up to its `await`. -/
def sendFrameAndWait (s : Sender η) (type : ℕ) (payload : Bytes) (expectedReceivedBytes : ℕ)
    (next : Option ℕ) : Sender η :=
  if s.readyState ≠ 1 then s.reject ⟨.error, "WebSocket is not connected"⟩
  else
    match encodeFrame type payload with
    | .error error => s.reject error
    | .ok message =>
      { s with phase := .waiting type expectedReceivedBytes next, sent := s.sent ++ [message] }

/-- The head of the loop over the chunks, and FILE_END behind it. -/
def sendFrom (s : Sender η) (offset : ℕ) : Sender η :=
  if offset < options.file.size then { s with phase := .reading offset }
  else s.sendFrameAndWait MessageType.fileEnd [] options.file.size none

/-- What follows the digest. -/
def sendBegin (s : Sender η) (digest : Bytes) : Sender η :=
  match encodeFileBegin options.file.size digest options.file.name with
  | .error error => s.reject error
  | .ok payload => s.sendFrameAndWait MessageType.fileBegin payload 0 (some 0)

/-- The head of the loop of `hashFileIncremental`, and the digest behind it. -/
def hashFrom (s : Sender η) (hasher : η) (processed : ℕ) : Sender η :=
  if processed < options.file.size then { s with phase := .hashing hasher processed }
  else
    let digest := options.hasher.array hasher
    if digest.length ≠ 32 then
      s.reject ⟨.error, "SHA-256 implementation returned an invalid digest"⟩
    else s.sendBegin options digest

/-- `sendFile` up to its first `await`, on a socket in a ready state. -/
def start (readyState : ℕ) : Sender η :=
  let s : Sender η := ⟨.hashing options.hasher.create 0, readyState, []⟩
  if maxSafeInteger < options.file.size then s.reject ⟨.typeError, "invalid file"⟩
  else if readyState ≠ 1 then s.reject ⟨.error, "WebSocket is not connected"⟩
  else
    match options.sha256Digest with
    | none => s.hashFrom options options.hasher.create 0
    | some digest =>
      if digest.length ≠ 32 then s.reject ⟨.typeError, "invalid SHA-256 digest"⟩
      else s.sendBegin options digest

end Sender

/-- What can happen to a running `sendFile`. -/
inductive SenderEvent
  /-- The slice that is being read has its bytes. -/
  | sliceRead
  | sliceFailed (error : JsError)
  | message (data : Bytes)
  /-- The socket leaves the state OPEN without an event. -/
  | closing
  | socketError
  | socketClose
  | ackTimeout

namespace Sender

/-- An acknowledgement passes the checks of `waitForAck` and `sendFrameAndWait`, or fails
one of them. -/
def checkAck (expectedType expectedReceivedBytes : ℕ) (data : Bytes) : Except JsError Unit := do
  let ack ← decodeAck data
  if ack.acknowledgedType ≠ expectedType then
    .error ⟨.error, "Receiver ACK does not match the sent frame"⟩
  else if ack.status ≠ AckStatus.ok then
    .error ⟨.error, "Receiver rejected transfer with status " ++ toString ack.status⟩
  else if ack.receivedBytes ≠ expectedReceivedBytes then
    .error ⟨.error, "Receiver byte count does not match sender progress"⟩
  else .ok ()

/-- A message of the receiver. Without a listener it is dropped. -/
def onMessage (s : Sender η) (data : Bytes) : Sender η :=
  match s.phase with
  | .waiting expectedType expectedReceivedBytes next =>
    match checkAck expectedType expectedReceivedBytes data with
    | .error error => s.reject error
    | .ok () =>
      match next with
      | some offset => s.sendFrom options offset
      | none => { s with phase := .resolved }
  | _ => s

/-- Only a sender that waits for an acknowledgement listens to its socket. -/
def failWait (s : Sender η) (message : String) : Sender η :=
  match s.phase with
  | .waiting _ _ _ => s.reject ⟨.error, message⟩
  | _ => s

/-- A slice is read by a sender that awaits one, and the timer runs only in a wait. -/
def step (s : Sender η) : SenderEvent → Option (Sender η)
  | .sliceRead =>
    match s.phase with
    | .hashing hasher processed =>
      let last := min (processed + hashChunkSize) options.file.size
      some (s.hashFrom options
        (options.hasher.update hasher (options.file.slice processed last)) last)
    | .reading offset =>
      let last := min (offset + fileChunkSize) options.file.size
      some (s.sendFrameAndWait MessageType.chunk (options.file.slice offset last) last
        (some last))
    | _ => none
  | .sliceFailed error =>
    match s.phase with
    | .hashing _ _ | .reading _ => some (s.reject error)
    | _ => none
  | .message data => some (s.onMessage options data)
  | .closing => some { s with readyState := 2 }
  | .socketError => some (s.failWait "Network error while waiting for receiver ACK")
  | .socketClose =>
    some (failWait { s with readyState := 3 } "Receiver disconnected during transfer")
  | .ackTimeout =>
    match s.phase with
    | .waiting _ _ _ => some (s.failWait "Timed out waiting for receiver ACK")
    | _ => none

variable {options}

theorem sent_sendFrameAndWait (s : Sender η) (type : ℕ) (payload : Bytes)
    (expectedReceivedBytes : ℕ) (next : Option ℕ) :
    s.sent <+: (s.sendFrameAndWait type payload expectedReceivedBytes next).sent := by
  unfold sendFrameAndWait
  split
  · exact List.prefix_rfl
  split
  · exact List.prefix_rfl
  · apply List.prefix_append

theorem sent_sendFrom (s : Sender η) (offset : ℕ) :
    s.sent <+: (s.sendFrom options offset).sent := by
  unfold sendFrom
  split
  · exact List.prefix_rfl
  · apply sent_sendFrameAndWait

theorem sent_sendBegin (s : Sender η) (digest : Bytes) :
    s.sent <+: (s.sendBegin options digest).sent := by
  unfold sendBegin
  split
  · exact List.prefix_rfl
  · apply sent_sendFrameAndWait

theorem sent_hashFrom (s : Sender η) (hasher : η) (processed : ℕ) :
    s.sent <+: (s.hashFrom options hasher processed).sent := by
  unfold hashFrom
  split
  · exact List.prefix_rfl
  dsimp only
  split
  · exact List.prefix_rfl
  · apply sent_sendBegin

theorem sent_onMessage (s : Sender η) (data : Bytes) :
    s.sent <+: (s.onMessage options data).sent := by
  unfold onMessage
  split
  · split
    · exact List.prefix_rfl
    split
    · apply sent_sendFrom
    · exact List.prefix_rfl
  · exact List.prefix_rfl

@[simp]
theorem sent_failWait (s : Sender η) (message : String) : (s.failWait message).sent = s.sent := by
  unfold failWait
  split <;> rfl

/-- What has been sent is never taken back. -/
theorem sent_step {s next : Sender η} {event : SenderEvent}
    (hstep : s.step options event = some next) : s.sent <+: next.sent := by
  cases event with
  | sliceRead =>
      simp only [step] at hstep
      split at hstep
      · obtain rfl := Option.some.inj hstep
        apply sent_hashFrom
      · obtain rfl := Option.some.inj hstep
        apply sent_sendFrameAndWait
      · cases hstep
  | sliceFailed error =>
      simp only [step] at hstep
      split at hstep
      · obtain rfl := Option.some.inj hstep
        exact List.prefix_rfl
      · obtain rfl := Option.some.inj hstep
        exact List.prefix_rfl
      · cases hstep
  | message data =>
      obtain rfl := Option.some.inj hstep
      apply sent_onMessage
  | closing =>
      obtain rfl := Option.some.inj hstep
      exact List.prefix_rfl
  | socketError =>
      obtain rfl := Option.some.inj hstep
      simp [sent_failWait]
  | socketClose =>
      obtain rfl := Option.some.inj hstep
      simp [sent_failWait]
  | ackTimeout =>
      simp only [step] at hstep
      split at hstep
      · obtain rfl := Option.some.inj hstep
        simp [sent_failWait]
      · cases hstep

end Sender

end PrintDrop.Web
