/-
# What a sender does

A run of `sendFile` with a record of what happens: the events, the frames it passes to
the socket and its calls of `onUploadProgress`, in their order. A text message of the
receiver is an event of its own; a listener for an acknowledgement refuses it.
-/

import PrintDrop.Math.TransitionSystem
import PrintDrop.Sender.SendFile

namespace PrintDrop.Web

open Math

universe u

inductive UploadEvent
  | sender (event : SenderEvent)
  | text (data : JsString)

namespace UploadEvent

/-- A listener of a wait is called: for a message, an error or a close, or by the timer. -/
def isReceived : UploadEvent → Bool
  | .sender (.message _) | .sender .socketError | .sender .socketClose
  | .sender .ackTimeout | .text _ => true
  | .sender .sliceRead | .sender (.sliceFailed _) | .sender .closing => false

end UploadEvent

/-- An entry of the record. -/
inductive UploadEntry
  | event (event : UploadEvent)
  | sent (message : Bytes)
  | progress (current total : ℕ)

def UploadEntry.progress? : UploadEntry → Option (ℕ × ℕ)
  | .progress current total => some (current, total)
  | .event _ | .sent _ => none

def UploadEntry.sent? : UploadEntry → Option Bytes
  | .sent message => some message
  | .event _ | .progress _ _ => none

structure Upload (η : Type u) where
  sender : Sender η
  record : List UploadEntry

variable {η : Type u} (options : SendFileOptions η)

namespace Sender

/-- `messageBytes` throws for a message that is not binary. -/
def onText (s : Sender η) : Sender η :=
  s.failWait "Receiver sent a non-binary WebSocket message"

/-- The calls of `onUploadProgress` that an acknowledgement leads to: behind a chunk, and
behind FILE_END where the file is empty. -/
def reportsOf (s : Sender η) : UploadEvent → List UploadEntry
  | .sender (.message data) =>
    match s.phase with
    | .waiting expectedType expectedReceivedBytes next =>
      match checkAck expectedType expectedReceivedBytes data, next with
      | .ok (), some offset =>
        if expectedType = MessageType.chunk then [.progress offset options.file.size] else []
      | .ok (), none => if options.file.size = 0 then [.progress 0 0] else []
      | .error _, _ => []
    | _ => []
  | _ => []

end Sender

namespace Upload

def start (readyState : ℕ) : Upload η :=
  let sender := Sender.start options readyState
  { sender, record := sender.sent.map .sent }

/-- The sender comes to its next state; what it sends comes after what it reports. -/
def step (u : Upload η) (event : UploadEvent) : Option (Upload η) :=
  let next := match event with
    | .sender event => u.sender.step options event
    | .text _ => some u.sender.onText
  next.map fun sender =>
    { sender
      record := u.record ++ .event event :: u.sender.reportsOf options event ++
        (sender.sent.drop u.sender.sent.length).map .sent }

/-- The runs of `sendFile` on a socket in a ready state. -/
def system (readyState : ℕ) : TransitionSystem (Upload η) UploadEvent where
  init := start options readyState
  step := step options

end Upload

/-- A frame and the events that came after it, up to the next frame. -/
structure Exchange where
  message : Bytes
  events : List UploadEvent

/-- An event belongs to the last frame that was sent. -/
def Exchange.note (exchanges : List Exchange) : UploadEntry → List Exchange
  | .event event =>
    match exchanges with
    | [] => []
    | last :: older => { last with events := last.events ++ [event] } :: older
  | .sent message => ⟨message, []⟩ :: exchanges
  | .progress _ _ => exchanges

/-- The exchanges of a record, the last one first. -/
def exchangesOf (record : List UploadEntry) : List Exchange :=
  record.foldl Exchange.note []

/-- The frames passed to the socket. -/
def framesOf (record : List UploadEntry) : List Bytes :=
  record.filterMap UploadEntry.sent?

/-- The values of the progress calls. -/
def progressOf (record : List UploadEntry) : List (ℕ × ℕ) :=
  record.filterMap UploadEntry.progress?

/-- The type of a frame. -/
def frameType (message : Bytes) : ℕ :=
  match decodeFrame message with
  | .ok frame => frame.type
  | .error _ => 0

/-- How much of the file the frames carry in their chunks. -/
def fileBytesIn (messages : List Bytes) : ℕ :=
  (messages.map fun message =>
    match decodeFrame message with
    | .ok frame => if frame.type = MessageType.chunk then frame.payload.length else 0
    | .error _ => 0).sum

/-- The message is an acknowledgement of a type with status OK and a byte count. -/
def Acknowledges (type count : ℕ) (data : Bytes) : Prop :=
  ∃ ack, decodeAck data = .ok ack ∧ ack.acknowledgedType = type ∧ ack.status = AckStatus.ok ∧
    ack.receivedBytes = count

/-- The first event that was received is the acknowledgement of the last frame, with the
bytes of the file sent so far. -/
def Answered : List Exchange → Prop
  | [] => False
  | last :: older => ∃ data, last.events.find? UploadEvent.isReceived =
      some (.sender (.message data)) ∧
    Acknowledges (frameType last.message) (fileBytesIn ((last :: older).map Exchange.message))
      data

end PrintDrop.Web
