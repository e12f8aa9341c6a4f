/-
# A transfer

The sender and the receiver loop, joined by a link that carries the messages of each
direction unaltered and in order until it is cut. The environment decides what happens
next: a slice is read, the socket fails, a timer fires, the receiver takes or fails to
take a frame, an acknowledgement is handed over, a direction of the link is cut and loses
what is behind the cut.
-/

import PrintDrop.Math.TransitionSystem
import PrintDrop.Sender.SendFile
import PrintDrop.Receiver.Loop
import PrintDrop.Receiver.Handler

namespace PrintDrop

open Math

universe u v w

variable {η : Type u} {σ : Type v} {τ : Type w}

/-- A pass of the loop meets this much of the link: the frame that has arrived, whether
sending succeeds, whether a message whose sending fails arrives nevertheless, and what
was put on the link. -/
structure LinkEnd where
  arrived : Option (FrameHeader × Buffer)
  sendSucceeds : Bool
  failedArrives : Bool
  sent : List Bytes

/-- The loop's access to the link: one message for each frame. -/
def linkIoOps : ReceiverLoopIoOps LinkEnd where
  receiveFrame link := (link.arrived, link)
  sendFrame link header payload :=
    match relayMessageEncode (some header) payload relayWsMessageMaxSize with
    | .error _ => (false, link)
    | .ok message =>
      if link.sendSucceeds || link.failedArrives then
        (link.sendSucceeds, { link with sent := link.sent ++ [message] })
      else (false, link)

/-- The receive handler over a logged sink. -/
abbrev LoggedHandler (σ : Type v) (τ : Type w) := Win32ReceiveHandler (σ × List SinkCall) τ

/-- The loop as the receiver's runtime sets it up: progress is what the file receiver has
received. -/
def receiverLoopOps (platform : ReceivePlatform σ τ) :
    ReceiverLoopOps (LoggedHandler σ τ) LinkEnd where
  io := linkIoOps
  handler := win32ReceiveHandlerOps platform.recorded
  progress := some fun h => h.receiver.receivedBytes

/-- The frame in a message that has arrived; none where it is malformed. -/
def arrivedFrame (message : Bytes) : Option (FrameHeader × Buffer) :=
  match relayMessageDecode (.bytes message) ⟨default, .null 0⟩ with
  | (.ok, view) => some (view.header, view.payload)
  | _ => none

/-- Both parties and the messages in flight, up to the receiver and down to the sender. -/
structure TransferState (η : Type u) (σ : Type v) (τ : Type w) where
  sender : Web.Sender η
  up : List Bytes
  upCut : Bool
  loop : ReceiverLoop (LoggedHandler σ τ) LinkEnd
  result : Option ReceiverLoopResult
  down : List Bytes
  downCut : Bool

inductive TransferAction
  | sender (event : Web.SenderEvent)
  /-- The sender is handed the next message. -/
  | deliver
  /-- The loop is handed the next message. -/
  | receive (sendSucceeds failedArrives : Bool)
  | receiveFails
  /-- Only the first `keep` messages in flight arrive, and none that is sent later. -/
  | cutUp (keep : ℕ)
  | cutDown (keep : ℕ)

/-- The parameters of a transfer: the sender's arguments, the receiver's platform, and
what its handler is initialised with. -/
structure TransferSetup (η : Type u) (σ : Type v) (τ : Type w) where
  options : Web.SendFileOptions η
  readyState : ℕ
  platform : ReceivePlatform σ τ
  root : WideString
  sink : σ
  hash : τ
  entropy : List RandomDraw

namespace TransferSetup

variable (setup : TransferSetup η σ τ)

/-- The protocol before any frame. -/
def protocol : ReceiverProtocol (LoggedHandler σ τ) :=
  receiverProtocolInit (.fresh setup.root (setup.sink, []) setup.hash setup.entropy)

def start : TransferState η σ τ where
  sender := .start setup.options setup.readyState
  up := (Web.Sender.start setup.options setup.readyState).sent
  upCut := false
  loop := receiverLoopStart (receiverLoopOps setup.platform)
    ⟨⟨none, false, false, []⟩, setup.protocol, []⟩
  result := none
  down := []
  downCut := false

/-- The sender has come to another state: what it has sent since is on the link. -/
def withSender (s : TransferState η σ τ) (sender : Web.Sender η) : TransferState η σ τ :=
  { s with
    sender := sender
    up := if s.upCut then s.up else s.up ++ sender.sent.drop s.sender.sent.length }

/-- The loop makes a pass on what has arrived. -/
def turn (s : TransferState η σ τ) (arrived : Option (FrameHeader × Buffer))
    (sendSucceeds failedArrives : Bool) : TransferState η σ τ :=
  let turned := receiverLoopTurn (receiverLoopOps setup.platform)
    { s.loop with io := ⟨arrived, sendSucceeds, failedArrives, []⟩ }
  { s with
    loop := turned.2
    result := turned.1
    down := if s.downCut then s.down else s.down ++ turned.2.io.sent }

def step (s : TransferState η σ τ) : TransferAction → Option (TransferState η σ τ)
  | .sender (.message _) => none
  | .sender event => (s.sender.step setup.options event).map (withSender s)
  | .deliver =>
    match s.down with
    | [] => none
    | message :: rest =>
      (s.sender.step setup.options (.message message)).map (withSender { s with down := rest })
  | .receive sendSucceeds failedArrives =>
    match s.result, s.up with
    | none, message :: rest =>
      some (setup.turn { s with up := rest } (arrivedFrame message) sendSucceeds failedArrives)
    | _, _ => none
  | .receiveFails =>
    match s.result with
    | none => some (setup.turn s none false false)
    | some _ => none
  | .cutUp keep => some { s with up := s.up.take keep, upCut := true }
  | .cutDown keep => some { s with down := s.down.take keep, downCut := true }

/-- The runs of a transfer. -/
def system : TransitionSystem (TransferState η σ τ) TransferAction where
  init := setup.start
  step := setup.step

end TransferSetup

end PrintDrop
