/-
# Serving a peer

The read loop and the writer goroutine that serve the connection of one peer of a bridge.
They run concurrently with each other and with those of the other peer, and a `select`
with several ready cases takes any of them, so each operation is an action of its own.
-/

import PrintDrop.Relay.Session

namespace PrintDrop.Relay

open Math

inductive MessageType
  | text
  | binary
deriving DecidableEq

structure WsMessage where
  type : MessageType
  data : Bytes
deriving DecidableEq

def maxWSMessageBytes : ℕ := 60 * 1024

/-- The message that carries these bytes through the relay. -/
abbrev binaryMessage (data : Bytes) : WsMessage := ⟨.binary, data⟩

/-- Why a read fails: the peer has closed the connection cleanly, the connection has
failed, the idle timeout has fired, or the peer's context has been cancelled. -/
inductive ReadError
  | closed
  | failed
  | idleTimeout
  | cancelled
deriving DecidableEq

/-- A read whose context ends closes the connection. -/
def ReadError.closesConnection : ReadError → Bool
  | .closed | .failed => false
  | .idleTimeout | .cancelled => true

/-- Why the read loop has returned, with the message it held. -/
inductive ReaderEnd
  | error (error : ReadError)
  | invalid (message : WsMessage)
  | done (message : Bytes)
deriving DecidableEq

/-- Where the read loop is: reading, in the `select` that sends a message on, or over. -/
inductive Reader
  | reading
  | sending (message : Bytes)
  | returned (cause : ReaderEnd)
deriving DecidableEq

/-- Where the writer goroutine is: in its `select`, writing a message, or over, with the
message whose writing failed. -/
inductive Writer
  | selecting
  | writing (message : Bytes)
  | returned (unwritten : Option Bytes)
deriving DecidableEq

/-- A message that has been read and not sent on. -/
def Reader.held : Reader → List WsMessage
  | .reading => []
  | .sending message => [binaryMessage message]
  | .returned (.error _) => []
  | .returned (.invalid message) => [message]
  | .returned (.done message) => [binaryMessage message]

/-- A message that has been received and not written. -/
def Writer.held : Writer → List Bytes
  | .selecting => []
  | .writing message => [message]
  | .returned unwritten => unwritten.toList

/-- The state of `servePeer`: the peer's own context, both loops, whether the relay has
ended the connection, and the record of what has been read from it and written to it. -/
structure Peer where
  cancelled : Bool
  reader : Reader
  writer : Writer
  ended : Bool
  read : List WsMessage
  written : List WsMessage

namespace Peer

def start : Peer where
  cancelled := false
  reader := .reading
  writer := .selecting
  ended := false
  read := []
  written := []

/-- The peer's context is done once it or the bridge's has been cancelled. -/
def done (peer : Peer) (bridge : RelayBridge) : Bool := bridge.cancelled || peer.cancelled

end Peer

/-- What the loops of a peer can do next. -/
inductive PeerAction
  | readMessage (message : WsMessage)
  | readError (error : ReadError)
  /-- The read loop's `select` sends the message on. -/
  | send
  | readerDone
  /-- The writer's `select` receives a message. -/
  | receive
  | writerDone
  | write (succeeds : Bool)

namespace Peer

/-- An error is possible: only a sender has an idle timeout, and a closed connection
cannot be closed by the peer. -/
def canFail (peer : Peer) (side : Side) (bridge : RelayBridge) : ReadError → Bool
  | .closed => !peer.ended
  | .failed => true
  | .idleTimeout => side = .sender
  | .cancelled => peer.done bridge

/-- A step of the peer `party`, which reads into the other side's channel and writes from
its own. -/
def servePeer (party : ℕ) (side : Side) (peer : Peer) (bridge : RelayBridge) :
    PeerAction → Option (Peer × RelayBridge)
  | .readMessage message =>
    if peer.reader = .reading ∧ ¬peer.ended then
      let peer := { peer with read := peer.read ++ [message] }
      if message.type ≠ .binary ∨ maxWSMessageBytes < message.data.length then
        some ({ peer with cancelled := true, reader := .returned (.invalid message) }, bridge)
      else some ({ peer with reader := .sending message.data }, bridge)
    else none
  | .readError error =>
    if peer.reader = .reading ∧ peer.canFail side bridge error then
      some ({ peer with
        cancelled := true
        reader := .returned (.error error)
        ended := peer.ended || error.closesConnection }, bridge)
    else none
  | .send =>
    match peer.reader with
    | .sending message =>
      ((bridge.channel side.other).send party message).map fun channel =>
        ({ peer with reader := .reading },
          { bridge with channel := Function.update bridge.channel side.other channel })
    | _ => none
  | .readerDone =>
    match peer.reader with
    | .sending message =>
      if peer.done bridge then
        some ({ peer with cancelled := true, reader := .returned (.done message) }, bridge)
      else none
    | _ => none
  | .receive =>
    if peer.writer = .selecting then
      ((bridge.channel side).receive party).map fun (message, channel) =>
        ({ peer with writer := .writing message },
          { bridge with channel := Function.update bridge.channel side channel })
    else none
  | .writerDone =>
    if peer.writer = .selecting ∧ peer.done bridge then
      some ({ peer with writer := .returned none }, bridge)
    else none
  | .write succeeds =>
    match peer.writer with
    | .writing message =>
      if succeeds then
        if peer.ended then none
        else
          some ({ peer with
            writer := .selecting
            written := peer.written ++ [binaryMessage message] }, bridge)
      else
        some ({ peer with
          cancelled := true
          writer := .returned (some message)
          ended := true }, bridge)
    | _ => none

end Peer

end PrintDrop.Relay
