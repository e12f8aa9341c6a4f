/-
# The relay

The server with any number of receiver and sender handlers that run concurrently. The
environment decides who takes the next step: a request arrives, a connection is accepted
or fails, a peer is served, a handler makes its next deferred call, a timer fires, time
passes.
-/

import PrintDrop.Math.TransitionSystem
import PrintDrop.Relay.Peer

namespace PrintDrop.Relay

open Math

universe u

variable {Hash : Type u}

/-- Where a handler is: accepting its connection, without one, serving its peer, or past
that and on its deferred calls. -/
inductive HandlerPhase
  | accepting
  | refused
  | serving
  /-- A sender has called `detachSender` and not yet the bridge's `cancel`. -/
  | detached
  /-- Only the connection remains to be closed. -/
  | released
  | returned
deriving DecidableEq

/-- Where a handler comes to when it has let go of its bridge. -/
def Side.left : Side → HandlerPhase
  | .receiver => .released
  | .sender => .detached

/-- A handler that has attached itself to a bridge. -/
structure Handler where
  side : Side
  id : Bytes
  bridge : ℕ
  phase : HandlerPhase
  peer : Peer

/-- The handler has had a connection. -/
def Handler.connected (handler : Handler) : Bool :=
  handler.phase ≠ .accepting ∧ handler.phase ≠ .refused

structure RelayState (Hash : Type u) where
  server : RelayServer Hash
  handlers : List Handler

inductive RelayAction
  | tick (elapsed : ℕ)
  | register (id secret : Bytes) (reading : ℕ)
  | attachReceiver (id secret : Bytes)
  | attachSender (id : Bytes)
  | accept (handler : ℕ) (succeeds : Bool)
  | serve (handler : ℕ) (action : PeerAction)
  /-- A handler whose read loop has returned makes its next deferred call. -/
  | deferred (handler : ℕ)
  | timerFires (record : ℕ)
  /-- The function of a timer that has fired gets the lock. -/
  | expire (record : ℕ)

namespace RelayState

/-- The state after the attaching of a handler, which was granted a bridge or not. -/
def attached (s : RelayState Hash) (side : Side) (id : Bytes) :
    Except RelayError ℕ × RelayServer Hash → RelayState Hash
  | (.ok bridge, server) =>
    ⟨server, s.handlers ++ [⟨side, id, bridge, .accepting, .start⟩]⟩
  | (.error _, server) => ⟨server, s.handlers⟩

def setPhase (s : RelayState Hash) (handler : ℕ) (phase : HandlerPhase) : RelayState Hash :=
  { s with handlers := s.handlers.modify handler fun before => { before with phase := phase } }

/-- A handler lets go of its bridge. -/
def detach (s : RelayState Hash) (handler : Handler) : RelayState Hash :=
  match handler.side with
  | .receiver => { s with server := s.server.detachReceiver handler.id handler.bridge }
  | .sender => { s with server := s.server.detachSender handler.bridge }

def accept (s : RelayState Hash) (pointer : ℕ) (succeeds : Bool) : Option (RelayState Hash) :=
  match s.handlers[pointer]? with
  | none => none
  | some handler =>
    if handler.phase ≠ .accepting then none
    else if succeeds then some (s.setPhase pointer .serving)
    else some ((s.detach handler).setPhase pointer .refused)

def serve (s : RelayState Hash) (pointer : ℕ) (action : PeerAction) :
    Option (RelayState Hash) :=
  match s.handlers[pointer]? with
  | none => none
  | some handler =>
    match s.server.bridges[handler.bridge]? with
    | none => none
    | some bridge =>
      if handler.connected then
        (handler.peer.servePeer pointer handler.side bridge action).map fun (peer, bridge) =>
          { server := { s.server with
              bridges := s.server.bridges.modify handler.bridge fun _ => bridge }
            handlers := s.handlers.modify pointer fun before => { before with peer := peer } }
      else none

def deferred (s : RelayState Hash) (pointer : ℕ) : Option (RelayState Hash) :=
  match s.handlers[pointer]? with
  | none => none
  | some handler =>
    match handler.phase, handler.peer.reader with
    | .serving, .returned _ =>
      some ((s.detach handler).setPhase pointer handler.side.left)
    | .detached, _ =>
      some (({ s with server := s.server.cancel handler.bridge }).setPhase pointer .released)
    | .released, _ =>
      some { s with handlers := s.handlers.modify pointer fun before =>
        { before with phase := .returned, peer := { before.peer with ended := true } } }
    | _, _ => none

def timerFires (s : RelayState Hash) (pointer : ℕ) : Option (RelayState Hash) :=
  match s.server.records[pointer]? with
  | none => none
  | some record =>
    if record.timer.phase = .armed ∧ record.timer.due ≤ s.server.now then
      some { s with server := s.server.setTimer pointer .fired }
    else none

def expire (s : RelayState Hash) (pointer : ℕ) : Option (RelayState Hash) :=
  match s.server.records[pointer]? with
  | none => none
  | some record =>
    if record.timer.phase = .fired then
      some { s with server :=
        (s.server.setTimer pointer .done).expire record.timer.id pointer }
    else none

end RelayState

section System

variable [DecidableEq Hash] (hash : Bytes → Hash)

def step (s : RelayState Hash) : RelayAction → Option (RelayState Hash)
  | .tick elapsed => some { s with server := { s.server with now := s.server.now + elapsed } }
  | .register id secret reading =>
    if reading ≤ s.server.now then
      some { s with server := (s.server.register hash id secret reading).2 }
    else none
  | .attachReceiver id secret =>
    some (s.attached .receiver id (s.server.attachReceiver hash id secret))
  | .attachSender id => some (s.attached .sender id (s.server.attachSender id))
  | .accept handler succeeds => s.accept handler succeeds
  | .serve handler action => s.serve handler action
  | .deferred handler => s.deferred handler
  | .timerFires record => s.timerFires record
  | .expire record => s.expire record

/-- The runs of a relay whose sessions live for `ttl`. -/
def system (ttl : ℕ) : TransitionSystem (RelayState Hash) RelayAction where
  init := ⟨.newRelayServer ttl, []⟩
  step := step hash

end System

end PrintDrop.Relay
