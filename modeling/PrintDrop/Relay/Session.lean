/-
# The relay's sessions

The session table: registration, the attaching and detaching of receivers and senders,
and expiry. Records and bridges are shared by reference, so both live in lists that only
grow, and a pointer is a position. Each function runs with the server's lock held and is
one step; only the clock reading of a registration is taken before the lock.
-/

import Mathlib.Logic.Function.Basic
import PrintDrop.Math.SharedState
import PrintDrop.Wire.Bytes

namespace PrintDrop.Relay

open Math

universe u

/-- The two peers of a bridge. -/
inductive Side
  | receiver
  | sender
deriving DecidableEq

/-- The other side of a bridge. -/
def Side.other : Side → Side
  | .receiver => .sender
  | .sender => .receiver

/-- The errors of `server.go` that its handlers tell apart. -/
inductive RelayError
  | sessionNotFound
  | sessionConflict
  | receiverBusy
  | senderBusy
  | invalidSecret
deriving DecidableEq

/-- Where a timer is. -/
inductive TimerPhase
  | armed
  | stopped
  /-- The timer has fired; its function has not yet got the lock. -/
  | fired
  | done
deriving DecidableEq

/-- The timer of a record, which calls `expire` with the record and the id it keeps. -/
structure Timer where
  id : Bytes
  due : ℕ
  phase : TimerPhase

/-- Stopping a timer comes too late once it has fired. -/
def Timer.stop (timer : Timer) : Timer :=
  if timer.phase = .armed then { timer with phase := .stopped } else timer

/-- `sessionRecord`, whose `active` points to its bridge. -/
structure SessionRecord (Hash : Type u) where
  secretHash : Hash
  expiresAt : ℕ
  timer : Timer
  active : Option ℕ

/-- The record after its expiry: the timer has been stopped, the bridge let go. -/
def SessionRecord.expired {Hash : Type u} (record : SessionRecord Hash) : SessionRecord Hash :=
  { record with timer := record.timer.stop, active := none }

/-- A bridge has a channel of one message towards each side. The session it was made for
is kept for the record. -/
structure RelayBridge where
  cancelled : Bool
  channel : Side → Channel ℕ Bytes 1
  sender : Bool
  session : Bytes

namespace RelayBridge

/-- `toReceiver`. -/
abbrev toReceiver (bridge : RelayBridge) : Channel ℕ Bytes 1 := bridge.channel .receiver

/-- `toSender`. -/
abbrev toSender (bridge : RelayBridge) : Channel ℕ Bytes 1 := bridge.channel .sender

/-- `cancel` of the context of the bridge. -/
def cancel (bridge : RelayBridge) : RelayBridge := { bridge with cancelled := true }

/-- `attachSender`: the place of the sender is given once. -/
def attachSender (bridge : RelayBridge) : Bool × RelayBridge :=
  if bridge.sender then (false, bridge) else (true, { bridge with sender := true })

/-- `detachSender`: the place of the sender is free again. -/
def detachSender (bridge : RelayBridge) : RelayBridge := { bridge with sender := false }

end RelayBridge

/-- What created a record. -/
structure Registration where
  id : Bytes
  secret : Bytes
  reading : ℕ

/-- The server with the objects it shares with its handlers, and the registrations that
created the records, for the record. -/
structure RelayServer (Hash : Type u) where
  ttl : ℕ
  now : ℕ
  sessions : Bytes → Option ℕ
  records : List (SessionRecord Hash)
  bridges : List RelayBridge
  registrations : List Registration

namespace RelayServer

variable {Hash : Type u}

/-- `newRelayServer`. -/
def newRelayServer (ttl : ℕ) : RelayServer Hash where
  ttl := ttl
  now := 0
  sessions := fun _ => none
  records := []
  bridges := []
  registrations := []

/-- The record that is stored for an id, with its pointer. -/
def stored (s : RelayServer Hash) (id : Bytes) : Option (ℕ × SessionRecord Hash) :=
  (s.sessions id).bind fun pointer => (s.records[pointer]?).map (pointer, ·)

/-- A bridge is cancelled. -/
def cancel (s : RelayServer Hash) (bridge : ℕ) : RelayServer Hash :=
  { s with bridges := s.bridges.modify bridge RelayBridge.cancel }

/-- `expireLocked`: the record is forgotten, its timer stopped and its bridge cancelled. -/
def expireLocked (s : RelayServer Hash) (id : Bytes) (pointer : ℕ) : RelayServer Hash :=
  { s with
    sessions := Function.update s.sessions id none
    records := s.records.modify pointer SessionRecord.expired
    bridges :=
      match (s.records[pointer]?).bind SessionRecord.active with
      | some bridge => s.bridges.modify bridge RelayBridge.cancel
      | none => s.bridges }

/-- `expire`, which lets a newer record of the same id be. -/
def expire (s : RelayServer Hash) (id : Bytes) (expected : ℕ) : RelayServer Hash :=
  if s.sessions id = some expected then s.expireLocked id expected else s

/-- The timer of a record goes on to another phase. -/
def setTimer (s : RelayServer Hash) (pointer : ℕ) (phase : TimerPhase) : RelayServer Hash :=
  { s with records := s.records.modify pointer fun record =>
      { record with timer := { record.timer with phase := phase } } }

section Secrets

variable [DecidableEq Hash] (hash : Bytes → Hash)

/-- A new record is stored for an id, and its timer started. -/
def create (s : RelayServer Hash) (id secret : Bytes) (reading : ℕ) : RelayServer Hash :=
  { s with
    sessions := Function.update s.sessions id (some s.records.length)
    records := s.records ++
      [⟨hash secret, reading + s.ttl, ⟨id, s.now + s.ttl, .armed⟩, none⟩]
    registrations := s.registrations ++ [⟨id, secret, reading⟩] }

/-- Registers an id on a clock reading that was taken before the lock. A success says
whether the record is new. -/
def register (s : RelayServer Hash) (id secret : Bytes) (reading : ℕ) :
    Except RelayError (ℕ × Bool) × RelayServer Hash :=
  match s.stored id with
  | some (pointer, existing) =>
    if existing.expiresAt ≤ reading then
      (.ok (s.records.length, true), (s.expireLocked id pointer).create hash id secret reading)
    else if existing.secretHash ≠ hash secret then (.error .sessionConflict, s)
    else (.ok (pointer, false), s)
  | none => (.ok (s.records.length, true), s.create hash id secret reading)

/-- `attachReceiver`: a secret that matches gives a new bridge, if none is active. -/
def attachReceiver (s : RelayServer Hash) (id secret : Bytes) :
    Except RelayError ℕ × RelayServer Hash :=
  match s.stored id with
  | none => (.error .sessionNotFound, s)
  | some (pointer, record) =>
    if record.expiresAt ≤ s.now then (.error .sessionNotFound, s.expireLocked id pointer)
    else if record.secretHash ≠ hash secret then (.error .invalidSecret, s)
    else if record.active ≠ none then (.error .receiverBusy, s)
    else
      (.ok s.bridges.length, { s with
        records := s.records.modify pointer fun record =>
          { record with active := some s.bridges.length }
        bridges := s.bridges ++ [⟨false, fun _ => .empty, false, id⟩] })

end Secrets

/-- `detachReceiver`: the bridge is cancelled, and let go if the record still has it. -/
def detachReceiver (s : RelayServer Hash) (id : Bytes) (bridge : ℕ) : RelayServer Hash :=
  let detached :=
    match s.stored id with
    | some (pointer, record) =>
      if record.active = some bridge then
        { s with records := s.records.modify pointer fun record => { record with active := none } }
      else s
    | none => s
  detached.cancel bridge

/-- `attachSender`: the place on the active bridge, if there is one and it is free. -/
def attachSender (s : RelayServer Hash) (id : Bytes) : Except RelayError ℕ × RelayServer Hash :=
  match s.stored id with
  | none => (.error .sessionNotFound, s)
  | some (pointer, record) =>
    if record.expiresAt ≤ s.now then (.error .sessionNotFound, s.expireLocked id pointer)
    else
      match record.active.bind fun bridge => (s.bridges[bridge]?).map (bridge, ·) with
      | none => (.error .sessionNotFound, s)
      | some (pointer, bridge) =>
        match bridge.attachSender with
        | (false, _) => (.error .senderBusy, s)
        | (true, bridge) =>
          (.ok pointer, { s with bridges := s.bridges.modify pointer fun _ => bridge })

/-- `detachSender`, of a bridge that the handler still has. -/
def detachSender (s : RelayServer Hash) (bridge : ℕ) : RelayServer Hash :=
  { s with bridges := s.bridges.modify bridge RelayBridge.detachSender }

end RelayServer

end PrintDrop.Relay
