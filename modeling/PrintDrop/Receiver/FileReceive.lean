/-
# The file receiver

`file_receive.c`: one incoming file, streamed into a sink and, when integrity is
configured, into a hash. The operation tables are parameters; every table of
the repository sets all four functions, so the checks for a missing one are left
out, as are those for a null receiver.

The functions of a table may do anything with their context. A pattern of sink
and hash failures is a choice of table and context.
-/

import PrintDrop.Wire.Frame
import PrintDrop.Wire.FileBegin

namespace PrintDrop

universe u v

inductive FileSinkStatus
  | ok
  | ioError
  deriving DecidableEq, Repr

inductive IntegrityStatus
  | ok
  | error
  deriving DecidableEq, Repr

/-- `pd_file_sink_ops` on a context of type `σ`. A write also reports how many bytes
it has written. -/
structure FileSinkOps (σ : Type u) where
  begin : σ → UInt64 → FileSinkStatus × σ
  write : σ → Bytes → (FileSinkStatus × ℕ) × σ
  commit : σ → FileSinkStatus × σ
  abort : σ → σ

/-- `pd_integrity_ops` on a context of type `τ`. Finishing also fills the digest. -/
structure IntegrityOps (τ : Type v) where
  begin : τ → IntegrityStatus × τ
  update : τ → Bytes → IntegrityStatus × τ
  finish : τ → (IntegrityStatus × Digest) × τ
  abort : τ → τ

inductive FileReceiveState
  | idle
  | receiving
  | complete
  | failed
  | aborted
  deriving DecidableEq, Repr

inductive FileReceiveResult
  | ok
  | invalidArgument
  | invalidState
  | chunkTooLarge
  | exceedsExpectedSize
  | incomplete
  | sinkError
  | integrityError
  | integrityMismatch
  deriving DecidableEq, Repr

/-- `pd_file_receiver` without its pointers. -/
structure FileReceiver where
  expectedSha256 : Digest := Vector.replicate 32 0
  expectedBytes : UInt64
  receivedBytes : UInt64 := 0
  state : FileReceiveState := .idle
  sinkStarted : Bool := false
  integrityConfigured : Bool := false
  integrityStarted : Bool := false
  deriving DecidableEq

/-- A receiver together with the two contexts its pointers lead to. -/
structure ReceiverState (σ : Type u) (τ : Type v) where
  receiver : FileReceiver
  sink : σ
  integrity : τ

variable {σ : Type u} {τ : Type v} (sinkOps : FileSinkOps σ) (integrityOps : IntegrityOps τ)

/-- `pd_file_receiver_abort_resources`: the hash is given up before the sink. -/
def fileReceiverAbortResources (m : ReceiverState σ τ) : ReceiverState σ τ :=
  let m := if m.receiver.integrityStarted then
    { m with
      integrity := integrityOps.abort m.integrity
      receiver := { m.receiver with integrityStarted := false } }
  else m
  if m.receiver.sinkStarted then
    { m with
      sink := sinkOps.abort m.sink
      receiver := { m.receiver with sinkStarted := false } }
  else m

def fileReceiverFail (m : ReceiverState σ τ) (result : FileReceiveResult) :
    FileReceiveResult × ReceiverState σ τ :=
  let m := fileReceiverAbortResources sinkOps integrityOps m
  (result, { m with receiver := { m.receiver with state := .failed } })

/-- `pd_file_receiver_init`. -/
def fileReceiverInit (expectedBytes : UInt64) : FileReceiver where
  expectedBytes := expectedBytes

/-- `pd_file_receiver_configure_integrity`. -/
def fileReceiverConfigureIntegrity (receiver : FileReceiver) (expectedSha256 : Digest) :
    FileReceiveResult × FileReceiver :=
  if receiver.state ≠ .idle ∨ receiver.sinkStarted then (.invalidState, receiver)
  else
    (.ok, { receiver with expectedSha256 := expectedSha256, integrityConfigured := true })

/-- `pd_file_receiver_begin`. A sink that does not begin is not aborted. -/
def fileReceiverBegin (m : ReceiverState σ τ) : FileReceiveResult × ReceiverState σ τ :=
  if m.receiver.state ≠ .idle then (.invalidState, m)
  else
    let begun := sinkOps.begin m.sink m.receiver.expectedBytes
    let m := { m with sink := begun.2 }
    if begun.1 ≠ .ok then
      (.sinkError, { m with receiver := { m.receiver with state := .failed } })
    else
      let m := { m with receiver := { m.receiver with sinkStarted := true } }
      if m.receiver.integrityConfigured then
        let started := integrityOps.begin m.integrity
        let m := { m with integrity := started.2 }
        if started.1 ≠ .ok then fileReceiverFail sinkOps integrityOps m .integrityError
        else
          (.ok, { m with receiver := { m.receiver with
            integrityStarted := true, state := .receiving } })
      else (.ok, { m with receiver := { m.receiver with state := .receiving } })

/-- `pd_file_receiver_write`. A chunk that would exceed the announced size is refused
without touching the sink, the hash or the state. -/
def fileReceiverWrite (m : ReceiverState σ τ) (data : Buffer) :
    FileReceiveResult × ReceiverState σ τ :=
  if data.isInvalid then (.invalidArgument, m)
  else if m.receiver.state ≠ .receiving then (.invalidState, m)
  else if data.size = 0 then (.invalidArgument, m)
  else if frameMaxPayload < data.size then (.chunkTooLarge, m)
  else
    let dataSize := UInt64.ofNat data.size
    if m.receiver.expectedBytes < m.receiver.receivedBytes ∨
        m.receiver.expectedBytes - m.receiver.receivedBytes < dataSize then
      (.exceedsExpectedSize, m)
    else
      let bytes := data.data?.getD []
      let written := sinkOps.write m.sink bytes
      let m := { m with sink := written.2 }
      if written.1.1 ≠ .ok ∨ written.1.2 ≠ data.size then
        fileReceiverFail sinkOps integrityOps m .sinkError
      else if m.receiver.integrityConfigured then
        let updated := integrityOps.update m.integrity bytes
        let m := { m with integrity := updated.2 }
        if updated.1 ≠ .ok then fileReceiverFail sinkOps integrityOps m .integrityError
        else
          (.ok, { m with receiver := { m.receiver with
            receivedBytes := m.receiver.receivedBytes + dataSize } })
      else
        (.ok, { m with receiver := { m.receiver with
          receivedBytes := m.receiver.receivedBytes + dataSize } })

/-- The end of `pd_file_receiver_finish`, once the digest is right or not asked for. -/
def fileReceiverCommit (m : ReceiverState σ τ) : FileReceiveResult × ReceiverState σ τ :=
  let committed := sinkOps.commit m.sink
  let m := { m with sink := committed.2 }
  if committed.1 ≠ .ok then fileReceiverFail sinkOps integrityOps m .sinkError
  else (.ok, { m with receiver := { m.receiver with sinkStarted := false, state := .complete } })

/-- `pd_file_receiver_finish`. A receiver that has not got all its bytes stays as it
is: receiving, with its sink and its hash open. -/
def fileReceiverFinish (m : ReceiverState σ τ) : FileReceiveResult × ReceiverState σ τ :=
  if m.receiver.state ≠ .receiving then (.invalidState, m)
  else if m.receiver.receivedBytes ≠ m.receiver.expectedBytes then (.incomplete, m)
  else if m.receiver.integrityConfigured then
    if !m.receiver.integrityStarted then
      fileReceiverFail sinkOps integrityOps m .integrityError
    else
      let finished := integrityOps.finish m.integrity
      let m := { m with integrity := finished.2 }
      if finished.1.1 ≠ .ok then fileReceiverFail sinkOps integrityOps m .integrityError
      else
        let m := { m with receiver := { m.receiver with integrityStarted := false } }
        if !digestEqual finished.1.2 m.receiver.expectedSha256 then
          let m := if m.receiver.sinkStarted then
            { m with
              sink := sinkOps.abort m.sink
              receiver := { m.receiver with sinkStarted := false } }
          else m
          (.integrityMismatch, { m with receiver := { m.receiver with state := .failed } })
        else fileReceiverCommit sinkOps integrityOps m
  else fileReceiverCommit sinkOps integrityOps m

/-- `pd_file_receiver_abort`. -/
def fileReceiverAbort (m : ReceiverState σ τ) : ReceiverState σ τ :=
  if m.receiver.state ≠ .receiving then m
  else
    let m := fileReceiverAbortResources sinkOps integrityOps m
    { m with receiver := { m.receiver with state := .aborted } }

end PrintDrop
