/-
# Transfer progress

`session.c`: the progress of one transfer as a count of its bytes and a state. The
functions get a progress that exists; their checks for a null one are left out.

The runs are all sequences of calls after the initialization, with chunks of any size.
-/

import PrintDrop.Math.Machine
import PrintDrop.Receiver.Transfer

namespace PrintDrop

open Math

inductive TransferProgressState
  | waiting
  | receiving
  | verifying
  | complete
  | failed
  deriving DecidableEq, Repr

inductive TransferResult
  | ok
  | invalidArgument
  | invalidState
  | exceedsExpectedSize
  deriving DecidableEq, Repr

structure TransferProgress where
  expectedBytes : UInt64
  receivedBytes : UInt64 := 0
  state : TransferProgressState := .waiting
  deriving DecidableEq

/-- `pd_transfer_init`. -/
def transferInit (expectedBytes : UInt64) : TransferProgress where
  expectedBytes := expectedBytes

/-- `pd_transfer_accept_chunk`. -/
def transferAcceptChunk (progress : TransferProgress) (chunkBytes : UInt64) :
    TransferResult × TransferProgress :=
  if chunkBytes = 0 then (.invalidArgument, progress)
  else if progress.state ≠ .waiting ∧ progress.state ≠ .receiving then (.invalidState, progress)
  else if progress.expectedBytes < progress.receivedBytes ∨
      progress.expectedBytes - progress.receivedBytes < chunkBytes then
    (.exceedsExpectedSize, progress)
  else
    (.ok, { progress with
      state := .receiving, receivedBytes := progress.receivedBytes + chunkBytes })

/-- `pd_transfer_begin_verification`. -/
def transferBeginVerification (progress : TransferProgress) : Bool × TransferProgress :=
  if progress.receivedBytes ≠ progress.expectedBytes then (false, progress)
  else if progress.state ≠ .waiting ∧ progress.state ≠ .receiving then (false, progress)
  else (true, { progress with state := .verifying })

/-- `pd_transfer_mark_complete`. -/
def transferMarkComplete (progress : TransferProgress) : Bool × TransferProgress :=
  if progress.state ≠ .verifying then (false, progress)
  else (true, { progress with state := .complete })

/-- `pd_transfer_mark_failed`. What is complete stays complete. -/
def transferMarkFailed (progress : TransferProgress) : TransferProgress :=
  if progress.state = .complete then progress else { progress with state := .failed }

/-- A call of a transfer's progress. -/
inductive TransferCall
  | acceptChunk (chunkBytes : UInt64)
  | beginVerification
  | markComplete
  | markFailed
  deriving DecidableEq, Repr

/-- What a call returns. -/
inductive TransferReturn
  | result (result : TransferResult)
  | flag (flag : Bool)
  | nothing
  deriving DecidableEq, Repr

/-- The progress of a transfer under all of its calls. -/
def transferMachine : Machine TransferProgress TransferCall TransferReturn where
  step progress
    | .acceptChunk chunkBytes =>
      let accepted := transferAcceptChunk progress chunkBytes
      (.result accepted.1, accepted.2)
    | .beginVerification =>
      let begun := transferBeginVerification progress
      (.flag begun.1, begun.2)
    | .markComplete =>
      let marked := transferMarkComplete progress
      (.flag marked.1, marked.2)
    | .markFailed => (.nothing, transferMarkFailed progress)

/-- The transfer may still receive. -/
def TransferProgress.Receives (progress : TransferProgress) : Prop :=
  progress.state = .waiting ∨ progress.state = .receiving

/-- What a call may do to a progress. -/
inductive TransferProgress.Changes (progress : TransferProgress) :
    TransferCall → TransferProgress → Prop
  | unchanged {call : TransferCall} : Changes progress call progress
  | accepted {chunkBytes : UInt64} (hreceives : progress.Receives)
    (hfits : progress.receivedBytes.toNat + chunkBytes.toNat ≤ progress.expectedBytes.toNat) :
    Changes progress (.acceptChunk chunkBytes) { progress with
      state := .receiving, receivedBytes := progress.receivedBytes + chunkBytes }
  | verifying (hreceives : progress.Receives)
    (hall : progress.receivedBytes = progress.expectedBytes) :
    Changes progress .beginVerification { progress with state := .verifying }
  | complete (hverifying : progress.state = .verifying) :
    Changes progress .markComplete { progress with state := .complete }
  | failed (hopen : progress.state ≠ .complete) :
    Changes progress .markFailed { progress with state := .failed }

theorem receives_iff (progress : TransferProgress) :
    progress.Receives ↔ ¬(progress.state ≠ .waiting ∧ progress.state ≠ .receiving) := by
  rw [TransferProgress.Receives, not_and_or, not_not, not_not]

theorem transferAcceptChunk_changes (progress : TransferProgress) (chunkBytes : UInt64) :
    progress.Changes (.acceptChunk chunkBytes) (transferAcceptChunk progress chunkBytes).2 := by
  unfold transferAcceptChunk
  split
  · exact .unchanged
  split
  · exact .unchanged
  rename_i hreceives
  split
  · exact .unchanged
  rename_i hfits
  exact .accepted ((receives_iff progress).mpr hreceives) (fits_of_not_exceeds hfits)

theorem transferBeginVerification_changes (progress : TransferProgress) :
    progress.Changes .beginVerification (transferBeginVerification progress).2 := by
  unfold transferBeginVerification
  split
  · exact .unchanged
  rename_i hall
  split
  · exact .unchanged
  rename_i hreceives
  exact .verifying ((receives_iff progress).mpr hreceives) (not_not.mp hall)

theorem transferMarkComplete_changes (progress : TransferProgress) :
    progress.Changes .markComplete (transferMarkComplete progress).2 := by
  unfold transferMarkComplete
  split
  · exact .unchanged
  · rename_i hverifying
    exact .complete (not_not.mp hverifying)

theorem transferMarkFailed_changes (progress : TransferProgress) :
    progress.Changes .markFailed (transferMarkFailed progress) := by
  unfold transferMarkFailed
  split
  · exact .unchanged
  · rename_i hopen
    exact .failed hopen

/-- All that a step can do. -/
theorem transferMachine_changes (progress : TransferProgress) (call : TransferCall) :
    progress.Changes call (transferMachine.step progress call).2 := by
  cases call with
  | acceptChunk chunkBytes => exact transferAcceptChunk_changes progress chunkBytes
  | beginVerification => exact transferBeginVerification_changes progress
  | markComplete => exact transferMarkComplete_changes progress
  | markFailed => exact transferMarkFailed_changes progress

/-- The count is within the announced size, and exact once the transfer is verified. -/
structure TransferProgress.Counted (expected : UInt64) (progress : TransferProgress) : Prop where
  bytes : progress.expectedBytes = expected
  bounded : progress.receivedBytes ≤ progress.expectedBytes
  all : progress.state = .verifying ∨ progress.state = .complete →
    progress.receivedBytes = progress.expectedBytes

theorem transferInit_counted (expected : UInt64) : (transferInit expected).Counted expected where
  bytes := rfl
  bounded := UInt64.zero_le
  all := by
    intro hstate
    simp [transferInit] at hstate

theorem TransferProgress.Changes.counted {progress next : TransferProgress} {call : TransferCall}
    {expected : UInt64} (hchanges : progress.Changes call next)
    (hcounted : progress.Counted expected) : next.Counted expected := by
  cases hchanges with
  | unchanged => exact hcounted
  | @accepted chunkBytes hreceives hfits =>
      refine ⟨hcounted.bytes, ?_, by rintro (hstate | hstate) <;> cases hstate⟩
      have hnext : progress.receivedBytes + chunkBytes ≤ progress.expectedBytes := by
        rw [UInt64.le_iff_toNat_le, toNat_add_of_fits hfits]
        exact hfits
      exact hnext
  | verifying hreceives hall => exact ⟨hcounted.bytes, hcounted.bounded, fun _ => hall⟩
  | complete hverifying =>
      exact ⟨hcounted.bytes, hcounted.bounded, fun _ => hcounted.all (.inl hverifying)⟩
  | failed hopen =>
      exact ⟨hcounted.bytes, hcounted.bounded, by rintro (hstate | hstate) <;> cases hstate⟩

/-- The count holds in every run. -/
theorem transferMachine_counted (expected : UInt64) (calls : List TransferCall) :
    (transferMachine.after (transferInit expected) calls).Counted expected :=
  Machine.after_invariant (fun call hcounted => (transferMachine_changes _ call).counted hcounted)
    calls (transferInit_counted expected)

/-- A transfer that is over is never changed again. -/
theorem TransferProgress.Changes.eq_of_over {progress next : TransferProgress}
    {call : TransferCall} (hchanges : progress.Changes call next)
    (hover : progress.state = .complete ∨ progress.state = .failed) : next = progress := by
  cases hchanges with
  | unchanged => rfl
  | accepted hreceives => rcases hreceives with h | h <;> simp [h] at hover
  | verifying hreceives => rcases hreceives with h | h <;> simp [h] at hover
  | complete hverifying => simp [hverifying] at hover
  | failed hopen =>
      have hfailed := hover.resolve_left hopen
      rw [← hfailed]

theorem transferMachine_after_of_over {progress : TransferProgress}
    (hover : progress.state = .complete ∨ progress.state = .failed) (calls : List TransferCall) :
    transferMachine.after progress calls = progress := by
  apply Machine.after_invariant (P := fun state => state = progress) _ calls rfl
  intro state call hsame
  rw [hsame]
  exact (transferMachine_changes progress call).eq_of_over hover

end PrintDrop
