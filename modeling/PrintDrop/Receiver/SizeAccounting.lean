/-
# Two accounts of one size

A file of a known size is counted in by a file receiver and by a transfer's progress. Each
of them is an implementation of one account that counts without bounds; so on the same
writes and attempts to finish they accept the same and count the same.
-/

import PrintDrop.Receiver.TransferProgress
import PrintDrop.Receiver.Reliable
import PrintDrop.Receiver.Calls

namespace PrintDrop

open Math

universe u v

/-- Data of a size that one write may have. -/
abbrev ReceiveChunk : Type :=
  { data : Bytes // 0 < data.length ∧ data.length ≤ frameMaxPayload }

/-- What is asked of both. -/
inductive SizeStep
  | write (chunk : ReceiveChunk)
  | finish

/-- What is compared after every step. -/
structure SizeReport where
  accepted : Bool
  expectedBytes : ℕ
  receivedBytes : ℕ
  complete : Bool
  deriving DecidableEq, Repr

/-- A file that is counted in. -/
structure SizeAccount where
  received : ℕ := 0
  complete : Bool := false

/-- A write is taken while the file is open and the data fits; the file is closed once,
with all of its bytes. -/
def SizeAccount.step (expected : ℕ) (account : SizeAccount) : SizeStep → Bool × SizeAccount
  | .write chunk =>
    if account.complete = false ∧ account.received + chunk.1.length ≤ expected then
      (true, { account with received := account.received + chunk.1.length })
    else (false, account)
  | .finish =>
    if account.complete = false ∧ account.received = expected then
      (true, { account with complete := true })
    else (false, account)

def accountMachine (expected : ℕ) : Machine SizeAccount SizeStep SizeReport where
  step account step :=
    let next := account.step expected step
    (⟨next.1, expected, next.2.received, next.2.complete⟩, next.2)

section Machines

variable {σ : Type u} {τ : Type v} (sinkOps : FileSinkOps σ) (integrityOps : IntegrityOps τ)

/-- A step of a file receiver. -/
def fileReceiverStep (m : ReceiverState σ τ) :
    SizeStep → FileReceiveResult × ReceiverState σ τ
  | .write chunk => fileReceiverWrite sinkOps integrityOps m (.bytes chunk.1)
  | .finish => fileReceiverFinish sinkOps integrityOps m

def fileReceiverMachine : Machine (ReceiverState σ τ) SizeStep SizeReport where
  step m step :=
    let next := fileReceiverStep sinkOps integrityOps m step
    (⟨next.1 = .ok, next.2.receiver.expectedBytes.toNat, next.2.receiver.receivedBytes.toNat,
      next.2.receiver.state = .complete⟩, next.2)

/-- To finish a transfer's progress is to verify it and then to mark it complete. -/
def transferFinish (progress : TransferProgress) : Bool × TransferProgress :=
  let begun := transferBeginVerification progress
  if begun.1 then transferMarkComplete begun.2 else (false, begun.2)

/-- A step of a transfer's progress. -/
def transferStep (progress : TransferProgress) : SizeStep → Bool × TransferProgress
  | .write chunk =>
    let accepted := transferAcceptChunk progress (UInt64.ofNat chunk.1.length)
    (accepted.1 = .ok, accepted.2)
  | .finish => transferFinish progress

def transferSizeMachine : Machine TransferProgress SizeStep SizeReport where
  step progress step :=
    let next := transferStep progress step
    (⟨next.1, next.2.expectedBytes.toNat, next.2.receivedBytes.toNat,
      next.2.state = .complete⟩, next.2)

end Machines

/-- A progress that stands for an account. -/
structure ProgressCounts (expected : UInt64) (progress : TransferProgress)
    (account : SizeAccount) : Prop where
  bytes : progress.expectedBytes = expected
  received : progress.receivedBytes.toNat = account.received
  bounded : account.received ≤ expected.toNat
  receives : account.complete = false → progress.Receives
  complete : account.complete = true → progress.state = .complete

theorem transferInit_counts (expected : UInt64) :
    ProgressCounts expected (transferInit expected) {} where
  bytes := rfl
  received := rfl
  bounded := Nat.zero_le _
  receives _ := .inl rfl
  complete h := absurd h (by decide)

/-- The size of a chunk fits the counter, and is not zero. -/
theorem ReceiveChunk.toNat_length (chunk : ReceiveChunk) :
    (UInt64.ofNat chunk.1.length).toNat = chunk.1.length :=
  toNat_ofNat_of_le_frameMaxPayload chunk.2.2

theorem ReceiveChunk.length_ne_zero (chunk : ReceiveChunk) :
    UInt64.ofNat chunk.1.length ≠ 0 := by
  intro hzero
  have hlength := chunk.toNat_length
  rw [hzero] at hlength
  exact absurd hlength (ne_of_lt chunk.2.1)

section Progress

variable {expected : UInt64} {progress : TransferProgress} {account : SizeAccount}

/-- An open progress is not complete. -/
theorem TransferProgress.Receives.ne_complete (hreceives : progress.Receives) :
    progress.state ≠ .complete := by
  rcases hreceives with h | h <;> simp [h]

/-- A progress accepts what fits its account. -/
theorem transferAcceptChunk_eq_ok (hcounts : ProgressCounts expected progress account)
    (chunk : ReceiveChunk) (hopen : account.complete = false)
    (hfits : account.received + chunk.1.length ≤ expected.toNat) :
    transferAcceptChunk progress (UInt64.ofNat chunk.1.length) =
      (.ok, { progress with
        state := .receiving
        receivedBytes := progress.receivedBytes + UInt64.ofNat chunk.1.length }) := by
  have hroom : ¬(progress.expectedBytes < progress.receivedBytes ∨
      progress.expectedBytes - progress.receivedBytes < UInt64.ofNat chunk.1.length) := by
    rw [hcounts.bytes, exceeds_iff (by rw [hcounts.received]; exact hcounts.bounded),
      hcounts.received, chunk.toNat_length]
    exact not_lt.mpr hfits
  rw [transferAcceptChunk, if_neg chunk.length_ne_zero,
    if_neg ((receives_iff progress).mp (hcounts.receives hopen)), if_neg hroom]

/-- What it refuses leaves it as it is. -/
theorem transferAcceptChunk_of_not (hcounts : ProgressCounts expected progress account)
    (chunk : ReceiveChunk)
    (hrefused : ¬(account.complete = false ∧
      account.received + chunk.1.length ≤ expected.toNat)) :
    (transferAcceptChunk progress (UInt64.ofNat chunk.1.length)).1 ≠ .ok ∧
      (transferAcceptChunk progress (UInt64.ofNat chunk.1.length)).2 = progress := by
  rw [transferAcceptChunk, if_neg chunk.length_ne_zero]
  cases hclosed : account.complete with
  | true =>
      have hstate := hcounts.complete hclosed
      rw [if_pos (by simp [hstate])]
      exact ⟨by simp, rfl⟩
  | false =>
      have hexceeds : expected.toNat < account.received + chunk.1.length :=
        not_le.mp fun hfits => hrefused ⟨hclosed, hfits⟩
      rw [if_neg ((receives_iff progress).mp (hcounts.receives hclosed)), if_pos]
      · exact ⟨by simp, rfl⟩
      · rw [hcounts.bytes, exceeds_iff (by rw [hcounts.received]; exact hcounts.bounded),
          hcounts.received, chunk.toNat_length]
        exact hexceeds

theorem transferFinish_eq_ok (hreceives : progress.Receives)
    (hall : progress.receivedBytes = progress.expectedBytes) :
    transferFinish progress = (true, { progress with state := .complete }) := by
  have hbegun : transferBeginVerification progress =
      (true, { progress with state := .verifying }) := by
    rw [transferBeginVerification, if_neg (not_not.mpr hall),
      if_neg ((receives_iff progress).mp hreceives)]
  simp [transferFinish, hbegun, transferMarkComplete]

theorem transferFinish_of_not
    (hrefused : ¬(progress.Receives ∧ progress.receivedBytes = progress.expectedBytes)) :
    transferFinish progress = (false, progress) := by
  have hbegun : transferBeginVerification progress = (false, progress) := by
    rw [transferBeginVerification]
    by_cases hall : progress.receivedBytes = progress.expectedBytes
    · have hclosed : ¬progress.Receives := fun hreceives => hrefused ⟨hreceives, hall⟩
      rw [receives_iff, not_not] at hclosed
      rw [if_neg (not_not.mpr hall), if_pos hclosed]
    · rw [if_pos hall]
  simp [transferFinish, hbegun]

/-- A step of a progress is a step of its account. -/
theorem transferStep_counts (hcounts : ProgressCounts expected progress account)
    (step : SizeStep) :
    (transferStep progress step).1 = (account.step expected.toNat step).1 ∧
      ProgressCounts expected (transferStep progress step).2
        (account.step expected.toNat step).2 := by
  cases step with
  | write chunk =>
      simp only [transferStep, SizeAccount.step]
      split
      case isTrue haccepted =>
        obtain ⟨hopen, hfits⟩ := haccepted
        have hsum : (progress.receivedBytes + UInt64.ofNat chunk.1.length).toNat =
            account.received + chunk.1.length := by
          rw [← hcounts.received, ← chunk.toNat_length] at hfits
          rw [toNat_add_of_fits hfits, hcounts.received, chunk.toNat_length]
        rw [transferAcceptChunk_eq_ok hcounts chunk hopen hfits]
        exact ⟨rfl, hcounts.bytes, hsum, hfits, fun _ => .inr rfl,
          fun hclosed => absurd (hopen.symm.trans hclosed) (by decide)⟩
      case isFalse hrefused =>
        obtain ⟨hresult, hsame⟩ := transferAcceptChunk_of_not hcounts chunk hrefused
        rw [hsame]
        exact ⟨by simpa using hresult, hcounts⟩
  | finish =>
      simp only [transferStep, SizeAccount.step]
      have hall : progress.receivedBytes = progress.expectedBytes ↔
          account.received = expected.toNat := by
        rw [← UInt64.toNat_inj, hcounts.received, hcounts.bytes]
      have hreceives : progress.Receives ↔ account.complete = false := by
        refine ⟨fun hreceives => ?_, hcounts.receives⟩
        rw [← Bool.not_eq_true]
        exact fun hclosed => hreceives.ne_complete (hcounts.complete hclosed)
      split
      case isTrue haccepted =>
        rw [transferFinish_eq_ok (hreceives.mpr haccepted.1) (hall.mpr haccepted.2)]
        exact ⟨rfl, hcounts.bytes, hcounts.received, hcounts.bounded,
          fun hopen => absurd hopen (by simp), fun _ => rfl⟩
      case isFalse hrefused =>
        rw [transferFinish_of_not (by rwa [hreceives, hall])]
        exact ⟨rfl, hcounts⟩

theorem ProgressCounts.complete_iff (hcounts : ProgressCounts expected progress account) :
    progress.state = .complete ↔ account.complete = true := by
  refine ⟨fun hstate => ?_, hcounts.complete⟩
  rw [← Bool.not_eq_false]
  exact fun hopen => (hcounts.receives hopen).ne_complete hstate

end Progress

theorem transferSizeMachine_simulates (expected : UInt64) :
    transferSizeMachine.Simulates (accountMachine expected.toNat) (ProgressCounts expected) := by
  constructor
  intro progress account step hcounts
  obtain ⟨haccepted, hnext⟩ := transferStep_counts hcounts step
  refine ⟨?_, hnext⟩
  simp only [transferSizeMachine, accountMachine, haccepted, hnext.bytes, hnext.received,
    hnext.complete_iff, Bool.decide_eq_true]

/-- A sink that does whatever is asked of it: it begins from the contexts of `ready`, and
writes and commits from those of `open`. -/
structure FileSinkOps.NeverFails {σ : Type u} (ops : FileSinkOps σ) (expected : UInt64)
    (ready opened : σ → Prop) : Prop where
  begin : ∀ {sink}, ready sink →
    (ops.begin sink expected).1 = .ok ∧ opened (ops.begin sink expected).2
  write : ∀ {sink data}, opened sink →
    (ops.write sink data).1 = (.ok, data.length) ∧ opened (ops.write sink data).2
  commit : ∀ {sink}, opened sink → (ops.commit sink).1 = .ok

section Receiver

variable {σ : Type u} {τ : Type v} {sinkOps : FileSinkOps σ} {integrityOps : IntegrityOps τ}
  {expected : UInt64} {ready opened : σ → Prop} {m : ReceiverState σ τ} {account : SizeAccount}

/-- A receiver without an integrity check that stands for an account. -/
structure ReceiverCounts (expected : UInt64) (opened : σ → Prop) (m : ReceiverState σ τ)
    (account : SizeAccount) : Prop where
  bytes : m.receiver.expectedBytes = expected
  unchecked : m.receiver.integrityConfigured = false
  received : m.receiver.receivedBytes.toNat = account.received
  bounded : account.received ≤ expected.toNat
  receives : account.complete = false → m.receiver.state = .receiving ∧ opened m.sink
  complete : account.complete = true → m.receiver.state = .complete

/-- An initialised receiver begins, and has an account of nothing. -/
theorem fileReceiverBegin_counts (hsinkOps : sinkOps.NeverFails expected ready opened)
    {sink : σ} (hsink : ready sink) (integrity : τ) :
    (fileReceiverBegin sinkOps integrityOps ⟨fileReceiverInit expected, sink, integrity⟩).1 =
        .ok ∧
      ReceiverCounts expected opened (fileReceiverBegin sinkOps integrityOps
        ⟨fileReceiverInit expected, sink, integrity⟩).2 {} := by
  obtain ⟨hbegun, hopened⟩ := hsinkOps.begin hsink
  have hbegin : fileReceiverBegin sinkOps integrityOps
      ⟨fileReceiverInit expected, sink, integrity⟩ =
      (.ok, ⟨{ fileReceiverInit expected with sinkStarted := true, state := .receiving },
        (sinkOps.begin sink expected).2, integrity⟩) := by
    simp [fileReceiverBegin, fileReceiverInit, hbegun]
  rw [hbegin]
  exact ⟨rfl, rfl, rfl, rfl, Nat.zero_le _, fun _ => ⟨rfl, hopened⟩,
    fun hclosed => absurd hclosed (by simp)⟩

/-- A receiver accepts what fits its account. -/
theorem fileReceiverWrite_accepts (hsinkOps : sinkOps.NeverFails expected ready opened)
    (hcounts : ReceiverCounts expected opened m account) (chunk : ReceiveChunk)
    (hopen : account.complete = false)
    (hfits : account.received + chunk.1.length ≤ expected.toNat) :
    fileReceiverWrite sinkOps integrityOps m (.bytes chunk.1) =
      (.ok, { m with
        sink := (sinkOps.write m.sink chunk.1).2
        receiver := { m.receiver with
          receivedBytes := m.receiver.receivedBytes + UInt64.ofNat chunk.1.length } }) := by
  obtain ⟨hstate, hsink⟩ := hcounts.receives hopen
  have hwritten : (sinkOps.write m.sink chunk.1).1 = (.ok, chunk.1.length) :=
    (hsinkOps.write hsink).1
  have hroom : ¬(m.receiver.expectedBytes < m.receiver.receivedBytes ∨
      m.receiver.expectedBytes - m.receiver.receivedBytes < UInt64.ofNat chunk.1.length) := by
    rw [hcounts.bytes, exceeds_iff (by rw [hcounts.received]; exact hcounts.bounded),
      hcounts.received, chunk.toNat_length]
    exact not_lt.mpr hfits
  have hnonempty : chunk.1.length ≠ 0 := (ne_of_lt chunk.2.1).symm
  simp [fileReceiverWrite, hstate, hnonempty, Nat.not_lt.mpr chunk.2.2, hroom, hwritten,
    hcounts.unchecked]

/-- What it refuses leaves it, and its sink, as they are. -/
theorem fileReceiverWrite_refuses (hcounts : ReceiverCounts expected opened m account)
    (chunk : ReceiveChunk)
    (hrefused : ¬(account.complete = false ∧
      account.received + chunk.1.length ≤ expected.toNat)) :
    (fileReceiverWrite sinkOps integrityOps m (.bytes chunk.1)).1 ≠ .ok ∧
      (fileReceiverWrite sinkOps integrityOps m (.bytes chunk.1)).2 = m := by
  have hnonempty : chunk.1.length ≠ 0 := (ne_of_lt chunk.2.1).symm
  cases hclosed : account.complete with
  | true => simp [fileReceiverWrite, hcounts.complete hclosed]
  | false =>
      have hexceeds : m.receiver.expectedBytes < m.receiver.receivedBytes ∨
          m.receiver.expectedBytes - m.receiver.receivedBytes <
            UInt64.ofNat chunk.1.length := by
        rw [hcounts.bytes, exceeds_iff (by rw [hcounts.received]; exact hcounts.bounded),
          hcounts.received, chunk.toNat_length]
        exact not_le.mp fun hfits => hrefused ⟨hclosed, hfits⟩
      simp [fileReceiverWrite, (hcounts.receives hclosed).1, hnonempty,
        Nat.not_lt.mpr chunk.2.2, hexceeds]

theorem fileReceiverFinish_accepts (hsinkOps : sinkOps.NeverFails expected ready opened)
    (hcounts : ReceiverCounts expected opened m account) (hopen : account.complete = false)
    (hall : account.received = expected.toNat) :
    fileReceiverFinish sinkOps integrityOps m =
      (.ok, { m with
        sink := (sinkOps.commit m.sink).2
        receiver := { m.receiver with sinkStarted := false, state := .complete } }) := by
  obtain ⟨hstate, hsink⟩ := hcounts.receives hopen
  have hcommitted : (sinkOps.commit m.sink).1 = .ok := hsinkOps.commit hsink
  have hbytes : m.receiver.receivedBytes = m.receiver.expectedBytes := by
    rw [← UInt64.toNat_inj, hcounts.received, hcounts.bytes]
    exact hall
  simp [fileReceiverFinish, fileReceiverCommit, hstate, hbytes, hcounts.unchecked, hcommitted]

theorem fileReceiverFinish_refuses (hcounts : ReceiverCounts expected opened m account)
    (hrefused : ¬(account.complete = false ∧ account.received = expected.toNat)) :
    (fileReceiverFinish sinkOps integrityOps m).1 ≠ .ok ∧
      (fileReceiverFinish sinkOps integrityOps m).2 = m := by
  cases hclosed : account.complete with
  | true => simp [fileReceiverFinish, hcounts.complete hclosed]
  | false =>
      have hbytes : m.receiver.receivedBytes ≠ m.receiver.expectedBytes := by
        rw [Ne, ← UInt64.toNat_inj, hcounts.received, hcounts.bytes]
        exact fun hall => hrefused ⟨hclosed, hall⟩
      simp [fileReceiverFinish, (hcounts.receives hclosed).1, hbytes]

/-- A step of a file receiver is a step of its account. -/
theorem fileReceiverStep_counts (hsinkOps : sinkOps.NeverFails expected ready opened)
    (hcounts : ReceiverCounts expected opened m account) (step : SizeStep) :
    ((fileReceiverStep sinkOps integrityOps m step).1 = .ok ↔
        (account.step expected.toNat step).1 = true) ∧
      ReceiverCounts expected opened (fileReceiverStep sinkOps integrityOps m step).2
        (account.step expected.toNat step).2 := by
  cases step with
  | write chunk =>
      simp only [fileReceiverStep, SizeAccount.step]
      split
      case isTrue haccepted =>
        obtain ⟨hopen, hfits⟩ := haccepted
        obtain ⟨hstate, hsink⟩ := hcounts.receives hopen
        have hsum : (m.receiver.receivedBytes + UInt64.ofNat chunk.1.length).toNat =
            account.received + chunk.1.length := by
          rw [← hcounts.received, ← chunk.toNat_length] at hfits
          rw [toNat_add_of_fits hfits, hcounts.received, chunk.toNat_length]
        rw [fileReceiverWrite_accepts hsinkOps hcounts chunk hopen hfits]
        exact ⟨by simp, hcounts.bytes, hcounts.unchecked, hsum, hfits,
          fun _ => ⟨hstate, (hsinkOps.write hsink).2⟩,
          fun hclosed => absurd (hopen.symm.trans hclosed) (by decide)⟩
      case isFalse hrefused =>
        obtain ⟨hresult, hsame⟩ := fileReceiverWrite_refuses hcounts chunk hrefused
        rw [hsame]
        exact ⟨by simpa using hresult, hcounts⟩
  | finish =>
      simp only [fileReceiverStep, SizeAccount.step]
      split
      case isTrue haccepted =>
        rw [fileReceiverFinish_accepts hsinkOps hcounts haccepted.1 haccepted.2]
        exact ⟨by simp, hcounts.bytes, hcounts.unchecked, hcounts.received, hcounts.bounded,
          fun hopen => absurd hopen (by simp), fun _ => rfl⟩
      case isFalse hrefused =>
        obtain ⟨hresult, hsame⟩ := fileReceiverFinish_refuses hcounts hrefused
        rw [hsame]
        exact ⟨by simpa using hresult, hcounts⟩

theorem ReceiverCounts.complete_iff (hcounts : ReceiverCounts expected opened m account) :
    m.receiver.state = .complete ↔ account.complete = true := by
  refine ⟨fun hstate => ?_, hcounts.complete⟩
  rw [← Bool.not_eq_false]
  intro hopen
  have hreceiving := (hcounts.receives hopen).1
  exact absurd (hreceiving.symm.trans hstate) (by decide)

theorem fileReceiverMachine_simulates (hsinkOps : sinkOps.NeverFails expected ready opened) :
    (fileReceiverMachine sinkOps integrityOps).Simulates (accountMachine expected.toNat)
      (ReceiverCounts expected opened) := by
  constructor
  intro m account step hcounts
  obtain ⟨haccepted, hnext⟩ := fileReceiverStep_counts hsinkOps hcounts step
  refine ⟨?_, hnext⟩
  simp only [fileReceiverMachine, accountMachine, haccepted, hnext.bytes, hnext.received,
    hnext.complete_iff, Bool.decide_eq_true]

end Receiver

/-! ## Agreement -/

/-- An account is complete only with all of its bytes. -/
theorem accountMachine_complete (expected : ℕ) (steps : List SizeStep) :
    ∀ report ∈ (accountMachine expected).trace {} steps,
      report.complete = true → report.receivedBytes = report.expectedBytes := by
  have hstep : ∀ {account : SizeAccount} (step : SizeStep),
      (account.complete = true → account.received = expected) →
        (account.step expected step).2.complete = true →
          (account.step expected step).2.received = expected := by
    intro account step hall
    cases step with
    | write chunk =>
        simp only [SizeAccount.step]
        split
        case isTrue haccepted => simp [haccepted.1]
        case isFalse => exact hall
    | finish =>
        simp only [SizeAccount.step]
        split
        case isTrue haccepted => exact fun _ => haccepted.2
        case isFalse => exact hall
  exact Machine.trace_invariant
    (fun step hall => ⟨hstep step hall, hstep step hall⟩) steps (by simp)

/-- On the same writes and attempts to finish, a file receiver over a sink that never fails
and a transfer's progress report the same; and a progress keeps its count whatever is called. -/
theorem sizeAccounts_agree {σ : Type u} {τ : Type v} (sinkOps : FileSinkOps σ)
    (integrityOps : IntegrityOps τ) (expected : UInt64) {ready opened : σ → Prop}
    (hsinkOps : sinkOps.NeverFails expected ready opened) (sink : σ) (hsink : ready sink)
    (integrity : τ) :
    let begun := fileReceiverBegin sinkOps integrityOps
      ⟨fileReceiverInit expected, sink, integrity⟩
    begun.1 = .ok ∧
      (∀ steps : List SizeStep,
        (fileReceiverMachine sinkOps integrityOps).trace begun.2 steps =
          transferSizeMachine.trace (transferInit expected) steps ∧
        ∀ report ∈ transferSizeMachine.trace (transferInit expected) steps,
          report.complete = true → report.receivedBytes = report.expectedBytes) ∧
      ∀ calls more : List TransferCall,
        let progress := transferMachine.after (transferInit expected) calls
        let later := transferMachine.after progress more
        progress.receivedBytes ≤ progress.expectedBytes ∧
          (progress.state = .complete → later.state = .complete) ∧
          (progress.state = .failed → later.state = .failed) := by
  intro begun
  obtain ⟨hbegun, hcounts⟩ : begun.1 = .ok ∧ ReceiverCounts expected opened begun.2 {} :=
    fileReceiverBegin_counts hsinkOps hsink integrity
  refine ⟨hbegun, ?_, ?_⟩
  · intro steps
    have hreceiver : (fileReceiverMachine sinkOps integrityOps).trace begun.2 steps =
        (accountMachine expected.toNat).trace {} steps :=
      (fileReceiverMachine_simulates hsinkOps).trace_eq steps hcounts
    have hprogress : transferSizeMachine.trace (transferInit expected) steps =
        (accountMachine expected.toNat).trace {} steps :=
      (transferSizeMachine_simulates expected).trace_eq steps (transferInit_counts expected)
    rw [hreceiver, hprogress]
    exact ⟨rfl, accountMachine_complete expected.toNat steps⟩
  · intro calls more progress later
    have hlater : progress.state = .complete ∨ progress.state = .failed → later = progress :=
      fun hover => transferMachine_after_of_over hover more
    refine ⟨(transferMachine_counted expected calls).bounded, ?_, ?_⟩
    · intro hcomplete
      rw [hlater (.inl hcomplete)]
      exact hcomplete
    · intro hfailed
      rw [hlater (.inr hfailed)]
      exact hfailed

/-- A sink in memory. -/
def memorySinkOps : FileSinkOps Bytes where
  begin _ _ := (.ok, [])
  write sink data := ((.ok, data.length), sink ++ data)
  commit sink := (.ok, sink)
  abort _ := []

/-- A file of three bytes: a chunk, an early end, a chunk that does not fit, the rest, the end. -/
def threeBytes : List SizeStep :=
  [.write ⟨[1, 2], by decide⟩, .finish, .write ⟨[3, 4], by decide⟩, .write ⟨[3], by decide⟩,
    .finish]

theorem sizeAccounts_agree_memory :
    (fileReceiverMachine memorySinkOps (fixedHashOps (Vector.replicate 32 0))).trace
        (fileReceiverBegin memorySinkOps (fixedHashOps (Vector.replicate 32 0))
          ⟨fileReceiverInit 3, [], ()⟩).2 threeBytes =
      transferSizeMachine.trace (transferInit 3) threeBytes ∧
    transferSizeMachine.trace (transferInit 3) threeBytes =
      [⟨true, 3, 2, false⟩, ⟨false, 3, 2, false⟩, ⟨false, 3, 2, false⟩, ⟨true, 3, 3, false⟩,
        ⟨true, 3, 3, true⟩] := by
  have hsinkOps : memorySinkOps.NeverFails 3 (fun _ => True) (fun _ => True) :=
    ⟨fun _ => ⟨rfl, trivial⟩, fun _ => ⟨rfl, trivial⟩, fun _ => rfl⟩
  have hagree := sizeAccounts_agree memorySinkOps (fixedHashOps (Vector.replicate 32 0)) 3
    hsinkOps [] trivial ()
  exact ⟨(hagree.2.1 threeBytes).1, by decide +kernel⟩

end PrintDrop
