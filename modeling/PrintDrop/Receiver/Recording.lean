/-
# Recorded sinks and hashes

A sink table that logs its calls, and the logs that a receiver can cause whatever
the sink does. For a hash, the data it has been fed.
-/

import PrintDrop.Receiver.Transfer

namespace PrintDrop

universe u v

/-- A call of a sink with its outcome. -/
inductive SinkCall
  | begin (expected : UInt64) (status : FileSinkStatus)
  | write (data : Bytes) (status : FileSinkStatus) (written : ℕ)
  | commit (status : FileSinkStatus)
  | abort
  deriving DecidableEq

variable {σ : Type u} {τ : Type v}

/-- The sink table that also logs every call. -/
def FileSinkOps.recorded (ops : FileSinkOps σ) : FileSinkOps (σ × List SinkCall) where
  begin sink expected :=
    let begun := ops.begin sink.1 expected
    (begun.1, begun.2, sink.2 ++ [.begin expected begun.1])
  write sink data :=
    let written := ops.write sink.1 data
    (written.1, written.2, sink.2 ++ [.write data written.1.1 written.1.2])
  commit sink :=
    let committed := ops.commit sink.1
    (committed.1, committed.2, sink.2 ++ [.commit committed.1])
  abort sink := (ops.abort sink.1, sink.2 ++ [.abort])

/-- The calls of a begun sink that was written these chunks, each completely. -/
def writtenLog (expected : UInt64) (chunks : List Bytes) : List SinkCall :=
  .begin expected .ok :: chunks.map fun chunk => .write chunk .ok chunk.length

/-- A write that was not complete, or a commit that failed. -/
def SinkCall.IsFailure : SinkCall → Prop
  | .write data status written => status ≠ .ok ∨ written ≠ data.length
  | .commit status => status ≠ .ok
  | _ => False

/-- The logs of a sink in a phase. -/
def SinkLog : SinkPhase → List SinkCall → Prop
  | .idle, log => log = []
  | .refused, log => ∃ expected status, status ≠ .ok ∧ log = [.begin expected status]
  | .writing expected data, log => ∃ chunks : List Bytes, chunks.flatten = data ∧
      log = writtenLog expected chunks
  | .broken, log => ∃ expected chunks failure, SinkCall.IsFailure failure ∧
      log = writtenLog expected chunks ++ [failure]
  | .committed expected data, log => ∃ chunks : List Bytes, chunks.flatten = data ∧
      log = writtenLog expected chunks ++ [.commit .ok]
  | .aborted, log => ∃ expected chunks rest, (∀ call ∈ rest, SinkCall.IsFailure call) ∧
      log = writtenLog expected chunks ++ rest ++ [.abort]

theorem writtenLog_concat (expected : UInt64) (chunks : List Bytes) (chunk : Bytes) :
    writtenLog expected (chunks ++ [chunk]) =
      writtenLog expected chunks ++ [.write chunk .ok chunk.length] := by
  simp [writtenLog]

/-- A table and its recording go through the same phases, and the log tells them. -/
theorem FileSinkOps.Implements.recorded {ops : FileSinkOps σ} {R : SinkPhase → σ → Prop}
    (hops : ops.Implements R) :
    ops.recorded.Implements fun phase sink => R phase sink.1 ∧ SinkLog phase sink.2 := by
  constructor
  case begin_ok =>
    intro sink expected hsink hok
    obtain ⟨hphase, hlog⟩ := hsink
    have hok' : (ops.begin sink.1 expected).1 = .ok := hok
    refine ⟨hops.begin_ok hphase hok', [], rfl, ?_⟩
    show sink.2 ++ [.begin expected (ops.begin sink.1 expected).1] = _
    rw [show sink.2 = [] from hlog, hok']
    rfl
  case begin_error =>
    intro sink expected hsink hok
    obtain ⟨hphase, hlog⟩ := hsink
    refine ⟨hops.begin_error hphase hok, expected, (ops.begin sink.1 expected).1, hok, ?_⟩
    show sink.2 ++ [.begin expected (ops.begin sink.1 expected).1] = _
    rw [show sink.2 = [] from hlog]
    rfl
  case write_ok =>
    intro sink expected data chunk hsink hne hle hfits hok hlength
    obtain ⟨hphase, chunks, rfl, hlog⟩ := hsink
    have hok' : (ops.write sink.1 chunk).1.1 = .ok := hok
    have hlength' : (ops.write sink.1 chunk).1.2 = chunk.length := hlength
    refine ⟨hops.write_ok hphase hne hle hfits hok' hlength', chunks ++ [chunk], by simp, ?_⟩
    rw [writtenLog_concat, ← hlog]
    show sink.2 ++ [.write chunk (ops.write sink.1 chunk).1.1 (ops.write sink.1 chunk).1.2] = _
    rw [hok', hlength']
  case write_error =>
    intro sink expected data chunk hsink hne hle hfits herror
    obtain ⟨hphase, chunks, rfl, hlog⟩ := hsink
    refine ⟨hops.write_error hphase hne hle hfits herror, expected, chunks,
      .write chunk (ops.write sink.1 chunk).1.1 (ops.write sink.1 chunk).1.2, herror, ?_⟩
    rw [← hlog]
    rfl
  case commit_ok =>
    intro sink expected data hsink hlength hok
    obtain ⟨hphase, chunks, rfl, hlog⟩ := hsink
    have hok' : (ops.commit sink.1).1 = .ok := hok
    refine ⟨hops.commit_ok hphase hlength hok', chunks, rfl, ?_⟩
    rw [← hlog]
    show sink.2 ++ [.commit (ops.commit sink.1).1] = _
    rw [hok']
  case commit_error =>
    intro sink expected data hsink hlength herror
    obtain ⟨hphase, chunks, rfl, hlog⟩ := hsink
    refine ⟨hops.commit_error hphase hlength herror, expected, chunks,
      .commit (ops.commit sink.1).1, herror, ?_⟩
    rw [← hlog]
    rfl
  case abort_writing =>
    intro sink expected data hsink
    obtain ⟨hphase, chunks, rfl, hlog⟩ := hsink
    refine ⟨hops.abort_writing hphase, expected, chunks, [], by simp, ?_⟩
    rw [List.append_nil, ← hlog]
    rfl
  case abort_broken =>
    intro sink hsink
    obtain ⟨hphase, expected, chunks, failure, hfailure, hlog⟩ := hsink
    refine ⟨hops.abort_broken hphase, expected, chunks, [failure], by simpa using hfailure, ?_⟩
    rw [← hlog]
    rfl

/-- Every table goes through the phases that say nothing. -/
theorem FileSinkOps.implements_trivial (ops : FileSinkOps σ) :
    ops.Implements fun _ _ => True := by
  constructor <;> (intros; trivial)

/-- The log releases what it begins: after a successful begin comes a successful
commit or an abort. -/
def ReleasesSink (log : List SinkCall) : Prop :=
  (∃ expected, SinkCall.begin expected .ok ∈ log) → SinkCall.commit .ok ∈ log ∨ SinkCall.abort ∈ log

/-- A sink that is neither being written nor broken has released what it began. -/
theorem releasesSink_of_resting {phase : SinkPhase} {log : List SinkCall}
    (hlog : SinkLog phase log) (hresting : (∀ expected data, phase ≠ .writing expected data) ∧
      phase ≠ .broken) : ReleasesSink log := by
  intro hbegun
  cases phase with
  | idle =>
      obtain ⟨expected, hmem⟩ := hbegun
      simp [show log = [] from hlog] at hmem
  | refused =>
      obtain ⟨expected, hmem⟩ := hbegun
      obtain ⟨announced, status, hstatus, rfl⟩ := hlog
      simp only [List.mem_singleton, SinkCall.begin.injEq] at hmem
      exact absurd hmem.2.symm hstatus
  | writing expected data => exact absurd rfl (hresting.1 expected data)
  | broken => exact absurd rfl hresting.2
  | committed expected data =>
      obtain ⟨chunks, -, rfl⟩ := hlog
      exact .inl (by simp)
  | aborted =>
      obtain ⟨expected, chunks, rest, -, rfl⟩ := hlog
      exact .inr (by simp)

/-- The data a running hash has been fed since it was begun. -/
inductive IntegrityOps.Fed (ops : IntegrityOps τ) : Bytes → τ → Prop
  | begun {hash : τ} (hok : (ops.begin hash).1 = .ok) : ops.Fed [] (ops.begin hash).2
  | updated {data chunk : Bytes} {hash : τ} (hfed : ops.Fed data hash)
    (hok : (ops.update hash chunk).1 = .ok) : ops.Fed (data ++ chunk) (ops.update hash chunk).2

/-- What a hash that was fed some data returns is a function of the data. -/
def IntegrityOps.Computes (ops : IntegrityOps τ) (digestOf : Bytes → Digest) : Prop :=
  ∀ {data hash}, ops.Fed data hash → (ops.finish hash).1.1 = .ok →
    (ops.finish hash).1.2 = digestOf data

/-- A hash in a phase, as far as the data it was fed goes. -/
def IntegrityOps.FedAt (ops : IntegrityOps τ) : HashPhase → τ → Prop
  | .running data, hash => ops.Fed data hash
  | .finished data digest, hash =>
      ∃ running, ops.Fed data running ∧ ops.finish running = ((.ok, digest), hash)
  | _, _ => True

theorem IntegrityOps.implements_fedAt (ops : IntegrityOps τ) : ops.Implements ops.FedAt := by
  constructor
  case begin_ok => exact fun _ hok => .begun hok
  case begin_error => exact fun _ _ => trivial
  case update_ok => exact fun hfed _ hok => .updated hfed hok
  case update_error => exact fun _ _ _ => trivial
  case finish_ok =>
    intro hash data hfed hok
    exact ⟨hash, hfed, by rw [← hok]⟩
  case finish_error => exact fun _ _ => trivial
  case abort_running => exact fun _ => trivial
  case abort_broken => exact fun _ => trivial

/-- A hash that never fails and always returns the same digest. -/
def fixedHashOps (digest : Digest) : IntegrityOps Unit where
  begin hash := (.ok, hash)
  update hash _ := (.ok, hash)
  finish hash := ((.ok, digest), hash)
  abort hash := hash

theorem fixedHashOps_computes (digest : Digest) :
    (fixedHashOps digest).Computes fun _ => digest :=
  fun _ _ => rfl

end PrintDrop
