/-
# Runs of a file receiver

Every sequence of calls of a file receiver after its initialization, over any sink and any
hash. Both log their calls; what the receiver guarantees of its counter, of the calls it
makes and of the resources it begins is said over the logs.
-/

import PrintDrop.Math.TransitionSystem
import PrintDrop.Receiver.Recording

namespace PrintDrop

open Math

universe u v

variable {σ : Type u} {τ : Type v}

/-- A call of a hash with its outcome. -/
inductive HashCall
  | begin (status : IntegrityStatus)
  | update (data : Bytes) (status : IntegrityStatus)
  | finish (status : IntegrityStatus) (digest : Digest)
  | abort
  deriving DecidableEq

/-- The hash table that also logs every call. -/
def IntegrityOps.recorded (ops : IntegrityOps τ) : IntegrityOps (τ × List HashCall) where
  begin hash :=
    let begun := ops.begin hash.1
    (begun.1, begun.2, hash.2 ++ [.begin begun.1])
  update hash data :=
    let updated := ops.update hash.1 data
    (updated.1, updated.2, hash.2 ++ [.update data updated.1])
  finish hash :=
    let finished := ops.finish hash.1
    (finished.1, finished.2, hash.2 ++ [.finish finished.1.1 finished.1.2])
  abort hash := (ops.abort hash.1, hash.2 ++ [.abort])

/-- The calls of a begun hash that was fed these chunks. -/
def fedLog (chunks : List Bytes) : List HashCall :=
  .begin .ok :: chunks.map fun chunk => .update chunk .ok

/-- An update or a finish that failed. -/
def HashCall.IsFailure : HashCall → Prop
  | .update _ status => status ≠ .ok
  | .finish status _ => status ≠ .ok
  | _ => False

/-- The logs of a hash in a phase. -/
def HashLog : HashPhase → List HashCall → Prop
  | .idle, log => log = []
  | .refused, log => ∃ status, status ≠ .ok ∧ log = [.begin status]
  | .running data, log => ∃ chunks : List Bytes, chunks.flatten = data ∧ log = fedLog chunks
  | .broken, log => ∃ chunks failure, HashCall.IsFailure failure ∧
      log = fedLog chunks ++ [failure]
  | .finished data digest, log => ∃ chunks : List Bytes, chunks.flatten = data ∧
      log = fedLog chunks ++ [.finish .ok digest]
  | .aborted, log => ∃ chunks rest, (∀ call ∈ rest, HashCall.IsFailure call) ∧
      log = fedLog chunks ++ rest ++ [.abort]

theorem fedLog_concat (chunks : List Bytes) (chunk : Bytes) :
    fedLog (chunks ++ [chunk]) = fedLog chunks ++ [.update chunk .ok] := by
  simp [fedLog]

/-- A table and its recording go through the same phases, and the log tells them. -/
theorem IntegrityOps.Implements.recorded {ops : IntegrityOps τ} {Q : HashPhase → τ → Prop}
    (hops : ops.Implements Q) :
    ops.recorded.Implements fun phase hash => Q phase hash.1 ∧ HashLog phase hash.2 := by
  constructor
  case begin_ok =>
    intro hash hhash hok
    obtain ⟨hphase, hlog⟩ := hhash
    have hok' : (ops.begin hash.1).1 = .ok := hok
    refine ⟨hops.begin_ok hphase hok', [], rfl, ?_⟩
    show hash.2 ++ [.begin (ops.begin hash.1).1] = _
    rw [show hash.2 = [] from hlog, hok']
    rfl
  case begin_error =>
    intro hash hhash hok
    obtain ⟨hphase, hlog⟩ := hhash
    refine ⟨hops.begin_error hphase hok, (ops.begin hash.1).1, hok, ?_⟩
    show hash.2 ++ [.begin (ops.begin hash.1).1] = _
    rw [show hash.2 = [] from hlog]
    rfl
  case update_ok =>
    intro hash data chunk hhash hne hok
    obtain ⟨hphase, chunks, rfl, hlog⟩ := hhash
    have hok' : (ops.update hash.1 chunk).1 = .ok := hok
    refine ⟨hops.update_ok hphase hne hok', chunks ++ [chunk], by simp, ?_⟩
    rw [fedLog_concat, ← hlog]
    show hash.2 ++ [.update chunk (ops.update hash.1 chunk).1] = _
    rw [hok']
  case update_error =>
    intro hash data chunk hhash hne herror
    obtain ⟨hphase, chunks, rfl, hlog⟩ := hhash
    refine ⟨hops.update_error hphase hne herror, chunks,
      .update chunk (ops.update hash.1 chunk).1, herror, ?_⟩
    rw [← hlog]
    rfl
  case finish_ok =>
    intro hash data hhash hok
    obtain ⟨hphase, chunks, rfl, hlog⟩ := hhash
    have hok' : (ops.finish hash.1).1.1 = .ok := hok
    refine ⟨hops.finish_ok hphase hok', chunks, rfl, ?_⟩
    rw [← hlog]
    show hash.2 ++ [.finish (ops.finish hash.1).1.1 (ops.finish hash.1).1.2] = _
    rw [hok']
    rfl
  case finish_error =>
    intro hash data hhash herror
    obtain ⟨hphase, chunks, rfl, hlog⟩ := hhash
    refine ⟨hops.finish_error hphase herror, chunks,
      .finish (ops.finish hash.1).1.1 (ops.finish hash.1).1.2, herror, ?_⟩
    rw [← hlog]
    rfl
  case abort_running =>
    intro hash data hhash
    obtain ⟨hphase, chunks, rfl, hlog⟩ := hhash
    refine ⟨hops.abort_running hphase, chunks, [], by simp, ?_⟩
    rw [List.append_nil, ← hlog]
    rfl
  case abort_broken =>
    intro hash hhash
    obtain ⟨hphase, chunks, failure, hfailure, hlog⟩ := hhash
    refine ⟨hops.abort_broken hphase, chunks, [failure], by simpa using hfailure, ?_⟩
    rw [← hlog]
    rfl

/-- A call of a file receiver. An integrity configuration without all of its arguments is
`none`; the context stands for all that the table's pointers lead to. -/
inductive FileReceiverCall (τ : Type v)
  | configureIntegrity (arguments : Option (τ × Digest))
  | begin
  | write (data : Buffer)
  | finish
  | abort

/-- A receiver whose sink and hash log their calls, with the writes it has accepted. -/
structure FileReceiverRun (σ : Type u) (τ : Type v) where
  m : ReceiverState (σ × List SinkCall) (τ × List HashCall)
  accepted : List Bytes

namespace FileReceiverRun

abbrev receiver (s : FileReceiverRun σ τ) : FileReceiver := s.m.receiver

abbrev sinkLog (s : FileReceiverRun σ τ) : List SinkCall := s.m.sink.2

abbrev hashLog (s : FileReceiverRun σ τ) : List HashCall := s.m.integrity.2

variable (sinkOps : FileSinkOps σ) (integrityOps : IntegrityOps τ)

/-- The state after a call. -/
def call (s : FileReceiverRun σ τ) : FileReceiverCall τ → FileReceiverRun σ τ
  | .configureIntegrity none => s
  | .configureIntegrity (some (context, sha256)) =>
    match fileReceiverConfigureIntegrity s.receiver sha256 with
    | (.ok, receiver) => { s with m := ⟨receiver, s.m.sink, (context, s.hashLog)⟩ }
    | _ => s
  | .begin => { s with m := (fileReceiverBegin sinkOps.recorded integrityOps.recorded s.m).2 }
  | .write data =>
    let written := fileReceiverWrite sinkOps.recorded integrityOps.recorded s.m data
    { m := written.2
      accepted := if written.1 = .ok then s.accepted ++ [data.data?.getD []] else s.accepted }
  | .finish => { s with m := (fileReceiverFinish sinkOps.recorded integrityOps.recorded s.m).2 }
  | .abort => { s with m := fileReceiverAbort sinkOps.recorded integrityOps.recorded s.m }

/-- The runs of a receiver that is initialized for `expected` bytes. -/
def system (expected : UInt64) (sink : σ) (hash : τ) :
    TransitionSystem (FileReceiverRun σ τ) (FileReceiverCall τ) where
  init := ⟨⟨fileReceiverInit expected, (sink, []), (hash, [])⟩, []⟩
  step s c := some (s.call sinkOps integrityOps c)

end FileReceiverRun

section Operations

variable {sinkOps : FileSinkOps σ} {integrityOps : IntegrityOps τ} {m : ReceiverState σ τ}

/-- The transfer is over. -/
def FileReceiveState.Over (state : FileReceiveState) : Prop :=
  state = .complete ∨ state = .failed ∨ state = .aborted

theorem fileReceiverBegin_of_ne (hstate : m.receiver.state ≠ .idle) :
    fileReceiverBegin sinkOps integrityOps m = (.invalidState, m) := if_pos hstate

theorem fileReceiverFinish_of_ne (hstate : m.receiver.state ≠ .receiving) :
    fileReceiverFinish sinkOps integrityOps m = (.invalidState, m) := if_pos hstate

theorem fileReceiverAbort_of_ne (hstate : m.receiver.state ≠ .receiving) :
    fileReceiverAbort sinkOps integrityOps m = m := if_pos hstate

/-- The results of a write that was refused before the sink was asked. -/
def RefusesWrite (result : FileReceiveResult) : Prop :=
  result = .invalidArgument ∨ result = .invalidState ∨ result = .chunkTooLarge ∨
    result = .exceedsExpectedSize

/-- What a write comes to, whatever the state: it is refused without any effect, or the
sink is given the data, which fits. -/
inductive WriteAttempt (sinkOps : FileSinkOps σ) (integrityOps : IntegrityOps τ)
    (m : ReceiverState σ τ) (data : Buffer) : Prop
  | refused (hrefused : RefusesWrite (fileReceiverWrite sinkOps integrityOps m data).1)
    (hsame : (fileReceiverWrite sinkOps integrityOps m data).2 = m)
  | attempted {chunk : Bytes} (hdata : data = .bytes chunk) (hchunk : chunk ≠ [])
    (hstate : m.receiver.state = .receiving)
    (hroom : ¬(m.receiver.expectedBytes < m.receiver.receivedBytes ∨
      m.receiver.expectedBytes - m.receiver.receivedBytes < UInt64.ofNat chunk.length))
    (hsize : chunk.length ≤ frameMaxPayload)
    (hresult : ¬RefusesWrite (fileReceiverWrite sinkOps integrityOps m data).1)

theorem fileReceiverWrite_attempt (m : ReceiverState σ τ) (data : Buffer) :
    WriteAttempt sinkOps integrityOps m data := by
  cases data with
  | null size =>
      refine .refused ?_ ?_ <;> unfold fileReceiverWrite <;>
        by_cases hsize : size = 0 <;> simp [hsize, RefusesWrite] <;> split <;> simp
  | bytes chunk =>
      by_cases hstate : m.receiver.state = .receiving
      swap
      · refine .refused ?_ ?_ <;> unfold fileReceiverWrite <;> simp [hstate, RefusesWrite]
      by_cases hchunk : chunk = []
      · refine .refused ?_ ?_ <;> unfold fileReceiverWrite <;> simp [hstate, hchunk, RefusesWrite]
      by_cases hsize : frameMaxPayload < chunk.length
      · refine .refused ?_ ?_ <;> unfold fileReceiverWrite <;>
          simp [hstate, hchunk, hsize, RefusesWrite]
      by_cases hroom : m.receiver.expectedBytes < m.receiver.receivedBytes ∨
          m.receiver.expectedBytes - m.receiver.receivedBytes < UInt64.ofNat chunk.length
      · refine .refused ?_ ?_ <;> unfold fileReceiverWrite <;>
          simp [hstate, hchunk, hsize, hroom, RefusesWrite]
      · refine .attempted rfl hchunk hstate hroom (not_lt.mp hsize) ?_
        unfold fileReceiverWrite
        simp only [Buffer.isInvalid_bytes, Bool.false_eq_true, if_false, hstate, ne_eq,
          not_true_eq_false, Buffer.size_bytes, List.length_eq_zero_iff, hchunk, hsize, hroom]
        split
        · simp [RefusesWrite]
        split
        · split <;> simp [RefusesWrite]
        · simp [RefusesWrite]

variable (sinkOps integrityOps) in
/-- A hash that is not configured is left alone. -/
theorem integrity_of_not_configured (hconfigured : m.receiver.integrityConfigured = false)
    (hstarted : m.receiver.integrityStarted = false) (data : Buffer) :
    (fileReceiverBegin sinkOps integrityOps m).2.integrity = m.integrity ∧
      (fileReceiverWrite sinkOps integrityOps m data).2.integrity = m.integrity ∧
      (fileReceiverFinish sinkOps integrityOps m).2.integrity = m.integrity ∧
      (fileReceiverAbort sinkOps integrityOps m).integrity = m.integrity := by
  have hfail : ∀ (receiver : FileReceiver) (sink : σ) (result : FileReceiveResult),
      receiver.integrityStarted = false →
        (fileReceiverFail sinkOps integrityOps ⟨receiver, sink, m.integrity⟩ result).2.integrity =
          m.integrity := by
    intro receiver sink result hreceiver
    have hintegrity : (fileReceiverAbortResources sinkOps integrityOps
        ⟨receiver, sink, m.integrity⟩).integrity = _ := fileReceiverAbortResources_integrity _
    rwa [if_neg (by simp [hreceiver])] at hintegrity
  refine ⟨?_, ?_, ?_, ?_⟩
  · unfold fileReceiverBegin
    split
    · rfl
    dsimp only
    split
    · rfl
    · simp [hconfigured]
  · unfold fileReceiverWrite
    simp only [hconfigured, Bool.false_eq_true, if_false]
    repeat' split
    all_goals first | rfl | exact hfail _ _ _ hstarted
  · unfold fileReceiverFinish fileReceiverCommit
    simp only [hconfigured, Bool.false_eq_true, if_false]
    repeat' split
    all_goals first | rfl | exact hfail _ _ _ hstarted
  · unfold fileReceiverAbort
    split
    · rfl
    · have hintegrity : (fileReceiverAbortResources sinkOps integrityOps m).integrity = _ :=
        fileReceiverAbortResources_integrity m
      rwa [if_neg (by simp [hstarted])] at hintegrity

end Operations

/-! ## The calls of the sink -/

/-- A sink's log has grown by calls of this kind. -/
def GrowsBy (allowed : SinkCall → Prop) (before after : List SinkCall) : Prop :=
  ∃ calls, after = before ++ calls ∧ ∀ call ∈ calls, allowed call

/-- The calls that a call of the receiver may make of its sink, when it has accepted the
writes of `data`. -/
inductive SinkCallAllowed (integrityOps : IntegrityOps τ)
    (m : ReceiverState (σ × List SinkCall) (τ × List HashCall)) (data : Bytes) :
    FileReceiverCall τ → SinkCall → Prop
  | begin {status : FileSinkStatus} (hstate : m.receiver.state = .idle) :
    SinkCallAllowed integrityOps m data .begin (.begin m.receiver.expectedBytes status)
  | write {chunk : Bytes} {status : FileSinkStatus} {written : ℕ}
    (hstate : m.receiver.state = .receiving)
    (hfits : m.receiver.receivedBytes.toNat + chunk.length ≤ m.receiver.expectedBytes.toNat) :
    SinkCallAllowed integrityOps m data (.write (.bytes chunk)) (.write chunk status written)
  | commit {status : FileSinkStatus} (hstate : m.receiver.state = .receiving)
    (hreceived : m.receiver.receivedBytes = m.receiver.expectedBytes)
    (hfed : m.receiver.integrityConfigured = true → integrityOps.Fed data m.integrity.1)
    (hdigest : m.receiver.integrityConfigured = true →
      (integrityOps.finish m.integrity.1).1 = (.ok, m.receiver.expectedSha256)) :
    SinkCallAllowed integrityOps m data .finish (.commit status)
  | abort {call : FileReceiverCall τ} : SinkCallAllowed integrityOps m data call .abort

section SinkCalls

variable {sinkOps : FileSinkOps σ} {integrityOps : IntegrityOps τ}
  {m : ReceiverState (σ × List SinkCall) (τ × List HashCall)} {allowed : SinkCall → Prop}
  {before after : List SinkCall} {data : Bytes}

theorem growsBy_refl (log : List SinkCall) : GrowsBy allowed log log := ⟨[], by simp, by simp⟩

theorem GrowsBy.concat {call : SinkCall} (hgrows : GrowsBy allowed before after)
    (hcall : allowed call) : GrowsBy allowed before (after ++ [call]) := by
  obtain ⟨calls, rfl, hcalls⟩ := hgrows
  refine ⟨calls ++ [call], by simp, fun other hother => ?_⟩
  rcases List.mem_append.mp hother with hother | hother
  · exact hcalls other hother
  · rw [List.mem_singleton.mp hother]
    exact hcall

/-- Giving up aborts the sink, if anything. -/
theorem growsBy_abortResources (habort : allowed .abort)
    (hgrows : GrowsBy allowed before m.sink.2) : GrowsBy allowed before
      (fileReceiverAbortResources sinkOps.recorded integrityOps.recorded m).sink.2 := by
  unfold fileReceiverAbortResources
  cases m.receiver.integrityStarted <;> cases hsink : m.receiver.sinkStarted <;> simp [hsink]
  · exact hgrows
  · exact hgrows.concat habort
  · exact hgrows
  · exact hgrows.concat habort

theorem growsBy_fail (habort : allowed .abort) (hgrows : GrowsBy allowed before m.sink.2)
    (result : FileReceiveResult) : GrowsBy allowed before
      (fileReceiverFail sinkOps.recorded integrityOps.recorded m result).2.sink.2 :=
  growsBy_abortResources habort hgrows

/-- Beginning begins an idle receiver's sink. -/
theorem growsBy_begin : GrowsBy (SinkCallAllowed integrityOps m data .begin) m.sink.2
    (fileReceiverBegin sinkOps.recorded integrityOps.recorded m).2.sink.2 := by
  unfold fileReceiverBegin
  split
  · exact growsBy_refl _
  rename_i hstate
  have hbegun : ∀ status, GrowsBy (SinkCallAllowed integrityOps m data .begin) m.sink.2
      (m.sink.2 ++ [.begin m.receiver.expectedBytes status]) :=
    fun _ => (growsBy_refl _).concat (.begin (not_not.mp hstate))
  dsimp only
  split
  · exact hbegun _
  split
  · split
    · exact growsBy_fail .abort (hbegun _) _
    · exact hbegun _
  · exact hbegun _

/-- A write gives the sink data that fits, while the receiver receives. -/
theorem growsBy_write
    (hbounded : m.receiver.receivedBytes.toNat ≤ m.receiver.expectedBytes.toNat)
    (buffer : Buffer) : GrowsBy (SinkCallAllowed integrityOps m data (.write buffer)) m.sink.2
      (fileReceiverWrite sinkOps.recorded integrityOps.recorded m buffer).2.sink.2 := by
  have hattempt : WriteAttempt sinkOps.recorded integrityOps.recorded m buffer :=
    fileReceiverWrite_attempt m buffer
  cases hattempt with
  | refused _ hsame =>
      rw [hsame]
      exact growsBy_refl _
  | @attempted chunk hdata hchunk hstate hroom hsize _ =>
      subst hdata
      have hlength : (UInt64.ofNat chunk.length).toNat = chunk.length :=
        toNat_ofNat_of_le_frameMaxPayload hsize
      have hfits : m.receiver.receivedBytes.toNat + chunk.length ≤
          m.receiver.expectedBytes.toNat := by
        rw [exceeds_iff hbounded, hlength] at hroom
        exact not_lt.mp hroom
      have hwritten : ∀ status written, GrowsBy
          (SinkCallAllowed integrityOps m data (.write (.bytes chunk))) m.sink.2
          (m.sink.2 ++ [.write chunk status written]) :=
        fun _ _ => (growsBy_refl _).concat (.write hstate hfits)
      unfold fileReceiverWrite
      simp only [Buffer.isInvalid_bytes, Bool.false_eq_true, if_false, hstate, ne_eq,
        not_true_eq_false, Buffer.size_bytes, List.length_eq_zero_iff, hchunk,
        Nat.not_lt.mpr hsize, hroom, Buffer.data?_bytes, Option.getD_some]
      split
      · exact growsBy_fail .abort (hwritten _ _) _
      split
      · split
        · exact growsBy_fail .abort (hwritten _ _) _
        · exact hwritten _ _
      · exact hwritten _ _

/-- The last step of a finish. -/
private theorem growsBy_commit {call : FileReceiverCall τ}
    {m' : ReceiverState (σ × List SinkCall) (τ × List HashCall)}
    (hcommit : ∀ status, SinkCallAllowed integrityOps m data call (.commit status))
    (hlog : m'.sink.2 = m.sink.2) : GrowsBy (SinkCallAllowed integrityOps m data call) m.sink.2
      (fileReceiverCommit sinkOps.recorded integrityOps.recorded m').2.sink.2 := by
  have hcommitted : ∀ status, GrowsBy (SinkCallAllowed integrityOps m data call) m.sink.2
      (m'.sink.2 ++ [.commit status]) := by
    intro status
    rw [hlog]
    exact (growsBy_refl _).concat (hcommit status)
  unfold fileReceiverCommit
  dsimp only
  split
  · exact growsBy_fail .abort (hcommitted _) _
  · exact hcommitted _

/-- Finishing commits a sink that has got everything, with the right digest. -/
theorem growsBy_finish (hfed : m.receiver.state = .receiving →
      m.receiver.integrityConfigured = true → integrityOps.Fed data m.integrity.1) :
    GrowsBy (SinkCallAllowed integrityOps m data .finish) m.sink.2
      (fileReceiverFinish sinkOps.recorded integrityOps.recorded m).2.sink.2 := by
  unfold fileReceiverFinish
  split
  · exact growsBy_refl _
  rename_i hstate
  have hreceiving := not_not.mp hstate
  split
  · exact growsBy_refl _
  rename_i hreceived
  split
  swap
  · rename_i hnot
    exact growsBy_commit (fun _ => .commit hreceiving (not_not.mp hreceived)
      (fun h => absurd h hnot) fun h => absurd h hnot) rfl
  split
  · exact growsBy_fail .abort (growsBy_refl _) _
  dsimp only
  split
  · exact growsBy_fail .abort (growsBy_refl _) _
  rename_i hfinished
  split
  · split
    · exact (growsBy_refl _).concat .abort
    · exact growsBy_refl _
  · rename_i hdigest
    rw [Bool.not_eq_true, Bool.not_eq_false', digestEqual_iff] at hdigest
    refine growsBy_commit (fun _ => .commit hreceiving (not_not.mp hreceived) (hfed hreceiving)
      fun _ => ?_) rfl
    exact Prod.ext (not_not.mp hfinished) hdigest

/-- Aborting aborts. -/
theorem growsBy_abort : GrowsBy (SinkCallAllowed integrityOps m data .abort) m.sink.2
    (fileReceiverAbort sinkOps.recorded integrityOps.recorded m).sink.2 := by
  unfold fileReceiverAbort
  split
  · exact growsBy_refl _
  · exact growsBy_abortResources .abort (growsBy_refl _)

end SinkCalls

/-- What a log begins it releases exactly once, with its last call. -/
structure ReleasedOnce {α : Type u} (begins releases : α → Bool) (log : List α) : Prop where
  atMostOnce : log.countP begins ≤ 1
  balanced : log.countP releases = log.countP begins
  last : (∃ call ∈ log, begins call = true) →
    ∃ call, log.getLast? = some call ∧ releases call = true

section Releases

variable {α : Type u} {begins releases : α → Bool} {log : List α}

/-- A log that neither begins nor releases anything. -/
theorem releasedOnce_of_silent
    (hsilent : ∀ call ∈ log, begins call = false ∧ releases call = false) :
    ReleasedOnce begins releases log := by
  have hbegins : log.countP begins = 0 :=
    List.countP_eq_zero.mpr fun call hcall => by rw [(hsilent call hcall).1]; decide
  have hreleases : log.countP releases = 0 :=
    List.countP_eq_zero.mpr fun call hcall => by rw [(hsilent call hcall).2]; decide
  refine ⟨by omega, by omega, ?_⟩
  rintro ⟨call, hcall, hbegun⟩
  rw [(hsilent call hcall).1] at hbegun
  cases hbegun

/-- A log from a begin to a release with neither between them. -/
theorem releasedOnce_of_span {first last : α} {middle : List α}
    (hfirst : begins first = true ∧ releases first = false)
    (hmiddle : ∀ call ∈ middle, begins call = false ∧ releases call = false)
    (hlast : begins last = false ∧ releases last = true) :
    ReleasedOnce begins releases (first :: middle ++ [last]) := by
  have hbegins : middle.countP begins = 0 :=
    List.countP_eq_zero.mpr fun call hcall => by simp [(hmiddle call hcall).1]
  have hreleases : middle.countP releases = 0 :=
    List.countP_eq_zero.mpr fun call hcall => by simp [(hmiddle call hcall).2]
  refine ⟨?_, ?_, fun _ => ⟨last, List.getLast?_concat, hlast.2⟩⟩
  · simp [hbegins, hfirst, hlast]
  · simp [hbegins, hreleases, hfirst, hlast]

end Releases

def SinkCall.begins : SinkCall → Bool
  | .begin _ .ok => true
  | _ => false

def SinkCall.releases : SinkCall → Bool
  | .commit .ok | .abort => true
  | _ => false

def HashCall.begins : HashCall → Bool
  | .begin .ok => true
  | _ => false

def HashCall.releases : HashCall → Bool
  | .finish .ok _ | .abort => true
  | _ => false

/-- A failure neither begins nor releases. -/
theorem SinkCall.IsFailure.silent {call : SinkCall} (hfailure : call.IsFailure) :
    call.begins = false ∧ call.releases = false := by
  cases call with
  | begin | abort => cases hfailure
  | write => exact ⟨rfl, rfl⟩
  | commit status =>
      cases status with
      | ok => exact absurd rfl hfailure
      | ioError => exact ⟨rfl, rfl⟩

theorem HashCall.IsFailure.silent {call : HashCall} (hfailure : call.IsFailure) :
    call.begins = false ∧ call.releases = false := by
  cases call with
  | begin | abort => cases hfailure
  | update => exact ⟨rfl, rfl⟩
  | finish status digest =>
      cases status with
      | ok => exact absurd rfl hfailure
      | error => exact ⟨rfl, rfl⟩

/-- A sink that is neither being written nor broken has been released once. -/
theorem SinkLog.releasedOnce {phase : SinkPhase} {log : List SinkCall} (hlog : SinkLog phase log)
    (hwriting : ∀ expected data, phase ≠ .writing expected data) (hbroken : phase ≠ .broken) :
    ReleasedOnce SinkCall.begins SinkCall.releases log := by
  have hwrites : ∀ {chunks : List Bytes}, ∀ call ∈ chunks.map fun chunk =>
      SinkCall.write chunk .ok chunk.length, call.begins = false ∧ call.releases = false := by
    intro chunks call hcall
    obtain ⟨chunk, -, rfl⟩ := List.mem_map.mp hcall
    exact ⟨rfl, rfl⟩
  cases phase with
  | idle =>
      rw [show log = [] from hlog]
      exact releasedOnce_of_silent fun call hcall => nomatch hcall
  | refused =>
      obtain ⟨expected, status, hstatus, rfl⟩ := hlog
      cases status with
      | ok => exact absurd rfl hstatus
      | ioError =>
          refine releasedOnce_of_silent fun call hcall => ?_
          rw [List.mem_singleton.mp hcall]
          exact ⟨rfl, rfl⟩
  | writing expected data => exact absurd rfl (hwriting expected data)
  | broken => exact absurd rfl hbroken
  | committed expected data =>
      obtain ⟨chunks, -, rfl⟩ := hlog
      exact releasedOnce_of_span ⟨rfl, rfl⟩ hwrites ⟨rfl, rfl⟩
  | aborted =>
      obtain ⟨expected, chunks, rest, hrest, rfl⟩ := hlog
      refine releasedOnce_of_span ⟨rfl, rfl⟩ (fun call hcall => ?_) ⟨rfl, rfl⟩
      rcases List.mem_append.mp hcall with hcall | hcall
      · exact hwrites call hcall
      · exact (hrest call hcall).silent

/-- A hash that is neither running nor broken has been released once. -/
theorem HashLog.releasedOnce {phase : HashPhase} {log : List HashCall} (hlog : HashLog phase log)
    (hrunning : ∀ data, phase ≠ .running data) (hbroken : phase ≠ .broken) :
    ReleasedOnce HashCall.begins HashCall.releases log := by
  have hupdates : ∀ {chunks : List Bytes}, ∀ call ∈ chunks.map fun chunk =>
      HashCall.update chunk .ok, call.begins = false ∧ call.releases = false := by
    intro chunks call hcall
    obtain ⟨chunk, -, rfl⟩ := List.mem_map.mp hcall
    exact ⟨rfl, rfl⟩
  cases phase with
  | idle =>
      rw [show log = [] from hlog]
      exact releasedOnce_of_silent fun call hcall => nomatch hcall
  | refused =>
      obtain ⟨status, hstatus, rfl⟩ := hlog
      cases status with
      | ok => exact absurd rfl hstatus
      | error =>
          refine releasedOnce_of_silent fun call hcall => ?_
          rw [List.mem_singleton.mp hcall]
          exact ⟨rfl, rfl⟩
  | running data => exact absurd rfl (hrunning data)
  | broken => exact absurd rfl hbroken
  | finished data digest =>
      obtain ⟨chunks, -, rfl⟩ := hlog
      exact releasedOnce_of_span ⟨rfl, rfl⟩ hupdates ⟨rfl, rfl⟩
  | aborted =>
      obtain ⟨chunks, rest, hrest, rfl⟩ := hlog
      refine releasedOnce_of_span ⟨rfl, rfl⟩ (fun call hcall => ?_) ⟨rfl, rfl⟩
      rcases List.mem_append.mp hcall with hcall | hcall
      · exact hupdates call hcall
      · exact (hrest call hcall).silent

/-! ## The invariant -/

/-- The run has come to this phase of a transfer, with these announcements. -/
structure FileReceiverRun.Tracks (integrityOps : IntegrityOps τ) (announced : Announced)
    (phase : TransferPhase) (s : FileReceiverRun σ τ) : Prop where
  represents : Represents (fun phase (sink : σ × List SinkCall) => True ∧ SinkLog phase sink.2)
    (fun phase (hash : τ × List HashCall) =>
      integrityOps.FedAt phase hash.1 ∧ HashLog phase hash.2) announced phase s.m
  accepted : s.accepted.flatten = phase.data
  unused : announced.sha256 = none → s.hashLog = []

section Invariant

variable {sinkOps : FileSinkOps σ} {integrityOps : IntegrityOps τ} {s : FileReceiverRun σ τ}
  {announced : Announced} {phase : TransferPhase}

/-- A write that was refused leaves the run as it is. -/
private theorem FileReceiverRun.call_write_of_refused {data : Buffer}
    (hrefused : RefusesWrite
      (fileReceiverWrite sinkOps.recorded integrityOps.recorded s.m data).1)
    (hsame : (fileReceiverWrite sinkOps.recorded integrityOps.recorded s.m data).2 = s.m) :
    s.call sinkOps integrityOps (.write data) = s := by
  have hresult : (fileReceiverWrite sinkOps.recorded integrityOps.recorded s.m data).1 ≠ .ok := by
    rcases hrefused with h | h | h | h <;> rw [h] <;> decide
  simp only [FileReceiverRun.call, hresult, hsame, if_false]

/-- A transfer that is over stays as it is. -/
theorem FileReceiverRun.call_of_over (hover : s.receiver.state.Over) (c : FileReceiverCall τ) :
    s.call sinkOps integrityOps c = s := by
  have hidle : s.m.receiver.state ≠ .idle := by
    rcases hover with h | h | h <;> rw [h] <;> decide
  have hreceiving : s.m.receiver.state ≠ .receiving := by
    rcases hover with h | h | h <;> rw [h] <;> decide
  cases c with
  | configureIntegrity arguments =>
      cases arguments with
      | none => rfl
      | some arguments => simp [FileReceiverRun.call, fileReceiverConfigureIntegrity, hidle]
  | begin => simp only [FileReceiverRun.call, fileReceiverBegin_of_ne hidle]
  | write data =>
      have hattempt : WriteAttempt sinkOps.recorded integrityOps.recorded s.m data :=
        fileReceiverWrite_attempt s.m data
      cases hattempt with
      | refused hrefused hsame => exact FileReceiverRun.call_write_of_refused hrefused hsame
      | attempted _ _ hstate => exact absurd hstate hreceiving
  | finish => simp only [FileReceiverRun.call, fileReceiverFinish_of_ne hreceiving]
  | abort => simp only [FileReceiverRun.call, fileReceiverAbort_of_ne hreceiving]

/-- A hash that was not announced is not used. -/
private theorem FileReceiverRun.Tracks.hashLog_call (hs : s.Tracks integrityOps announced phase)
    (hnone : announced.sha256 = none) (c : FileReceiverCall τ)
    (hc : ∀ arguments, c ≠ .configureIntegrity arguments) :
    (s.call sinkOps integrityOps c).hashLog = [] := by
  have hconfigured := hs.represents.setUp.configured
  have hstarted := hs.represents.integrityStarted
  rw [hnone] at hconfigured hstarted
  rw [Option.isSome_none, Bool.and_false] at hstarted
  have hlog := hs.unused hnone
  have hunused := integrity_of_not_configured sinkOps.recorded integrityOps.recorded hconfigured
    hstarted
  cases c with
  | configureIntegrity arguments => exact absurd rfl (hc arguments)
  | begin => exact (congrArg Prod.snd (hunused (.null 0)).1).trans hlog
  | write data => exact (congrArg Prod.snd (hunused data).2.1).trans hlog
  | finish => exact (congrArg Prod.snd (hunused (.null 0)).2.2.1).trans hlog
  | abort => exact (congrArg Prod.snd (hunused (.null 0)).2.2.2).trans hlog

/-- Integrity is configured before the transfer begins. -/
private theorem FileReceiverRun.Tracks.configure (hs : s.Tracks integrityOps announced .idle)
    (context : τ) (sha256 : Digest) :
    (s.call sinkOps integrityOps (.configureIntegrity (some (context, sha256)))).Tracks integrityOps
      ⟨announced.bytes, some sha256⟩ .idle := by
  obtain ⟨hsetUp, hstate, hsinkStarted, hintegrityStarted, hreceived, hbounded, hsink, hhash⟩ :=
    hs.represents
  have hlog : s.hashLog = [] := by
    cases hsha256 : announced.sha256 with
    | none => exact hs.unused hsha256
    | some digest => exact (hhash digest hsha256).2
  have hidle : s.receiver.state = .idle := hstate
  have hfree : s.receiver.sinkStarted = false := hsinkStarted
  have hconfigured : s.call sinkOps integrityOps (.configureIntegrity (some (context, sha256))) =
      { s with m := ⟨{ s.receiver with expectedSha256 := sha256, integrityConfigured := true },
        s.m.sink, (context, s.hashLog)⟩ } := by
    simp [FileReceiverRun.call, fileReceiverConfigureIntegrity, hidle, hfree]
  rw [hconfigured]
  refine ⟨⟨⟨hsetUp.bytes, rfl, ?_⟩, hidle, hsinkStarted, ?_, hreceived, hbounded, hsink, ?_⟩,
    hs.accepted, fun hnone => nomatch hnone⟩
  · intro digest hdigest
    exact Option.some.inj hdigest
  · simpa using hintegrityStarted
  · exact fun _ _ => ⟨trivial, hlog⟩

/-- A call that changes nothing keeps the run on its way. -/
private theorem FileReceiverRun.Tracks.unchanged (hs : s.Tracks integrityOps announced phase)
    {c : FileReceiverCall τ} (hsame : s.call sinkOps integrityOps c = s) :
    ∃ announced' phase', announced'.bytes = announced.bytes ∧
      (s.call sinkOps integrityOps c).Tracks integrityOps announced' phase' := by
  rw [hsame]
  exact ⟨announced, phase, rfl, hs⟩

/-- A call before the transfer has begun. -/
private theorem FileReceiverRun.Tracks.call_idle (hs : s.Tracks integrityOps announced .idle)
    (c : FileReceiverCall τ) : ∃ announced' phase', announced'.bytes = announced.bytes ∧
      (s.call sinkOps integrityOps c).Tracks integrityOps announced' phase' := by
  have hnot : s.m.receiver.state ≠ .receiving := by
    rw [hs.represents.state]
    decide
  have hnothing : s.accepted.flatten = [] := hs.accepted
  cases c with
  | configureIntegrity arguments =>
      cases arguments with
      | none => exact hs.unchanged rfl
      | some arguments =>
          obtain ⟨context, sha256⟩ := arguments
          exact ⟨⟨announced.bytes, some sha256⟩, .idle, rfl, hs.configure context sha256⟩
  | begin =>
      have hunused : announced.sha256 = none →
          (s.call sinkOps integrityOps .begin).hashLog = [] :=
        fun hnone => hs.hashLog_call hnone .begin (by simp)
      cases fileReceiverBegin_outcome sinkOps.implements_trivial.recorded
        integrityOps.implements_fedAt.recorded hs.represents with
      | receiving _ hrep => exact ⟨announced, .receiving [], rfl, hrep, hnothing, hunused⟩
      | failed _ hrep => exact ⟨announced, .failed [], rfl, hrep, hnothing, hunused⟩
  | write data =>
      have hattempt : WriteAttempt sinkOps.recorded integrityOps.recorded s.m data :=
        fileReceiverWrite_attempt s.m data
      cases hattempt with
      | refused hrefused hunchanged =>
          exact hs.unchanged (call_write_of_refused hrefused hunchanged)
      | attempted _ _ hreceiving => exact absurd hreceiving hnot
  | finish =>
      exact hs.unchanged (by simp only [FileReceiverRun.call, fileReceiverFinish_of_ne hnot])
  | abort =>
      exact hs.unchanged (by simp only [FileReceiverRun.call, fileReceiverAbort_of_ne hnot])

/-- A write while the file is received: the data is accepted, or the transfer fails. -/
private theorem FileReceiverRun.Tracks.call_write {data : Bytes}
    (hs : s.Tracks integrityOps announced (.receiving data)) (buffer : Buffer) :
    ∃ announced' phase', announced'.bytes = announced.bytes ∧
      (s.call sinkOps integrityOps (.write buffer)).Tracks integrityOps announced' phase' := by
  have hattempt : WriteAttempt sinkOps.recorded integrityOps.recorded s.m buffer :=
    fileReceiverWrite_attempt s.m buffer
  cases hattempt with
  | refused hrefused hunchanged => exact hs.unchanged (call_write_of_refused hrefused hunchanged)
  | @attempted chunk hdata hchunk _ _ _ hresult =>
      subst hdata
      have haccepted : (s.call sinkOps integrityOps (.write (.bytes chunk))).accepted =
          if (fileReceiverWrite sinkOps.recorded integrityOps.recorded s.m
            (.bytes chunk)).1 = .ok then s.accepted ++ [chunk] else s.accepted := rfl
      have hunused : announced.sha256 = none →
          (s.call sinkOps integrityOps (.write (.bytes chunk))).hashLog = [] :=
        fun hnone => hs.hashLog_call hnone (.write (.bytes chunk)) (by simp)
      cases fileReceiverWrite_outcome sinkOps.implements_trivial.recorded
        integrityOps.implements_fedAt.recorded hs.represents hchunk with
      | accepted hok _ hrep =>
          refine ⟨announced, .receiving (data ++ chunk), rfl, hrep, ?_, hunused⟩
          rw [haccepted, if_pos hok, List.flatten_append, hs.accepted]
          simp
      | refused hrefused =>
          refine absurd ?_ hresult
          rcases hrefused with ⟨h, -⟩ | ⟨h, -⟩
          · exact .inr (.inr (.inl h))
          · exact .inr (.inr (.inr h))
      | failed herror hrep =>
          refine ⟨announced, .failed data, rfl, hrep, ?_, hunused⟩
          rw [haccepted, if_neg (by rcases herror with h | h <;> rw [h] <;> decide),
            hs.accepted]
          rfl

/-- A call while the file is received. -/
private theorem FileReceiverRun.Tracks.call_receiving {data : Bytes}
    (hs : s.Tracks integrityOps announced (.receiving data)) (c : FileReceiverCall τ) :
    ∃ announced' phase', announced'.bytes = announced.bytes ∧
      (s.call sinkOps integrityOps c).Tracks integrityOps announced' phase' := by
  have hsink := sinkOps.implements_trivial.recorded
  have hhash := integrityOps.implements_fedAt.recorded
  have hnot : s.m.receiver.state ≠ .idle := by
    rw [hs.represents.state]
    exact fun h => nomatch h
  cases c with
  | configureIntegrity arguments =>
      cases arguments with
      | none => exact hs.unchanged rfl
      | some arguments =>
          exact hs.unchanged (by
            simp [FileReceiverRun.call, fileReceiverConfigureIntegrity, hnot])
  | begin =>
      exact hs.unchanged (by simp only [FileReceiverRun.call, fileReceiverBegin_of_ne hnot])
  | write buffer => exact hs.call_write buffer
  | finish =>
      have hunused : announced.sha256 = none →
          (s.call sinkOps integrityOps .finish).hashLog = [] :=
        fun hnone => hs.hashLog_call hnone .finish (by simp)
      cases fileReceiverFinish_outcome hsink hhash hs.represents with
      | complete _ _ hrep => exact ⟨announced, .complete data, rfl, hrep, hs.accepted, hunused⟩
      | incomplete _ _ hunchanged =>
          exact hs.unchanged (by simp only [FileReceiverRun.call, hunchanged])
      | failed _ _ hrep => exact ⟨announced, .failed data, rfl, hrep, hs.accepted, hunused⟩
  | abort =>
      have hrep := fileReceiverAbort_represents hsink hhash hs.represents
      exact ⟨announced, .aborted data, rfl, hrep, hs.accepted,
        fun hnone => hs.hashLog_call hnone .abort (by simp)⟩

/-- Every call keeps the run on its way. -/
theorem FileReceiverRun.Tracks.call (hs : s.Tracks integrityOps announced phase)
    (c : FileReceiverCall τ) : ∃ announced' phase', announced'.bytes = announced.bytes ∧
      (s.call sinkOps integrityOps c).Tracks integrityOps announced' phase' := by
  have hstate := hs.represents.state
  cases phase with
  | idle => exact hs.call_idle c
  | receiving data => exact hs.call_receiving c
  | complete data => exact hs.unchanged (FileReceiverRun.call_of_over (.inl hstate) c)
  | failed data => exact hs.unchanged (FileReceiverRun.call_of_over (.inr (.inl hstate)) c)
  | aborted data => exact hs.unchanged (FileReceiverRun.call_of_over (.inr (.inr hstate)) c)

/-- A transfer that is over has released both its resources. -/
private theorem FileReceiverRun.Tracks.released (hs : s.Tracks integrityOps announced phase)
    (hover : s.receiver.state.Over) :
    ReleasedOnce SinkCall.begins SinkCall.releases s.sinkLog ∧
      ReleasedOnce HashCall.begins HashCall.releases s.hashLog := by
  obtain ⟨-, hstate, -, -, -, -, hsink, hhash⟩ := hs.represents
  have hunused : announced.sha256 = none →
      ReleasedOnce HashCall.begins HashCall.releases s.hashLog := by
    intro hnone
    rw [hs.unused hnone]
    exact releasedOnce_of_silent fun call hcall => nomatch hcall
  have hnot : phase.state ≠ .idle ∧ phase.state ≠ .receiving := by
    rw [← hstate]
    rcases hover with h | h | h <;> rw [h] <;> decide
  constructor
  · cases phase with
    | idle => exact absurd rfl hnot.1
    | receiving data => exact absurd rfl hnot.2
    | complete data => exact hsink.1.2.releasedOnce (by simp) (by simp)
    | failed data =>
        rcases hsink with hsink | hsink
        · exact hsink.2.releasedOnce (by simp) (by simp)
        · exact hsink.2.releasedOnce (by simp) (by simp)
    | aborted data => exact hsink.2.releasedOnce (by simp) (by simp)
  · cases hsha256 : announced.sha256 with
    | none => exact hunused hsha256
    | some digest =>
        have hhash' := hhash digest hsha256
        cases phase with
        | idle => exact absurd rfl hnot.1
        | receiving data => exact absurd rfl hnot.2
        | complete data => exact hhash'.2.releasedOnce (by simp) (by simp)
        | failed data =>
            rcases hhash' with hhash' | hhash' | hhash' | ⟨_, hhash'⟩
            · exact hhash'.2.releasedOnce (by simp) (by simp)
            · exact hhash'.2.releasedOnce (by simp) (by simp)
            · exact hhash'.2.releasedOnce (by simp) (by simp)
            · exact hhash'.2.releasedOnce (by simp) (by simp)
        | aborted data => exact hhash'.2.releasedOnce (by simp) (by simp)

end Invariant

/-- What a file receiver that was initialized for `expected` bytes guarantees. -/
structure FileReceiverInvariant (sinkOps : FileSinkOps σ) (integrityOps : IntegrityOps τ)
    (expected : UInt64) (s : FileReceiverRun σ τ) : Prop where
  announced : s.receiver.expectedBytes = expected
  /-- The counter is the exact sum of the accepted writes. -/
  counted : s.receiver.receivedBytes.toNat = (s.accepted.map List.length).sum
  bounded : s.receiver.receivedBytes.toNat ≤ expected.toNat
  /-- While receiving, the sink has been written, and the hash fed, what was accepted. -/
  written : s.receiver.state = .receiving →
    ∃ chunks : List Bytes, chunks.flatten = s.accepted.flatten ∧
      s.sinkLog = writtenLog expected chunks
  fed : s.receiver.state = .receiving → s.receiver.integrityConfigured = true →
    ∃ chunks : List Bytes, chunks.flatten = s.accepted.flatten ∧ s.hashLog = fedLog chunks
  /-- Every call makes only the calls of the sink that are allowed then. -/
  sinkCalls : ∀ c, GrowsBy (SinkCallAllowed integrityOps s.m s.accepted.flatten c) s.sinkLog
    (s.call sinkOps integrityOps c).sinkLog
  released : s.receiver.state.Over →
    ReleasedOnce SinkCall.begins SinkCall.releases s.sinkLog ∧
      ReleasedOnce HashCall.begins HashCall.releases s.hashLog
  /-- Once the transfer is over no call does anything. -/
  lasting : s.receiver.state.Over → ∀ c, s.call sinkOps integrityOps c = s
  /-- A write that is refused makes no call and changes nothing. -/
  refused : ∀ data,
    RefusesWrite (fileReceiverWrite sinkOps.recorded integrityOps.recorded s.m data).1 →
      (fileReceiverWrite sinkOps.recorded integrityOps.recorded s.m data).2 = s.m ∧
        s.call sinkOps integrityOps (.write data) = s

variable {sinkOps : FileSinkOps σ} {integrityOps : IntegrityOps τ} {s : FileReceiverRun σ τ}

/-- What a run on its way guarantees. -/
theorem FileReceiverRun.Tracks.invariant {announced : Announced} {phase : TransferPhase}
    (hs : s.Tracks integrityOps announced phase) :
    FileReceiverInvariant sinkOps integrityOps announced.bytes s := by
  obtain ⟨hsetUp, hstate, -, -, hreceived, hbounded, hsink, hhash⟩ := hs.represents
  have hreceiving : s.receiver.state = .receiving → phase = .receiving s.accepted.flatten := by
    intro hreceiving
    rw [hs.accepted]
    have hphase : phase.state = .receiving := hstate.symm.trans hreceiving
    cases phase with
    | receiving => rfl
    | idle | complete | failed | aborted => cases hphase
  -- The hash has been fed what was accepted.
  have hfed : s.receiver.state = .receiving → s.receiver.integrityConfigured = true →
      integrityOps.Fed s.accepted.flatten s.m.integrity.1 ∧
        HashLog (.running s.accepted.flatten) s.hashLog := by
    intro hstate' hconfigured
    rw [hsetUp.configured] at hconfigured
    obtain ⟨digest, hdigest⟩ := Option.isSome_iff_exists.mp hconfigured
    have hrunning := hhash digest hdigest
    rw [hreceiving hstate'] at hrunning
    exact hrunning
  constructor
  case announced => exact hsetUp.bytes
  case counted => rw [hreceived, ← hs.accepted, List.length_flatten]
  case bounded =>
    rw [hreceived]
    exact hbounded
  case written =>
    intro hstate'
    rw [hreceiving hstate'] at hsink
    exact hsink.2
  case fed => exact fun hstate' hconfigured => (hfed hstate' hconfigured).2
  case sinkCalls =>
    intro c
    cases c with
    | configureIntegrity arguments =>
        cases arguments with
        | none => exact growsBy_refl _
        | some arguments =>
            unfold FileReceiverRun.call
            dsimp only
            split <;> exact growsBy_refl _
    | begin => exact growsBy_begin
    | write data =>
        refine growsBy_write ?_ data
        rw [hreceived, hsetUp.bytes]
        exact hbounded
    | finish => exact growsBy_finish fun hstate' hconfigured => (hfed hstate' hconfigured).1
    | abort => exact growsBy_abort
  case released => exact hs.released
  case lasting => exact fun hover => FileReceiverRun.call_of_over hover
  case refused =>
    intro data hrefused
    have hattempt : WriteAttempt sinkOps.recorded integrityOps.recorded s.m data :=
      fileReceiverWrite_attempt s.m data
    cases hattempt with
    | refused _ hsame => exact ⟨hsame, FileReceiverRun.call_write_of_refused hrefused hsame⟩
    | attempted _ _ _ _ _ hresult => exact absurd hrefused hresult

/-- In every run of a file receiver, whatever its sink and its hash do. -/
theorem fileReceiverInvariant_of_reachable {expected : UInt64} {sink : σ} {hash : τ}
    (hreachable : (FileReceiverRun.system sinkOps integrityOps expected sink hash).Reachable s) :
    FileReceiverInvariant sinkOps integrityOps expected s := by
  have hstart : (FileReceiverRun.system sinkOps integrityOps expected sink hash).init.Tracks
      integrityOps ⟨expected, none⟩ .idle := by
    refine ⟨⟨⟨rfl, rfl, fun _ h => nomatch h⟩, rfl, rfl, rfl, rfl, Nat.zero_le _, ?_, ?_⟩, rfl,
      fun _ => rfl⟩
    · exact ⟨trivial, rfl⟩
    · exact fun _ h => nomatch h
  have htracks : ∃ announced phase, announced.bytes = expected ∧
      s.Tracks integrityOps announced phase := by
    refine TransitionSystem.RunWithin.invariant (P := fun s => ∃ announced phase,
      announced.bytes = expected ∧ FileReceiverRun.Tracks integrityOps announced phase s)
      ⟨_, _, rfl, hstart⟩ ?_ hreachable
    rintro before after c - ⟨announced, phase, hbytes, hbefore⟩ - hstep
    obtain rfl := Option.some.inj hstep
    obtain ⟨announced', phase', hbytes', hafter⟩ := hbefore.call c
    exact ⟨announced', phase', hbytes'.trans hbytes, hafter⟩
  obtain ⟨announced, phase, rfl, hs⟩ := htracks
  exact hs.invariant

/-- A sink whose second write is short. -/
def shortSinkOps : FileSinkOps ℕ where
  begin sink _ := (.ok, sink)
  write sink data := ((.ok, if sink = 0 then data.length else 0), sink + 1)
  commit sink := (.ok, sink)
  abort sink := sink

/-- A file of three bytes that comes in two chunks. -/
def twoChunks : List (FileReceiverCall Unit) :=
  [.configureIntegrity (some ((), Vector.replicate 32 0)), .begin, .write (.bytes [1, 2]),
    .write (.bytes [3]), .finish]

/-- The receiver after its second write has failed. -/
def shortRun : FileReceiverRun ℕ Unit :=
  ((FileReceiverRun.system shortSinkOps (fixedHashOps (Vector.replicate 32 0)) 3 0 ()).run
    (FileReceiverRun.system shortSinkOps (fixedHashOps (Vector.replicate 32 0)) 3 0 ()).init
    twoChunks).getD ⟨⟨fileReceiverInit 3, (0, []), ((), [])⟩, []⟩

theorem shortRun_invariant : shortRun.receiver.state = .failed ∧
    FileReceiverInvariant shortSinkOps (fixedHashOps (Vector.replicate 32 0)) 3 shortRun := by
  have hreachable : (FileReceiverRun.system shortSinkOps (fixedHashOps (Vector.replicate 32 0)) 3 0
      ()).Reachable shortRun := TransitionSystem.reachable_of_run twoChunks rfl
  exact ⟨by decide, fileReceiverInvariant_of_reachable hreachable⟩

end PrintDrop
