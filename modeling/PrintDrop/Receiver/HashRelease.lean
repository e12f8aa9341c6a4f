/-
# The Win32 hash behind a file receiver

What a file receiver makes of the Win32 hash: the digest it compares is that of the bytes it
has written, and once the transfer is over, however it ended, nothing is held of the hash.

A file receiver reaches its hash through the four functions of the table only, so it keeps
whatever these keep.
-/

import PrintDrop.Receiver.Calls
import PrintDrop.Receiver.Win32Sha256

namespace PrintDrop

open Math

universe u v

variable {σ : Type u} {τ : Type v}

/-- A property of contexts that no call of the table ends. -/
structure IntegrityOps.Keeps (ops : IntegrityOps τ) (P : τ → Prop) : Prop where
  begin : ∀ {hash}, P hash → P (ops.begin hash).2
  update : ∀ {hash} data, P hash → P (ops.update hash data).2
  finish : ∀ {hash}, P hash → P (ops.finish hash).2
  abort : ∀ {hash}, P hash → P (ops.abort hash)

section Keeps

variable {sinkOps : FileSinkOps σ} {integrityOps : IntegrityOps τ} {P : τ → Prop}
  {m : ReceiverState σ τ}

theorem IntegrityOps.Keeps.fileReceiverAbortResources (hkeeps : integrityOps.Keeps P)
    (hm : P m.integrity) : P (fileReceiverAbortResources sinkOps integrityOps m).integrity := by
  rw [fileReceiverAbortResources_integrity]
  split
  · exact hkeeps.abort hm
  · exact hm

theorem IntegrityOps.Keeps.fileReceiverFail (hkeeps : integrityOps.Keeps P) (hm : P m.integrity)
    (result : FileReceiveResult) :
    P (fileReceiverFail sinkOps integrityOps m result).2.integrity :=
  hkeeps.fileReceiverAbortResources hm

theorem IntegrityOps.Keeps.fileReceiverBegin (hkeeps : integrityOps.Keeps P)
    (hm : P m.integrity) : P (fileReceiverBegin sinkOps integrityOps m).2.integrity := by
  unfold PrintDrop.fileReceiverBegin
  dsimp only
  split
  · exact hm
  split
  · exact hm
  split
  · split
    · exact hkeeps.fileReceiverFail (hkeeps.begin hm) _
    · exact hkeeps.begin hm
  · exact hm

theorem IntegrityOps.Keeps.fileReceiverWrite (hkeeps : integrityOps.Keeps P)
    (hm : P m.integrity) (data : Buffer) :
    P (fileReceiverWrite sinkOps integrityOps m data).2.integrity := by
  unfold PrintDrop.fileReceiverWrite
  dsimp only
  split
  · exact hm
  split
  · exact hm
  split
  · exact hm
  split
  · exact hm
  split
  · exact hm
  split
  · apply hkeeps.fileReceiverFail
    exact hm
  split
  · split
    · exact hkeeps.fileReceiverFail (hkeeps.update _ hm) _
    · exact hkeeps.update _ hm
  · exact hm

theorem IntegrityOps.Keeps.fileReceiverCommit (hkeeps : integrityOps.Keeps P)
    (hm : P m.integrity) : P (fileReceiverCommit sinkOps integrityOps m).2.integrity := by
  unfold PrintDrop.fileReceiverCommit
  dsimp only
  split
  · apply hkeeps.fileReceiverFail
    exact hm
  · exact hm

theorem IntegrityOps.Keeps.fileReceiverFinish (hkeeps : integrityOps.Keeps P)
    (hm : P m.integrity) : P (fileReceiverFinish sinkOps integrityOps m).2.integrity := by
  unfold PrintDrop.fileReceiverFinish
  dsimp only
  split
  · exact hm
  split
  · exact hm
  split
  · split
    · exact hkeeps.fileReceiverFail hm _
    split
    · exact hkeeps.fileReceiverFail (hkeeps.finish hm) _
    split
    · split <;> exact hkeeps.finish hm
    · exact hkeeps.fileReceiverCommit (hkeeps.finish hm)
  · exact hkeeps.fileReceiverCommit hm

theorem IntegrityOps.Keeps.fileReceiverAbort (hkeeps : integrityOps.Keeps P)
    (hm : P m.integrity) : P (fileReceiverAbort sinkOps integrityOps m).integrity := by
  unfold PrintDrop.fileReceiverAbort
  split
  · exact hm
  · exact hkeeps.fileReceiverAbortResources hm

end Keeps

/-- Integrity is configured only with contexts that are fresh. -/
def ConfiguresFresh (fresh : τ → Prop) : FileReceiverCall τ → Prop
  | .configureIntegrity (some (context, _)) => fresh context
  | _ => True

section Runs

variable {sinkOps : FileSinkOps σ} {integrityOps : IntegrityOps τ} {s : FileReceiverRun σ τ}
  {P : τ × List HashCall → Prop} {fresh : τ → Prop}

theorem FileReceiverRun.call_keeps (hkeeps : integrityOps.recorded.Keeps P)
    (hfresh : ∀ {hash} log, fresh hash → P (hash, log)) (hs : P s.m.integrity)
    {c : FileReceiverCall τ} (hc : ConfiguresFresh fresh c) :
    P (s.call sinkOps integrityOps c).m.integrity := by
  cases c with
  | configureIntegrity arguments =>
      cases arguments with
      | none => exact hs
      | some arguments =>
          obtain ⟨context, sha256⟩ := arguments
          unfold FileReceiverRun.call
          dsimp only
          split
          · exact hfresh s.hashLog hc
          · exact hs
  | begin => exact hkeeps.fileReceiverBegin hs
  | write data => exact hkeeps.fileReceiverWrite hs data
  | finish => exact hkeeps.fileReceiverFinish hs
  | abort => exact hkeeps.fileReceiverAbort hs

/-- What the table keeps holds in every run that starts from a fresh context and configures
no other. -/
theorem FileReceiverRun.keeps (hkeeps : integrityOps.recorded.Keeps P)
    (hfresh : ∀ {hash} log, fresh hash → P (hash, log)) {expected : UInt64} {sink : σ} {hash : τ}
    (hhash : fresh hash)
    (hrun : (FileReceiverRun.system sinkOps integrityOps expected sink hash).RunWithin
      (fun _ c => ConfiguresFresh fresh c) s) : P s.m.integrity := by
  refine TransitionSystem.RunWithin.invariant
    (P := fun s => P (FileReceiverRun.m s).integrity) (hfresh [] hhash) ?_ hrun
  intro before after c _ hbefore hc hstep
  obtain rfl := Option.some.inj hstep
  exact FileReceiverRun.call_keeps hkeeps hfresh hbefore hc

end Runs

section Win32

variable {c : Win32HashContext} {digestOf : Bytes → Digest}

/-- A hash object that is active and was fed so much. -/
def Win32HashContext.Running (data : Bytes) (c : Win32HashContext) : Prop :=
  c.sha256.active = true ∧
    ∃ hash, c.sha256.hashHandle = some hash ∧ c.world.fed hash = some data

theorem createHash_fed {w : Win32CryptWorld} {algorithm buffer hash : Handle}
    (hcreated : (w.createHash algorithm buffer).1 = some hash) :
    (w.createHash algorithm buffer).2.fed hash = some [] := by
  unfold Win32CryptWorld.createHash at hcreated ⊢
  dsimp only at hcreated ⊢
  split at hcreated
  · rename_i hnone
    rw [hnone] at hcreated
    cases hcreated
  · rename_i hsome
    obtain rfl := Option.some.inj hcreated
    simp

/-- A begin makes a hash that was not active run, or leaves it inactive. -/
theorem win32Sha256Begin_outcome (hinactive : c.sha256.active = false) :
    (win32Sha256Begin c).1 = .ok ∧ (win32Sha256Begin c).2.Running [] ∨
      (win32Sha256Begin c).1 = .error ∧ (win32Sha256Begin c).2.sha256.active = false := by
  unfold win32Sha256Begin
  simp only [hinactive, Bool.false_eq_true, if_false]
  split
  · exact .inr ⟨rfl, rfl⟩
  split
  · exact .inr ⟨rfl, rfl⟩
  split
  · exact .inr ⟨rfl, rfl⟩
  split
  · exact .inr ⟨rfl, rfl⟩
  · rename_i hash hcreated
    exact .inl ⟨rfl, rfl, hash, rfl, createHash_fed hcreated⟩

theorem win32Sha256Update_sha256 (data : Buffer) :
    (win32Sha256Update c data).2.sha256 = c.sha256 := by
  unfold win32Sha256Update
  split
  · rfl
  split <;> rfl

/-- A finish leaves no hash active, whatever became of the digest. -/
theorem win32Sha256Finish_inactive (hbalanced : c.Balanced) (digest : Digest) :
    (win32Sha256Finish digestOf c (some digest)).2.sha256.active = false := by
  cases hbalanced with
  | active hsha256 _ _ =>
      have hfinish : (win32Sha256Finish digestOf c (some digest)).2 =
          win32Sha256Cleanup { c with world := c.world.advance } := by
        simp [win32Sha256Finish, hsha256, Win32CryptWorld.finishHash]
      rw [hfinish]
      rfl
  | inactive hsha256 _ => simp [win32Sha256Finish, hsha256, win32Sha256Init]

theorem win32Sha256Update_running {data chunk : Bytes} (hrunning : c.Running data)
    (hok : (win32Sha256Update c (.bytes chunk)).1 = .ok) :
    (win32Sha256Update c (.bytes chunk)).2.Running (data ++ chunk) := by
  obtain ⟨hactive, hash, hhandle, hfed⟩ := hrunning
  unfold win32Sha256Update at hok ⊢
  simp only [hhandle] at hok ⊢
  split at hok
  · cases hok
  rename_i haccepted
  rw [if_neg haccepted]
  unfold Win32CryptWorld.hashData at hok ⊢
  split at hok
  · rename_i hsucceeds
    refine ⟨hactive, hash, hhandle, ?_⟩
    simp [hsucceeds, hfed]
  · cases hok

/-- A finish that succeeds returns the digest of the data. -/
theorem win32Sha256Finish_digest {data : Bytes} (hrunning : c.Running data) (digest : Digest)
    (hok : (win32Sha256Finish digestOf c (some digest)).1.1 = .ok) :
    (win32Sha256Finish digestOf c (some digest)).1.2 = some (digestOf data) := by
  obtain ⟨hactive, hash, hhandle, hfed⟩ := hrunning
  unfold win32Sha256Finish at hok ⊢
  simp only [hhandle, hactive, Bool.not_true, Bool.false_eq_true, if_false] at hok ⊢
  unfold Win32CryptWorld.finishHash at hok ⊢
  dsimp only at hok ⊢
  split at hok
  · rename_i hsucceeds
    simp [hsucceeds, hfed]
  · cases hok

/-- What a run of the hash computes is the digest of what it was fed. -/
theorem win32Sha256Ops_computes (digestOf : Bytes → Digest) :
    (win32Sha256Ops digestOf).Computes digestOf := by
  have hrunning : ∀ {data hash}, (win32Sha256Ops digestOf).Fed data hash → hash.Running data := by
    intro data hash hfed
    induction hfed with
    | @begun hash hok =>
        have hbegun : (win32Sha256Begin hash).1 = .ok := hok
        cases hactive : hash.sha256.active with
        | true =>
            rw [win32Sha256Begin_of_active hactive] at hbegun
            cases hbegun
        | false =>
            rcases win32Sha256Begin_outcome hactive with ⟨-, hrunning⟩ | ⟨herror, -⟩
            · exact hrunning
            · exact absurd (hbegun.symm.trans herror) (by decide)
    | updated _ hok ih => exact win32Sha256Update_running ih hok
  intro data hash hfed hok
  have hdigest : (win32Sha256Finish digestOf hash (some (Vector.replicate 32 0))).1.2 =
      some (digestOf data) := win32Sha256Finish_digest (hrunning hfed) _ hok
  show (win32Sha256Finish digestOf hash (some (Vector.replicate 32 0))).1.2.getD _ = _
  rw [hdigest]
  rfl

/-- Nothing was begun, or the last call has released it. -/
def HashLogAtRest (log : List HashCall) : Prop :=
  (∀ call ∈ log, call.begins = false) ∨ ∃ call, log.getLast? = some call ∧ call.releases = true

/-- The balance, and that a hash whose calls have come to rest is not active. -/
def Win32HashKept (hash : Win32HashContext × List HashCall) : Prop :=
  hash.1.Balanced ∧ (HashLogAtRest hash.2 → hash.1.sha256.active = false)

theorem hashLogAtRest_concat {log : List HashCall} {call : HashCall}
    (hrest : HashLogAtRest (log ++ [call])) (hreleases : call.releases = false) :
    HashLogAtRest log ∧ call.begins = false := by
  rcases hrest with hsilent | ⟨last, hlast, hreleased⟩
  · exact ⟨.inl fun other hother => hsilent other (List.mem_append_left _ hother),
      hsilent call (by simp)⟩
  · obtain rfl : call = last := by simpa using hlast
    rw [hreleases] at hreleased
    cases hreleased

theorem win32Sha256Ops_keeps (digestOf : Bytes → Digest) :
    (win32Sha256Ops digestOf).recorded.Keeps Win32HashKept := by
  constructor
  case begin =>
    rintro ⟨c, log⟩ ⟨hbalanced, hinactive⟩
    refine ⟨win32Sha256Begin_balanced hbalanced, fun hrest => ?_⟩
    obtain ⟨hprior, hsilent⟩ := hashLogAtRest_concat hrest rfl
    rcases win32Sha256Begin_outcome (hinactive hprior) with ⟨hok, -⟩ | ⟨-, hstill⟩
    · have hbegins : (HashCall.begin (win32Sha256Begin c).1).begins = false := hsilent
      rw [hok] at hbegins
      cases hbegins
    · exact hstill
  case update =>
    rintro ⟨c, log⟩ data ⟨hbalanced, hinactive⟩
    refine ⟨win32Sha256Update_balanced hbalanced _, fun hrest => ?_⟩
    have hprior : HashLogAtRest log := (hashLogAtRest_concat hrest rfl).1
    show (win32Sha256Update c (.bytes data)).2.sha256.active = false
    rw [win32Sha256Update_sha256]
    exact hinactive hprior
  case finish =>
    rintro ⟨c, log⟩ ⟨hbalanced, -⟩
    exact ⟨win32Sha256Finish_balanced digestOf hbalanced _,
      fun _ => win32Sha256Finish_inactive hbalanced _⟩
  case abort =>
    rintro ⟨c, log⟩ ⟨hbalanced, -⟩
    exact ⟨win32Sha256Cleanup_balanced hbalanced, fun _ => rfl⟩

/-- A hash that may be configured: one that holds nothing. -/
def Win32HashContext.Fresh (c : Win32HashContext) : Prop :=
  c.Balanced ∧ c.sha256.active = false

/-- Once a transfer is over, however it ended, its Win32 hash holds nothing: all that was
obtained has been released, once. -/
theorem fileReceiver_releases_hash {σ : Type u} {sinkOps : FileSinkOps σ}
    {s : FileReceiverRun σ Win32HashContext} {expected : UInt64} {sink : σ}
    {hash : Win32HashContext} (hhash : hash.Fresh)
    (hrun : (FileReceiverRun.system sinkOps (win32Sha256Ops digestOf) expected sink hash).RunWithin
      (fun _ c => ConfiguresFresh Win32HashContext.Fresh c) s) (hover : s.receiver.state.Over) :
    s.m.integrity.1.sha256 = win32Sha256Init ∧ s.m.integrity.1.world.Owns [] := by
  have hkept : Win32HashKept s.m.integrity :=
    FileReceiverRun.keeps (win32Sha256Ops_keeps digestOf)
      (fun _ hfresh => ⟨hfresh.1, fun _ => hfresh.2⟩) hhash hrun
  obtain ⟨hbalanced, hinactive⟩ := hkept
  have hreleased := ((fileReceiverInvariant_of_reachable hrun.reachable).released hover).2
  have hrest : HashLogAtRest s.hashLog := by
    by_cases hbegun : ∃ call ∈ s.hashLog, call.begins = true
    · exact .inr (hreleased.last hbegun)
    · exact .inl fun call hcall => Bool.eq_false_iff.mpr fun hbegins =>
        hbegun ⟨call, hcall, hbegins⟩
  cases hbalanced with
  | active hsha256 _ _ =>
      have hfalse := hinactive hrest
      rw [hsha256] at hfalse
      cases hfalse
  | inactive hsha256 howns => exact ⟨hsha256, howns⟩

end Win32

end PrintDrop
