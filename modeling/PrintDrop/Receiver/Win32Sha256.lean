/-
# The Win32 hash

`win32_sha256.c` over a model of the CNG and heap calls it makes. Every call may fail; what
the system makes of the coming calls is a sequence of outcomes in the state. The resources
that calls obtain and release are entries of a ledger. A release is the call of the
releasing function: what it returns is ignored by the source.

A handle is the number of its obtaining. The values that the system gives out may come
again after a release; what is obtained then is another resource.
-/

import PrintDrop.Math.Ledger
import PrintDrop.Math.Machine
import PrintDrop.Receiver.FileSink

namespace PrintDrop

open Math

/-- What is obtained from CNG and from the heap. -/
inductive Win32HashResource
  | algorithm (handle : Handle)
  | hash (handle : Handle)
  | buffer (handle : Handle)
  deriving DecidableEq, Repr

def Win32HashResource.handle : Win32HashResource → Handle
  | .algorithm handle | .hash handle | .buffer handle => handle

/-- What the system makes of one call, so far as the call leaves it open: whether it
succeeds, the property it reads and its size, and what it leaves in the digest where that is
not the digest of the data. -/
structure CryptOutcome where
  succeeds : Bool
  objectLength : UInt32
  resultLength : UInt32
  digest : Digest

structure Win32CryptWorld where
  ledger : List (LedgerEntry Win32HashResource)
  /-- The data that a hash object was fed, where every call succeeded. -/
  fed : Handle → Option Bytes
  nextHandle : Handle
  outcomes : ℕ → CryptOutcome
  calls : ℕ

/-- A system of which nothing has been obtained yet. -/
def Win32CryptWorld.start (outcomes : ℕ → CryptOutcome) : Win32CryptWorld where
  ledger := []
  fed _ := none
  nextHandle := 0
  outcomes := outcomes
  calls := 0

namespace Win32CryptWorld

/-- The outcome of the next call. -/
def outcome (w : Win32CryptWorld) : CryptOutcome := w.outcomes w.calls

/-- The system after a call that changes nothing else. -/
def advance (w : Win32CryptWorld) : Win32CryptWorld := { w with calls := w.calls + 1 }

/-- A call that obtains a resource, unless it fails. -/
def obtain (w : Win32CryptWorld) (resource : Handle → Win32HashResource)
    (uses : List Win32HashResource) : Option Handle × Win32CryptWorld :=
  if w.outcome.succeeds then
    (some w.nextHandle, { w.advance with
      ledger := w.ledger ++ [.obtained (resource w.nextHandle) uses]
      nextHandle := w.nextHandle + 1 })
  else (none, w.advance)

/-- A call that releases a resource. -/
def release (w : Win32CryptWorld) (resource : Win32HashResource) : Win32CryptWorld :=
  { w.advance with ledger := w.ledger ++ [.released resource] }

/-- `BCryptOpenAlgorithmProvider`. -/
def openAlgorithmProvider (w : Win32CryptWorld) : Option Handle × Win32CryptWorld :=
  w.obtain .algorithm []

/-- `BCryptGetProperty`. -/
def getProperty (w : Win32CryptWorld) (_algorithm : Handle) : CryptOutcome × Win32CryptWorld :=
  (w.outcome, w.advance)

/-- `HeapAlloc`. -/
def heapAlloc (w : Win32CryptWorld) (_size : UInt32) : Option Handle × Win32CryptWorld :=
  w.obtain .buffer []

/-- `BCryptCreateHash`: a hash object in a buffer. -/
def createHash (w : Win32CryptWorld) (algorithm buffer : Handle) :
    Option Handle × Win32CryptWorld :=
  let created := w.obtain .hash [.buffer buffer, .algorithm algorithm]
  match created.1 with
  | none => created
  | some hash =>
    (some hash, { created.2 with fed := Function.update created.2.fed hash (some []) })

/-- `BCryptHashData`. What a call that fails has made of the object is not known. -/
def hashData (w : Win32CryptWorld) (hash : Handle) (data : Bytes) : Bool × Win32CryptWorld :=
  if w.outcome.succeeds then
    (true, { w.advance with
      fed := Function.update w.fed hash ((w.fed hash).map fun before => before ++ data) })
  else (false, { w.advance with fed := Function.update w.fed hash none })

/-- `BCryptFinishHash`. -/
def finishHash (w : Win32CryptWorld) (digestOf : Bytes → Digest) (hash : Handle) :
    (Bool × Digest) × Win32CryptWorld :=
  let computed :=
    if w.outcome.succeeds then ((w.fed hash).map digestOf).getD w.outcome.digest
    else w.outcome.digest
  ((w.outcome.succeeds, computed), w.advance)

/-- `BCryptDestroyHash`. -/
def destroyHash (w : Win32CryptWorld) (hash : Handle) : Win32CryptWorld := w.release (.hash hash)

/-- `HeapFree`. -/
def heapFree (w : Win32CryptWorld) (buffer : Handle) : Win32CryptWorld :=
  w.release (.buffer buffer)

/-- `BCryptCloseAlgorithmProvider`. -/
def closeAlgorithmProvider (w : Win32CryptWorld) (algorithm : Handle) : Win32CryptWorld :=
  w.release (.algorithm algorithm)

end Win32CryptWorld

/-- `pd_win32_sha256`; a null pointer is no handle. -/
structure Win32Sha256 where
  algorithmHandle : Option Handle
  hashHandle : Option Handle
  objectBuffer : Option Handle
  objectLength : UInt32
  active : Bool
  deriving DecidableEq, Repr

/-- `pd_win32_sha256_init` zeroes the context. -/
def win32Sha256Init : Win32Sha256 where
  algorithmHandle := none
  hashHandle := none
  objectBuffer := none
  objectLength := 0
  active := false

/-- A hash and the system it acts on. -/
structure Win32HashContext where
  sha256 : Win32Sha256
  world : Win32CryptWorld

/-- `pd_win32_sha256_cleanup`. -/
def win32Sha256Cleanup (c : Win32HashContext) : Win32HashContext :=
  let c : Win32HashContext :=
    match c.sha256.hashHandle with
    | none => c
    | some hash => ⟨{ c.sha256 with hashHandle := none }, c.world.destroyHash hash⟩
  let c : Win32HashContext :=
    match c.sha256.objectBuffer with
    | none => c
    | some buffer => ⟨{ c.sha256 with objectBuffer := none }, c.world.heapFree buffer⟩
  let c : Win32HashContext :=
    match c.sha256.algorithmHandle with
    | none => c
    | some algorithm =>
      ⟨{ c.sha256 with algorithmHandle := none }, c.world.closeAlgorithmProvider algorithm⟩
  { c with sha256 := { c.sha256 with objectLength := 0, active := false } }

/-- `sizeof(DWORD)`. -/
def dwordSize : UInt32 := 4

/-- `pd_win32_sha256_begin`. What was obtained is released again where a later call fails. -/
def win32Sha256Begin (c : Win32HashContext) : IntegrityStatus × Win32HashContext :=
  if c.sha256.active then (.error, c)
  else
    let c := win32Sha256Cleanup c
    let opened := c.world.openAlgorithmProvider
    match opened.1 with
    | none => (.error, { c with world := opened.2 })
    | some algorithm =>
      let property := opened.2.getProperty algorithm
      if !property.1.succeeds ∨ property.1.resultLength ≠ dwordSize ∨
          property.1.objectLength = 0 then
        (.error, { c with world := property.2.closeAlgorithmProvider algorithm })
      else
        let allocated := property.2.heapAlloc property.1.objectLength
        match allocated.1 with
        | none => (.error, { c with world := allocated.2.closeAlgorithmProvider algorithm })
        | some buffer =>
          let created := allocated.2.createHash algorithm buffer
          match created.1 with
          | none => (.error, { c with
              world := (created.2.heapFree buffer).closeAlgorithmProvider algorithm })
          | some hash => (.ok, {
              sha256 := {
                algorithmHandle := some algorithm
                hashHandle := some hash
                objectBuffer := some buffer
                objectLength := property.1.objectLength
                active := true }
              world := created.2 })

/-- `ULONG_MAX`. -/
def ulongMax : ℕ := 0xffffffff

/-- `pd_win32_sha256_update`. -/
def win32Sha256Update (c : Win32HashContext) (data : Buffer) :
    IntegrityStatus × Win32HashContext :=
  match c.sha256.hashHandle with
  | none => (.error, c)
  | some hash =>
    if !c.sha256.active ∨ data.isInvalid ∨ ulongMax < data.size then (.error, c)
    else
      let fed := c.world.hashData hash (data.data?.getD [])
      (if fed.1 then .ok else .error, { c with world := fed.2 })

/-- `pd_win32_sha256_finish` with a digest to fill, unless that is null. It cleans up
whether or not the digest could be computed. -/
def win32Sha256Finish (digestOf : Bytes → Digest) (c : Win32HashContext)
    (digest : Option Digest) : (IntegrityStatus × Option Digest) × Win32HashContext :=
  match digest, c.sha256.hashHandle with
  | some _, some hash =>
    if !c.sha256.active then ((.error, digest), c)
    else
      let finished := c.world.finishHash digestOf hash
      let c := win32Sha256Cleanup { c with world := finished.2 }
      ((if finished.1.1 then .ok else .error, some finished.1.2), c)
  | _, _ => ((.error, digest), c)

/-- `pd_win32_sha256_abort`. -/
def win32Sha256Abort (c : Win32HashContext) : Win32HashContext := win32Sha256Cleanup c

/-- `pd_win32_sha256_ops`. The digest of a caller is never null. -/
def win32Sha256Ops (digestOf : Bytes → Digest) : IntegrityOps Win32HashContext where
  begin := win32Sha256Begin
  update c data := win32Sha256Update c (.bytes data)
  finish c :=
    let unset : Digest := Vector.replicate 32 0
    let finished := win32Sha256Finish digestOf c (some unset)
    ((finished.1.1, finished.1.2.getD unset), finished.2)
  abort := win32Sha256Abort

/-- A call of the hash's table. -/
inductive Win32HashCall
  | begin
  | update (data : Buffer)
  | finish (digest : Option Digest)
  | abort

/-- What a call returns. -/
inductive Win32HashReturn
  | status (status : IntegrityStatus)
  | finished (status : IntegrityStatus) (digest : Option Digest)
  | nothing

/-- A hash under all of its calls. -/
def win32HashMachine (digestOf : Bytes → Digest) :
    Machine Win32HashContext Win32HashCall Win32HashReturn where
  step c
    | .begin =>
      let begun := win32Sha256Begin c
      (.status begun.1, begun.2)
    | .update data =>
      let updated := win32Sha256Update c data
      (.status updated.1, updated.2)
    | .finish digest =>
      let finished := win32Sha256Finish digestOf c digest
      (.finished finished.1.1 finished.1.2, finished.2)
    | .abort => (.nothing, win32Sha256Abort c)

/-- An initialised hash and a system of which nothing has been obtained yet. -/
def Win32HashContext.start (outcomes : ℕ → CryptOutcome) : Win32HashContext where
  sha256 := win32Sha256Init
  world := Win32CryptWorld.start outcomes

/-- What a hash has in its fields, the resource obtained last first. -/
def Win32Sha256.holds (sha256 : Win32Sha256) : List Win32HashResource :=
  sha256.hashHandle.toList.map .hash ++ sha256.objectBuffer.toList.map .buffer ++
    sha256.algorithmHandle.toList.map .algorithm

/-! ## Ownership -/

/-- A system of which so much is held. Its ledger is nested, and every hash object was made
of a buffer and a provider. -/
structure Win32CryptWorld.Owns (w : Win32CryptWorld) (held : List Win32HashResource) : Prop where
  nested : Nested w.ledger held
  fresh : ∀ entry ∈ w.ledger, entry.resource.handle < w.nextHandle
  made : ∀ hash uses, .obtained (.hash hash) uses ∈ w.ledger →
    ∃ buffer algorithm, uses = [.buffer buffer, .algorithm algorithm]

section Ownership

variable {w : Win32CryptWorld} {held : List Win32HashResource}

theorem owns_start (outcomes : ℕ → CryptOutcome) : (Win32CryptWorld.start outcomes).Owns [] :=
  ⟨.nil, by simp [Win32CryptWorld.start], by simp [Win32CryptWorld.start]⟩

/-- The ledger, not the calls, says what is owned. -/
theorem Win32CryptWorld.Owns.of_ledger {other : Win32CryptWorld} (howns : w.Owns held)
    (hledger : other.ledger = w.ledger) (hhandle : other.nextHandle = w.nextHandle) :
    other.Owns held := by
  obtain ⟨hnested, hfresh, hmade⟩ := howns
  rw [← hledger] at hnested hmade
  refine ⟨hnested, ?_, hmade⟩
  rw [hledger, hhandle]
  exact hfresh

/-- A call that may obtain a resource leaves what was owned, or adds a resource to it. -/
inductive Win32CryptWorld.Obtained (w : Win32CryptWorld) (held uses : List Win32HashResource)
    (resource : Handle → Win32HashResource) (obtained : Option Handle × Win32CryptWorld) : Prop
  | failed (hnone : obtained.1 = none) (howns : obtained.2.Owns held)
  | obtained {handle : Handle} (hsome : obtained.1 = some handle)
    (howns : obtained.2.Owns (resource handle :: held))
    (hledger : .obtained (resource handle) uses ∈ obtained.2.ledger)

theorem Win32CryptWorld.Owns.obtain (howns : w.Owns held)
    {resource : Handle → Win32HashResource} {uses : List Win32HashResource}
    (hhandle : ∀ handle, (resource handle).handle = handle) (huses : ∀ used ∈ uses, used ∈ held)
    (hmade : ∀ handle hash, resource handle = .hash hash →
      ∃ buffer algorithm, uses = [.buffer buffer, .algorithm algorithm]) :
    w.Obtained held uses resource (w.obtain resource uses) := by
  unfold Win32CryptWorld.obtain
  split
  · refine .obtained rfl ⟨.obtained howns.nested ?_ huses, ?_, ?_⟩ (by simp)
    · intro entry hentry hsame
      have hlt := howns.fresh entry hentry
      rw [hsame, hhandle] at hlt
      exact absurd hlt (lt_irrefl _)
    · intro entry hentry
      rcases List.mem_append.mp hentry with hentry | hentry
      · exact (howns.fresh entry hentry).trans (Nat.lt_succ_self _)
      · rw [List.mem_singleton.mp hentry]
        show (resource w.nextHandle).handle < w.nextHandle + 1
        rw [hhandle]
        exact Nat.lt_succ_self _
    · intro hash otherUses hentry
      rcases List.mem_append.mp hentry with hentry | hentry
      · exact howns.made hash otherUses hentry
      · obtain ⟨hresource, rfl⟩ : Win32HashResource.hash hash = resource w.nextHandle ∧
            otherUses = uses := by simpa using hentry
        exact hmade w.nextHandle hash hresource.symm
  · exact .failed rfl (howns.of_ledger rfl rfl)

/-- What was obtained last is released. -/
theorem Win32CryptWorld.Owns.release {resource : Win32HashResource}
    (howns : w.Owns (resource :: held)) : (w.release resource).Owns held := by
  obtain ⟨uses, hobtained⟩ := howns.nested.exists_obtained resource List.mem_cons_self
  refine ⟨.released howns.nested, ?_, ?_⟩
  · intro entry hentry
    rcases List.mem_append.mp hentry with hentry | hentry
    · exact howns.fresh entry hentry
    · have hlt : resource.handle < w.nextHandle := howns.fresh _ hobtained
      rw [List.mem_singleton.mp hentry]
      exact hlt
  · intro hash uses hentry
    refine howns.made hash uses ?_
    simpa [Win32CryptWorld.release] using hentry

theorem Win32CryptWorld.Owns.openAlgorithmProvider (howns : w.Owns held) :
    w.Obtained held [] .algorithm w.openAlgorithmProvider := by
  refine howns.obtain (fun _ => rfl) (by simp) ?_
  rintro handle hash ⟨⟩

theorem Win32CryptWorld.Owns.getProperty (howns : w.Owns held) (algorithm : Handle) :
    (w.getProperty algorithm).2.Owns held := howns.of_ledger rfl rfl

theorem Win32CryptWorld.Owns.heapAlloc (howns : w.Owns held) (size : UInt32) :
    w.Obtained held [] .buffer (w.heapAlloc size) := by
  refine howns.obtain (fun _ => rfl) (by simp) ?_
  rintro handle hash ⟨⟩

/-- A hash object is made of what is held. -/
theorem Win32CryptWorld.Owns.createHash {algorithm buffer : Handle}
    (howns : w.Owns [.buffer buffer, .algorithm algorithm]) :
    w.Obtained [.buffer buffer, .algorithm algorithm] [.buffer buffer, .algorithm algorithm] .hash
      (w.createHash algorithm buffer) := by
  have hobtained : w.Obtained [.buffer buffer, .algorithm algorithm]
      [.buffer buffer, .algorithm algorithm] .hash
      (w.obtain .hash [.buffer buffer, .algorithm algorithm]) :=
    howns.obtain (fun _ => rfl) (fun _ hused => hused) fun _ _ _ => ⟨buffer, algorithm, rfl⟩
  unfold Win32CryptWorld.createHash
  cases hobtained with
  | failed hnone howns =>
      simp only [hnone]
      exact .failed hnone howns
  | obtained hsome howns hledger =>
      simp only [hsome]
      exact .obtained rfl (howns.of_ledger rfl rfl) hledger

end Ownership

/-- The invariant: an active hash holds a hash object with the buffer and the provider it was
made of, and nothing else is held; a hash that is not active is zeroed, and nothing is held. -/
inductive Win32HashContext.Balanced (c : Win32HashContext) : Prop
  | active {algorithm buffer hash : Handle} {objectLength : UInt32}
    (hsha256 : c.sha256 = ⟨some algorithm, some hash, some buffer, objectLength, true⟩)
    (howns : c.world.Owns [.hash hash, .buffer buffer, .algorithm algorithm])
    (hmade : .obtained (.hash hash) [.buffer buffer, .algorithm algorithm] ∈ c.world.ledger)
  | inactive (hsha256 : c.sha256 = win32Sha256Init) (howns : c.world.Owns [])

section Operations

variable {c : Win32HashContext}

/-- A context that is cleaned up holds nothing, whatever it was. -/
theorem win32Sha256Cleanup_spec (hbalanced : c.Balanced) :
    (win32Sha256Cleanup c).sha256 = win32Sha256Init ∧ (win32Sha256Cleanup c).world.Owns [] := by
  obtain ⟨sha256, world⟩ := c
  cases hbalanced with
  | active hsha256 howns hmade =>
      obtain rfl := hsha256
      exact ⟨rfl, howns.release.release.release⟩
  | inactive hsha256 howns =>
      obtain rfl := hsha256
      exact ⟨rfl, howns⟩

theorem win32Sha256Cleanup_balanced (hbalanced : c.Balanced) :
    (win32Sha256Cleanup c).Balanced :=
  .inactive (win32Sha256Cleanup_spec hbalanced).1 (win32Sha256Cleanup_spec hbalanced).2

theorem win32Sha256Begin_of_active (hactive : c.sha256.active = true) :
    win32Sha256Begin c = (.error, c) := by
  rw [win32Sha256Begin, if_pos hactive]

/-- A begin that fails part of the way has released what it had obtained. -/
theorem win32Sha256Begin_balanced (hbalanced : c.Balanced) : (win32Sha256Begin c).2.Balanced := by
  unfold win32Sha256Begin
  split
  · exact hbalanced
  obtain ⟨hsha256, howns⟩ := win32Sha256Cleanup_spec hbalanced
  generalize win32Sha256Cleanup c = c at hsha256 howns
  dsimp only
  have hopened := howns.openAlgorithmProvider
  cases hopened with
  | failed hnone howns =>
      simp only [hnone]
      exact .inactive hsha256 howns
  | @obtained algorithm hsome howns _ =>
      simp only [hsome]
      split
      · exact .inactive hsha256 (howns.getProperty algorithm).release
      have hallocated := (howns.getProperty algorithm).heapAlloc
        (c.world.openAlgorithmProvider.2.getProperty algorithm).1.objectLength
      cases hallocated with
      | failed hnone howns =>
          simp only [hnone]
          exact .inactive hsha256 howns.release
      | @obtained buffer hsome howns _ =>
          simp only [hsome]
          have hcreated := howns.createHash
          cases hcreated with
          | failed hnone howns =>
              simp only [hnone]
              exact .inactive hsha256 howns.release.release
          | obtained hsome howns hmade =>
              simp only [hsome]
              exact .active rfl howns hmade

theorem Win32HashContext.Balanced.of_ledger (hbalanced : c.Balanced) {world : Win32CryptWorld}
    (hledger : world.ledger = c.world.ledger) (hhandle : world.nextHandle = c.world.nextHandle) :
    ({ c with world := world } : Win32HashContext).Balanced := by
  cases hbalanced with
  | active hsha256 howns hmade =>
      refine .active hsha256 (howns.of_ledger hledger hhandle) ?_
      show _ ∈ world.ledger
      rw [hledger]
      exact hmade
  | inactive hsha256 howns => exact .inactive hsha256 (howns.of_ledger hledger hhandle)

theorem win32Sha256Update_balanced (hbalanced : c.Balanced) (data : Buffer) :
    (win32Sha256Update c data).2.Balanced := by
  unfold win32Sha256Update
  split
  · exact hbalanced
  split
  · exact hbalanced
  · apply hbalanced.of_ledger <;> unfold Win32CryptWorld.hashData <;> split <;> rfl

/-- A finish cleans up whatever became of the digest. -/
theorem win32Sha256Finish_balanced (digestOf : Bytes → Digest) (hbalanced : c.Balanced)
    (digest : Option Digest) : (win32Sha256Finish digestOf c digest).2.Balanced := by
  unfold win32Sha256Finish
  split
  · split
    · exact hbalanced
    · exact win32Sha256Cleanup_balanced (hbalanced.of_ledger rfl rfl)
  · exact hbalanced

/-- Every call keeps the balance. -/
theorem win32HashMachine_balanced (digestOf : Bytes → Digest) (call : Win32HashCall)
    (hbalanced : c.Balanced) : ((win32HashMachine digestOf).step c call).2.Balanced := by
  cases call with
  | begin => exact win32Sha256Begin_balanced hbalanced
  | update data => exact win32Sha256Update_balanced hbalanced data
  | finish digest => exact win32Sha256Finish_balanced digestOf hbalanced digest
  | abort => exact win32Sha256Cleanup_balanced hbalanced

/-- What is held is what the context has in its fields. -/
theorem Win32HashContext.Balanced.owns (hbalanced : c.Balanced) :
    c.world.Owns c.sha256.holds := by
  cases hbalanced with
  | active hsha256 howns _ =>
      rw [hsha256]
      exact howns
  | inactive hsha256 howns =>
      rw [hsha256]
      exact howns

end Operations

/-- Whatever is called, and whatever fails: each resource is obtained at most once, and is
released exactly once or is held by the context; a hash object is released before its buffer
and its provider; an active context holds one of each, any other none; and a begin of an
active context fails without any effect. -/
theorem win32Sha256_balanced (digestOf : Bytes → Digest) (outcomes : ℕ → CryptOutcome)
    (calls : List Win32HashCall) :
    let c := (win32HashMachine digestOf).after (.start outcomes) calls
    (∀ resource : Win32HashResource,
      c.world.ledger.countP (LedgerEntry.obtains resource) ≤ 1 ∧
        c.world.ledger.countP (LedgerEntry.releases resource) + c.sha256.holds.count resource =
          c.world.ledger.countP (LedgerEntry.obtains resource)) ∧
      (∀ hash uses, .obtained (.hash hash) uses ∈ c.world.ledger →
        ∃ buffer algorithm, uses = [.buffer buffer, .algorithm algorithm] ∧
          ∀ before after, c.world.ledger = before ++ .released (.buffer buffer) :: after ∨
              c.world.ledger = before ++ .released (.algorithm algorithm) :: after →
            .released (.hash hash) ∈ before) ∧
      (c.sha256.active = true → ∃ algorithm buffer hash,
        c.sha256.holds = [.hash hash, .buffer buffer, .algorithm algorithm] ∧
          .obtained (.hash hash) [.buffer buffer, .algorithm algorithm] ∈ c.world.ledger) ∧
      (c.sha256.active = false → c.sha256.holds = []) ∧
      (c.sha256.active = true → win32Sha256Begin c = (.error, c)) := by
  intro c
  have hbalanced : c.Balanced :=
    Machine.after_invariant (fun call => win32HashMachine_balanced digestOf call) calls
      (.inactive rfl (owns_start outcomes))
  have howns := hbalanced.owns
  refine ⟨howns.nested.balanced, ?_, ?_, ?_, win32Sha256Begin_of_active⟩
  · intro hash uses hobtained
    obtain ⟨buffer, algorithm, rfl⟩ := howns.made hash uses hobtained
    refine ⟨buffer, algorithm, rfl, ?_⟩
    rintro before after (hledger | hledger)
    · exact howns.nested.released_before hobtained (by simp) hledger
    · exact howns.nested.released_before hobtained (by simp) hledger
  · intro hactive
    cases hbalanced with
    | active hsha256 _ hmade => exact ⟨_, _, _, by rw [hsha256]; rfl, hmade⟩
    | inactive hsha256 _ =>
        rw [hsha256] at hactive
        exact absurd hactive Bool.false_ne_true
  · intro hinactive
    cases hbalanced with
    | active hsha256 _ _ =>
        rw [hsha256] at hinactive
        exact absurd hinactive (by simp)
    | inactive hsha256 _ =>
        rw [hsha256]
        rfl

end PrintDrop
