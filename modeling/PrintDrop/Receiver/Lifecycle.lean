/-
# The life of a session capability

Every sequence of calls of a receiver's session that starts from zeroed memory, with any
clock readings and any draws. The credentials are those of the last creation while the
session waits or transfers, and zeroed otherwise.
-/

import PrintDrop.Math.TransitionSystem
import PrintDrop.Receiver.Session

namespace PrintDrop

open Math

inductive SessionCall
  | create (nowMs ttlMs : UInt64) (randomFill : Option (Option SessionEntropy))
  | expireIfDue (nowMs : UInt64)
  | beginTransfer (candidateToken : Option CString) (nowMs : UInt64)
  | close
  | tokenMatches (candidate : Option CString)
  | secretMatches (candidate : Option CString)
  | buildUrl (sessionPrefix : Option CString) (outputCapacity : Option ℕ)

/-- What a session was created with. -/
structure Creation where
  entropy : SessionEntropy
  nowMs : UInt64
  ttlMs : UInt64

/-- A session with its last successful creation and the number of transfers that have begun
since. -/
structure SessionRun where
  session : ReceiverSession
  created : Option Creation
  begun : ℕ

namespace SessionRun

/-- The state after a call. -/
def call (s : SessionRun) : SessionCall → SessionRun
  | .create nowMs ttlMs randomFill =>
    match receiverSessionCreate s.session nowMs ttlMs randomFill, randomFill with
    | (.ok, session), some (some entropy) => ⟨session, some ⟨entropy, nowMs, ttlMs⟩, 0⟩
    | (_, session), _ => { s with session := session }
  | .expireIfDue nowMs => { s with session := (receiverSessionExpireIfDue s.session nowMs).2 }
  | .beginTransfer candidateToken nowMs =>
    let began := receiverSessionBeginTransfer s.session candidateToken nowMs
    { s with session := began.2, begun := if began.1 = .ok then s.begun + 1 else s.begun }
  | .close => { s with session := receiverSessionClose s.session }
  | .tokenMatches _ | .secretMatches _ | .buildUrl _ _ => s

/-- The runs of a session that starts from zeroed memory. -/
def system : TransitionSystem SessionRun SessionCall where
  init := ⟨receiverSessionReset, none, 0⟩
  step s c := some (s.call c)

end SessionRun

/-- The session shows its credentials. -/
def ReceiverSession.Live (session : ReceiverSession) : Prop :=
  session.state = .waiting ∨ session.state = .transferring

/-- The credentials and the times of a creation. -/
structure CreatedBy (creation : Creation) (session : ReceiverSession) : Prop where
  token : session.token.toList = hexText creation.entropy.token.toList ++ [0]
  secret : session.receiverSecret.toList = hexText creation.entropy.secret.toList ++ [0]
  createdAt : session.createdAtMs = creation.nowMs
  expiresAt : session.expiresAtMs.toNat = creation.nowMs.toNat + creation.ttlMs.toNat

/-- The session shows nothing. -/
structure Zeroed (session : ReceiverSession) : Prop where
  token : session.token = Vector.replicate _ 0
  secret : session.receiverSecret = Vector.replicate _ 0

/-- A live session is as it was created, any other is zeroed, and a transfer has begun at
most once since the creation. -/
structure SessionInv (s : SessionRun) : Prop where
  live : s.session.Live → ∃ creation, s.created = some creation ∧ CreatedBy creation s.session
  zeroed : ¬s.session.Live → Zeroed s.session
  waiting : s.session.state = .waiting → s.begun = 0
  once : s.begun ≤ 1

section Steps

variable {session : ReceiverSession} {nowMs ttlMs : UInt64}
  {randomFill : Option (Option SessionEntropy)} {candidate : Option CString}

theorem zeroed_clearCredentials (session : ReceiverSession) (state : ReceiverSessionState) :
    Zeroed { receiverSessionClearCredentials session with state := state } := ⟨rfl, rfl⟩

/-- What creating a session comes to. -/
inductive CreateOutcome (session : ReceiverSession) (nowMs ttlMs : UInt64) :
    Option (Option SessionEntropy) → ReceiverSessionResult × ReceiverSession → Prop
  | invalid {randomFill : Option (Option SessionEntropy)}
    (hinvalid : randomFill = none ∨ ttlMs = 0) :
    CreateOutcome session nowMs ttlMs randomFill (.invalidArgument, session)
  | failed {random : Option SessionEntropy} {result : ReceiverSessionResult}
    (hresult : result ≠ .ok) :
    CreateOutcome session nowMs ttlMs (some random) (result, receiverSessionReset)
  | created {entropy : SessionEntropy} {created : ReceiverSession}
    (hstate : created.state = .waiting)
    (hcreated : CreatedBy ⟨entropy, nowMs, ttlMs⟩ created) :
    CreateOutcome session nowMs ttlMs (some (some entropy)) (.ok, created)

theorem receiverSessionCreate_outcome (session : ReceiverSession) (nowMs ttlMs : UInt64)
    (randomFill : Option (Option SessionEntropy)) :
    CreateOutcome session nowMs ttlMs randomFill
      (receiverSessionCreate session nowMs ttlMs randomFill) := by
  unfold receiverSessionCreate
  cases randomFill with
  | none => exact .invalid (.inl rfl)
  | some random =>
      dsimp only
      split
      · rename_i httl
        exact .invalid (.inr httl)
      split
      · exact .failed (by simp)
      rename_i hoverflow
      cases random with
      | none => exact .failed (by simp)
      | some entropy =>
          refine .created rfl ⟨rfl, rfl, rfl, ?_⟩
          -- The guard keeps the sum of clock and lifetime within 64 bits.
          have hnow := nowMs.toNat_lt
          rw [UInt64.lt_iff_toNat_lt, UInt64.toNat_sub_of_le] at hoverflow
          · have hmax : (0xffffffffffffffff : UInt64).toNat = 2 ^ 64 - 1 := rfl
            rw [hmax] at hoverflow
            show (nowMs + ttlMs).toNat = nowMs.toNat + ttlMs.toNat
            rw [UInt64.toNat_add]
            omega
          · rw [UInt64.le_iff_toNat_le]
            have hmax : (0xffffffffffffffff : UInt64).toNat = 2 ^ 64 - 1 := rfl
            omega

/-- Expiry zeroes a live session whose time has come, and does nothing else. -/
theorem receiverSessionExpireIfDue_eq (session : ReceiverSession) (nowMs : UInt64) :
    session.Live ∧ session.expiresAtMs ≤ nowMs ∧
      receiverSessionExpireIfDue session nowMs =
        (true, { receiverSessionClearCredentials session with state := .expired }) ∨
    (session.Live → nowMs < session.expiresAtMs) ∧
      receiverSessionExpireIfDue session nowMs = (false, session) := by
  unfold receiverSessionExpireIfDue
  split
  · rename_i hover
    refine .inr ⟨fun hlive => ?_, rfl⟩
    rcases hlive with h | h <;> simp [h] at hover
  rename_i hlive
  split
  · rename_i hearly
    exact .inr ⟨fun _ => hearly, rfl⟩
  · rename_i hdue
    refine .inl ⟨?_, UInt64.not_lt.mp hdue, rfl⟩
    cases hstate : session.state with
    | waiting => exact .inl hstate
    | transferring => exact .inr hstate
    | inactive | expired | closed => simp [hstate] at hlive

/-- What beginning a transfer comes to. -/
inductive BeginTransferOutcome (session : ReceiverSession) (candidate : Option CString)
    (nowMs : UInt64) : ReceiverSessionResult × ReceiverSession → Prop
  | refused {result : ReceiverSessionResult} (hresult : result ≠ .ok) :
    BeginTransferOutcome session candidate nowMs (result, session)
  | expired (hwaiting : session.state = .waiting) (hdue : session.expiresAtMs ≤ nowMs) :
    BeginTransferOutcome session candidate nowMs
      (.expired, { receiverSessionClearCredentials session with state := .expired })
  | began (hwaiting : session.state = .waiting) (hearly : nowMs < session.expiresAtMs)
    (htoken : receiverSessionTokenMatches session candidate = true) :
    BeginTransferOutcome session candidate nowMs (.ok, { session with state := .transferring })

theorem receiverSessionBeginTransfer_outcome (session : ReceiverSession)
    (candidate : Option CString) (nowMs : UInt64) :
    BeginTransferOutcome session candidate nowMs
      (receiverSessionBeginTransfer session candidate nowMs) := by
  unfold receiverSessionBeginTransfer
  split
  · exact .refused (by simp)
  split
  · refine .refused ?_
    split <;> simp
  rename_i hstate
  have hwaiting := not_not.mp hstate
  rcases receiverSessionExpireIfDue_eq session nowMs with ⟨-, hdue, hexpire⟩ | ⟨hearly, hexpire⟩
  · rw [hexpire]
    exact .expired hwaiting hdue
  · rw [hexpire]
    simp only [Bool.false_eq_true, if_false]
    split
    · exact .refused (by simp)
    · rename_i htoken
      exact .began hwaiting (hearly (.inl hwaiting)) (by simpa using htoken)

/-- Every call keeps the invariant. -/
theorem SessionInv.call {s : SessionRun} (hs : SessionInv s) (c : SessionCall) :
    SessionInv (s.call c) := by
  cases c with
  | create nowMs ttlMs randomFill =>
      have houtcome := receiverSessionCreate_outcome s.session nowMs ttlMs randomFill
      unfold SessionRun.call
      dsimp only
      generalize receiverSessionCreate s.session nowMs ttlMs randomFill = created at houtcome
      cases houtcome with
      | invalid => exact hs
      | failed hresult =>
          have hreset : SessionInv { s with session := receiverSessionReset } := by
            refine ⟨fun hlive => ?_, fun _ => ⟨rfl, rfl⟩, (fun hwaiting => nomatch hwaiting),
              hs.once⟩
            rcases hlive with h | h <;> cases h
          split
          · rename_i hok _
            exact absurd (Prod.mk.inj hok).1 hresult
          · rename_i hsame _
            rw [← (Prod.mk.inj hsame).2]
            exact hreset
      | created hstate hcreated =>
          exact ⟨fun _ => ⟨_, rfl, hcreated⟩, fun hdead => absurd (.inl hstate) hdead,
            fun _ => rfl, Nat.zero_le 1⟩
  | expireIfDue nowMs =>
      unfold SessionRun.call
      rcases receiverSessionExpireIfDue_eq s.session nowMs with ⟨-, -, hexpire⟩ | ⟨-, hexpire⟩
      · simp only [hexpire]
        refine ⟨fun hlive => ?_, fun _ => zeroed_clearCredentials _ _, (fun h => nomatch h),
          hs.once⟩
        rcases hlive with h | h <;> cases h
      · simp only [hexpire]
        exact hs
  | beginTransfer candidate nowMs =>
      have houtcome := receiverSessionBeginTransfer_outcome s.session candidate nowMs
      unfold SessionRun.call
      dsimp only
      generalize receiverSessionBeginTransfer s.session candidate nowMs = began at houtcome
      cases houtcome with
      | refused hresult =>
          simp only [hresult, if_false]
          exact hs
      | expired =>
          refine ⟨fun hlive => ?_, fun _ => zeroed_clearCredentials _ _, (fun h => nomatch h), ?_⟩
          · rcases hlive with h | h <;> cases h
          · exact hs.once
      | began hwaiting =>
          obtain ⟨creation, hcreation, hcreated⟩ := hs.live (.inl hwaiting)
          refine ⟨fun _ => ⟨creation, hcreation, hcreated.token, hcreated.secret,
            hcreated.createdAt, hcreated.expiresAt⟩, fun hdead => absurd (.inr rfl) hdead,
            (fun h => nomatch h), ?_⟩
          rw [if_pos rfl, hs.waiting hwaiting]
  | close =>
      unfold SessionRun.call receiverSessionClose
      dsimp only
      split
      · exact hs
      · refine ⟨fun hlive => ?_, fun _ => zeroed_clearCredentials _ _, (fun h => nomatch h),
          hs.once⟩
        rcases hlive with h | h <;> cases h
  | tokenMatches | secretMatches | buildUrl => exact hs

end Steps

/-- What a session guarantees in every state. -/
structure SessionLifecycle (s : SessionRun) : Prop where
  /-- A live session has the credentials and the times of its last creation. -/
  live : s.session.Live → ∃ creation, s.created = some creation ∧ CreatedBy creation s.session
  /-- Any other has no credentials at all. -/
  zeroed : ¬s.session.Live → Zeroed s.session
  noMatch : ¬s.session.Live → ∀ candidate,
    receiverSessionTokenMatches s.session candidate = false ∧
      receiverSessionSecretMatches s.session candidate = false
  noUrl : ¬s.session.Live → ∀ sessionPrefix outputCapacity,
    (receiverSessionBuildUrl s.session sessionPrefix outputCapacity).result ≠ .ok
  /-- A transfer begins at most once, with the exact token and before the expiry. -/
  once : s.begun ≤ 1
  exact : ∀ candidate nowMs, (receiverSessionBeginTransfer s.session candidate nowMs).1 = .ok →
    s.begun = 0 ∧ s.session.state = .waiting ∧ nowMs < s.session.expiresAtMs ∧
      ∃ creation text, s.created = some creation ∧ candidate = some text ∧
        text.val = hexText creation.entropy.token.toList
  /-- A wrong token does nothing to a waiting session. -/
  wrongToken : ∀ (candidate : Option CString) (nowMs : UInt64), s.session.state = .waiting →
    nowMs < s.session.expiresAtMs → receiverSessionTokenMatches s.session candidate = false →
      (receiverSessionBeginTransfer s.session candidate nowMs).2 = s.session
  /-- A creation that fails on valid arguments leaves nothing of an old one. -/
  failedCreate : ∀ (nowMs ttlMs : UInt64) (random : Option SessionEntropy), ttlMs ≠ 0 →
    (receiverSessionCreate s.session nowMs ttlMs (some random)).1 ≠ .ok →
      (receiverSessionCreate s.session nowMs ttlMs (some random)).2.state = .inactive ∧
        Zeroed (receiverSessionCreate s.session nowMs ttlMs (some random)).2

/-- A zeroed array matches no string. -/
theorem constantTimeTextEqual_zeroed {capacity expectedLength : ℕ} (hpos : 0 < expectedLength)
    (hlength : expectedLength ≤ capacity) (candidate : Option CString) :
    constantTimeTextEqual (Vector.replicate capacity 0) expectedLength candidate = false := by
  rw [Bool.eq_false_iff, Ne, constantTimeTextEqual_iff hlength]
  rintro ⟨text, -, htext⟩
  refine text.property ?_
  rw [htext, Vector.toList_replicate, List.take_replicate, List.mem_replicate]
  exact ⟨by omega, rfl⟩

theorem sessionInv_of_reachable {s : SessionRun} (hreachable : SessionRun.system.Reachable s) :
    SessionInv s := by
  refine TransitionSystem.RunWithin.invariant (P := SessionInv) ?_ ?_ hreachable
  · refine ⟨fun hlive => ?_, fun _ => ⟨rfl, rfl⟩, (fun hwaiting => nomatch hwaiting),
      Nat.zero_le 1⟩
    rcases hlive with h | h <;> cases h
  · intro before after c _ hbefore _ hstep
    obtain rfl := Option.some.inj hstep
    exact hbefore.call c

/-- In every run a session keeps its guarantees. -/
theorem sessionLifecycle_of_reachable {s : SessionRun}
    (hreachable : SessionRun.system.Reachable s) : SessionLifecycle s := by
  have hs : SessionInv s := sessionInv_of_reachable hreachable
  constructor
  case live => exact hs.live
  case zeroed => exact hs.zeroed
  case noMatch =>
    intro hdead candidate
    obtain ⟨htoken, hsecret⟩ := hs.zeroed hdead
    unfold receiverSessionTokenMatches receiverSessionSecretMatches
    rw [htoken, hsecret]
    exact ⟨constantTimeTextEqual_zeroed (by decide) (by decide) candidate,
      constantTimeTextEqual_zeroed (by decide) (by decide) candidate⟩
  case noUrl =>
    intro hdead sessionPrefix outputCapacity
    obtain ⟨hwaiting, htransferring⟩ := not_or.mp hdead
    unfold receiverSessionBuildUrl
    split
    · rw [if_pos (.inl ⟨hwaiting, htransferring⟩)]
      simp
    · simp
  case once => exact hs.once
  case exact =>
    intro candidate nowMs hok
    have houtcome := receiverSessionBeginTransfer_outcome s.session candidate nowMs
    generalize receiverSessionBeginTransfer s.session candidate nowMs = began at houtcome hok
    cases houtcome with
    | refused hresult => exact absurd hok hresult
    | expired => cases hok
    | began hwaiting hearly htoken =>
        obtain ⟨creation, hcreation, hcreated⟩ := hs.live (.inl hwaiting)
        obtain ⟨text, htext, hsame⟩ := (constantTimeTextEqual_iff (by decide)).mp htoken
        refine ⟨hs.waiting hwaiting, hwaiting, hearly, creation, text, hcreation, htext, ?_⟩
        have hlength : sessionTokenHexChars =
            (hexText creation.entropy.token.toList).length := by
          rw [length_hexText, Vector.length_toList]
          rfl
        rw [hsame, hcreated.token, hlength, List.take_left]
  case wrongToken =>
    intro candidate nowMs hwaiting hearly hwrong
    have houtcome := receiverSessionBeginTransfer_outcome s.session candidate nowMs
    generalize receiverSessionBeginTransfer s.session candidate nowMs = began at houtcome
    cases houtcome with
    | refused => rfl
    | expired _ hdue => exact absurd hearly (UInt64.not_lt.mpr hdue)
    | began _ _ htoken =>
        rw [hwrong] at htoken
        cases htoken
  case failedCreate =>
    intro nowMs ttlMs random httl
    have houtcome := receiverSessionCreate_outcome s.session nowMs ttlMs (some random)
    generalize receiverSessionCreate s.session nowMs ttlMs (some random) = created at houtcome
    intro hfailed
    cases houtcome with
    | invalid hinvalid =>
        rcases hinvalid with h | h
        · cases h
        · exact absurd h httl
    | failed => exact ⟨rfl, rfl, rfl⟩
    | created => exact absurd rfl hfailed

/-- A session is created, presented with a wrong token, used and closed. -/
def usedCalls : List SessionCall :=
  [.create 1000 5000 (some (some (Vector.replicate _ 0))),
    .beginTransfer (some ⟨[48], by decide⟩) 1500,
    .beginTransfer (some ⟨List.replicate 32 48, by decide⟩) 2000]

def used : SessionRun := (SessionRun.system.run SessionRun.system.init usedCalls).getD
  SessionRun.system.init

theorem used_lifecycle : used.session.state = .transferring ∧ SessionLifecycle used := by
  have hreachable : SessionRun.system.Reachable used :=
    TransitionSystem.reachable_of_run usedCalls rfl
  exact ⟨by decide, sessionLifecycle_of_reachable hreachable⟩

end PrintDrop
