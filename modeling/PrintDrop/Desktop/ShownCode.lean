/-
# The code that the window shows

The window shows a code as soon as the loop of the current thread has said that it is ready,
and until the transfer is complete. The code is that of the link of the session which the
thread was started with: the relay has registered it, the receiver is connected to it, and
the link leads there.
-/

import PrintDrop.Desktop.Display
import PrintDrop.Transfer.SessionLink

namespace PrintDrop.Desktop

open Math

universe u v w

variable {σ : Type u} {τ : Type v} {ι : Type w}

/-- A thread that has a loop has a connected client. -/
structure Worker.SettingUp (platform : ProgramPlatform σ τ ι) (worker : Worker σ τ ι) : Prop where
  calling : ∀ {program : RelayProgram SetUp}, worker.phase = .calling program →
    (sessionSetUp platform.insecure worker.relayBase worker.session worker.jobsRoot).Remains
      program worker.calls
  unbegun : ∀ {program : RelayProgram SetUp}, worker.phase = .calling program → worker.loop = none
  connected : worker.loop.isSome = true →
    Registered worker.relayBase worker.session worker.calls

variable {platform : ProgramPlatform σ τ ι}

/-- **Step lemma.** -/
theorem Worker.SettingUp.step {before after : Worker σ τ ι} (hsettingUp : before.SettingUp platform)
    (hstep : Worker.Step platform before after) : after.SettingUp platform := by
  cases hstep with
  | answered answer hphase =>
      have hnone := hsettingUp.unbegun hphase
      constructor
      case calling =>
        intro program hprogram
        obtain rfl := WorkerPhase.calling.inj hprogram
        exact Dialogue.Remains.answered (hsettingUp.calling hphase) answer
      case unbegun => exact fun _ => hnone
      case connected =>
        intro hloop
        simp [hnone] at hloop
  | returned | cleaned | ended | left =>
      exact ⟨(by rintro _ ⟨⟩), (by rintro _ ⟨⟩), hsettingUp.connected⟩
  | connected _ hphase =>
      refine ⟨(by rintro _ ⟨⟩), (by rintro _ ⟨⟩), fun _ => ?_⟩
      exact registered_of_leads (Dialogue.Remains.leads (hsettingUp.calling hphase))
  | @passed loop hphase hloop _ =>
      have hregistered := hsettingUp.connected (by rw [hloop]; rfl)
      cases hresult : (receiverLoopTurn platform.loopOps loop).1 with
      | none => exact ⟨(by rintro _ ⟨⟩), (by rintro _ ⟨⟩), fun _ => hregistered⟩
      | some result => exact ⟨(by rintro _ ⟨⟩), (by rintro _ ⟨⟩), fun _ => hregistered⟩
  | posted => exact ⟨hsettingUp.calling, hsettingUp.unbegun, hsettingUp.connected⟩

/-- The session and the base of a thread stay what they were. -/
theorem Worker.Step.same {before after : Worker σ τ ι} (hstep : Worker.Step platform before after) :
    after.relayBase = before.relayBase ∧ after.session = before.session := by
  cases hstep <;> exact ⟨rfl, rfl⟩

/-- The code is that of a link to the session, which has just been made. -/
structure Offers (platform : UiPlatform) (relayBase : CString) (session : ReceiverSession)
    (code : QrCode) : Prop where
  made : ∃ app, Shows platform app ∧ app.relayBase = relayBase ∧ app.session = session ∧
    app.qr = code

namespace Program

/-- The code of the application, if it is valid, is that of its session, and then of that of
the last thread. -/
structure CodeInv (platform : UiPlatform) (s : Program σ τ ι) : Prop where
  prepared : s.phase = .prepared ∨ s.phase = .windowed →
    Offers platform s.app.relayBase s.app.session s.app.qr
  started : ∀ worker, s.threads.getLast? = some worker → s.app.qrValid = true →
    Offers platform worker.relayBase worker.session s.app.qr

variable {s t : Program σ τ ι}

/-- The threads, or what they were started with, and the code stay what they are. -/
private theorem CodeInv.congr {ui : UiPlatform} (hs : CodeInv ui s)
    (hphase : t.phase ≠ .prepared ∧ t.phase ≠ .windowed)
    (hthreads : ∀ worker, t.threads.getLast? = some worker → ∃ before,
      s.threads.getLast? = some before ∧ worker.relayBase = before.relayBase ∧
        worker.session = before.session)
    (hcode : t.app.qrValid = true → s.app.qrValid = true ∧ t.app.qr = s.app.qr) :
    CodeInv ui t where
  prepared hopen := absurd hopen (by simp [hphase.1, hphase.2])
  started worker hworker hvalid := by
    obtain ⟨before, hbefore, hbase, hsession⟩ := hthreads worker hworker
    obtain ⟨hvalid', hqr⟩ := hcode hvalid
    rw [hbase, hsession, hqr]
    exact hs.started before hbefore hvalid'

private theorem getLast?_modify {thread : ℕ} {before after worker : Worker σ τ ι}
    (hbefore : s.threads[thread]? = some before) (hstep : Worker.Step platform before after)
    (hworker : (s.setThread thread after).threads.getLast? = some worker) :
    ∃ old, s.threads.getLast? = some old ∧ worker.relayBase = old.relayBase ∧
      worker.session = old.session := by
  rw [setThread, List.getLast?_eq_getElem?, List.length_modify] at hworker
  obtain ⟨old, hold, hsame⟩ := getElem?_modify_eq_some.mp hworker
  refine ⟨old, by rw [List.getLast?_eq_getElem?, hold], ?_⟩
  subst hsame
  by_cases heq : thread = s.threads.length - 1
  · rw [← heq, hbefore] at hold
    obtain rfl := Option.some.inj hold
    rw [if_pos heq]
    exact hstep.same
  · rw [if_neg heq]
    exact ⟨rfl, rfl⟩

@[simp]
private theorem applyRuntimeEvent_qr (app : App) (report : ReceiverLoopReport) :
    (applyRuntimeEvent app report).qr = app.qr ∧
      (applyRuntimeEvent app report).qrValid = app.qrValid := by
  unfold applyRuntimeEvent
  split <;> exact ⟨rfl, rfl⟩

/-- A thread takes a step, and the code stays what it is. -/
private theorem CodeInv.thread (hs : CodeInv platform.ui s) (hthreads : ThreadInv s) {thread : ℕ}
    {before after : Worker σ τ ι} (hbefore : s.threads[thread]? = some before)
    (hstep : Worker.Step platform before after) (hphase : t.phase = s.phase)
    (hafter : t.threads = (s.setThread thread after).threads)
    (hcode : t.app.qrValid = true → s.app.qrValid = true ∧ t.app.qr = s.app.qr) :
    CodeInv platform.ui t := by
  have hne : s.threads ≠ [] := by
    rintro hnil
    simp [hnil] at hbefore
  refine hs.congr ?_ (fun worker hworker => ?_) hcode
  · rw [hphase]
    rcases hthreads.begun hne with hrunning | hdestroyed
    · simp [hrunning]
    · simp [hdestroyed]
  · rw [hafter] at hworker
    exact getLast?_modify hbefore hstep hworker

/-- Without a thread there is nothing to keep. -/
private theorem codeInv_of_no_threads {ui : UiPlatform} (hthreads : t.threads = [])
    (hprepared : t.phase = .prepared ∨ t.phase = .windowed →
      Offers ui t.app.relayBase t.app.session t.app.qr) : CodeInv ui t where
  prepared := hprepared
  started := by simp [hthreads]

/-- **Step lemma.** -/
theorem CodeInv.step (hs : CodeInv platform.ui s) (hthreads : ThreadInv s)
    (hstep : Step platform s t) : CodeInv platform.ui t := by
  have hnone : s.phase ≠ .running → s.phase ≠ .destroyed → s.threads = [] :=
    hthreads.threads_eq_nil
  have hkept : ∀ worker, s.threads.getLast? = some worker → ∃ before,
      s.threads.getLast? = some before ∧ worker.relayBase = before.relayBase ∧
        worker.session = before.session := fun worker hworker => ⟨worker, hworker, rfl, rfl⟩
  cases hstep with
  | prepared hphase hshows =>
      exact codeInv_of_no_threads (hnone (by simp [hphase]) (by simp [hphase]))
        fun _ => ⟨_, hshows, rfl, rfl, rfl⟩
  | unprepared hphase =>
      exact codeInv_of_no_threads (hnone (by simp [hphase]) (by simp [hphase]))
        fun hopen => by simp at hopen
  | windowed hphase =>
      exact codeInv_of_no_threads (hnone (by simp [hphase]) (by simp [hphase]))
        fun _ => hs.prepared (.inl hphase)
  | unwindowed hphase =>
      exact codeInv_of_no_threads (hnone (by simp [hphase]) (by simp [hphase]))
        fun hopen => by simp at hopen
  | started hphase =>
      refine ⟨fun hopen => by simp at hopen, fun worker hworker _ => ?_⟩
      rw [List.getLast?_concat] at hworker
      obtain rfl := Option.some.inj hworker
      exact hs.prepared (.inr hphase)
  | unstarted hphase =>
      exact codeInv_of_no_threads (hnone (by simp [hphase]) (by simp [hphase]))
        fun hopen => by simp at hopen
  | @event _ report _ hphase =>
      exact hs.congr (by simp [hphase]) hkept fun hvalid =>
        ⟨(applyRuntimeEvent_qr s.app report).2 ▸ hvalid, (applyRuntimeEvent_qr s.app report).1⟩
  | done hphase _ hsame =>
      exact hs.congr (by simp [hphase]) hkept fun hvalid => ⟨hsame.qrValid ▸ hvalid, hsame.qr⟩
  | elapsed hphase | busy hphase =>
      exact hs.congr (by simp [notStarted, hphase]) hkept fun hvalid => ⟨hvalid, rfl⟩
  | destroyed => exact hs.congr (by simp) hkept fun hvalid => ⟨hvalid, rfl⟩
  | unrestarted hphase _ hblank =>
      refine hs.congr (by simp [hphase]) hkept fun hvalid => ?_
      rw [hblank.qrValid] at hvalid
      cases hvalid
  | restarted hphase _ hshows =>
      refine ⟨fun hopen => by simp [hphase] at hopen, fun worker hworker _ => ?_⟩
      rw [List.getLast?_concat] at hworker
      obtain rfl := Option.some.inj hworker
      exact ⟨_, hshows, rfl, rfl, rfl⟩
  | answered answer hworker hphase =>
      exact hs.thread hthreads hworker (.answered answer hphase) rfl rfl fun hvalid => ⟨hvalid, rfl⟩
  | returned hworker hphase =>
      exact hs.thread hthreads hworker (.returned hphase) rfl rfl fun hvalid => ⟨hvalid, rfl⟩
  | connected resources hworker hphase =>
      exact hs.thread hthreads hworker (.connected resources hphase) rfl rfl fun hvalid =>
        ⟨hvalid, rfl⟩
  | passed hworker hphase hloop hposted =>
      exact hs.thread hthreads hworker (.passed hphase hloop hposted) rfl rfl fun hvalid =>
        ⟨hvalid, rfl⟩
  | dropped hworker hreport | freed hworker hreport | queued hworker hreport =>
      exact hs.thread hthreads hworker (.posted hreport) rfl rfl fun hvalid => ⟨hvalid, rfl⟩
  | @cleaned _ _ _ closes hworker hphase =>
      refine hs.thread hthreads hworker (.cleaned hphase) rfl rfl fun hvalid => ?_
      cases closes <;> exact ⟨hvalid, rfl⟩
  | unreported hworker hphase | reported hworker hphase =>
      exact hs.thread hthreads hworker (.ended hphase) rfl rfl fun hvalid => ⟨hvalid, rfl⟩
  | left hworker hphase =>
      exact hs.thread hthreads hworker (.left hphase) rfl rfl fun hvalid => ⟨hvalid, rfl⟩

/-- **Run lemma.** -/
theorem codeInv_of_reachable (hreachable : (system platform).Reachable s) :
    CodeInv platform.ui s := by
  apply hreachable.invariant
  · exact codeInv_of_no_threads rfl fun hopen => by simp [system, start] at hopen
  · exact fun hprior hs _ hstep => hs.step (threadInv_of_reachable hprior) (step_cases hstep)

/-- **Run lemma.** -/
theorem settingUp_of_reachable (hreachable : (system platform).Reachable s) {thread : ℕ}
    {worker : Worker σ τ ι} (hthread : s.threads[thread]? = some worker) :
    worker.SettingUp platform := by
  apply forall_threads _ Worker.SettingUp.step hreachable hthread
  intro app
  constructor
  case calling =>
    intro program hprogram
    obtain rfl := WorkerPhase.calling.inj hprogram
    exact Dialogue.Remains.refl _
  case unbegun => exact fun _ => rfl
  case connected => exact fun hloop => by simp [Worker.start] at hloop

end Program

/-! ## Where the code leads -/

/-- A session that could be created is one of a run from zeroed memory. -/
private theorem exists_run_of_created {before session : ReceiverSession} {nowMs ttlMs : UInt64}
    {random : Option SessionEntropy}
    (hcreated : receiverSessionCreate before nowMs ttlMs (some random) = (.ok, session)) :
    ∃ s, SessionRun.system.Reachable s ∧ s.session = session := by
  refine ⟨SessionRun.system.init.call (.create nowMs ttlMs (some random)),
    TransitionSystem.reachable_of_run [.create nowMs ttlMs (some random)] rfl, ?_⟩
  have hsame : receiverSessionCreate SessionRun.system.init.session nowMs ttlMs (some random) =
      (.ok, session) := by
    unfold receiverSessionCreate at hcreated ⊢
    dsimp only at hcreated ⊢
    split_ifs at hcreated ⊢
    · simp at hcreated
    · simp at hcreated
    · cases random with
      | none => simp at hcreated
      | some entropy => exact hcreated
  unfold SessionRun.call
  simp only [hsame]
  split
  · rename_i hok _
    exact (Prod.mk.inj hok).2.symm
  · rename_i hok _
    exact (Prod.mk.inj hok).2.symm

/-- What is behind a code that a window shows: the session of a thread, which the relay has
registered and to which the receiver is connected. If the base names an origin, the link of
the code leads to the sender's endpoint of that session. -/
structure CodeLeads (platform : ProgramPlatform σ τ ι) (worker : Worker σ τ ι) (code : QrCode) :
    Prop where
  registered : Registered worker.relayBase worker.session worker.calls
  link : ∃ sessionPrefix url, platform.ui.encodeText url = some code ∧
    buildSessionPrefix (some worker.relayBase) = some sessionPrefix ∧
    (receiverSessionBuildUrl worker.session (some sessionPrefix) (some uiUrlCapacity)).output =
      some url ∧
    (NamesOrigin worker.relayBase → ∃ origin location,
      LinkLeads worker.relayBase worker.session sessionPrefix url origin location)

private theorem codeLeads_of_offers {worker : Worker σ τ ι} {code : QrCode}
    (hregistered : Registered worker.relayBase worker.session worker.calls)
    (hoffers : Offers platform.ui worker.relayBase worker.session code) :
    CodeLeads platform worker code := by
  obtain ⟨app, hshows, hbase, hsession, hqr⟩ := hoffers.made
  refine ⟨hregistered, ?_⟩
  rw [← hbase, ← hsession, ← hqr]
  obtain ⟨sessionPrefix, hprefixed, hok, hurl⟩ := hshows.url
  refine ⟨sessionPrefix, app.publicUrl, hshows.code, hprefixed, hurl, fun horigin => ?_⟩
  obtain ⟨before, nowMs, random, hcreated⟩ := hshows.created
  obtain ⟨run, hrun, hsame⟩ := exists_run_of_created hcreated
  have haccepted : BaseAccepted app.relayBase := by
    obtain ⟨_, _, receiverUrl, _, _, _, _, -, -, hreceiverUrl, -⟩ := hregistered.asked
    rw [← hbase] at hreceiverUrl
    exact ⟨_, congrArg RelayEndpointBuilt.result hreceiverUrl⟩
  have hback := leadsBack_of_namesOrigin hrun (by rw [hsame]; exact hshows.waiting) haccepted
    horigin (leavesRoom_of_buildSessionPrefix hprefixed)
  rw [hsame] at hback
  obtain ⟨other, url, origin, location, hlink⟩ := hback
  obtain rfl := Option.some.inj (hprefixed.symm.trans hlink.prefixed)
  obtain rfl := Option.some.inj (hurl.symm.trans hlink.shown)
  exact ⟨origin, location, hlink⟩

/-- In every run, the code that a window shows is that of the link of the last thread's
session: the relay has registered the session, the receiver is connected to it, and under a
base that names an origin the link leads there. -/
theorem Program.codeLeads_of_reachable {s : Program σ τ ι}
    (hreachable : (system platform).Reachable s) (hphase : s.phase = .running) {code : QrCode}
    (hcode : (paint s.app).code = some code) :
    ∃ worker, s.threads.getLast? = some worker ∧ CodeLeads platform worker code := by
  unfold paint at hcode
  dsimp only at hcode
  split at hcode
  · rename_i hshown
    obtain rfl := Option.some.inj hcode
    simp only [Bool.and_eq_true, Bool.or_eq_true, beq_iff_eq] at hshown
    obtain ⟨hvalid, hstate⟩ := hshown
    have hs := displayed_of_reachable hreachable
    have hne : s.delivered ≠ [] := by
      intro hnil
      have hdisplayed := (hs.shown (.inr (.inr hphase))).state_eq
      rw [hnil] at hdisplayed
      rcases hstate with (hstate | hstate) | hstate <;> simp [hstate] at hdisplayed
    have hordered := (List.sublist_append_left s.delivered _).trans hs.ordered
    obtain ⟨worker, loop, hworker, hloop, -⟩ := delivered_of_told hordered hne
    have hthread : s.threads[s.threads.length - 1]? = some worker := by
      rw [← List.getLast?_eq_getElem?, hworker]
    refine ⟨worker, hworker, codeLeads_of_offers ?_
      ((codeInv_of_reachable hreachable).started worker hworker hvalid)⟩
    exact (settingUp_of_reachable hreachable hthread).connected (by rw [hloop]; rfl)
  · cases hcode

/-- The code is shown once the relay is connected and the window has been told so. -/
theorem connected_codeLeads :
    ∃ worker, (programAfter (connectingSteps ++ receivingSteps.take 2)).threads.getLast? =
      some worker ∧ CodeLeads readyPlatform worker ⟨21, fun _ _ => true⟩ :=
  Program.codeLeads_of_reachable (TransitionSystem.reachable_getD_run _) (by decide +kernel) rfl

end PrintDrop.Desktop
