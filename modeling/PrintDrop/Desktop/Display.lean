/-
# What the window shows of a transfer

The window shows what it was last told of, and it is told by messages that take their time
and of which any may be lost. What it shows is true all the same: it is a report that the
loop of the current thread has made, of the reports the window was given they are in their
order, and a file that is shown as complete has been committed. It shows a failure that no
report speaks of exactly if the program has given up since the last one.
-/

import PrintDrop.Desktop.Threads
import PrintDrop.Receiver.Completion

namespace PrintDrop.Desktop

open Math

universe u v w

variable {σ : Type u} {τ : Type v} {ι : Type w}

/-- The state that an event puts the window into. -/
def stateOf : ReceiverLoopEvent → UiState
  | .ready => .ready
  | .fileStarted => .receiving
  | .progress => .receiving
  | .verifying => .verifying
  | .complete => .complete
  | .failed => .failed

/-- The application shows the last of the reports it was given, and that it has failed if it
has given up since. -/
structure Displays (app : App) (delivered : List ReceiverLoopReport) (givenUp : Option GiveUp) :
    Prop where
  receivedBytes : app.receivedBytes =
    (delivered.getLast?.map ReceiverLoopReport.receivedBytes).getD 0
  totalBytes : app.totalBytes = (delivered.getLast?.map ReceiverLoopReport.totalBytes).getD 0
  reported : givenUp = none →
    app.state = (delivered.getLast?.map fun report => stateOf report.event).getD .connecting
  givenUp : givenUp.isSome = true → app.state = .failed

theorem displays_applyRuntimeEvent (app : App) (delivered : List ReceiverLoopReport)
    (report : ReceiverLoopReport) :
    Displays (applyRuntimeEvent app report) (delivered ++ [report]) none := by
  obtain ⟨event, received, total⟩ := report
  constructor
  case receivedBytes => cases event <;> simp [applyRuntimeEvent]
  case totalBytes => cases event <;> simp [applyRuntimeEvent]
  case reported =>
    intro _
    cases event <;> simp [applyRuntimeEvent, stateOf]
  case givenUp => exact fun hnone => by cases hnone

/-- Nothing that belongs to the transfer changes, unless it is given up. -/
theorem Displays.congr {app app' : App} {delivered : List ReceiverLoopReport}
    {givenUp givenUp' : Option GiveUp} (hshown : Displays app delivered givenUp)
    (hreceived : app'.receivedBytes = app.receivedBytes)
    (htotal : app'.totalBytes = app.totalBytes)
    (hstate : app'.state = app.state ∧ givenUp' = givenUp ∨
      app'.state = .failed ∧ givenUp'.isSome = true) : Displays app' delivered givenUp' := by
  constructor
  case receivedBytes => exact hreceived.trans hshown.receivedBytes
  case totalBytes => exact htotal.trans hshown.totalBytes
  case reported =>
    intro hnone
    rcases hstate with ⟨hsame, hgiven⟩ | ⟨-, hgiven⟩
    · exact hsame.trans (hshown.reported (hgiven.symm.trans hnone))
    · simp [hnone] at hgiven
  case givenUp =>
    intro hsome
    rcases hstate with ⟨hsame, hgiven⟩ | ⟨hfailed, -⟩
    · exact hsame.trans (hshown.givenUp (hgiven ▸ hsome))
    · exact hfailed

theorem displays_nil {app : App} {givenUp : Option GiveUp} (hreceived : app.receivedBytes = 0)
    (htotal : app.totalBytes = 0)
    (hstate : app.state = .connecting ∧ givenUp = none ∨
      app.state = .failed ∧ givenUp.isSome = true) : Displays app [] givenUp := by
  constructor
  case receivedBytes => exact hreceived
  case totalBytes => exact htotal
  case reported =>
    intro hnone
    rcases hstate with ⟨hconnecting, -⟩ | ⟨-, hgiven⟩
    · exact hconnecting
    · simp [hnone] at hgiven
  case givenUp =>
    intro hsome
    rcases hstate with ⟨-, hgiven⟩ | ⟨hfailed, -⟩
    · simp [hgiven] at hsome
    · exact hfailed

/-- It shows a failure exactly if it has given up, or the last report was one. -/
theorem Displays.failed_iff {app : App} {delivered : List ReceiverLoopReport}
    {givenUp : Option GiveUp} (hshown : Displays app delivered givenUp) :
    app.state = .failed ↔ givenUp.isSome = true ∨
      ∃ report, delivered.getLast? = some report ∧ report.event = .failed := by
  constructor
  · intro hfailed
    cases hgiven : givenUp with
    | some reason => exact .inl rfl
    | none =>
        have hreported := hshown.reported hgiven
        rw [hfailed] at hreported
        cases hlast : delivered.getLast? with
        | none => simp [hlast] at hreported
        | some report =>
            refine .inr ⟨report, rfl, ?_⟩
            cases hevent : report.event <;> simp [hlast, hevent, stateOf] at hreported ⊢
  · rintro (hsome | ⟨report, hlast, hevent⟩)
    · exact hshown.givenUp hsome
    · cases hgiven : givenUp with
      | some reason => exact hshown.givenUp (by rw [hgiven]; rfl)
      | none =>
          rw [hshown.reported hgiven, hlast, Option.map_some, Option.getD_some, hevent]
          rfl

/-- Whatever else it shows is the last report. -/
theorem Displays.state_eq {app : App} {delivered : List ReceiverLoopReport}
    {givenUp : Option GiveUp} (hshown : Displays app delivered givenUp)
    (hfailed : app.state ≠ .failed) :
    app.state = (delivered.getLast?.map fun report => stateOf report.event).getD .connecting := by
  apply hshown.reported
  rw [← Option.not_isSome_iff_eq_none]
  exact fun hsome => hfailed (hshown.givenUp hsome)

/-- What a thread has been through with. -/
def Worker.told (worker : Worker σ τ ι) : List ReceiverLoopReport :=
  worker.reports.take worker.posted

/-- A thread that is where its loop is. -/
structure Worker.Steady (platform : ProgramPlatform σ τ ι) (worker : Worker σ τ ι) : Prop where
  unbegun : ∀ {program : RelayProgram SetUp}, worker.phase = .calling program →
    worker.loop = none ∧ worker.posted = 0
  going : worker.phase = .looping → ∀ loop ∈ worker.loop, Going platform.receive loop

/-- A thread whose reports are sound. -/
def Worker.Sound (digestOf : Bytes → Digest) (worker : Worker σ τ ι) : Prop :=
  ∀ loop ∈ worker.loop, SoundReports digestOf loop

variable {platform : ProgramPlatform σ τ ι} {digestOf : Bytes → Digest}

theorem steady_start (app : App) : (Worker.start platform app).Steady platform where
  unbegun _ := ⟨rfl, rfl⟩
  going hphase := by cases hphase

/-- A loop that a thread has just started. -/
private theorem going_connected (platform : ProgramPlatform σ τ ι) (jobsRoot : WideString)
    (resources : LoopResources σ τ ι) :
    Going platform.receive (receiverLoopStart platform.loopOps
      (.fresh (.fresh jobsRoot (resources.sink, []) resources.sha256 resources.entropy)
        (resources.link, []))) :=
  going_start platform.receive platform.io jobsRoot resources.sink resources.sha256
    resources.entropy resources.link

/-- **Step lemma.** -/
theorem Worker.Steady.step {before after : Worker σ τ ι} (hsteady : before.Steady platform)
    (hstep : Worker.Step platform before after) : after.Steady platform := by
  cases hstep with
  | answered answer hphase => exact ⟨fun _ => hsteady.unbegun hphase, (by rintro ⟨⟩)⟩
  | returned | cleaned | ended | left => exact ⟨(by rintro _ ⟨⟩), (by rintro ⟨⟩)⟩
  | connected resources =>
      refine ⟨(by rintro _ ⟨⟩), fun _ loop hloop => ?_⟩
      obtain rfl := Option.some.inj hloop
      exact going_connected platform before.jobsRoot resources
  | @passed loop hphase hloop =>
      cases hresult : (receiverLoopTurn platform.loopOps loop).1 with
      | none =>
          refine ⟨(by rintro _ ⟨⟩), fun _ next hnext => ?_⟩
          obtain rfl := Option.some.inj hnext
          exact (hsteady.going hphase loop hloop).goesOn platform.io hresult
      | some result => exact ⟨(by rintro _ ⟨⟩), (by rintro ⟨⟩)⟩
  | posted hreport =>
      refine ⟨fun hphase => ?_, hsteady.going⟩
      have hnone := (hsteady.unbegun hphase).1
      simp [Worker.reports, hnone] at hreport

/-- **Step lemma.** -/
theorem Worker.Sound.step {before after : Worker σ τ ι} (hsound : before.Sound digestOf)
    (hsteady : before.Steady platform)
    (hcomputes : platform.receive.sha256Ops.Computes digestOf)
    (hstep : Worker.Step platform before after) : after.Sound digestOf := by
  cases hstep with
  | answered | returned | posted | cleaned | ended | left => exact hsound
  | connected resources =>
      intro loop hloop
      obtain rfl := Option.some.inj hloop
      exact (going_connected platform before.jobsRoot resources).soundReports
  | @passed loop hphase hloop =>
      intro next hnext
      obtain rfl := Option.some.inj hnext
      have hgoing := hsteady.going hphase loop hloop
      cases hresult : (receiverLoopTurn platform.loopOps loop).1 with
      | none => exact (hgoing.goesOn platform.io hresult).soundReports
      | some result => exact hgoing.ends platform.io hcomputes hresult

theorem Worker.told_posted (worker : Worker σ τ ι) {report : ReceiverLoopReport}
    (hreport : worker.reports[worker.posted]? = some report) :
    { worker with posted := worker.posted + 1 }.told = worker.told ++ [report] := by
  rw [Worker.told, Worker.told, ← Option.toList_some, ← hreport]
  exact List.take_add_one

/-- Whatever a thread does, what it has been through with grows at its end at most. -/
theorem Worker.Steady.told_step {before after : Worker σ τ ι} (hsteady : before.Steady platform)
    (hstep : Worker.Step platform before after) :
    after.told = before.told ∨ ∃ report, after.told = before.told ++ [report] := by
  cases hstep with
  | answered | returned | cleaned | ended | left => exact .inl rfl
  | connected resources hphase =>
      have hposted := (hsteady.unbegun hphase).2
      simp [Worker.told, hposted]
  | @passed loop hphase hloop hposted =>
      apply Or.inl
      obtain ⟨more, hmore⟩ := (hsteady.going hphase loop hloop).reports_append platform.io
      have hafter : (receiverLoopTurn platform.loopOps loop).2.reports = loop.reports ++ more :=
        hmore
      simp [Worker.told, Worker.reports, hloop, hposted, hafter]
  | @posted report hreport =>
      exact .inr ⟨report, before.told_posted hreport⟩

/-! ## The program -/

namespace Program

/-- What the last thread has been through with. -/
def told (s : Program σ τ ι) : List ReceiverLoopReport :=
  (s.threads.getLast?.map Worker.told).getD []

/-- The reports that are on their way to the window. -/
def reportsOf (messages : List WindowMessage) : List ReceiverLoopReport :=
  messages.filterMap fun message =>
    match message with
    | .runtimeEvent _ report => some report
    | .runtimeDone _ => none

@[simp]
theorem reportsOf_append (messages more : List WindowMessage) :
    reportsOf (messages ++ more) = reportsOf messages ++ reportsOf more :=
  List.filterMap_append

/-- The program has prepared a session, and its window has not been destroyed. -/
def Open (s : Program σ τ ι) : Prop :=
  s.phase = .prepared ∨ s.phase = .windowed ∨ s.phase = .running

/-- The window shows the last report it was given, and what it was and will be given are
reports of the last thread, in their order. -/
structure Displayed (s : Program σ τ ι) : Prop where
  shown : s.Open → Displays s.app s.delivered s.givenUp
  ordered : (s.delivered ++ reportsOf s.queue).Sublist s.told

variable {s t : Program σ τ ι}

/-- A thread that runs is the last one. -/
private theorem getLast?_threads (hs : ThreadInv s) {thread : ℕ} {worker : Worker σ τ ι}
    (hworker : s.threads[thread]? = some worker) (hrunning : worker.Running) :
    s.threads.getLast? = some worker := by
  have hlast := hs.last hworker hrunning
  rw [List.getLast?_eq_getElem?, ← hlast, Nat.add_sub_cancel]
  exact hworker

private theorem told_eq (hs : ThreadInv s) {thread : ℕ} {worker : Worker σ τ ι}
    (hworker : s.threads[thread]? = some worker) (hrunning : worker.Running) :
    s.told = worker.told := by
  rw [told, getLast?_threads hs hworker hrunning, Option.map_some, Option.getD_some]

private theorem told_setThread (hs : ThreadInv s) {thread : ℕ} {before after : Worker σ τ ι}
    (hbefore : s.threads[thread]? = some before) (hrunning : before.Running) :
    (s.setThread thread after).told = after.told := by
  have hlast := hs.last hbefore hrunning
  have hafter : (s.setThread thread after).threads.getLast? = some after := by
    rw [setThread, List.getLast?_eq_getElem?, List.length_modify, ← hlast, Nat.add_sub_cancel]
    exact getElem?_modify_self hbefore
  rw [told, hafter, Option.map_some, Option.getD_some]

/-- A thread that runs goes on, and the window is told no more than the thread has been
through with. -/
private theorem Displayed.thread (hs : Displayed s) (hthreads : ThreadInv s) {thread : ℕ}
    {before after : Worker σ τ ι} (hbefore : s.threads[thread]? = some before)
    (hrunning : before.Running) (hsteady : before.Steady platform)
    (hstep : Worker.Step platform before after)
    (hafter : t.threads = (s.setThread thread after).threads) (hphase : t.phase = s.phase)
    (hdelivered : t.delivered = s.delivered) (hgivenUp : t.givenUp = s.givenUp)
    (hshown : s.Open → Displays t.app s.delivered s.givenUp)
    (hqueue : reportsOf t.queue = reportsOf s.queue ∨
      ∃ report, after.told = before.told ++ [report] ∧
        reportsOf t.queue = reportsOf s.queue ++ [report]) : Displayed t := by
  have htold : t.told = after.told := by
    have hsame : (s.setThread thread after).told = after.told :=
      told_setThread hthreads hbefore hrunning
    rw [← hsame, told, told, hafter]
  have hordered := hs.ordered
  rw [told_eq hthreads hbefore hrunning] at hordered
  constructor
  case shown =>
    intro hopen
    rw [hdelivered, hgivenUp]
    apply hshown
    unfold Open at hopen ⊢
    rwa [hphase] at hopen
  case ordered =>
    rw [hdelivered, htold]
    rcases hqueue with hsame | ⟨report, hgrown, hqueued⟩
    · rw [hsame]
      rcases hsteady.told_step hstep with hkept | ⟨report, hgrown⟩
      · rwa [hkept]
      · rw [hgrown]
        exact hordered.trans (List.sublist_append_left _ _)
    · rw [hqueued, hgrown, ← List.append_assoc]
      exact hordered.append (List.Sublist.refl _)

/-- A thread that has its last message behind it returns, and nothing else changes. -/
private theorem Displayed.leave (hs : Displayed s) {thread : ℕ} {worker : Worker σ τ ι}
    (hworker : s.threads[thread]? = some worker) :
    Displayed (s.setThread thread { worker with phase := .exited }) := by
  have htold : (s.setThread thread { worker with phase := .exited }).told = s.told := by
    unfold told setThread
    dsimp only
    rw [← List.getLast?_map, ← List.getLast?_map, map_modify_of_same]
    intro before hbefore
    obtain rfl := Option.some.inj (hworker.symm.trans hbefore)
    rfl
  refine ⟨hs.shown, ?_⟩
  rw [htold]
  exact hs.ordered

/-- **Step lemma.** -/
theorem Displayed.step (hs : Displayed s) (hthreads : ThreadInv s)
    (hsteady : ∀ {thread : ℕ} {worker : Worker σ τ ι}, s.threads[thread]? = some worker →
      worker.Steady platform) (hstep : Step platform s t) : Displayed t := by
  have hclear : ([] ++ reportsOf s.queue).Sublist s.told :=
    (List.sublist_append_right _ _).trans hs.ordered
  cases hstep with
  | prepared hphase hshows =>
      exact ⟨fun _ => displays_nil hshows.receivedBytes hshows.totalBytes
        (.inl ⟨hshows.state, rfl⟩), hclear⟩
  | unprepared hphase =>
      exact ⟨fun hopen => by simp [Open] at hopen, hclear⟩
  | windowed hphase =>
      exact ⟨fun _ => (hs.shown (.inl hphase)).congr rfl rfl (.inl ⟨rfl, rfl⟩), hs.ordered⟩
  | unwindowed hphase =>
      exact ⟨fun hopen => by simp [Open] at hopen, hs.ordered⟩
  | started hphase hwindow hworker =>
      refine ⟨fun _ => (hs.shown (.inr (.inl hphase))).congr rfl rfl (.inl ⟨rfl, rfl⟩), ?_⟩
      -- Nothing has been told before there was a thread.
      have hnone := hthreads.threads_eq_nil (by simp [hphase]) (by simp [hphase])
      have hordered := hs.ordered
      rw [told, hnone] at hordered
      exact hordered.trans (List.nil_sublist _)
  | unstarted hphase =>
      exact ⟨fun _ => (hs.shown (.inr (.inl hphase))).congr rfl rfl (.inr ⟨rfl, rfl⟩),
        hs.ordered⟩
  | @event block report rest hphase hqueue =>
      refine ⟨fun _ => displays_applyRuntimeEvent _ _ _, ?_⟩
      have hordered := hs.ordered
      rw [hqueue] at hordered
      dsimp only
      rw [List.append_assoc]
      exact hordered
  | @done result rest app armed givenUp hphase hqueue hsame _ hstate =>
      refine ⟨fun _ => (hs.shown (.inr (.inr hphase))).congr hsame.receivedBytes hsame.totalBytes
        hstate, ?_⟩
      have hordered := hs.ordered
      rw [hqueue] at hordered
      exact hordered
  | elapsed hphase => exact ⟨fun _ => hs.shown (.inr (.inr hphase)), hs.ordered⟩
  | busy hphase =>
      exact ⟨fun _ => (hs.shown (.inr (.inr hphase))).congr rfl rfl (.inr ⟨rfl, rfl⟩),
        hs.ordered⟩
  | unrestarted hphase _ hblank hstate =>
      exact ⟨fun _ => displays_nil hblank.receivedBytes hblank.totalBytes
        (.inr ⟨hstate, rfl⟩), hclear⟩
  | restarted hphase hworker hshows =>
      refine ⟨fun _ => displays_nil hshows.receivedBytes hshows.totalBytes
        (.inl ⟨hshows.state, rfl⟩), ?_⟩
      dsimp only
      rw [hthreads.quiet hworker]
      exact List.nil_sublist _
  | destroyed hphase =>
      refine ⟨fun hopen => by simp [Open] at hopen, ?_⟩
      dsimp only
      rw [reportsOf, List.filterMap_nil, List.append_nil]
      exact (List.sublist_append_left _ _).trans hs.ordered
  | @answered _ worker _ _ answer hbefore hphase =>
      have hrunning : worker.Running := by simp [Worker.Running, hphase]
      exact hs.thread hthreads hbefore hrunning (hsteady hbefore) (.answered answer hphase) rfl rfl
        rfl rfl hs.shown (.inl rfl)
  | @returned _ worker _ _ hbefore hphase =>
      have hrunning : worker.Running := by simp [Worker.Running, hphase]
      exact hs.thread hthreads hbefore hrunning (hsteady hbefore) (.returned hphase) rfl rfl rfl rfl
        hs.shown (.inl rfl)
  | @connected _ worker resources hbefore hphase =>
      have hrunning : worker.Running := by simp [Worker.Running, hphase]
      exact hs.thread hthreads hbefore hrunning (hsteady hbefore) (.connected resources hphase) rfl
        rfl rfl rfl hs.shown (.inl rfl)
  | @passed _ worker loop hbefore hphase hloop hposted =>
      have hrunning : worker.Running := by simp [Worker.Running, hphase]
      exact hs.thread hthreads hbefore hrunning (hsteady hbefore) (.passed hphase hloop hposted) rfl
        rfl rfl rfl hs.shown (.inl rfl)
  | @dropped _ worker _ hbefore hreport =>
      have hrunning := hthreads.running_of_report hbefore hreport
      exact hs.thread hthreads hbefore hrunning (hsteady hbefore) (.posted hreport) rfl rfl rfl rfl
        hs.shown (.inl rfl)
  | @freed _ worker _ hbefore hreport =>
      have hrunning := hthreads.running_of_report hbefore hreport
      exact hs.thread hthreads hbefore hrunning (hsteady hbefore) (.posted hreport) rfl rfl rfl rfl
        hs.shown (.inl rfl)
  | @queued _ worker report hbefore hreport =>
      have hrunning := hthreads.running_of_report hbefore hreport
      refine hs.thread hthreads hbefore hrunning (hsteady hbefore) (.posted hreport) rfl rfl rfl rfl
        hs.shown (.inr ⟨report, ?_, ?_⟩)
      · exact worker.told_posted hreport
      · simp [reportsOf]
  | @cleaned _ worker result closes hbefore hphase =>
      have hrunning : worker.Running := by simp [Worker.Running, hphase]
      refine hs.thread hthreads hbefore hrunning (hsteady hbefore) (.cleaned hphase) rfl rfl rfl rfl
        (fun hopen => ?_) (.inl rfl)
      cases closes with
      | false => exact hs.shown hopen
      | true => exact (hs.shown hopen).congr rfl rfl (.inl ⟨rfl, rfl⟩)
  | @unreported _ worker _ hbefore hphase =>
      have hrunning : worker.Running := by simp [Worker.Running, hphase]
      exact hs.thread hthreads hbefore hrunning (hsteady hbefore) (.ended hphase) rfl rfl rfl rfl
        hs.shown (.inl rfl)
  | @reported _ worker result hbefore hphase =>
      have hrunning : worker.Running := by simp [Worker.Running, hphase]
      exact hs.thread hthreads hbefore hrunning (hsteady hbefore) (.ended hphase) rfl rfl rfl rfl
        hs.shown (.inl (by simp [reportsOf]))
  | left hworker => exact hs.leave hworker

theorem steady_of_reachable (hreachable : (system platform).Reachable s) {thread : ℕ}
    {worker : Worker σ τ ι} (hthread : s.threads[thread]? = some worker) :
    worker.Steady platform :=
  forall_threads steady_start Worker.Steady.step hreachable hthread

/-- **Run lemma.** -/
theorem displayed_of_reachable (hreachable : (system platform).Reachable s) : Displayed s := by
  apply hreachable.invariant
  · exact ⟨fun hopen => by simp [Open, system, start] at hopen, List.Sublist.refl _⟩
  · intro s t action hprior hs _ hstep
    exact hs.step (threadInv_of_reachable hprior) (steady_of_reachable hprior)
      (step_cases hstep)

/-- **Run lemma.** -/
theorem sound_of_reachable (hcomputes : platform.receive.sha256Ops.Computes digestOf)
    (hreachable : (system platform).Reachable s) {thread : ℕ} {worker : Worker σ τ ι}
    (hthread : s.threads[thread]? = some worker) : worker.Sound digestOf := by
  have hboth : worker.Steady platform ∧ worker.Sound digestOf := by
    apply forall_threads (P := fun worker => worker.Steady platform ∧ worker.Sound digestOf)
      _ _ hreachable hthread
    · exact fun app => ⟨steady_start app, by simp [Worker.Sound, Worker.start]⟩
    · exact fun hboth hstep => ⟨hboth.1.step hstep, hboth.2.step hboth.1 hcomputes hstep⟩
  exact hboth.2

/-- What a window shows of the transfer of its last thread. -/
structure TruthfulDisplay (digestOf : Bytes → Digest) (s : Program σ τ ι) : Prop where
  shown : Displays s.app s.delivered s.givenUp
  failed : s.app.state = .failed ↔ s.givenUp.isSome = true ∨
    ∃ report, s.delivered.getLast? = some report ∧ report.event = .failed
  ordered : s.delivered.Sublist s.told
  rising : s.delivered.Pairwise fun earlier later => earlier.receivedBytes ≤ later.receivedBytes
  within : s.app.receivedBytes ≤ s.app.totalBytes
  complete : s.app.state = .complete → ∃ worker loop, s.threads.getLast? = some worker ∧
    worker.loop = some loop ∧
    CommittedFile digestOf loop ⟨.complete, s.app.receivedBytes, s.app.totalBytes⟩

/-- The reports that a window was given, if any, are of the loop of the last thread. -/
theorem delivered_of_told (hordered : s.delivered.Sublist s.told)
    (hne : s.delivered ≠ []) : ∃ worker loop, s.threads.getLast? = some worker ∧
      worker.loop = some loop ∧ s.delivered.Sublist loop.reports := by
  have htold : s.told ≠ [] := by
    intro hnil
    rw [hnil, List.sublist_nil] at hordered
    exact hne hordered
  unfold told at hordered htold
  cases hlast : s.threads.getLast? with
  | none => simp [hlast] at htold
  | some worker =>
      rw [hlast, Option.map_some, Option.getD_some] at hordered htold
      cases hloop : worker.loop with
      | none => simp [Worker.told, Worker.reports, hloop] at htold
      | some loop =>
          refine ⟨worker, loop, rfl, hloop, hordered.trans ?_⟩
          simp only [Worker.told, Worker.reports, hloop, Option.map_some, Option.getD_some]
          exact List.take_sublist _ _

/-- In every run, while there is a window, it shows the last report it was given of the loop
of the last thread, in a session whose reports it was given in their order and with counts
that never decrease, unless the program has given up since: that, and a report of it, is what
it shows as a failure. It shows no more received than there is, and what it shows complete
has been written, hashed and committed. -/
theorem truthfulDisplay_of_reachable (hcomputes : platform.receive.sha256Ops.Computes digestOf)
    (hreachable : (system platform).Reachable s) (hphase : s.phase = .running) :
    TruthfulDisplay digestOf s := by
  have hs := displayed_of_reachable hreachable
  have hshown := hs.shown (.inr (.inr hphase))
  have hordered := (List.sublist_append_left s.delivered _).trans hs.ordered
  cases hlast : s.delivered.getLast? with
  | none =>
      have hnil : s.delivered = [] := List.getLast?_eq_none_iff.mp hlast
      refine ⟨hshown, hshown.failed_iff, hordered, by simp [hnil], ?_, fun hcomplete => ?_⟩
      · rw [hshown.receivedBytes, hlast]
        exact UInt64.zero_le
      · have hstate := hshown.state_eq (by simp [hcomplete])
        rw [hlast, hcomplete] at hstate
        cases hstate
  | some last =>
      have hmem : last ∈ s.delivered := List.mem_of_getLast? hlast
      obtain ⟨worker, loop, hworker, hloop, hreports⟩ :=
        delivered_of_told hordered (List.ne_nil_of_mem hmem)
      have hthread : s.threads[s.threads.length - 1]? = some worker := by
        rw [← List.getLast?_eq_getElem?, hworker]
      have hloop' := sound_of_reachable hcomputes hreachable hthread loop hloop
      have hreceived : s.app.receivedBytes = last.receivedBytes := by
        rw [hshown.receivedBytes, hlast, Option.map_some, Option.getD_some]
      have htotal : s.app.totalBytes = last.totalBytes := by
        rw [hshown.totalBytes, hlast, Option.map_some, Option.getD_some]
      refine ⟨hshown, hshown.failed_iff, hordered, hloop'.rising.sublist hreports, ?_,
        fun hcomplete => ?_⟩
      · rw [hreceived, htotal]
        exact hloop'.within last (hreports.mem hmem)
      · have hstate := hshown.state_eq (by simp [hcomplete])
        rw [hlast, hcomplete, Option.map_some, Option.getD_some] at hstate
        have hevent : last.event = .complete := by
          cases hlastEvent : last.event <;> simp [hlastEvent, stateOf] at hstate ⊢
        refine ⟨worker, loop, hworker, hloop, ?_⟩
        rw [hreceived, htotal, ← hevent]
        exact hloop'.committed last (hreports.mem hmem) hevent

end Program

/-- The empty file is shown as complete. -/
theorem received_truthfulDisplay :
    (programAfter (connectingSteps ++ receivingSteps)).app.state = .complete ∧
      Program.TruthfulDisplay (fun _ => Vector.replicate 32 0)
        (programAfter (connectingSteps ++ receivingSteps)) :=
  ⟨by decide +kernel,
    Program.truthfulDisplay_of_reachable (fixedHashOps_computes _)
      (TransitionSystem.reachable_getD_run _) (by decide +kernel)⟩

end PrintDrop.Desktop
