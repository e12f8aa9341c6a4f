/-
# The threads of the program

The main thread and the receiver threads share the application, and no lock guards it. What
keeps them apart is the order of the messages: a thread posts its last message when it is
through with the session, the main thread closes the handle of a thread when it is given
that message, and prepares the next session only when it holds no handle. Nobody waits for
the thread itself, which may still be there when the next one is started, but all that it
does after that message is to return. So of all receiver threads at most one has its last
message before it, it finds all that it reads as it was when it was started, and no handle is
closed twice. The blocks of the messages are freed once each.
-/

import Mathlib.Data.List.Range
import PrintDrop.Desktop.Steps

namespace PrintDrop.Desktop

open Math

universe u v w

variable {σ : Type u} {τ : Type v} {ι : Type w}

/-- A thread that has not been through with its last message. -/
def Worker.Running (worker : Worker σ τ ι) : Prop :=
  worker.phase ≠ .leaving ∧ worker.phase ≠ .exited

/-- A thread that has left `pd_win32_receiver_run_session`. -/
def Worker.Through (worker : Worker σ τ ι) : Prop :=
  (∃ result, worker.phase = .posting result) ∨ ¬worker.Running

/-- What a thread reads of the application is what it was started with. The session may have
been closed, once the thread is through with it. -/
structure Reads (app : App) (worker : Worker σ τ ι) : Prop where
  relayBase : app.relayBase = worker.relayBase
  jobsRoot : app.jobsRoot = worker.jobsRoot
  session : app.session = worker.session ∨
    worker.Through ∧ app.session = receiverSessionClose worker.session

/-- A thread's step that changes none of what it has been started with. -/
private theorem Reads.after {app : App} {before after : Worker σ τ ι} (hreads : Reads app before)
    (hbase : after.relayBase = before.relayBase) (hroot : after.jobsRoot = before.jobsRoot)
    (hsession : after.session = before.session) (hthrough : before.Through → after.Through) :
    Reads app after := by
  refine ⟨hbase ▸ hreads.relayBase, hroot ▸ hreads.jobsRoot, ?_⟩
  rw [hsession]
  exact hreads.session.imp_right fun hclosed => ⟨hthrough hclosed.1, hclosed.2⟩

/-- The last message of a thread stands behind all its reports, and no thread runs. -/
def Closed (queue : List WindowMessage) (threads : List (Worker σ τ ι)) : Prop :=
  ∀ result, .runtimeDone result ∈ queue → (∀ worker ∈ threads, ¬worker.Running) ∧
    ∃ front, queue = front ++ [.runtimeDone result] ∧ ∀ other, .runtimeDone other ∉ front

namespace Program

/-- The invariant of the threads. -/
structure ThreadInv (s : Program σ τ ι) : Prop where
  handles : s.closed ++ s.app.worker.toList = List.range s.threads.length
  begun : s.threads ≠ [] → s.phase = .running ∨ s.phase = .destroyed
  last : ∀ {thread : ℕ} {worker : Worker σ τ ι}, s.threads[thread]? = some worker →
    worker.Running → thread + 1 = s.threads.length
  held : ∀ {thread : ℕ} {worker : Worker σ τ ι}, s.phase = .running →
    s.threads[thread]? = some worker → worker.Running → s.app.worker = some thread
  reads : ∀ {thread : ℕ} {worker : Worker σ τ ι}, s.threads[thread]? = some worker →
    worker.Running → Reads s.app worker
  caughtUp : ∀ {thread : ℕ} {worker : Worker σ τ ι}, s.threads[thread]? = some worker →
    worker.Through → worker.posted = worker.reports.length
  quiet : s.app.worker = none → s.queue = []
  closed : Closed s.queue s.threads

variable {platform : ProgramPlatform σ τ ι} {s t : Program σ τ ι}

/-- Before the message loop there are no threads. -/
theorem ThreadInv.threads_eq_nil (hs : ThreadInv s) (hphase : s.phase ≠ .running)
    (hphase' : s.phase ≠ .destroyed) : s.threads = [] := by
  by_contra hne
  exact (hs.begun hne).elim hphase hphase'

/-- Before the message loop no handle is held or closed and no message has been posted. -/
private theorem ThreadInv.unbegun (hs : ThreadInv s) (hphase : s.phase ≠ .running)
    (hphase' : s.phase ≠ .destroyed) :
    s.threads = [] ∧ s.closed = [] ∧ s.app.worker = none ∧ s.queue = [] := by
  have hthreads := hs.threads_eq_nil hphase hphase'
  have hhandles := hs.handles
  rw [hthreads, List.length_nil, List.range_zero, List.append_eq_nil_iff,
    Option.toList_eq_nil_iff] at hhandles
  exact ⟨hthreads, hhandles.1, hhandles.2, hs.quiet hhandles.2⟩

private theorem threadInv_of_unbegun (hthreads : t.threads = []) (hclosed : t.closed = [])
    (hworker : t.app.worker = none) (hqueue : t.queue = []) : ThreadInv t where
  handles := by simp [hthreads, hclosed, hworker]
  begun hne := absurd hthreads hne
  last := by simp [hthreads]
  held := by simp [hthreads]
  reads := by simp [hthreads]
  caughtUp := by simp [hthreads]
  quiet _ := hqueue
  closed := by simp [Closed, hqueue]

/-- When the main thread holds no handle, no thread runs. -/
theorem ThreadInv.idle (hs : ThreadInv s) (hphase : s.phase = .running)
    (hworker : s.app.worker = none) {thread : ℕ} {worker : Worker σ τ ι}
    (hthread : s.threads[thread]? = some worker) : ¬worker.Running := by
  intro hrunning
  have hheld := hs.held hphase hthread hrunning
  rw [hworker] at hheld
  cases hheld

/-- A thread that runs is the only one, so the queue has not been closed. -/
private theorem ThreadInv.open (hs : ThreadInv s) {thread : ℕ} {worker : Worker σ τ ι}
    (hworker : s.threads[thread]? = some worker) (hrunning : worker.Running)
    (result : Win32ReceiverRuntimeResult) : .runtimeDone result ∉ s.queue := by
  intro hmem
  exact (hs.closed result hmem).1 worker (List.mem_of_getElem? hworker) hrunning

/-- While there is a window, a thread has been started from the message loop. -/
private theorem ThreadInv.alive (hs : ThreadInv s) {thread : ℕ} {worker : Worker σ τ ι}
    (hworker : s.threads[thread]? = some worker) (halive : s.phase ≠ .destroyed) :
    s.phase = .running := by
  have hne : s.threads ≠ [] := by
    rintro hnil
    simp [hnil] at hworker
  exact (hs.begun hne).resolve_right halive

/-- The main thread goes on and starts no thread. -/
private theorem ThreadInv.main (hs : ThreadInv s) (hthreads : t.threads = s.threads)
    (hphase : t.phase = s.phase) (hclosed : t.closed = s.closed)
    (hworker : t.app.worker = s.app.worker)
    (hreads : ∀ {thread : ℕ} {worker : Worker σ τ ι}, s.threads[thread]? = some worker →
      worker.Running → Reads t.app worker)
    (hquiet : t.app.worker = none → t.queue = []) (hqueue : Closed t.queue s.threads) :
    ThreadInv t where
  handles := by rw [hthreads, hclosed, hworker, hs.handles]
  begun hne := by
    rw [hphase]
    exact hs.begun (hthreads ▸ hne)
  last hthread hrunning := by
    rw [hthreads] at hthread ⊢
    exact hs.last hthread hrunning
  held hrun hthread hrunning := by
    rw [hthreads] at hthread
    rw [hworker]
    exact hs.held (hphase ▸ hrun) hthread hrunning
  reads hthread hrunning := hreads (hthreads ▸ hthread) hrunning
  caughtUp hthread hthrough := hs.caughtUp (hthreads ▸ hthread) hthrough
  quiet := hquiet
  closed := hthreads ▸ hqueue

/-- A thread is started while none runs. -/
private theorem ThreadInv.start (hs : ThreadInv s)
    (hidle : ∀ {thread : ℕ} {worker : Worker σ τ ι}, s.threads[thread]? = some worker →
      ¬worker.Running) (hworker : s.app.worker = none) {app : App}
    (hthreads : t.threads = s.threads ++ [.start platform app]) (hclosed : t.closed = s.closed)
    (happ : t.app = { app with worker := some s.threads.length }) (hphase : t.phase = .running)
    (hqueue : t.queue = s.queue) : ThreadInv t where
  handles := by
    have hhandles := hs.handles
    rw [hworker, Option.toList_none, List.append_nil] at hhandles
    rw [hthreads, hclosed, happ, hhandles, List.length_append, List.length_singleton,
      List.range_succ]
    rfl
  begun _ := .inl hphase
  last hthread hrunning := by
    rw [hthreads] at hthread ⊢
    rcases getElem?_concat_eq_some.mp hthread with hbefore | ⟨rfl, -⟩
    · exact absurd hrunning (hidle hbefore)
    · simp
  held _ hthread hrunning := by
    rw [hthreads] at hthread
    rcases getElem?_concat_eq_some.mp hthread with hbefore | ⟨rfl, -⟩
    · exact absurd hrunning (hidle hbefore)
    · rw [happ]
  reads hthread hrunning := by
    rw [hthreads] at hthread
    rcases getElem?_concat_eq_some.mp hthread with hbefore | ⟨-, rfl⟩
    · exact absurd hrunning (hidle hbefore)
    · rw [happ]
      exact ⟨rfl, rfl, .inl rfl⟩
  caughtUp hthread hthrough := by
    rw [hthreads] at hthread
    rcases getElem?_concat_eq_some.mp hthread with hbefore | ⟨-, rfl⟩
    · exact hs.caughtUp hbefore hthrough
    · simp [Worker.Through, Worker.Running, Worker.start] at hthrough
  quiet hnone := by
    rw [happ] at hnone
    cases hnone
  closed result hmem := by
    rw [hqueue, hs.quiet hworker] at hmem
    cases hmem

/-- A thread that runs takes a step. -/
private theorem ThreadInv.update (hs : ThreadInv s) {thread : ℕ} {before after : Worker σ τ ι}
    (hbefore : s.threads[thread]? = some before) (hrunning : before.Running)
    (hthreads : t.threads = s.threads.modify thread fun _ => after) (hphase : t.phase = s.phase)
    (hclosed : t.closed = s.closed) (hworker : t.app.worker = s.app.worker)
    (hreads : after.Running → Reads t.app after)
    (hcaughtUp : after.Through → after.posted = after.reports.length)
    (hquiet : s.app.worker = none → t.queue = []) (hqueue : Closed t.queue t.threads) :
    ThreadInv t := by
  -- No other thread runs.
  have hcases : ∀ {other : ℕ} {worker : Worker σ τ ι}, t.threads[other]? = some worker →
      other = thread ∧ worker = after ∨
        s.threads[other]? = some worker ∧ ¬worker.Running := by
    intro other worker hother
    rw [hthreads] at hother
    obtain ⟨old, hold, hsame⟩ := getElem?_modify_eq_some.mp hother
    by_cases heq : thread = other
    · rw [if_pos heq] at hsame
      exact .inl ⟨heq.symm, hsame⟩
    · rw [if_neg heq] at hsame
      subst hsame
      refine .inr ⟨hold, fun halive => ?_⟩
      have hlast := hs.last hold halive
      have hlast' := hs.last hbefore hrunning
      exact heq (Nat.succ.inj (hlast'.trans hlast.symm))
  have hlength : t.threads.length = s.threads.length := by rw [hthreads, List.length_modify]
  refine ⟨?_, ?_, ?_, ?_, ?_, ?_, ?_, hqueue⟩
  case refine_1 => rw [hclosed, hworker, hlength, hs.handles]
  case refine_2 =>
    intro _
    rw [hphase]
    apply hs.begun
    rintro hnil
    simp [hnil] at hbefore
  case refine_3 =>
    intro other worker hother halive
    rw [hlength]
    rcases hcases hother with ⟨rfl, -⟩ | ⟨-, hidle⟩
    · exact hs.last hbefore hrunning
    · exact absurd halive hidle
  case refine_4 =>
    intro other worker hrun hother halive
    rw [hworker]
    rcases hcases hother with ⟨rfl, -⟩ | ⟨-, hidle⟩
    · exact hs.held (hphase ▸ hrun) hbefore hrunning
    · exact absurd halive hidle
  case refine_5 =>
    intro other worker hother halive
    rcases hcases hother with ⟨-, rfl⟩ | ⟨-, hidle⟩
    · exact hreads halive
    · exact absurd halive hidle
  case refine_6 =>
    intro other worker hother hthrough
    rcases hcases hother with ⟨-, rfl⟩ | ⟨hsame, -⟩
    · exact hcaughtUp hthrough
    · exact hs.caughtUp hsame hthrough
  case refine_7 => exact fun hnone => hquiet (hworker ▸ hnone)

/-- A thread that has its last message behind it returns. -/
private theorem ThreadInv.leave (hs : ThreadInv s) {thread : ℕ} {worker : Worker σ τ ι}
    (hworker : s.threads[thread]? = some worker) (hphase : worker.phase = .leaving) :
    ThreadInv (s.setThread thread { worker with phase := .exited }) := by
  have hposted : worker.posted = worker.reports.length :=
    hs.caughtUp hworker (.inr fun hrunning => hrunning.1 hphase)
  have hcases : ∀ {other : ℕ} {after : Worker σ τ ι},
      (s.setThread thread { worker with phase := .exited }).threads[other]? = some after →
        s.threads[other]? = some after ∨
          ¬after.Running ∧ after.posted = after.reports.length := by
    intro other after hafter
    obtain ⟨old, hold, rfl⟩ := getElem?_modify_eq_some.mp hafter
    by_cases heq : thread = other
    · rw [if_pos heq]
      exact .inr ⟨fun hrunning => hrunning.2 rfl, hposted⟩
    · rw [if_neg heq]
      exact .inl hold
  have hlength : (s.setThread thread { worker with phase := .exited }).threads.length =
      s.threads.length := List.length_modify ..
  constructor
  case handles =>
    rw [hlength]
    exact hs.handles
  case begun =>
    intro _
    apply hs.begun
    rintro hnil
    simp [hnil] at hworker
  case last =>
    intro other after hafter hrunning
    rw [hlength]
    exact hs.last ((hcases hafter).resolve_right fun hidle => hidle.1 hrunning) hrunning
  case held =>
    intro other after hrun hafter hrunning
    exact hs.held hrun ((hcases hafter).resolve_right fun hidle => hidle.1 hrunning) hrunning
  case reads =>
    intro other after hafter hrunning
    exact hs.reads ((hcases hafter).resolve_right fun hidle => hidle.1 hrunning) hrunning
  case caughtUp =>
    intro other after hafter hthrough
    rcases hcases hafter with hsame | ⟨-, hposted⟩
    · exact hs.caughtUp hsame hthrough
    · exact hposted
  case quiet => exact hs.quiet
  case closed =>
    intro result hmem
    obtain ⟨hidle, hfront⟩ := hs.closed result hmem
    refine ⟨fun after hafter hrunning => ?_, hfront⟩
    obtain ⟨other, hother⟩ := List.mem_iff_getElem?.mp hafter
    rcases hcases hother with hsame | ⟨hleft, -⟩
    · exact hidle after (List.mem_of_getElem? hsame) hrunning
    · exact hleft hrunning

/-- A message of the front is taken. -/
private theorem closed_tail {first : WindowMessage} {rest : List WindowMessage}
    {threads : List (Worker σ τ ι)} (hclosed : Closed (first :: rest) threads) :
    Closed rest threads := by
  intro result hmem
  obtain ⟨hidle, front, hqueue, hfront⟩ := hclosed result (List.mem_cons_of_mem _ hmem)
  refine ⟨hidle, ?_⟩
  cases front with
  | nil =>
      obtain ⟨-, rfl⟩ := List.cons.inj hqueue
      cases hmem
  | cons head front =>
      obtain ⟨-, rfl⟩ := List.cons.inj hqueue
      exact ⟨front, rfl, fun other hother => hfront other (List.mem_cons_of_mem _ hother)⟩

/-- When the last message of a thread is taken, the queue is empty. -/
private theorem rest_of_closed {result : Win32ReceiverRuntimeResult} {rest : List WindowMessage}
    {threads : List (Worker σ τ ι)} (hclosed : Closed (.runtimeDone result :: rest) threads) :
    (∀ worker ∈ threads, ¬worker.Running) ∧ rest = [] := by
  obtain ⟨hidle, front, hqueue, hfront⟩ := hclosed result List.mem_cons_self
  refine ⟨hidle, ?_⟩
  cases front with
  | nil => exact (List.cons.inj hqueue).2
  | cons head front =>
      obtain ⟨rfl, -⟩ := List.cons.inj hqueue
      exact absurd List.mem_cons_self (hfront result)

private theorem closed_of_open {queue : List WindowMessage} {threads : List (Worker σ τ ι)}
    (hopen : ∀ result, .runtimeDone result ∉ queue) : Closed queue threads :=
  fun result hmem => absurd hmem (hopen result)

/-- An event is no last message. -/
private theorem closed_concat_event {queue : List WindowMessage} {threads : List (Worker σ τ ι)}
    (hopen : ∀ result, .runtimeDone result ∉ queue) (block : ℕ) (report : ReceiverLoopReport) :
    Closed (queue ++ [.runtimeEvent block report]) threads := by
  apply closed_of_open
  intro result hmem
  rcases List.mem_append.mp hmem with hmem | hmem
  · exact hopen result hmem
  · simp at hmem

@[simp]
private theorem applyRuntimeEvent_worker (app : App) (report : ReceiverLoopReport) :
    (applyRuntimeEvent app report).worker = app.worker := by
  unfold applyRuntimeEvent
  split <;> rfl

private theorem reads_applyRuntimeEvent {app : App} {worker : Worker σ τ ι}
    (hreads : Reads app worker) (report : ReceiverLoopReport) :
    Reads (applyRuntimeEvent app report) worker := by
  obtain ⟨hbase, hroot, hsession⟩ := hreads
  unfold applyRuntimeEvent
  split <;> exact ⟨hbase, hroot, hsession⟩

/-- A thread that runs goes on, and the application stays as it is. -/
private theorem ThreadInv.goesOn (hs : ThreadInv s) {thread : ℕ} {before after : Worker σ τ ι}
    (hbefore : s.threads[thread]? = some before) (hrunning : before.Running)
    (hbase : after.relayBase = before.relayBase) (hroot : after.jobsRoot = before.jobsRoot)
    (hsession : after.session = before.session) (hthrough : before.Through → after.Through)
    (hcaughtUp : after.Through → after.posted = after.reports.length) :
    ThreadInv (s.setThread thread after) :=
  hs.update hbefore hrunning rfl rfl rfl rfl
    (fun _ => (hs.reads hbefore hrunning).after hbase hroot hsession hthrough) hcaughtUp hs.quiet
    (closed_of_open (hs.open hbefore hrunning))

/-- A thread that still has to report is in its loop. -/
theorem ThreadInv.not_through (hs : ThreadInv s) {thread : ℕ} {worker : Worker σ τ ι}
    {report : ReceiverLoopReport} (hworker : s.threads[thread]? = some worker)
    (hreport : worker.reports[worker.posted]? = some report) : ¬worker.Through := by
  intro hthrough
  have hlt := (List.getElem?_eq_some_iff.mp hreport).1
  exact absurd (hs.caughtUp hworker hthrough) (Nat.ne_of_lt hlt)

/-- A thread that still has to report runs. -/
theorem ThreadInv.running_of_report (hs : ThreadInv s) {thread : ℕ} {worker : Worker σ τ ι}
    {report : ReceiverLoopReport} (hworker : s.threads[thread]? = some worker)
    (hreport : worker.reports[worker.posted]? = some report) : worker.Running := by
  by_contra hidle
  exact hs.not_through hworker hreport (.inr hidle)

/-- Every step keeps the invariant. -/
theorem ThreadInv.step (hs : ThreadInv s) (hstep : Step platform s t) : ThreadInv t := by
  cases hstep with
  | prepared hphase _ _ hworker =>
      obtain ⟨hthreads, hclosed, hnone, hqueue⟩ := hs.unbegun (by simp [hphase]) (by simp [hphase])
      exact threadInv_of_unbegun hthreads hclosed (hworker.trans hnone) hqueue
  | unprepared hphase hblank =>
      obtain ⟨hthreads, hclosed, hnone, hqueue⟩ := hs.unbegun (by simp [hphase]) (by simp [hphase])
      exact threadInv_of_unbegun hthreads hclosed (hblank.worker.trans hnone) hqueue
  | windowed hphase | unwindowed hphase | unstarted hphase =>
      obtain ⟨hthreads, hclosed, hnone, hqueue⟩ := hs.unbegun (by simp [hphase]) (by simp [hphase])
      exact threadInv_of_unbegun hthreads hclosed hnone hqueue
  | started hphase _ hworker =>
      obtain ⟨hthreads, -, -, -⟩ := hs.unbegun (by simp [hphase]) (by simp [hphase])
      exact hs.start (by simp [hthreads]) hworker rfl rfl rfl rfl rfl
  | @event block report rest hphase hqueue =>
      have hclosed := hs.closed
      rw [hqueue] at hclosed
      refine hs.main rfl rfl rfl (by simp) (fun hthread hrunning =>
        reads_applyRuntimeEvent (hs.reads hthread hrunning) report) (fun hnone => ?_)
        (closed_tail hclosed)
      have hempty := hs.quiet ((applyRuntimeEvent_worker _ _).symm.trans hnone)
      rw [hqueue] at hempty
      cases hempty
  | @done result rest app armed givenUp hphase hqueue hsame hworker =>
      have hclosed := hs.closed
      rw [hqueue] at hclosed
      obtain ⟨hidle, rfl⟩ := rest_of_closed hclosed
      have hall : ∀ {thread : ℕ} {worker : Worker σ τ ι}, s.threads[thread]? = some worker →
          ¬worker.Running := fun hthread => hidle _ (List.mem_of_getElem? hthread)
      exact {
        handles := by
          dsimp only
          rw [hworker, Option.toList_none, List.append_nil, hs.handles]
        begun := hs.begun
        last := hs.last
        held := fun _ hthread hrunning => absurd hrunning (hall hthread)
        reads := fun hthread hrunning => absurd hrunning (hall hthread)
        caughtUp := hs.caughtUp
        quiet := fun _ => rfl
        closed := closed_of_open (by simp) }
  | elapsed hphase | busy hphase =>
      exact hs.main rfl rfl rfl rfl
        (fun hthread hrunning => ⟨(hs.reads hthread hrunning).relayBase,
          (hs.reads hthread hrunning).jobsRoot, (hs.reads hthread hrunning).session⟩)
        hs.quiet hs.closed
  | unrestarted hphase hworker hblank =>
      exact hs.main rfl rfl rfl hblank.worker
        (fun hthread hrunning => absurd hrunning (hs.idle hphase hworker hthread))
        (fun _ => hs.quiet hworker) hs.closed
  | restarted hphase hworker =>
      exact hs.start (hs.idle hphase hworker) hworker rfl rfl rfl hphase rfl
  | destroyed hphase =>
      exact {
        handles := by
          dsimp only
          rw [Option.toList_none, List.append_nil, hs.handles]
        begun := fun _ => .inr rfl
        last := hs.last
        held := fun hrun => by simp at hrun
        reads := fun hthread hrunning => ⟨(hs.reads hthread hrunning).relayBase,
          (hs.reads hthread hrunning).jobsRoot, (hs.reads hthread hrunning).session⟩
        caughtUp := hs.caughtUp
        quiet := fun _ => rfl
        closed := closed_of_open (by simp) }
  | @answered _ worker _ _ answer hbefore hphase =>
      have hrunning : worker.Running := by simp [Worker.Running, hphase]
      exact hs.goesOn hbefore hrunning rfl rfl rfl
        (by simp [Worker.Through, Worker.Running, hphase])
        (by simp [Worker.Through, Worker.Running])
  | @returned _ worker _ _ hbefore hphase =>
      have hrunning : worker.Running := by simp [Worker.Running, hphase]
      exact hs.goesOn hbefore hrunning rfl rfl rfl
        (by simp [Worker.Through, Worker.Running, hphase])
        (by simp [Worker.Through, Worker.Running])
  | @connected _ worker _ hbefore hphase =>
      have hrunning : worker.Running := by simp [Worker.Running, hphase]
      exact hs.goesOn hbefore hrunning rfl rfl rfl
        (by simp [Worker.Through, Worker.Running, hphase])
        (by simp [Worker.Through, Worker.Running])
  | @passed _ worker loop hbefore hphase =>
      have hrunning : worker.Running := by simp [Worker.Running, hphase]
      refine hs.goesOn hbefore hrunning rfl rfl rfl
        (by simp [Worker.Through, Worker.Running, hphase]) ?_
      intro hthrough
      cases hresult : (receiverLoopTurn platform.loopOps loop).1 with
      | none | some result => simp [Worker.Through, Worker.Running, hresult] at hthrough
  | @dropped _ worker _ hbefore hreport =>
      have hnot := hs.not_through hbefore hreport
      have hrunning := hs.running_of_report hbefore hreport
      exact hs.goesOn hbefore hrunning rfl rfl rfl id fun hthrough => absurd hthrough hnot
  | @freed _ worker _ hbefore hreport =>
      have hnot := hs.not_through hbefore hreport
      have hrunning := hs.running_of_report hbefore hreport
      exact hs.update hbefore hrunning rfl rfl rfl rfl
        (fun _ => (hs.reads hbefore hrunning).after rfl rfl rfl id)
        (fun hthrough => absurd hthrough hnot) hs.quiet (closed_of_open (hs.open hbefore hrunning))
  | @queued _ worker _ hbefore hreport halive =>
      have hnot := hs.not_through hbefore hreport
      have hrunning := hs.running_of_report hbefore hreport
      have hheld := hs.held (hs.alive hbefore halive) hbefore hrunning
      refine hs.update hbefore hrunning rfl rfl rfl rfl
        (fun _ => (hs.reads hbefore hrunning).after rfl rfl rfl id)
        (fun hthrough => absurd hthrough hnot) (fun hnone => ?_)
        (closed_concat_event (hs.open hbefore hrunning) _ _)
      rw [hheld] at hnone
      cases hnone
  | @cleaned _ worker result closes hbefore hphase hposted =>
      have hrunning : worker.Running := by simp [Worker.Running, hphase]
      have hreads := hs.reads hbefore hrunning
      have hsession : s.app.session = worker.session := by
        refine hreads.session.resolve_right fun hclosed => ?_
        simp [Worker.Through, Worker.Running, hphase] at hclosed
      refine hs.update hbefore hrunning rfl rfl rfl ?_ (fun _ => ?_) (fun _ => hposted) hs.quiet
        (closed_of_open (hs.open hbefore hrunning))
      · cases closes <;> rfl
      · cases closes with
        | false => exact ⟨hreads.relayBase, hreads.jobsRoot, .inl hsession⟩
        | true =>
            refine ⟨hreads.relayBase, hreads.jobsRoot, .inr ⟨.inl ⟨result, rfl⟩, ?_⟩⟩
            exact congrArg receiverSessionClose hsession
  | @unreported _ worker _ hbefore hphase =>
      have hrunning : worker.Running := by simp [Worker.Running, hphase]
      have hposted := hs.caughtUp hbefore (.inl ⟨_, hphase⟩)
      exact hs.goesOn hbefore hrunning rfl rfl rfl (fun _ => .inr fun halive => halive.1 rfl)
        fun _ => hposted
  | @reported thread worker result hbefore hphase halive =>
      have hrunning : worker.Running := by simp [Worker.Running, hphase]
      have hheld := hs.held (hs.alive hbefore halive) hbefore hrunning
      have hopen := hs.open hbefore hrunning
      have hposted := hs.caughtUp hbefore (.inl ⟨_, hphase⟩)
      refine hs.update hbefore hrunning rfl rfl rfl rfl (fun halive => absurd rfl halive.1)
        (fun _ => hposted) (fun hnone => ?_) ?_
      · rw [hheld] at hnone
        cases hnone
      intro other hmem
      obtain rfl : other = result := by
        rcases List.mem_append.mp hmem with hmem | hmem
        · exact absurd hmem (hopen other)
        · simpa using hmem
      refine ⟨fun after hafter => ?_, s.queue, rfl, hopen⟩
      obtain ⟨index, hindex⟩ := List.mem_iff_getElem?.mp hafter
      obtain ⟨old, hold, hsame⟩ := getElem?_modify_eq_some.mp hindex
      subst hsame
      by_cases heq : thread = index
      · rw [if_pos heq]
        exact fun halive => halive.1 rfl
      · rw [if_neg heq]
        intro halive
        have hlast := hs.last hold halive
        have hlast' := hs.last hbefore hrunning
        exact heq (Nat.succ.inj (hlast'.trans hlast.symm))
  | left hworker hphase => exact hs.leave hworker hphase

/-- **Run lemma.** -/
theorem threadInv_of_reachable (hreachable : (system platform).Reachable s) : ThreadInv s := by
  have hstart : ThreadInv (system platform).init := threadInv_of_unbegun rfl rfl rfl rfl
  exact hreachable.invariant hstart fun _ hs _ hstep => hs.step (step_cases hstep)

end Program

namespace Program

variable {platform : ProgramPlatform σ τ ι} {s t : Program σ τ ι}

/-- The blocks that messages have been put into. -/
def blocksOf (messages : List WindowMessage) : List ℕ :=
  messages.filterMap fun message =>
    match message with
    | .runtimeEvent block _ => some block
    | .runtimeDone _ => none

@[simp]
theorem blocksOf_append (messages more : List WindowMessage) :
    blocksOf (messages ++ more) = blocksOf messages ++ blocksOf more :=
  List.filterMap_append

/-- The blocks of the heap: each has been freed, is on its way to the window, or was thrown
away with it. -/
structure BlocksKept (s : Program σ τ ι) : Prop where
  blocks : (s.freed ++ (blocksOf s.queue ++ blocksOf s.discarded)).Perm (List.range s.allocated)
  discarded : s.phase ≠ .destroyed → s.discarded = []
  queue : s.phase = .destroyed → s.queue = []

/-- A step that has nothing to do with messages. -/
private theorem BlocksKept.congr (hs : BlocksKept s) (hfreed : t.freed = s.freed)
    (hqueue : t.queue = s.queue) (hdiscarded : t.discarded = s.discarded)
    (hallocated : t.allocated = s.allocated)
    (hphase : t.phase = .destroyed ↔ s.phase = .destroyed) :
    BlocksKept t where
  blocks := by
    rw [hfreed, hqueue, hdiscarded, hallocated]
    exact hs.blocks
  discarded halive := by
    rw [hdiscarded]
    exact hs.discarded fun hdestroyed => halive (hphase.mpr hdestroyed)
  queue hdestroyed := by
    rw [hqueue]
    exact hs.queue (hphase.mp hdestroyed)

/-- Every step keeps account of the blocks. -/
theorem BlocksKept.step (hs : BlocksKept s) (hstep : Step platform s t) : BlocksKept t := by
  cases hstep with
  | prepared hphase | unprepared hphase | windowed hphase | unwindowed hphase | started hphase
  | unstarted hphase => exact hs.congr rfl rfl rfl rfl (by simp [hphase])
  | elapsed | busy | unrestarted | restarted | answered | returned | connected | passed | dropped
  | cleaned | unreported | left => exact hs.congr rfl rfl rfl rfl Iff.rfl
  | @event block report rest hphase hqueue =>
      have hblocks := hs.blocks
      rw [hqueue] at hblocks
      refine ⟨?_, hs.discarded, fun hdestroyed => ?_⟩
      · rw [List.append_assoc]
        exact hblocks
      · have hempty := hs.queue hdestroyed
        rw [hqueue] at hempty
        cases hempty
  | @done result rest app armed givenUp hphase hqueue =>
      have hblocks := hs.blocks
      rw [hqueue] at hblocks
      refine ⟨hblocks, hs.discarded, fun hdestroyed => ?_⟩
      have hempty := hs.queue hdestroyed
      rw [hqueue] at hempty
      cases hempty
  | destroyed hphase =>
      have hblocks := hs.blocks
      rw [hs.discarded (by simp [hphase])] at hblocks
      refine ⟨?_, fun halive => absurd rfl halive, fun _ => rfl⟩
      simpa [blocksOf] using hblocks
  | freed =>
      refine ⟨?_, hs.discarded, hs.queue⟩
      dsimp only
      rw [List.range_succ, List.append_assoc]
      exact List.perm_middle.trans
        ((hs.blocks.cons _).trans (List.perm_append_singleton _ _).symm)
  | @queued _ _ report _ _ halive =>
      refine ⟨?_, hs.discarded, fun hdestroyed => absurd hdestroyed halive⟩
      have hqueue : s.freed ++ (blocksOf (s.queue ++ [.runtimeEvent s.allocated report]) ++
          blocksOf s.discarded) =
            (s.freed ++ blocksOf s.queue) ++ s.allocated :: blocksOf s.discarded := by
        simp [blocksOf]
      have hblocks := hs.blocks
      rw [← List.append_assoc] at hblocks
      dsimp only [setThread]
      rw [hqueue, List.range_succ]
      exact List.perm_middle.trans
        ((hblocks.cons _).trans (List.perm_append_singleton _ _).symm)
  | @reported _ _ result _ _ halive =>
      refine ⟨?_, hs.discarded, fun hdestroyed => absurd hdestroyed halive⟩
      have hqueue : blocksOf (s.queue ++ [.runtimeDone result]) = blocksOf s.queue := by
        simp [blocksOf]
      dsimp only [setThread]
      rw [hqueue]
      exact hs.blocks

/-- Every block that has been allocated is freed at most once, and as long as there is a
window it is either freed or on its way there. -/
theorem blocksKept_of_reachable (hreachable : (system platform).Reachable s) : BlocksKept s := by
  have hstart : BlocksKept (system platform).init := ⟨List.Perm.refl _, fun _ => rfl, fun _ => rfl⟩
  exact hreachable.invariant hstart fun _ hs _ hstep => hs.step (step_cases hstep)

end Program

/-- The blocks of its four reports are freed. -/
theorem restarted_blocksKept :
    (programAfter (connectingSteps ++ receivingSteps ++ restartingSteps)).freed = [0, 1, 2, 3] ∧
      Program.BlocksKept (programAfter (connectingSteps ++ receivingSteps ++ restartingSteps)) :=
  ⟨by decide +kernel, Program.blocksKept_of_reachable (TransitionSystem.reachable_getD_run _)⟩

end PrintDrop.Desktop
