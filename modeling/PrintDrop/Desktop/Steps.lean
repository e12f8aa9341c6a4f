/-
# What a step of the program does

One case for each thing that the main thread or a receiver thread can do, with what must
hold before it and what it leaves behind. The invariants of the program follow from this
list, and not from the definitions of the steps.
-/

import PrintDrop.Desktop.App

namespace PrintDrop.Desktop

open Math

universe u v w

/-- What belongs to the session, and what the window shows of its progress, is kept. -/
structure App.SameSession (app app' : App) : Prop where
  window : app'.window = app.window
  session : app'.session = app.session
  qr : app'.qr = app.qr
  relayBase : app'.relayBase = app.relayBase
  publicUrl : app'.publicUrl = app.publicUrl
  jobsRoot : app'.jobsRoot = app.jobsRoot
  receivedBytes : app'.receivedBytes = app.receivedBytes
  totalBytes : app'.totalBytes = app.totalBytes
  qrValid : app'.qrValid = app.qrValid

/-- An application without a session to show. -/
structure App.Blank (app app' : App) : Prop where
  window : app'.window = app.window
  worker : app'.worker = app.worker
  receivedBytes : app'.receivedBytes = 0
  totalBytes : app'.totalBytes = 0
  qrValid : app'.qrValid = false

/-- What a successful preparation has put together: a session that waits, and the code of
its URL under the base. -/
structure Shows (platform : UiPlatform) (app : App) : Prop where
  waiting : app.session.state = .waiting
  created : ∃ (before : ReceiverSession) (nowMs : UInt64) (random : Option SessionEntropy),
    receiverSessionCreate before nowMs uiSessionTtlMs (some random) = (.ok, app.session)
  url : ∃ sessionPrefix, buildSessionPrefix (some app.relayBase) = some sessionPrefix ∧
    (receiverSessionBuildUrl app.session (some sessionPrefix) (some uiUrlCapacity)).result = .ok ∧
    (receiverSessionBuildUrl app.session (some sessionPrefix) (some uiUrlCapacity)).output =
      some app.publicUrl
  code : platform.encodeText app.publicUrl = some app.qr
  state : app.state = .connecting
  receivedBytes : app.receivedBytes = 0
  totalBytes : app.totalBytes = 0

/-- A URL that could be built is in the buffer. -/
private theorem receiverSessionBuildUrl_output {session : ReceiverSession}
    {sessionPrefix : Option CString} {capacity : Option ℕ}
    (hok : (receiverSessionBuildUrl session sessionPrefix capacity).result = .ok) :
    ∃ url, (receiverSessionBuildUrl session sessionPrefix capacity).output = some url := by
  unfold receiverSessionBuildUrl at hok ⊢
  split at hok
  · dsimp only at hok ⊢
    split_ifs at hok ⊢
    exact ⟨_, rfl⟩
  · cases hok

/-- A session that could be created waits. -/
private theorem receiverSessionCreate_waiting {session : ReceiverSession} {nowMs ttlMs : UInt64}
    {random : Option SessionEntropy}
    (hok : (receiverSessionCreate session nowMs ttlMs (some random)).1 = .ok) :
    (receiverSessionCreate session nowMs ttlMs (some random)).2.state = .waiting := by
  have houtcome := receiverSessionCreate_outcome session nowMs ttlMs (some random)
  generalize receiverSessionCreate session nowMs ttlMs (some random) = created at houtcome hok
  cases houtcome with
  | invalid => cases hok
  | failed hresult => exact absurd hok hresult
  | created hstate => exact hstate

/-- How a preparation ends. -/
inductive PrepareOutcome (platform : UiPlatform) (app : App) : Bool × App → Prop
  | prepared {next : App} (hshows : Shows platform next) (hwindow : next.window = app.window)
    (hworker : next.worker = app.worker) : PrepareOutcome platform app (true, next)
  | failed {next : App} (hblank : app.Blank next) : PrepareOutcome platform app (false, next)

private theorem showUrl_outcome {platform : UiPlatform} {before app : App}
    (hblank : before.Blank app) (hwaiting : app.session.state = .waiting)
    (hcreated : ∃ (session : ReceiverSession) (nowMs : UInt64) (random : Option SessionEntropy),
      receiverSessionCreate session nowMs uiSessionTtlMs (some random) = (.ok, app.session))
    (hurl : ∃ sessionPrefix, buildSessionPrefix (some app.relayBase) = some sessionPrefix ∧
      (receiverSessionBuildUrl app.session (some sessionPrefix) (some uiUrlCapacity)).result = .ok ∧
      (receiverSessionBuildUrl app.session (some sessionPrefix) (some uiUrlCapacity)).output =
        some app.publicUrl) :
    PrepareOutcome platform before (showUrl platform app) := by
  unfold showUrl
  cases hcode : qrEncodeText platform app.publicUrl with
  | none => exact .failed ⟨hblank.window, hblank.worker, hblank.receivedBytes, hblank.totalBytes,
      hblank.qrValid⟩
  | some code =>
      cases platform.multiByteToWideChar app.publicUrl with
      | none => exact .failed ⟨hblank.window, hblank.worker, hblank.receivedBytes,
          hblank.totalBytes, hblank.qrValid⟩
      | some wide =>
          have hencoded : platform.encodeText app.publicUrl = some code := by
            unfold qrEncodeText at hcode
            split at hcode
            · cases hcode
            · exact hcode
          exact .prepared ⟨hwaiting, hcreated, hurl, hencoded, rfl, hblank.receivedBytes,
            hblank.totalBytes⟩ hblank.window hblank.worker

private theorem showSession_outcome {platform : UiPlatform} {before app : App}
    (hblank : before.Blank app) (hwaiting : app.session.state = .waiting)
    (hcreated : ∃ (session : ReceiverSession) (nowMs : UInt64) (random : Option SessionEntropy),
      receiverSessionCreate session nowMs uiSessionTtlMs (some random) = (.ok, app.session)) :
    PrepareOutcome platform before (showSession platform app) := by
  have hfailed : ∀ url : Bytes, before.Blank { app with publicUrl := url } := fun _ =>
    ⟨hblank.window, hblank.worker, hblank.receivedBytes, hblank.totalBytes, hblank.qrValid⟩
  unfold showSession
  cases hprefixed : buildSessionPrefix (some app.relayBase) with
  | none => exact .failed ⟨hblank.window, hblank.worker, hblank.receivedBytes, hblank.totalBytes,
      hblank.qrValid⟩
  | some sessionPrefix =>
      dsimp only
      split
      · exact .failed ⟨hblank.window, hblank.worker, hblank.receivedBytes, hblank.totalBytes,
          hblank.qrValid⟩
      rename_i hresult
      rw [not_not] at hresult
      obtain ⟨url, hurl⟩ := receiverSessionBuildUrl_output hresult
      rw [hurl, Option.getD_some]
      exact showUrl_outcome (hfailed url) hwaiting hcreated
        ⟨sessionPrefix, hprefixed, hresult, hurl⟩

theorem prepareSession_outcome (platform : UiPlatform) (app : App) (given : Preparation) :
    PrepareOutcome platform app (prepareSession platform app given) := by
  unfold prepareSession
  cases loadRelayBase given.environment with
  | none => exact .failed ⟨rfl, rfl, rfl, rfl, rfl⟩
  | some base =>
      cases prepareJobsRoot given.documents with
      | none => exact .failed ⟨rfl, rfl, rfl, rfl, rfl⟩
      | some root =>
          dsimp only
          split
          · exact .failed ⟨rfl, rfl, rfl, rfl, rfl⟩
          rename_i hresult
          rw [not_not] at hresult
          have hwaiting := receiverSessionCreate_waiting hresult
          generalize hmade : receiverSessionCreate app.session given.nowMs uiSessionTtlMs
            (some given.random) = made at hresult hwaiting ⊢
          obtain ⟨result, session⟩ := made
          obtain rfl : result = .ok := hresult
          exact showSession_outcome ⟨rfl, rfl, rfl, rfl, rfl⟩ hwaiting ⟨_, _, _, hmade⟩

/-! ## Steps -/

variable {σ : Type u} {τ : Type v} {ι : Type w}

namespace Program

/-- A step of the program, by what is done. -/
inductive Step (platform : ProgramPlatform σ τ ι) (s : Program σ τ ι) : Program σ τ ι → Prop
  | prepared {app : App} (hphase : s.phase = .starting) (hshows : Shows platform.ui app)
    (hwindow : app.window = s.app.window) (hworker : app.worker = s.app.worker) :
    Step platform s { s with
      phase := .prepared
      app := app
      delivered := []
      givenUp := none }
  | unprepared {app : App} (hphase : s.phase = .starting) (hblank : s.app.Blank app) :
    Step platform s { s with
      phase := .exited 1
      app := app
      delivered := []
      givenUp := none }
  | windowed (hphase : s.phase = .prepared) :
    Step platform s { s with phase := .windowed, app := { s.app with window := true } }
  | unwindowed (hphase : s.phase = .prepared) :
    Step platform s { s with phase := .exited 1, app := s.app.closeSession }
  | started (hphase : s.phase = .windowed) (hwindow : s.app.window = true)
    (hworker : s.app.worker = none) :
    Step platform s { s with
      phase := .running
      app := { s.app with worker := some s.threads.length }
      threads := s.threads ++ [.start platform s.app] }
  | unstarted (hphase : s.phase = .windowed) :
    Step platform s { s.notStarted .receiver with phase := .running }
  | event {block : ℕ} {report : ReceiverLoopReport} {rest : List WindowMessage}
    (hphase : s.phase = .running) (hqueue : s.queue = .runtimeEvent block report :: rest) :
    Step platform s { s with
      app := applyRuntimeEvent s.app report
      queue := rest
      delivered := s.delivered ++ [report]
      givenUp := none
      freed := s.freed ++ [block] }
  | done {result : Win32ReceiverRuntimeResult} {rest : List WindowMessage} {app : App}
    {armed : Bool} {givenUp : Option GiveUp} (hphase : s.phase = .running)
    (hqueue : s.queue = .runtimeDone result :: rest) (hsame : s.app.SameSession app)
    (hworker : app.worker = none)
    (hstate : app.state = s.app.state ∧ givenUp = s.givenUp ∨
      app.state = .failed ∧ givenUp.isSome) :
    Step platform s { s with
      app := app
      queue := rest
      closed := s.closed ++ s.app.worker.toList
      timerArmed := armed
      givenUp := givenUp }
  | elapsed (hphase : s.phase = .running) : Step platform s { s with timerElapsed := true }
  | busy {elapsed : Bool} (hphase : s.phase = .running) (hworker : s.app.worker.isSome) :
    Step platform s { s.notStarted .nextSession with timerArmed := false, timerElapsed := elapsed }
  | unrestarted {app : App} {elapsed : Bool} (hphase : s.phase = .running)
    (hworker : s.app.worker = none) (hblank : s.app.Blank app) (hstate : app.state = .failed) :
    Step platform s { s with
      app := app
      delivered := []
      givenUp := some .nextSession
      timerArmed := false
      timerElapsed := elapsed }
  | restarted {app : App} {elapsed : Bool} (hphase : s.phase = .running)
    (hworker : s.app.worker = none) (hshows : Shows platform.ui app)
    (hwindow : app.window = s.app.window) :
    Step platform s { s with
      app := { app with worker := some s.threads.length }
      threads := s.threads ++ [.start platform app]
      delivered := []
      givenUp := none
      timerArmed := false
      timerElapsed := elapsed }
  | destroyed (hphase : s.phase = .running) :
    Step platform s { s with
      phase := .destroyed
      app := { s.app with worker := none }
      closed := s.closed ++ s.app.worker.toList
      timerArmed := false
      timerElapsed := false
      queue := []
      discarded := s.queue }
  | answered {thread : ℕ} {worker : Worker σ τ ι} {call : RelayCall}
    {next : RelayAnswer → RelayProgram SetUp} (answer : RelayAnswer)
    (hworker : s.threads[thread]? = some worker)
    (hphase : worker.phase = .calling (.ask call next)) :
    Step platform s (s.setThread thread { worker with
      phase := .calling (next answer)
      calls := worker.calls ++ [(call, answer)] })
  | returned {thread : ℕ} {worker : Worker σ τ ι} {result : Win32ReceiverRuntimeResult}
    {closes : Bool} (hworker : s.threads[thread]? = some worker)
    (hphase : worker.phase = .calling (.done (.returned result closes))) :
    Step platform s (s.setThread thread { worker with phase := .returning result closes })
  | connected {thread : ℕ} {worker : Worker σ τ ι} (resources : LoopResources σ τ ι)
    (hworker : s.threads[thread]? = some worker)
    (hphase : worker.phase = .calling (.done .connected)) :
    Step platform s (s.setThread thread { worker with
      phase := .looping
      loop := some (receiverLoopStart platform.loopOps
        (.fresh (.fresh worker.jobsRoot (resources.sink, []) resources.sha256 resources.entropy)
          (resources.link, []))) })
  | passed {thread : ℕ} {worker : Worker σ τ ι} {loop : WorkerLoop σ τ ι}
    (hworker : s.threads[thread]? = some worker) (hphase : worker.phase = .looping)
    (hloop : worker.loop = some loop) (hposted : worker.posted = loop.reports.length) :
    Step platform s (s.setThread thread { worker with
      phase := match (receiverLoopTurn platform.loopOps loop).1 with
        | none => .looping
        | some result => .returning (runtimeResultOfLoop result) true
      loop := some (receiverLoopTurn platform.loopOps loop).2 })
  | dropped {thread : ℕ} {worker : Worker σ τ ι} {report : ReceiverLoopReport}
    (hworker : s.threads[thread]? = some worker)
    (hreport : worker.reports[worker.posted]? = some report) :
    Step platform s (s.setThread thread { worker with posted := worker.posted + 1 })
  | freed {thread : ℕ} {worker : Worker σ τ ι} {report : ReceiverLoopReport}
    (hworker : s.threads[thread]? = some worker)
    (hreport : worker.reports[worker.posted]? = some report) :
    Step platform s { s.setThread thread { worker with posted := worker.posted + 1 } with
      allocated := s.allocated + 1
      freed := s.freed ++ [s.allocated] }
  | queued {thread : ℕ} {worker : Worker σ τ ι} {report : ReceiverLoopReport}
    (hworker : s.threads[thread]? = some worker)
    (hreport : worker.reports[worker.posted]? = some report) (halive : s.phase ≠ .destroyed) :
    Step platform s { s.setThread thread { worker with posted := worker.posted + 1 } with
      allocated := s.allocated + 1
      queue := s.queue ++ [.runtimeEvent s.allocated report] }
  | cleaned {thread : ℕ} {worker : Worker σ τ ι} {result : Win32ReceiverRuntimeResult}
    {closes : Bool} (hworker : s.threads[thread]? = some worker)
    (hphase : worker.phase = .returning result closes)
    (hposted : worker.posted = worker.reports.length) :
    Step platform s { s.setThread thread { worker with phase := .posting result } with
      app := if closes then s.app.closeSession else s.app }
  | unreported {thread : ℕ} {worker : Worker σ τ ι} {result : Win32ReceiverRuntimeResult}
    (hworker : s.threads[thread]? = some worker) (hphase : worker.phase = .posting result) :
    Step platform s (s.setThread thread { worker with phase := .leaving })
  | reported {thread : ℕ} {worker : Worker σ τ ι} {result : Win32ReceiverRuntimeResult}
    (hworker : s.threads[thread]? = some worker) (hphase : worker.phase = .posting result)
    (halive : s.phase ≠ .destroyed) :
    Step platform s { s.setThread thread { worker with phase := .leaving } with
      queue := s.queue ++ [.runtimeDone result] }
  | left {thread : ℕ} {worker : Worker σ τ ι} (hworker : s.threads[thread]? = some worker)
    (hphase : worker.phase = .leaving) :
    Step platform s (s.setThread thread { worker with phase := .exited })

variable {platform : ProgramPlatform σ τ ι} {s t : Program σ τ ι}

/-- Starting a receiver. -/
private theorem startReceiver_cases (platform : ProgramPlatform σ τ ι) (s : Program σ τ ι)
    (threadStarts : Bool) :
    s.startReceiver platform threadStarts = (false, s) ∨
      s.app.window = true ∧ s.app.worker = none ∧
        s.startReceiver platform threadStarts = (true, { s with
          app := { s.app with worker := some s.threads.length }
          threads := s.threads ++ [.start platform s.app] }) := by
  unfold startReceiver
  split
  · exact .inl rfl
  split
  · exact .inl rfl
  rename_i hready _
  simp only [Bool.or_eq_true, Bool.not_eq_eq_eq_not, Bool.not_true, not_or,
    Bool.not_eq_false, Option.not_isSome_iff_eq_none] at hready
  exact .inr ⟨hready.1, hready.2, rfl⟩

/-- The handle that there is, if any, is closed. -/
private theorem closeWorker_eq : s.closeWorker = { s with
    app := { s.app with worker := none }
    closed := s.closed ++ s.app.worker.toList } := by
  obtain ⟨_, app, _, _, _, _, _, _, _, _, _, _⟩ := s
  cases hworker : app.worker with
  | none =>
      obtain ⟨_, worker, _, _, _, _, _, _, _, _, _, _, _⟩ := app
      obtain rfl : worker = none := hworker
      simp [closeWorker]
  | some handle => simp [closeWorker, hworker]

private theorem startNextSession_cases (platform : ProgramPlatform σ τ ι) (s : Program σ τ ι)
    (given : Preparation) (threadStarts : Bool) :
    s.app.worker.isSome ∧ s.startNextSession platform given threadStarts = (false, s) ∨
      s.app.worker = none ∧
        ((∃ app, s.app.Blank app ∧ s.startNextSession platform given threadStarts =
            (false, { s with app := app, delivered := [], givenUp := none })) ∨
          ∃ app, Shows platform.ui app ∧ app.window = s.app.window ∧
            s.startNextSession platform given threadStarts = (true, { s with
              app := { app with worker := some s.threads.length }
              threads := s.threads ++ [.start platform app]
              delivered := []
              givenUp := none })) := by
  unfold startNextSession
  split
  · rename_i hworker
    exact .inl ⟨hworker, rfl⟩
  rename_i hworker
  rw [Option.not_isSome_iff_eq_none] at hworker
  refine .inr ⟨hworker, ?_⟩
  have houtcome := prepareSession_outcome platform.ui s.app given
  unfold prepareSession
  generalize Desktop.prepareSession platform.ui s.app given = prepared at houtcome ⊢
  cases houtcome with
  | @failed app hblank => exact .inl ⟨app, hblank, by simp⟩
  | @prepared app hshows hwindow hworker' =>
      dsimp only
      rw [if_neg (by decide)]
      rcases startReceiver_cases platform
          { s with app := app, delivered := [], givenUp := none } threadStarts with
        hfailed | ⟨-, -, hstarted⟩
      · rw [hfailed]
        exact .inl ⟨{ app.closeSession with qrValid := false },
          ⟨hwindow, hworker', hshows.receivedBytes, hshows.totalBytes, rfl⟩, by simp⟩
      · rw [hstarted]
        exact .inr ⟨app, hshows, hwindow, rfl⟩

private theorem mainStep_cases {action : ProgramAction σ τ ι}
    (hstep : s.mainStep platform action = some t) : Step platform s t := by
  cases action with
  | prepare given =>
      simp only [mainStep] at hstep
      split at hstep
      · rename_i hphase
        obtain rfl := Option.some.inj hstep
        have houtcome := prepareSession_outcome platform.ui s.app given
        unfold prepareSession
        generalize Desktop.prepareSession platform.ui s.app given = prepared at houtcome ⊢
        cases houtcome with
        | prepared hshows hwindow hworker => exact .prepared hphase hshows hwindow hworker
        | failed hblank => exact .unprepared hphase hblank
      · cases hstep
  | createWindow succeeds =>
      simp only [mainStep] at hstep
      split at hstep
      · rename_i hphase
        cases succeeds with
        | true =>
            obtain rfl := Option.some.inj hstep
            exact .windowed hphase
        | false =>
            obtain rfl := Option.some.inj hstep
            exact .unwindowed hphase
      · cases hstep
  | startReceiver threadStarts =>
      simp only [mainStep] at hstep
      split at hstep
      · rename_i hphase
        obtain rfl := Option.some.inj hstep
        rcases startReceiver_cases platform s threadStarts with
          hfailed | ⟨hwindow, hworker, hstarted⟩
        · rw [hfailed]
          exact .unstarted hphase
        · rw [hstarted]
          exact .started hphase hwindow hworker
      · cases hstep
  | dispatch timerStarts =>
      simp only [mainStep] at hstep
      split at hstep
      · rename_i hphase
        split at hstep
        · cases hstep
        rename_i message rest hqueue
        obtain rfl := Option.some.inj hstep
        cases message with
        | runtimeEvent block report => exact .event hphase hqueue
        | runtimeDone result =>
            unfold windowProc
            dsimp only
            rw [closeWorker_eq]
            split
            · split
              · exact .done hphase hqueue ⟨rfl, rfl, rfl, rfl, rfl, rfl, rfl, rfl, rfl⟩ rfl
                  (.inl ⟨rfl, rfl⟩)
              · exact .done hphase hqueue ⟨rfl, rfl, rfl, rfl, rfl, rfl, rfl, rfl, rfl⟩ rfl
                  (.inr ⟨rfl, rfl⟩)
            · exact .done hphase hqueue ⟨rfl, rfl, rfl, rfl, rfl, rfl, rfl, rfl, rfl⟩ rfl
                (.inr ⟨rfl, rfl⟩)
      · cases hstep
  | timerElapses =>
      simp only [mainStep] at hstep
      split at hstep
      · rename_i hphase
        obtain rfl := Option.some.inj hstep
        exact .elapsed hphase.1
      · cases hstep
  | dispatchTimer elapsesAgain given threadStarts =>
      simp only [mainStep] at hstep
      split at hstep
      · rename_i hphase
        obtain rfl := Option.some.inj hstep
        unfold windowTimer
        dsimp only
        generalize hready : ({ s with
          timerArmed := false
          timerElapsed := elapsesAgain && s.timerArmed } : Program σ τ ι) = ready
        rcases startNextSession_cases platform ready given threadStarts with
          ⟨hworker, hbusy⟩ | ⟨hworker, ⟨app, hblank, hfailed⟩ | ⟨app, hshows, hwindow, hstarted⟩⟩
        · rw [hbusy]
          subst hready
          exact .busy hphase.1 hworker
        · rw [hfailed]
          subst hready
          exact .unrestarted hphase.1 hworker ⟨hblank.window, hblank.worker, hblank.receivedBytes,
            hblank.totalBytes, hblank.qrValid⟩ rfl
        · rw [hstarted]
          subst hready
          exact .restarted hphase.1 hworker hshows hwindow
      · cases hstep
  | destroy =>
      simp only [mainStep] at hstep
      split at hstep
      · rename_i hphase
        obtain rfl := Option.some.inj hstep
        unfold windowDestroy
        rw [closeWorker_eq]
        exact .destroyed hphase
      · cases hstep
  | worker => cases hstep

private theorem workerStep_cases {thread : ℕ} {worker : Worker σ τ ι}
    {action : WorkerAction σ τ ι} (hworker : s.threads[thread]? = some worker)
    (hstep : s.workerStep platform thread worker action = some t) : Step platform s t := by
  cases action with
  | answer answer =>
      simp only [workerStep] at hstep
      split at hstep
      · rename_i hphase
        obtain rfl := Option.some.inj hstep
        exact .answered answer hworker hphase
      · cases hstep
  | setUp resources =>
      simp only [workerStep] at hstep
      split at hstep
      · rename_i hphase
        obtain rfl := Option.some.inj hstep
        exact .returned hworker hphase
      · rename_i hphase
        obtain rfl := Option.some.inj hstep
        exact .connected resources hworker hphase
      · cases hstep
  | pass =>
      simp only [workerStep] at hstep
      split at hstep
      · rename_i hphase hloop
        split at hstep
        · rename_i hposted
          obtain rfl := Option.some.inj hstep
          exact .passed hworker hphase hloop hposted
        · cases hstep
      · cases hstep
  | post allocates posts =>
      simp only [workerStep] at hstep
      split at hstep
      · cases hstep
      rename_i report hreport
      obtain rfl := Option.some.inj hstep
      unfold postRuntimeEvent
      split
      · exact .dropped hworker hreport
      split
      · exact .dropped hworker hreport
      unfold postMessage
      dsimp only
      split
      · rename_i hposts
        have halive : s.phase ≠ .destroyed := by
          intro hphase
          simp [setThread, hphase] at hposts
        exact .queued hworker hreport halive
      · exact .freed hworker hreport
  | cleanUp =>
      simp only [workerStep] at hstep
      split at hstep
      · rename_i result closes hphase
        split at hstep
        · rename_i hposted
          obtain rfl := Option.some.inj hstep
          have hcleaned : Step platform s _ := .cleaned hworker hphase hposted
          cases closes with
          | true => exact hcleaned
          | false => exact hcleaned
        · cases hstep
      · cases hstep
  | postDone posts =>
      simp only [workerStep] at hstep
      split at hstep
      · rename_i hphase
        obtain rfl := Option.some.inj hstep
        split
        · unfold postMessage
          split
          · rename_i hposts
            have halive : s.phase ≠ .destroyed := by
              intro hphase
              simp [setThread, hphase] at hposts
            exact .reported hworker hphase halive
          · exact .unreported hworker hphase
        · exact .unreported hworker hphase
      · cases hstep
  | leave =>
      simp only [workerStep] at hstep
      split at hstep
      · rename_i hphase
        obtain rfl := Option.some.inj hstep
        exact .left hworker hphase
      · cases hstep

/-- **Step lemma.** Every step is one of the list. -/
theorem step_cases {action : ProgramAction σ τ ι} (hstep : s.step platform action = some t) :
    Step platform s t := by
  cases action with
  | worker thread action =>
      simp only [step] at hstep
      split at hstep
      · cases hstep
      · rename_i worker hworker
        exact workerStep_cases hworker hstep
  | prepare | createWindow | startReceiver | dispatch | timerElapses | dispatchTimer | destroy =>
      simp only [step] at hstep
      exact mainStep_cases hstep

end Program

/-- A step of the program that is one of a thread. -/
inductive Worker.Step (platform : ProgramPlatform σ τ ι) (worker : Worker σ τ ι) :
    Worker σ τ ι → Prop
  | answered {call : RelayCall} {next : RelayAnswer → RelayProgram SetUp} (answer : RelayAnswer)
    (hphase : worker.phase = .calling (.ask call next)) :
    Step platform worker { worker with
      phase := .calling (next answer)
      calls := worker.calls ++ [(call, answer)] }
  | returned {result : Win32ReceiverRuntimeResult} {closes : Bool}
    (hphase : worker.phase = .calling (.done (.returned result closes))) :
    Step platform worker { worker with phase := .returning result closes }
  | connected (resources : LoopResources σ τ ι)
    (hphase : worker.phase = .calling (.done .connected)) :
    Step platform worker { worker with
      phase := .looping
      loop := some (receiverLoopStart platform.loopOps
        (.fresh (.fresh worker.jobsRoot (resources.sink, []) resources.sha256 resources.entropy)
          (resources.link, []))) }
  | passed {loop : WorkerLoop σ τ ι} (hphase : worker.phase = .looping)
    (hloop : worker.loop = some loop) (hposted : worker.posted = loop.reports.length) :
    Step platform worker { worker with
      phase := match (receiverLoopTurn platform.loopOps loop).1 with
        | none => .looping
        | some result => .returning (runtimeResultOfLoop result) true
      loop := some (receiverLoopTurn platform.loopOps loop).2 }
  | posted {report : ReceiverLoopReport} (hreport : worker.reports[worker.posted]? = some report) :
    Step platform worker { worker with posted := worker.posted + 1 }
  | cleaned {result : Win32ReceiverRuntimeResult} {closes : Bool}
    (hphase : worker.phase = .returning result closes) :
    Step platform worker { worker with phase := .posting result }
  | ended {result : Win32ReceiverRuntimeResult} (hphase : worker.phase = .posting result) :
    Step platform worker { worker with phase := .leaving }
  | left (hphase : worker.phase = .leaving) : Step platform worker { worker with phase := .exited }

namespace Program

variable {platform : ProgramPlatform σ τ ι} {s t : Program σ τ ι}

/-- A step of the program leaves its threads, starts one, or is a step of one of them. -/
theorem Step.threads (hstep : Step platform s t) :
    t.threads = s.threads ∨ (∃ app, t.threads = s.threads ++ [.start platform app]) ∨
      ∃ thread before after, s.threads[thread]? = some before ∧
        Worker.Step platform before after ∧
        t.threads = s.threads.modify thread fun _ => after := by
  cases hstep with
  | prepared | unprepared | windowed | unwindowed | unstarted | event | done | elapsed | busy
  | unrestarted | destroyed => exact .inl rfl
  | started => exact .inr (.inl ⟨_, rfl⟩)
  | restarted => exact .inr (.inl ⟨_, rfl⟩)
  | answered answer hworker hphase =>
      exact .inr (.inr ⟨_, _, _, hworker, .answered answer hphase, rfl⟩)
  | returned hworker hphase => exact .inr (.inr ⟨_, _, _, hworker, .returned hphase, rfl⟩)
  | connected resources hworker hphase =>
      exact .inr (.inr ⟨_, _, _, hworker, .connected resources hphase, rfl⟩)
  | passed hworker hphase hloop hposted =>
      exact .inr (.inr ⟨_, _, _, hworker, .passed hphase hloop hposted, rfl⟩)
  | dropped hworker hreport | freed hworker hreport | queued hworker hreport =>
      exact .inr (.inr ⟨_, _, _, hworker, .posted hreport, rfl⟩)
  | cleaned hworker hphase => exact .inr (.inr ⟨_, _, _, hworker, .cleaned hphase, rfl⟩)
  | unreported hworker hphase | reported hworker hphase =>
      exact .inr (.inr ⟨_, _, _, hworker, .ended hphase, rfl⟩)
  | left hworker hphase => exact .inr (.inr ⟨_, _, _, hworker, .left hphase, rfl⟩)

/-- What every thread starts with and keeps is true of all threads in every run. -/
theorem forall_threads {P : Worker σ τ ι → Prop} (hstart : ∀ app, P (.start platform app))
    (hkept : ∀ {before after}, P before → Worker.Step platform before after → P after)
    (hreachable : (system platform).Reachable s) {thread : ℕ} {worker : Worker σ τ ι}
    (hthread : s.threads[thread]? = some worker) : P worker := by
  have hall : ∀ (thread : ℕ) worker, s.threads[thread]? = some worker → P worker := by
    apply hreachable.invariant (P := fun s => ∀ (thread : ℕ) worker,
      s.threads[thread]? = some worker → P worker)
    · intro thread worker hthread
      simp [system, start] at hthread
    intro s t action _ hs _ hstep thread worker hthread
    rcases (step_cases hstep).threads with hsame | ⟨app, hstarted⟩ |
      ⟨moved, before, after, hbefore, hmoved, hmodified⟩
    · rw [hsame] at hthread
      exact hs _ _ hthread
    · rw [hstarted] at hthread
      rcases getElem?_concat_eq_some.mp hthread with hthread | ⟨-, rfl⟩
      · exact hs _ _ hthread
      · exact hstart app
    · rw [hmodified] at hthread
      obtain ⟨old, hold, hsame⟩ := getElem?_modify_eq_some.mp hthread
      subst hsame
      by_cases heq : moved = thread
      · rw [if_pos heq]
        exact hkept (hs _ _ hbefore) hmoved
      · rw [if_neg heq]
        exact hs _ _ hold
  exact hall thread worker hthread

end Program

end PrintDrop.Desktop
