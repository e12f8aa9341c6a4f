/-
# The program with the window

`win32_main.c`: the main thread prepares a session, opens a window, starts a receiver thread
and then handles what is posted to the window; the threads run beside it. The system takes
one step at a time, of either side, and every call of Windows may fail.

A message that is posted carries the block of the heap that it was put into. The window's
timer may have elapsed again by the time its first message stops it, as its messages are not
taken back. When the window is destroyed, what is posted to it is thrown away. Messages from
other programs are left out, and so are the steps of the process after `WM_QUIT`.
-/

import PrintDrop.Desktop.Worker
import PrintDrop.Math.SharedState
import PrintDrop.Math.TransitionSystem
import PrintDrop.Receiver.EventStream

namespace PrintDrop.Desktop

open Math

universe u v w

/-- `PD_WM_RUNTIME_EVENT` and `PD_WM_RUNTIME_DONE`. -/
inductive WindowMessage
  | runtimeEvent (block : ℕ) (report : ReceiverLoopReport)
  | runtimeDone (result : Win32ReceiverRuntimeResult)
  deriving DecidableEq

/-- Where a thread is: between two calls that set up the session, in its loop, before
`cleanup_session`, before the message at its end, before its return, or gone. -/
inductive WorkerPhase
  | calling (program : RelayProgram SetUp)
  | looping
  | returning (result : Win32ReceiverRuntimeResult) (closes : Bool)
  | posting (result : Win32ReceiverRuntimeResult)
  | leaving
  | exited

/-- The loop of a thread, with the record of the calls of its sink and of its link. -/
abbrev WorkerLoop (σ : Type u) (τ : Type v) (ι : Type w) :=
  ReceiverLoop (Win32ReceiveHandler (σ × List SinkCall) τ) (ι × List LinkCall)

/-- A receiver thread: what it was started with, what it has called, its loop, and how many
of the loop's reports it has been through with. -/
structure Worker (σ : Type u) (τ : Type v) (ι : Type w) where
  phase : WorkerPhase
  relayBase : CString
  session : ReceiverSession
  jobsRoot : WideString
  calls : List (RelayCall × RelayAnswer)
  loop : Option (WorkerLoop σ τ ι)
  posted : ℕ

/-- Where `wWinMain` is. The window is destroyed only in its message loop. -/
inductive MainPhase
  | starting
  | prepared
  | windowed
  | running
  | destroyed
  | exited (code : ℕ)
  deriving DecidableEq

/-- Why the program gives a session up: its thread has come to an error, or the timer, the
first receiver or the next session could not be started. -/
inductive GiveUp
  | runtime (result : Win32ReceiverRuntimeResult) (herror : result ≠ .ok)
  | timer
  | receiver
  | nextSession

/-- The program. `freed` and `discarded` are what was freed, and what was thrown away with
the window; `delivered` are the reports that the window was given since a session was last
prepared, and `givenUp` says why the program has given up since the last of them, if it has. -/
structure Program (σ : Type u) (τ : Type v) (ι : Type w) where
  phase : MainPhase
  app : App
  threads : List (Worker σ τ ι)
  closed : List ℕ
  queue : List WindowMessage
  timerArmed : Bool
  timerElapsed : Bool
  allocated : ℕ
  freed : List ℕ
  discarded : List WindowMessage
  delivered : List ReceiverLoopReport
  givenUp : Option GiveUp

/-- What the program is run over. -/
structure ProgramPlatform (σ : Type u) (τ : Type v) (ι : Type w) where
  ui : UiPlatform
  insecure : Option CString
  receive : ReceivePlatform σ τ
  io : ReceiverLoopIoOps ι

/-- What a loop is started on: the sink, the hash, the draws and the link. -/
structure LoopResources (σ : Type u) (τ : Type v) (ι : Type w) where
  sink : σ
  sha256 : τ
  entropy : List RandomDraw
  link : ι

inductive WorkerAction (σ : Type u) (τ : Type v) (ι : Type w)
  | answer (answer : RelayAnswer)
  | setUp (resources : LoopResources σ τ ι)
  | pass
  | post (allocates posts : Bool)
  | cleanUp
  | postDone (posts : Bool)
  | leave

inductive ProgramAction (σ : Type u) (τ : Type v) (ι : Type w)
  | prepare (given : Preparation)
  | createWindow (succeeds : Bool)
  | startReceiver (threadStarts : Bool)
  | dispatch (timerStarts : Bool)
  | timerElapses
  | dispatchTimer (elapsesAgain : Bool) (given : Preparation) (threadStarts : Bool)
  | destroy
  | worker (thread : ℕ) (action : WorkerAction σ τ ι)

variable {σ : Type u} {τ : Type v} {ι : Type w}

/-- The functions of a thread's loop. -/
def ProgramPlatform.loopOps (platform : ProgramPlatform σ τ ι) :
    ReceiverLoopOps (Win32ReceiveHandler (σ × List SinkCall) τ) (ι × List LinkCall) :=
  (runtimeLoopOps platform.receive.recorded platform.io).recordedLink

/-- A thread that has just been started. -/
def Worker.start (platform : ProgramPlatform σ τ ι) (app : App) : Worker σ τ ι where
  phase := .calling (sessionSetUp platform.insecure app.relayBase app.session app.jobsRoot)
  relayBase := app.relayBase
  session := app.session
  jobsRoot := app.jobsRoot
  calls := []
  loop := none
  posted := 0

/-- What the loop of a thread has reported. -/
def Worker.reports (worker : Worker σ τ ι) : List ReceiverLoopReport :=
  (worker.loop.map ReceiverLoop.reports).getD []

/-! ## The main thread -/

/-- `pd_apply_runtime_event`. -/
def applyRuntimeEvent (app : App) (message : ReceiverLoopReport) : App :=
  let app := { app with
    receivedBytes := message.receivedBytes
    totalBytes := message.totalBytes }
  match message.event with
  | .ready => { app with state := .ready }
  | .fileStarted => { app with state := .receiving }
  | .progress => { app with state := .receiving }
  | .verifying => { app with state := .verifying }
  | .complete => { app with state := .complete }
  | .failed => { app with state := .failed }

namespace Program

/-- `pd_start_receiver`. -/
def startReceiver (platform : ProgramPlatform σ τ ι) (s : Program σ τ ι) (threadStarts : Bool) :
    Bool × Program σ τ ι :=
  if !s.app.window || s.app.worker.isSome then (false, s)
  else if !threadStarts then (false, s)
  else
    (true, { s with
      app := { s.app with worker := some s.threads.length }
      threads := s.threads ++ [.start platform s.app] })

/-- `pd_prepare_session`: nothing has been delivered of the new session. -/
def prepareSession (platform : ProgramPlatform σ τ ι) (s : Program σ τ ι) (given : Preparation) :
    Bool × Program σ τ ι :=
  let prepared := Desktop.prepareSession platform.ui s.app given
  (prepared.1, { s with app := prepared.2, delivered := [], givenUp := none })

/-- `pd_start_next_session`. -/
def startNextSession (platform : ProgramPlatform σ τ ι) (s : Program σ τ ι) (given : Preparation)
    (threadStarts : Bool) : Bool × Program σ τ ι :=
  if s.app.worker.isSome then (false, s)
  else
    let prepared := s.prepareSession platform given
    if !prepared.1 then (false, prepared.2)
    else
      let started := prepared.2.startReceiver platform threadStarts
      if !started.1 then
        (false, { started.2 with app := { started.2.app.closeSession with qrValid := false } })
      else (true, started.2)

/-- Something could not be started. -/
def notStarted (s : Program σ τ ι) (reason : GiveUp) : Program σ τ ι :=
  { s with
    app := { s.app with runtimeResult := .relayError, state := .failed }
    givenUp := some reason }

/-- The handle of the thread is closed, if there is one. -/
def closeWorker (s : Program σ τ ι) : Program σ τ ι :=
  match s.app.worker with
  | none => s
  | some handle => { s with app := { s.app with worker := none }, closed := s.closed ++ [handle] }

/-- `pd_window_proc`, for a message of a receiver thread. -/
def windowProc (s : Program σ τ ι) (timerStarts : Bool) : WindowMessage → Program σ τ ι
  | .runtimeEvent block report =>
    { s with
      app := applyRuntimeEvent s.app report
      delivered := s.delivered ++ [report]
      givenUp := none
      freed := s.freed ++ [block] }
  | .runtimeDone result =>
    let s := { s with app := { s.app with runtimeResult := result } }.closeWorker
    if hresult : result = .ok then
      if timerStarts then { s with timerArmed := true } else s.notStarted .timer
    else
      { s with app := { s.app with state := .failed }, givenUp := some (.runtime result hresult) }

/-- `pd_window_proc`, for `WM_TIMER`. -/
def windowTimer (platform : ProgramPlatform σ τ ι) (s : Program σ τ ι) (elapsesAgain : Bool)
    (given : Preparation) (threadStarts : Bool) : Program σ τ ι :=
  let s := { s with timerArmed := false, timerElapsed := elapsesAgain && s.timerArmed }
  let started := s.startNextSession platform given threadStarts
  if !started.1 then started.2.notStarted .nextSession else started.2

/-- `pd_window_proc`, for `WM_DESTROY`. -/
def windowDestroy (s : Program σ τ ι) : Program σ τ ι :=
  { s.closeWorker with
    phase := .destroyed
    timerArmed := false
    timerElapsed := false
    queue := []
    discarded := s.queue }

/-- A step of the main thread. -/
def mainStep (platform : ProgramPlatform σ τ ι) (s : Program σ τ ι) :
    ProgramAction σ τ ι → Option (Program σ τ ι)
  | .prepare given =>
    if s.phase = .starting then
      let prepared := s.prepareSession platform given
      some { prepared.2 with phase := if prepared.1 then .prepared else .exited 1 }
    else none
  | .createWindow succeeds =>
    if s.phase = .prepared then
      if succeeds then some { s with phase := .windowed, app := { s.app with window := true } }
      else some { s with phase := .exited 1, app := s.app.closeSession }
    else none
  | .startReceiver threadStarts =>
    if s.phase = .windowed then
      let started := s.startReceiver platform threadStarts
      let s := if !started.1 then started.2.notStarted .receiver else started.2
      some { s with phase := .running }
    else none
  | .dispatch timerStarts =>
    if s.phase = .running then
      match s.queue with
      | [] => none
      | message :: rest => some ({ s with queue := rest }.windowProc timerStarts message)
    else none
  | .timerElapses =>
    if s.phase = .running ∧ s.timerArmed then some { s with timerElapsed := true } else none
  | .dispatchTimer elapsesAgain given threadStarts =>
    if s.phase = .running ∧ s.timerElapsed then
      some (s.windowTimer platform elapsesAgain given threadStarts)
    else none
  | .destroy => if s.phase = .running then some s.windowDestroy else none
  | .worker _ _ => none

/-! ## The receiver threads -/

/-- A message is posted, which fails once there is no window any more. -/
def postMessage (s : Program σ τ ι) (posts : Bool) (message : WindowMessage) :
    Bool × Program σ τ ι :=
  if posts && s.phase != .destroyed then (true, { s with queue := s.queue ++ [message] })
  else (false, s)

/-- `pd_post_runtime_event`. -/
def postRuntimeEvent (s : Program σ τ ι) (allocates posts : Bool) (report : ReceiverLoopReport) :
    Program σ τ ι :=
  if !s.app.window then s
  else if !allocates then s
  else
    let block := s.allocated
    let posted := { s with allocated := block + 1 }.postMessage posts (.runtimeEvent block report)
    if !posted.1 then { posted.2 with freed := posted.2.freed ++ [block] } else posted.2

/-- The state of a thread is changed. -/
def setThread (s : Program σ τ ι) (thread : ℕ) (worker : Worker σ τ ι) : Program σ τ ι :=
  { s with threads := s.threads.modify thread fun _ => worker }

/-- A step of a thread. -/
def workerStep (platform : ProgramPlatform σ τ ι) (s : Program σ τ ι) (thread : ℕ)
    (worker : Worker σ τ ι) : WorkerAction σ τ ι → Option (Program σ τ ι)
  | .answer answer =>
    match worker.phase with
    | .calling (.ask call next) =>
      some (s.setThread thread { worker with
        phase := .calling (next answer)
        calls := worker.calls ++ [(call, answer)] })
    | _ => none
  | .setUp resources =>
    match worker.phase with
    | .calling (.done (.returned result closes)) =>
      some (s.setThread thread { worker with phase := .returning result closes })
    | .calling (.done .connected) =>
      some (s.setThread thread { worker with
        phase := .looping
        loop := some (receiverLoopStart platform.loopOps
          (.fresh (.fresh worker.jobsRoot (resources.sink, []) resources.sha256 resources.entropy)
            (resources.link, []))) })
    | _ => none
  | .pass =>
    match worker.phase, worker.loop with
    | .looping, some loop =>
      if worker.posted = loop.reports.length then
        let turned := receiverLoopTurn platform.loopOps loop
        some (s.setThread thread { worker with
          phase := match turned.1 with
            | none => .looping
            | some result => .returning (runtimeResultOfLoop result) true
          loop := some turned.2 })
      else none
    | _, _ => none
  | .post allocates posts =>
    match worker.reports[worker.posted]? with
    | none => none
    | some report =>
      some ((s.setThread thread { worker with posted := worker.posted + 1 }).postRuntimeEvent
        allocates posts report)
  | .cleanUp =>
    match worker.phase with
    | .returning result closes =>
      if worker.posted = worker.reports.length then
        let s := s.setThread thread { worker with phase := .posting result }
        some (if closes then { s with app := s.app.closeSession } else s)
      else none
    | _ => none
  | .postDone posts =>
    match worker.phase with
    | .posting result =>
      let s := s.setThread thread { worker with phase := .leaving }
      some (if s.app.window then (s.postMessage posts (.runtimeDone result)).2 else s)
    | _ => none
  | .leave =>
    match worker.phase with
    | .leaving => some (s.setThread thread { worker with phase := .exited })
    | _ => none

/-- A step of the program. -/
def step (platform : ProgramPlatform σ τ ι) (s : Program σ τ ι) :
    ProgramAction σ τ ι → Option (Program σ τ ι)
  | .worker thread action =>
    match s.threads[thread]? with
    | none => none
    | some worker => s.workerStep platform thread worker action
  | action => s.mainStep platform action

/-- The program before it has done anything. -/
def start : Program σ τ ι where
  phase := .starting
  app := .zero
  threads := []
  closed := []
  queue := []
  timerArmed := false
  timerElapsed := false
  allocated := 0
  freed := []
  discarded := []
  delivered := []
  givenUp := none

/-- The runs of the program. -/
def system (platform : ProgramPlatform σ τ ι) :
    TransitionSystem (Program σ τ ι) (ProgramAction σ τ ι) where
  init := start
  step := step platform

end Program

/-- A platform on which nothing fails, over a link that delivers an empty file. -/
def readyPlatform : ProgramPlatform Unit Unit (List (FrameHeader × Buffer) × List Bool) where
  ui := {
    encodeText := fun _ => some ⟨21, fun _ _ => true⟩
    multiByteToWideChar := fun text => some (text.map UInt8.toUInt16) }
  insecure := none
  receive := constantPlatform (Vector.replicate 32 0)
  io := scriptedLink

def readyPreparation : Preparation where
  environment := none
  documents := some [67]
  nowMs := 0
  random := some (Vector.replicate _ 0)

def readyResources : LoopResources Unit Unit (List (FrameHeader × Buffer) × List Bool) where
  sink := ()
  sha256 := ()
  entropy := [some (Vector.replicate _ 0)]
  link := (emptyFileFrames, [true, true])

/-- The program starts, and its relay is connected. -/
def connectingSteps :
    List (ProgramAction Unit Unit (List (FrameHeader × Buffer) × List Bool)) :=
  [.prepare readyPreparation, .createWindow true, .startReceiver true] ++
    List.replicate 31 (.worker 0 (.answer ⟨true, 201⟩)) ++ [.worker 0 (.setUp readyResources)]

/-- The file is received, and each report is shown. -/
def receivingSteps :
    List (ProgramAction Unit Unit (List (FrameHeader × Buffer) × List Bool)) :=
  [.worker 0 (.post true true), .dispatch true, .worker 0 .pass, .worker 0 (.post true true),
    .dispatch true, .worker 0 .pass, .worker 0 (.post true true), .worker 0 (.post true true),
    .dispatch true, .dispatch true]

/-- The next thread is started before the first one has returned. -/
def restartingSteps :
    List (ProgramAction Unit Unit (List (FrameHeader × Buffer) × List Bool)) :=
  [.worker 0 .cleanUp, .worker 0 (.postDone true), .dispatch true, .timerElapses,
    .dispatchTimer false readyPreparation true, .worker 0 .leave]

/-- The program after some steps. -/
def programAfter
    (steps : List (ProgramAction Unit Unit (List (FrameHeader × Buffer) × List Bool))) :
    Program Unit Unit (List (FrameHeader × Buffer) × List Bool) :=
  ((Program.system readyPlatform).run (Program.system readyPlatform).init steps).getD
    (Program.system readyPlatform).init

end PrintDrop.Desktop
