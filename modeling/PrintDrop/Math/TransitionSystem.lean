/-
# Runs of labelled transition systems

A system is an initial state and, for each action, a partial step. The
environment picks the actions, so every interleaving and every pattern of
failures of a program is a run of its system.

Safety is proved once, by the invariant rule for runs whose steps all meet a
condition; an unconditional safety property is the case of the trivial
condition. Progress is the inductive predicate `Inevitable`: whichever enabled
action is taken, and for as long as the goal has not been met some action is
enabled, the run comes to the goal after finitely many steps.
-/

import Mathlib.Data.List.Induction
import Mathlib.Order.Basic

namespace PrintDrop.Math

universe u v w x

/-- A labelled transition system with a deterministic partial step per action. -/
structure TransitionSystem (State : Type u) (Action : Type v) where
  /-- The state every run starts in. -/
  init : State
  /-- The state after an action, or `none` where the action is not enabled. -/
  step : State → Action → Option State

namespace TransitionSystem

variable {State : Type u} {Action : Type v} (T : TransitionSystem State Action)

/-- The state after a list of actions, where every one of them was enabled. -/
def run : State → List Action → Option State
  | state, [] => some state
  | state, action :: rest => (T.step state action).bind fun next => run next rest

@[simp]
theorem run_nil (state : State) : T.run state [] = some state := rfl

@[simp]
theorem run_cons (state : State) (action : Action) (rest : List Action) :
    T.run state (action :: rest) =
      (T.step state action).bind fun next => T.run next rest := rfl

/-- The states of the runs in which every step meets `allowed` before it is taken. -/
inductive RunWithin (allowed : State → Action → Prop) : State → Prop
  | /-- The empty run. -/
    init : RunWithin allowed T.init
  | /-- One more allowed, enabled step. -/
    step {state target : State} {action : Action} (prior : RunWithin allowed state)
      (hallowed : allowed state action) (hstep : T.step state action = some target) :
      RunWithin allowed target

/-- The states of all runs. -/
abbrev Reachable (state : State) : Prop := T.RunWithin (fun _ _ => True) state

variable {T}

/-- The invariant rule. The step may use that its source is the end of a run. -/
theorem RunWithin.invariant {allowed : State → Action → Prop} {P : State → Prop}
    (hinit : P T.init)
    (hstep : ∀ {state target : State} {action : Action},
      T.RunWithin allowed state → P state → allowed state action →
        T.step state action = some target → P target)
    {state : State} (hrun : T.RunWithin allowed state) : P state := by
  induction hrun with
  | init => exact hinit
  | step prior hallowed hstep' ih => exact hstep prior ih hallowed hstep'

/-- A run within a condition is a run. -/
theorem RunWithin.reachable {allowed : State → Action → Prop} {state : State}
    (hrun : T.RunWithin allowed state) : T.Reachable state :=
  hrun.invariant .init fun _ hprior _ hstep => .step hprior trivial hstep

/-- Executing a list of actions from a reachable state leads to a reachable state. -/
theorem Reachable.run {source : State} (hsource : T.Reachable source) :
    ∀ (actions : List Action) {target : State},
      T.run source actions = some target → T.Reachable target := by
  intro actions
  induction actions generalizing source with
  | nil =>
      intro target hrun
      obtain rfl : source = target := by simpa using hrun
      exact hsource
  | cons action rest ih =>
      intro target hrun
      obtain ⟨next, hnext, hrest⟩ := Option.bind_eq_some_iff.mp hrun
      exact ih (.step hsource trivial hnext) hrest

/-- What an executed list of actions ends in is reachable. -/
theorem reachable_of_run (actions : List Action) {target : State}
    (hrun : T.run T.init actions = some target) : T.Reachable target :=
  Reachable.run .init actions hrun

/-- A run that is executed as far as its actions are enabled together comes to a reachable
state; otherwise it is not begun. -/
theorem reachable_getD_run (actions : List Action) :
    T.Reachable ((T.run T.init actions).getD T.init) := by
  cases hrun : T.run T.init actions with
  | none => exact .init
  | some target => exact reachable_of_run actions hrun

/-- A property that holds before every step behind which it holds, holds all along a run that
ends with it. -/
theorem RunWithin.of_backward {P : State → Prop}
    (hback : ∀ {state target : State} {action : Action},
      T.Reachable state → T.step state action = some target → P target → P state)
    {state : State} (hrun : T.Reachable state) (hstate : P state) :
    T.RunWithin (fun state _ => P state) state := by
  induction hrun with
  | init => exact .init
  | step prior _ htaken ih =>
      have hbefore := hback prior htaken hstate
      exact .step (ih hbefore) hbefore htaken

theorem run_append (state : State) (actions more : List Action) :
    T.run state (actions ++ more) = (T.run state actions).bind fun next => T.run next more := by
  induction actions generalizing state with
  | nil => rfl
  | cons action rest ih =>
      rw [List.cons_append, run_cons, run_cons, Option.bind_assoc]
      exact Option.bind_congr fun next _ => ih next

/-- The invariant rule for what relates the actions of a run to the state it ends in. -/
theorem run_invariant {P : List Action → State → Prop} (hinit : P [] T.init)
    (hstep : ∀ {actions : List Action} {state target : State} {action : Action},
      T.run T.init actions = some state → P actions state → T.step state action = some target →
        P (actions ++ [action]) target)
    (actions : List Action) {state : State} (hrun : T.run T.init actions = some state) :
    P actions state := by
  induction actions using List.reverseRecOn generalizing state with
  | nil =>
      obtain rfl : T.init = state := by simpa using hrun
      exact hinit
  | append_singleton actions action ih =>
      rw [run_append] at hrun
      obtain ⟨before, hbefore, hlast⟩ := Option.bind_eq_some_iff.mp hrun
      rw [run_cons] at hlast
      obtain ⟨target, htarget, hsame⟩ := Option.bind_eq_some_iff.mp hlast
      obtain rfl := Option.some.inj hsame
      exact hstep hbefore (ih hbefore) htarget

/-- The simulation rule: where every step shows as a step of another system, or does not show
at all, what every run shows is a run of that system. -/
theorem RunWithin.simulates {Abstract : Type w} {Label : Type x}
    {U : TransitionSystem Abstract Label} {allowed : State → Action → Prop}
    {view : State → Abstract} (hinit : view T.init = U.init)
    (hstep : ∀ {state target : State} {action : Action},
      T.RunWithin allowed state → allowed state action → T.step state action = some target →
        view target = view state ∨
          ∃ label, U.step (view state) label = some (view target))
    {state : State} (hrun : T.RunWithin allowed state) : U.Reachable (view state) := by
  induction hrun with
  | init =>
      rw [hinit]
      exact .init
  | step prior hallowed htaken ih =>
      rcases hstep prior hallowed htaken with hstutters | ⟨label, hshows⟩
      · rw [hstutters]
        exact ih
      · exact .step ih trivial hshows

/-- Every run of allowed steps from a state comes to the goal, and is not stuck before. -/
inductive Inevitable (T : TransitionSystem State Action) (allowed : State → Action → Prop)
    (goal : State → Prop) : State → Prop
  | done {state : State} (hgoal : goal state) : Inevitable T allowed goal state
  | step {state : State}
      (henabled : ∃ action target, allowed state action ∧ T.step state action = some target)
      (hall : ∀ action target, allowed state action → T.step state action = some target →
        Inevitable T allowed goal target) : Inevitable T allowed goal state

/-- The progress rule: an invariant under which some step is enabled until the goal is met,
and every step makes a measure smaller. -/
theorem Inevitable.of_measure {allowed : State → Action → Prop} {goal P : State → Prop}
    (measure : State → ℕ)
    (henabled : ∀ {state}, P state → goal state ∨
      ∃ action target, allowed state action ∧ T.step state action = some target)
    (hstep : ∀ {state target action}, P state → allowed state action →
      T.step state action = some target → P target ∧ measure target < measure state)
    {state : State} (hstate : P state) : T.Inevitable allowed goal state := by
  induction hmeasure : measure state using Nat.strongRecOn generalizing state with
  | ind bound ih =>
      rcases henabled hstate with hgoal | hsome
      · exact .done hgoal
      · refine .step hsome fun action target hallowed htaken => ?_
        obtain ⟨htarget, hlt⟩ := hstep hstate hallowed htaken
        exact ih _ (hmeasure ▸ hlt) htarget rfl

/-- The rule of progress amid other actions: where helpful steps make a measure smaller and the
others do not make it larger, a run has no more helpful steps than the measure says. -/
theorem countP_add_measure_le {P : State → Prop} {allowed : Action → Prop}
    {helpful : Action → Bool} (measure : State → ℕ)
    (hstep : ∀ {state target : State} {action : Action}, P state → allowed action →
      T.step state action = some target → P target ∧ measure target ≤ measure state ∧
        (helpful action = true → measure target < measure state)) (actions : List Action) :
    ∀ {state target : State}, P state → (∀ action ∈ actions, allowed action) →
      T.run state actions = some target →
        P target ∧ actions.countP helpful + measure target ≤ measure state := by
  induction actions with
  | nil =>
      intro state target hstate _ hrun
      obtain rfl : state = target := by simpa using hrun
      exact ⟨hstate, by simp⟩
  | cons action rest ih =>
      intro state target hstate hallowed hrun
      obtain ⟨next, hnext, hrest⟩ := Option.bind_eq_some_iff.mp hrun
      obtain ⟨hP, hle, hless⟩ := hstep hstate (hallowed action List.mem_cons_self) hnext
      obtain ⟨htarget, hcount⟩ :=
        ih hP (fun other hother => hallowed other (List.mem_cons_of_mem _ hother)) hrest
      refine ⟨htarget, ?_⟩
      cases hhelpful : helpful action with
      | true =>
          have hlt := hless hhelpful
          rw [List.countP_cons_of_pos hhelpful]
          omega
      | false =>
          rw [List.countP_cons_of_neg (by simp [hhelpful])]
          omega

/-- The state after a list of actions that were all enabled and allowed. -/
def runWhile (T : TransitionSystem State Action) (allowed : State → Action → Prop)
    [∀ state action, Decidable (allowed state action)] : State → List Action → Option State
  | state, [] => some state
  | state, action :: rest =>
      if allowed state action then
        (T.step state action).bind fun next => runWhile T allowed next rest
      else none

/-- An executed list of allowed actions is a run within the condition. -/
theorem RunWithin.runWhile {allowed : State → Action → Prop}
    [∀ state action, Decidable (allowed state action)] {source : State}
    (hsource : T.RunWithin allowed source) :
    ∀ (actions : List Action) {target : State},
      T.runWhile allowed source actions = some target → T.RunWithin allowed target := by
  intro actions
  induction actions generalizing source with
  | nil =>
      intro target hrun
      obtain rfl : source = target := by simpa [TransitionSystem.runWhile] using hrun
      exact hsource
  | cons action rest ih =>
      intro target hrun
      rw [TransitionSystem.runWhile] at hrun
      split at hrun
      case isTrue hallowed =>
        obtain ⟨next, hnext, hrest⟩ := Option.bind_eq_some_iff.mp hrun
        exact ih (.step hsource hallowed hnext) hrest
      case isFalse => exact absurd hrun (by simp)

end TransitionSystem

end PrintDrop.Math
