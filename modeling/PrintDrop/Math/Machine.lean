/-
# Deterministic machines

A machine reads one input after the other and has an output for each. Where a relation
between the states of two machines gives equal outputs and is kept by every input, the
machines cannot be told apart: their outputs are equal on all inputs.
-/

import Mathlib.Data.List.Basic

namespace PrintDrop.Math

universe u v w x

/-- A deterministic machine with an output for every input. -/
structure Machine (State : Type u) (Input : Type v) (Output : Type w) where
  step : State → Input → Output × State

namespace Machine

variable {State : Type u} {Input : Type v} {Output : Type w} {Abstract : Type x}

/-- The outputs for a list of inputs. -/
def trace (M : Machine State Input Output) : State → List Input → List Output
  | _, [] => []
  | state, input :: rest => (M.step state input).1 :: M.trace (M.step state input).2 rest

/-- The state after a list of inputs. -/
def after (M : Machine State Input Output) : State → List Input → State
  | state, [] => state
  | state, input :: rest => M.after (M.step state input).2 rest

variable {M : Machine State Input Output} {N : Machine Abstract Input Output}

/-- The invariant rule. -/
theorem after_invariant {P : State → Prop}
    (hstep : ∀ {state : State} (input : Input), P state → P (M.step state input).2) :
    ∀ (inputs : List Input) {state : State}, P state → P (M.after state inputs) := by
  intro inputs
  induction inputs with
  | nil =>
      intro state hstate
      exact hstate
  | cons input rest ih =>
      intro state hstate
      exact ih (hstep input hstate)

/-- The invariant rule for outputs. -/
theorem trace_invariant {P : State → Prop} {Q : Output → Prop}
    (hstep : ∀ {state : State} (input : Input), P state →
      Q (M.step state input).1 ∧ P (M.step state input).2) :
    ∀ (inputs : List Input) {state : State}, P state →
      ∀ output ∈ M.trace state inputs, Q output := by
  intro inputs
  induction inputs with
  | nil =>
      intro state _ output houtput
      exact absurd houtput List.not_mem_nil
  | cons input rest ih =>
      intro state hstate output houtput
      obtain ⟨hfirst, hnext⟩ := hstep input hstate
      rcases List.mem_cons.mp houtput with rfl | houtput
      · exact hfirst
      · exact ih hnext output houtput

/-- `M` does what `N` does, as far as its outputs tell. -/
structure Simulates (M : Machine State Input Output) (N : Machine Abstract Input Output)
    (R : State → Abstract → Prop) : Prop where
  step : ∀ {state : State} {abstract : Abstract} (input : Input), R state abstract →
    (M.step state input).1 = (N.step abstract input).1 ∧
      R (M.step state input).2 (N.step abstract input).2

variable {R : State → Abstract → Prop}

theorem Simulates.trace_eq (hsimulates : M.Simulates N R) :
    ∀ (inputs : List Input) {state : State} {abstract : Abstract}, R state abstract →
      M.trace state inputs = N.trace abstract inputs := by
  intro inputs
  induction inputs with
  | nil =>
      intro state abstract _
      rfl
  | cons input rest ih =>
      intro state abstract hrelated
      obtain ⟨houtput, hnext⟩ := hsimulates.step input hrelated
      rw [trace, trace, houtput, ih hnext]

end Machine

end PrintDrop.Math
