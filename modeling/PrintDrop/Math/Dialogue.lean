/-
# Dialogues

A program that asks its environment questions and goes on by the answers. The environment
may answer as it likes, and by all that it has been asked before. What holds of every
question and of the result on every way through a program holds in every run. A way through
a program composed of others is composed of ways through these.
-/

import Mathlib.Data.List.Basic

namespace PrintDrop.Math

universe u v w x

inductive Dialogue (Question : Type u) (Answer : Type v) (Result : Type w)
  | done (result : Result)
  | ask (question : Question) (next : Answer → Dialogue Question Answer Result)

namespace Dialogue

variable {Question : Type u} {Answer : Type v} {Result Later : Type w}

/-- One program after another. -/
def andThen : Dialogue Question Answer Result → (Result → Dialogue Question Answer Later) →
    Dialogue Question Answer Later
  | .done result, later => later result
  | .ask question next, later => .ask question fun answer => (next answer).andThen later

instance : Monad (Dialogue Question Answer) where
  pure := .done
  bind := andThen

/-- The program that asks one question and returns the answer. -/
def question (question : Question) : Dialogue Question Answer Answer := .ask question .done

/-- A run in an environment, after some questions: all questions asked, and the result. -/
def run (environment : List Question → Question → Answer) :
    List Question → Dialogue Question Answer Result → List Question × Result
  | asked, .done result => (asked, result)
  | asked, .ask question next =>
    run environment (asked ++ [question]) (next (environment asked question))

/-- On every way through the program, the questions and the result are as they should be. -/
def Satisfies (allowed : Question → Prop) (post : Result → Prop) :
    Dialogue Question Answer Result → Prop
  | .done result => post result
  | .ask question next => allowed question ∧ ∀ answer, (next answer).Satisfies allowed post

variable {allowed : Question → Prop} {post : Result → Prop}

theorem satisfies_pure {result : Result} (hpost : post result) :
    (pure result : Dialogue Question Answer Result).Satisfies allowed post := hpost

theorem satisfies_question {asked : Question} (hallowed : allowed asked) :
    (question asked : Dialogue Question Answer Answer).Satisfies allowed fun _ => True :=
  ⟨hallowed, fun _ => trivial⟩

/-- The rule of sequence. -/
theorem Satisfies.bind {program : Dialogue Question Answer Result} {after : Later → Prop}
    {later : Result → Dialogue Question Answer Later} (hprogram : program.Satisfies allowed post)
    (hlater : ∀ result, post result → (later result).Satisfies allowed after) :
    (program >>= later).Satisfies allowed after := by
  induction program with
  | done result => exact hlater result hprogram
  | ask question next ih => exact ⟨hprogram.1, fun answer => ih answer (hprogram.2 answer)⟩

/-- A question, and a program that goes on with any answer. -/
theorem satisfies_ask {Reply : Type w} {asked : Question} {after : Later → Prop}
    {later : Reply → Dialogue Question Reply Later} (hallowed : allowed asked)
    (hlater : ∀ answer, (later answer).Satisfies allowed after) :
    (question asked >>= later).Satisfies allowed after :=
  (satisfies_question hallowed).bind fun answer _ => hlater answer

/-- The rule of consequence. -/
theorem Satisfies.mono {program : Dialogue Question Answer Result}
    {weaker : Question → Prop} {after : Result → Prop} (hprogram : program.Satisfies allowed post)
    (hweaker : ∀ question, allowed question → weaker question)
    (hafter : ∀ result, post result → after result) : program.Satisfies weaker after := by
  induction program with
  | done result => exact hafter result hprogram
  | ask question next ih =>
      exact ⟨hweaker question hprogram.1, fun answer => ih answer (hprogram.2 answer)⟩

/-- What holds on every way holds in every run. -/
theorem Satisfies.run {program : Dialogue Question Answer Result}
    (hprogram : program.Satisfies allowed post)
    (environment : List Question → Question → Answer) (asked : List Question)
    (hasked : ∀ question ∈ asked, allowed question) :
    (∀ question ∈ (program.run environment asked).1, allowed question) ∧
      post (program.run environment asked).2 := by
  induction program generalizing asked with
  | done result => exact ⟨hasked, hprogram⟩
  | ask question next ih =>
      refine ih _ (hprogram.2 _) _ fun other hother => ?_
      rcases List.mem_append.mp hother with hother | hother
      · exact hasked other hother
      · rw [List.mem_singleton.mp hother]
        exact hprogram.1

theorem bind_assoc {Last : Type w} (program : Dialogue Question Answer Result)
    (later : Result → Dialogue Question Answer Later)
    (last : Later → Dialogue Question Answer Last) :
    program >>= later >>= last = program >>= fun result => later result >>= last := by
  induction program with
  | done result => rfl
  | ask question next ih => exact congrArg (ask question) (funext ih)

/-- The questions asked on a way through a program, with their answers, lead to its result. -/
def Leads : Dialogue Question Answer Result → List (Question × Answer) → Result → Prop
  | .done result, calls, given => calls = [] ∧ result = given
  | .ask question next, calls, given =>
    ∃ answer rest, calls = (question, answer) :: rest ∧ (next answer).Leads rest given

@[simp]
theorem leads_pure {result given : Result} {calls : List (Question × Answer)} :
    (pure result : Dialogue Question Answer Result).Leads calls given ↔
      calls = [] ∧ result = given := Iff.rfl

@[simp]
theorem leads_question {asked : Question} {given : Answer} {calls : List (Question × Answer)} :
    (question asked).Leads calls given ↔ calls = [(asked, given)] := by
  constructor
  · rintro ⟨answer, rest, rfl, rfl, rfl⟩
    rfl
  · rintro rfl
    exact ⟨given, [], rfl, rfl, rfl⟩

/-- A way through two programs is one through the first and then one through the second. -/
theorem leads_bind {program : Dialogue Question Answer Result}
    {later : Result → Dialogue Question Answer Later} {calls : List (Question × Answer)}
    {given : Later} : (program >>= later).Leads calls given ↔
      ∃ result first rest, calls = first ++ rest ∧ program.Leads first result ∧
        (later result).Leads rest given := by
  induction program generalizing calls with
  | done result =>
      constructor
      · intro hleads
        exact ⟨result, [], calls, rfl, ⟨rfl, rfl⟩, hleads⟩
      · rintro ⟨_, _, rest, rfl, ⟨rfl, rfl⟩, hleads⟩
        exact hleads
  | ask question next ih =>
      constructor
      · rintro ⟨answer, rest, rfl, hleads⟩
        obtain ⟨result, first, last, rfl, hfirst, hlast⟩ := ih answer |>.mp hleads
        exact ⟨result, (question, answer) :: first, last, rfl, ⟨answer, first, rfl, hfirst⟩, hlast⟩
      · rintro ⟨result, _, last, rfl, ⟨answer, first, rfl, hfirst⟩, hlast⟩
        exact ⟨answer, first ++ last, rfl,
          (ih answer).mpr ⟨result, first, last, rfl, hfirst, hlast⟩⟩

/-- What a program has still to do once some questions of it have been answered. -/
def Remains (program rest : Dialogue Question Answer Result) (calls : List (Question × Answer)) :
    Prop :=
  ∀ {later given}, rest.Leads later given → program.Leads (calls ++ later) given

theorem Remains.refl (program : Dialogue Question Answer Result) : program.Remains program [] :=
  fun hleads => hleads

/-- One more question is answered. -/
theorem Remains.answered {program : Dialogue Question Answer Result} {asked : Question}
    {next : Answer → Dialogue Question Answer Result} {calls : List (Question × Answer)}
    (hremains : program.Remains (.ask asked next) calls) (answer : Answer) :
    program.Remains (next answer) (calls ++ [(asked, answer)]) := by
  intro later given hleads
  rw [List.append_assoc]
  exact hremains ⟨answer, later, rfl, hleads⟩

/-- When nothing remains, the answers have led to the result. -/
theorem Remains.leads {program : Dialogue Question Answer Result} {result : Result}
    {calls : List (Question × Answer)} (hremains : program.Remains (.done result) calls) :
    program.Leads calls result := by
  have hleads : (done result : Dialogue Question Answer Result).Leads [] result := ⟨rfl, rfl⟩
  simpa using hremains hleads

/-- A run in an environment that keeps a state: the result, and the state at the end. -/
def converse {State : Type x} (respond : State → Question → Answer × State) :
    State → Dialogue Question Answer Result → Result × State
  | state, .done result => (result, state)
  | state, .ask question next =>
    converse respond (respond state question).2 (next (respond state question).1)

section Comes

variable {State : Type x} {respond : State → Question → Answer × State} {state : State}

/-- In the environment the program comes to a result, and to a state as it should be. -/
def Comes (respond : State → Question → Answer × State) (state : State)
    (program : Dialogue Question Answer Result) (result : Result) (ends : State → Prop) : Prop :=
  ∃ last, program.converse respond state = (result, last) ∧ ends last

theorem comes_pure {result : Result} {ends : State → Prop} (hends : ends state) :
    Comes respond state (pure result) result ends := ⟨state, rfl, hends⟩

theorem comes_question {Reply : Type w} {respond : State → Question → Reply × State}
    {asked : Question} {answer : Reply} {next : State} {ends : State → Prop}
    (hresponds : respond state asked = (answer, next)) (hends : ends next) :
    Comes respond state (question asked) answer ends := by
  refine ⟨next, ?_, hends⟩
  show ((respond state asked).1, (respond state asked).2) = _
  rw [hresponds]

theorem converse_bind (program : Dialogue Question Answer Result)
    (later : Result → Dialogue Question Answer Later) :
    (program >>= later).converse respond state =
      (later (program.converse respond state).1).converse respond
        (program.converse respond state).2 := by
  induction program generalizing state with
  | done result => rfl
  | ask question next ih => exact ih (respond state question).1

/-- The rule of sequence. -/
theorem Comes.bind {program : Dialogue Question Answer Result} {result : Result} {given : Later}
    {later : Result → Dialogue Question Answer Later} {between ends : State → Prop}
    (hprogram : Comes respond state program result between)
    (hlater : ∀ {next}, between next → Comes respond next (later result) given ends) :
    Comes respond state (program >>= later) given ends := by
  obtain ⟨next, hconverse, hnext⟩ := hprogram
  obtain ⟨last, hlast, hends⟩ := hlater hnext
  refine ⟨last, ?_, hends⟩
  rw [converse_bind, hconverse]
  exact hlast

end Comes

end Dialogue

end PrintDrop.Math
