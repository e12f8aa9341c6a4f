/-
# Ledgers of resources

A ledger lists the resources that a program has obtained, each with those that it is made
of, and the ones that it has released. It is nested where the resource obtained last is the
one released first. In a nested ledger every resource is released at most once, is held
exactly until then, and outlives all that is made of it.
-/

import Mathlib.Data.List.Count
import Mathlib.Data.List.Nodup

namespace PrintDrop.Math

universe u

/-- A resource is obtained, or released. -/
inductive LedgerEntry (Resource : Type u)
  | obtained (resource : Resource) (uses : List Resource)
  | released (resource : Resource)

namespace LedgerEntry

variable {Resource : Type u}

def resource : LedgerEntry Resource → Resource
  | .obtained resource _ | .released resource => resource

variable [DecidableEq Resource]

def obtains (resource : Resource) : LedgerEntry Resource → Bool
  | .obtained other _ => other = resource
  | .released _ => false

def releases (resource : Resource) : LedgerEntry Resource → Bool
  | .obtained _ _ => false
  | .released other => other = resource

end LedgerEntry

/-- A ledger and what is held after it, the resource obtained last first. What a new resource
uses is held. -/
inductive Nested {Resource : Type u} : List (LedgerEntry Resource) → List Resource → Prop
  | nil : Nested [] []
  | obtained {ledger : List (LedgerEntry Resource)} {held uses : List Resource}
    {resource : Resource} (hnested : Nested ledger held)
    (hfresh : ∀ entry ∈ ledger, entry.resource ≠ resource) (huses : ∀ used ∈ uses, used ∈ held) :
    Nested (ledger ++ [.obtained resource uses]) (resource :: held)
  | released {ledger : List (LedgerEntry Resource)} {held : List Resource} {resource : Resource}
    (hnested : Nested ledger (resource :: held)) : Nested (ledger ++ [.released resource]) held

namespace Nested

variable {Resource : Type u} {ledger : List (LedgerEntry Resource)} {held : List Resource}

/-- What is held was obtained. -/
theorem exists_obtained (hnested : Nested ledger held) :
    ∀ resource ∈ held, ∃ uses, LedgerEntry.obtained resource uses ∈ ledger := by
  induction hnested with
  | nil => simp
  | @obtained ledger held uses resource _ _ _ ih =>
      intro other hother
      rcases List.mem_cons.mp hother with rfl | hother
      · exact ⟨uses, by simp⟩
      · obtain ⟨otherUses, hobtained⟩ := ih other hother
        exact ⟨otherUses, List.mem_append_left _ hobtained⟩
  | released _ ih =>
      intro other hother
      obtain ⟨uses, hobtained⟩ := ih other (List.mem_cons_of_mem _ hother)
      exact ⟨uses, List.mem_append_left _ hobtained⟩

/-- A resource is held once. -/
theorem nodup (hnested : Nested ledger held) : held.Nodup := by
  induction hnested with
  | nil => exact List.nodup_nil
  | @obtained ledger held uses resource hnested hfresh _ ih =>
      refine List.nodup_cons.mpr ⟨fun hheld => ?_, ih⟩
      obtain ⟨otherUses, hobtained⟩ := hnested.exists_obtained resource hheld
      exact hfresh _ hobtained rfl
  | released _ ih => exact (List.nodup_cons.mp ih).2

section Counting

variable [DecidableEq Resource]

/-- Every resource is obtained at most once, and has been released as often as it was obtained,
the held ones apart. -/
theorem balanced (hnested : Nested ledger held) (resource : Resource) :
    ledger.countP (LedgerEntry.obtains resource) ≤ 1 ∧
      ledger.countP (LedgerEntry.releases resource) + held.count resource =
        ledger.countP (LedgerEntry.obtains resource) := by
  induction hnested with
  | nil => simp
  | @obtained ledger held uses other hnested hfresh _ ih =>
      obtain ⟨honce, hbalance⟩ := ih
      simp only [List.countP_append, List.countP_singleton, LedgerEntry.obtains,
        LedgerEntry.releases, List.count_cons, decide_eq_true_eq, beq_iff_eq, Bool.false_eq_true,
        if_false, Nat.add_zero]
      by_cases hother : other = resource
      · subst hother
        have hnone : ledger.countP (LedgerEntry.obtains other) = 0 := by
          refine List.countP_eq_zero.mpr fun entry hentry => ?_
          cases entry with
          | obtained resource _ =>
              simpa [LedgerEntry.obtains, LedgerEntry.resource] using hfresh _ hentry
          | released resource => simp [LedgerEntry.obtains]
        rw [if_pos rfl]
        omega
      · rw [if_neg hother]
        omega
  | @released ledger held other _ ih =>
      obtain ⟨honce, hbalance⟩ := ih
      simp only [List.countP_append, List.countP_singleton, LedgerEntry.obtains,
        LedgerEntry.releases, List.count_cons, decide_eq_true_eq, beq_iff_eq, Bool.false_eq_true,
        if_false, Nat.add_zero] at hbalance ⊢
      omega

end Counting

/-- What is held has not been released. -/
theorem not_released (hnested : Nested ledger held) {resource : Resource}
    (hheld : resource ∈ held) : LedgerEntry.released resource ∉ ledger := by
  classical
  intro hreleased
  obtain ⟨honce, hbalance⟩ := hnested.balanced resource
  have hcount : 0 < held.count resource := List.count_pos_iff.mpr hheld
  have hreleases : 0 < ledger.countP (LedgerEntry.releases resource) :=
    List.countP_pos_iff.mpr ⟨_, hreleased, by simp [LedgerEntry.releases]⟩
  omega

/-- What is not held any more has been released. -/
theorem released_of_not_held (hnested : Nested ledger held) {resource : Resource}
    {uses : List Resource} (hobtained : LedgerEntry.obtained resource uses ∈ ledger)
    (hheld : resource ∉ held) : LedgerEntry.released resource ∈ ledger := by
  classical
  obtain ⟨-, hbalance⟩ := hnested.balanced resource
  rw [List.count_eq_zero_of_not_mem hheld, Nat.add_zero] at hbalance
  have hobtains : 0 < ledger.countP (LedgerEntry.obtains resource) :=
    List.countP_pos_iff.mpr ⟨_, hobtained, by simp [LedgerEntry.obtains]⟩
  rw [← hbalance] at hobtains
  obtain ⟨entry, hentry, hreleases⟩ := List.countP_pos_iff.mp hobtains
  cases entry with
  | obtained other otherUses => simp [LedgerEntry.releases] at hreleases
  | released other =>
      obtain rfl : other = resource := by simpa [LedgerEntry.releases] using hreleases
      exact hentry

/-- What a held resource is made of is held below it. -/
theorem exists_below (hnested : Nested ledger held) {resource : Resource} {uses : List Resource}
    (hobtained : LedgerEntry.obtained resource uses ∈ ledger) (hheld : resource ∈ held) :
    ∃ above below, held = above ++ resource :: below ∧ ∀ used ∈ uses, used ∈ below := by
  induction hnested with
  | nil => exact absurd hheld List.not_mem_nil
  | @obtained ledger held newUses other hnested hfresh huses ih =>
      rcases List.mem_append.mp hobtained with hobtained | hnew
      · have hne : resource ≠ other := hfresh _ hobtained
        obtain ⟨above, below, rfl, hbelow⟩ :=
          ih hobtained ((List.mem_cons.mp hheld).resolve_left hne)
        exact ⟨other :: above, below, rfl, hbelow⟩
      · obtain ⟨rfl, rfl⟩ : resource = other ∧ uses = newUses := by simpa using hnew
        exact ⟨[], held, rfl, huses⟩
  | @released ledger held other hnested ih =>
      have hobtained : LedgerEntry.obtained resource uses ∈ ledger := by simpa using hobtained
      obtain ⟨above, below, hsplit, hbelow⟩ := ih hobtained (List.mem_cons_of_mem _ hheld)
      cases above with
      | nil =>
          obtain ⟨rfl, -⟩ := List.cons.inj hsplit
          exact absurd hheld (List.nodup_cons.mp hnested.nodup).1
      | cons first above => exact ⟨above, below, (List.cons.inj hsplit).2, hbelow⟩

private theorem init_eq_of_append_eq {α : Type u} {init before after : List α} {last mid last' : α}
    (happend : init ++ [last] = before ++ mid :: (after ++ [last'])) :
    init = before ++ mid :: after := by
  have hsplit : init ++ [last] = (before ++ mid :: after) ++ [last'] := by simpa using happend
  exact (List.append_inj' hsplit rfl).1

/-- A resource is released before what it is made of. -/
theorem released_before (hnested : Nested ledger held) {resource used : Resource}
    {uses : List Resource} (hobtained : LedgerEntry.obtained resource uses ∈ ledger)
    (hused : used ∈ uses) {before after : List (LedgerEntry Resource)}
    (hledger : ledger = before ++ .released used :: after) :
    LedgerEntry.released resource ∈ before := by
  induction hnested generalizing after with
  | nil => simp at hledger
  | @obtained ledger held newUses other hnested hfresh huses ih =>
      rcases List.eq_nil_or_concat' after with rfl | ⟨after, last, rfl⟩
      · simp at hledger
      · have hprior := init_eq_of_append_eq hledger
        rcases List.mem_append.mp hobtained with hobtained | hnew
        · exact ih hobtained hprior
        · obtain ⟨rfl, rfl⟩ : resource = other ∧ uses = newUses := by simpa using hnew
          exact absurd (by simp [hprior]) (hnested.not_released (huses used hused))
  | @released ledger held other hnested ih =>
      have hobtained : LedgerEntry.obtained resource uses ∈ ledger := by simpa using hobtained
      rcases List.eq_nil_or_concat' after with rfl | ⟨after, last, rfl⟩
      · obtain ⟨rfl, rfl⟩ : ledger = before ∧ other = used := by simpa using hledger
        refine hnested.released_of_not_held hobtained fun hheld => ?_
        obtain ⟨above, below, hsplit, hbelow⟩ := hnested.exists_below hobtained hheld
        have hnodup := hnested.nodup
        rw [hsplit] at hnodup
        have hmem : other ∈ below := hbelow other hused
        cases above with
        | nil =>
            obtain ⟨rfl, -⟩ := List.cons.inj hsplit
            exact (List.nodup_cons.mp hnodup).1 hmem
        | cons first above =>
            obtain ⟨rfl, -⟩ := List.cons.inj hsplit
            exact (List.nodup_cons.mp hnodup).1
              (List.mem_append_right _ (List.mem_cons_of_mem _ hmem))
      · have hprior := init_eq_of_append_eq hledger
        exact ih hobtained hprior

end Nested

end PrintDrop.Math
