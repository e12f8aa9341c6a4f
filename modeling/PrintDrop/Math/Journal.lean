/-
# Partial maps with a journal

A store of values under keys that is given by the values it started with and the
journal of its changes. The journal tells how often, and in which way, a key has
been changed on the way to a state; the values of the state alone do not.
-/

import Mathlib.Data.List.Induction

namespace PrintDrop.Math

universe u v

/-- One change of one key. -/
structure Change (Key : Type u) (Value : Type v) where
  key : Key
  before : Option Value
  after : Option Value
  deriving DecidableEq

/-- A store: its first contents and every change since. -/
structure Journaled (Key : Type u) (Value : Type v) where
  initial : Key → Option Value
  journal : List (Change Key Value)

namespace Journaled

variable {Key : Type u} {Value : Type v} [DecidableEq Key]

/-- The value under a key now. -/
def get (store : Journaled Key Value) : Key → Option Value :=
  store.journal.foldl (fun values change => Function.update values change.key change.after)
    store.initial

/-- Give a key another value, or none. -/
def set (store : Journaled Key Value) (key : Key) (value : Option Value) :
    Journaled Key Value where
  initial := store.initial
  journal := store.journal ++ [{ key := key, before := store.get key, after := value }]

/-- The changes of one key, in order. -/
def changesAt (store : Journaled Key Value) (key : Key) : List (Change Key Value) :=
  store.journal.filter fun change => change.key = key

@[simp]
theorem initial_set (store : Journaled Key Value) (key : Key) (value : Option Value) :
    (store.set key value).initial = store.initial := rfl

theorem get_set (store : Journaled Key Value) (key : Key) (value : Option Value) :
    (store.set key value).get = Function.update store.get key value := by
  simp [get, set]

@[simp]
theorem get_set_self (store : Journaled Key Value) (key : Key) (value : Option Value) :
    (store.set key value).get key = value := by
  simp [get_set]

theorem get_set_of_ne (store : Journaled Key Value) {key other : Key} (hne : other ≠ key)
    (value : Option Value) : (store.set key value).get other = store.get other := by
  simp [get_set, hne]

theorem changesAt_set_self (store : Journaled Key Value) (key : Key) (value : Option Value) :
    (store.set key value).changesAt key =
      store.changesAt key ++ [{ key := key, before := store.get key, after := value }] := by
  simp [changesAt, set]

theorem changesAt_set_of_ne (store : Journaled Key Value) {key other : Key} (hne : other ≠ key)
    (value : Option Value) : (store.set key value).changesAt other = store.changesAt other := by
  simp [changesAt, set, Ne.symm hne]

/-- A key that was never changed has its first value. -/
theorem get_eq_initial {store : Journaled Key Value} {key : Key}
    (hchanges : store.changesAt key = []) : store.get key = store.initial key := by
  obtain ⟨initial, journal⟩ := store
  induction journal using List.reverseRecOn with
  | nil => rfl
  | append_singleton journal change ih =>
      simp only [changesAt, List.filter_append, List.append_eq_nil_iff] at hchanges ih
      have hne : key ≠ change.key := by
        intro hkey
        simp [hkey] at hchanges
      have hprior := ih hchanges.1
      simp only [get, List.foldl_append, List.foldl_cons, List.foldl_nil] at hprior ⊢
      rw [Function.update_of_ne hne]
      exact hprior

end Journaled

end PrintDrop.Math
