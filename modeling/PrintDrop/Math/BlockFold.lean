/-
# Folding over blocks

A compression function takes a state and a block of a fixed size, and a message that is
a whole number of blocks is folded over one block at a time. A reader that is given a
message piece by piece keeps the state behind the last whole block and the elements that
follow it; where the pieces were cut does not matter.
-/

import Mathlib.Data.List.Basic
import Mathlib.Tactic.Ring

namespace PrintDrop.Math

universe u v

variable {α : Type u} {σ : Type v}

/-- The state behind the first `count` blocks of a message. -/
def foldBlocks (size : ℕ) (compress : σ → List α → σ) : ℕ → σ → List α → σ
  | 0, state, _ => state
  | count + 1, state, message =>
      foldBlocks size compress count (compress state (message.take size)) (message.drop size)

section

variable {size : ℕ} {compress : σ → List α → σ}

theorem foldBlocks_one (state : σ) {block : List α} (hlength : block.length = size) :
    foldBlocks size compress 1 state block = compress state block := by
  rw [foldBlocks, foldBlocks, List.take_of_length_le hlength.le]

/-- Whole blocks are folded first, and what follows them is folded from there. -/
theorem foldBlocks_append (count more : ℕ) (state : σ) {whole : List α} (rest : List α)
    (hwhole : whole.length = count * size) :
    foldBlocks size compress (count + more) state (whole ++ rest) =
      foldBlocks size compress more (foldBlocks size compress count state whole) rest := by
  induction count generalizing state whole with
  | zero =>
      have hnil : whole = [] := List.eq_nil_of_length_eq_zero (by simpa using hwhole)
      subst hnil
      simp [foldBlocks]
  | succ count ih =>
      have hsize : size ≤ whole.length := by
        rw [hwhole, Nat.succ_mul]
        exact Nat.le_add_left _ _
      have hdrop : (whole.drop size).length = count * size := by
        rw [List.length_drop, hwhole, Nat.succ_mul, Nat.add_sub_cancel]
      rw [Nat.add_right_comm, foldBlocks, foldBlocks, List.take_append_of_le_length hsize,
        List.drop_append_of_le_length hsize]
      exact ih _ hdrop

end

/-- A reader in a state, with some elements pending, was given a message: the state is
behind whole blocks of it, and less than a block follows them. -/
structure Absorbed (size : ℕ) (compress : σ → List α → σ) (initial : σ)
    (message pending : List α) (state : σ) : Prop where
  short : pending.length < size
  behind : ∃ count whole, whole.length = count * size ∧ message = whole ++ pending ∧
    state = foldBlocks size compress count initial whole

namespace Absorbed

variable {size : ℕ} {compress : σ → List α → σ} {initial state : σ} {message pending : List α}

theorem nil (hsize : 0 < size) : Absorbed size compress initial [] [] initial :=
  ⟨hsize, 0, [], by simp, rfl, rfl⟩

theorem length_pending (h : Absorbed size compress initial message pending state) :
    message.length % size = pending.length := by
  obtain ⟨count, whole, hwhole, rfl, -⟩ := h.behind
  rw [List.length_append, hwhole, Nat.mul_add_mod_self_right, Nat.mod_eq_of_lt h.short]

/-- A piece that does not complete a block is pending. -/
theorem keep (h : Absorbed size compress initial message pending state) (piece : List α)
    (hshort : (pending ++ piece).length < size) :
    Absorbed size compress initial (message ++ piece) (pending ++ piece) state := by
  obtain ⟨count, whole, hwhole, rfl, hstate⟩ := h.behind
  exact ⟨hshort, count, whole, hwhole, List.append_assoc _ _ _, hstate⟩

/-- A piece that completes a block has it compressed. -/
theorem fill (h : Absorbed size compress initial message pending state) (piece : List α)
    (hfull : (pending ++ piece).length = size) :
    Absorbed size compress initial (message ++ piece) []
      (compress state (pending ++ piece)) := by
  obtain ⟨count, whole, hwhole, rfl, rfl⟩ := h.behind
  have hpositive : 0 < size := Nat.zero_lt_of_lt h.short
  refine ⟨hpositive, count + 1, whole ++ (pending ++ piece), ?_, by simp, ?_⟩
  · rw [List.length_append, hwhole, hfull, Nat.succ_mul]
  · rw [foldBlocks_append count 1 initial _ hwhole, foldBlocks_one _ hfull]

/-- A tail that completes the message to whole blocks: what is left to fold over is what
was pending and the tail. -/
theorem finish (h : Absorbed size compress initial message pending state) {tail : List α}
    (more : ℕ) (hlength : (pending ++ tail).length = more * size) :
    foldBlocks size compress ((message ++ tail).length / size) initial (message ++ tail) =
      foldBlocks size compress more state (pending ++ tail) := by
  obtain ⟨count, whole, hwhole, rfl, rfl⟩ := h.behind
  have hpositive : 0 < size := Nat.zero_lt_of_lt h.short
  have hcount : (whole ++ pending ++ tail).length / size = count + more := by
    rw [List.append_assoc, List.length_append, hwhole, hlength, ← Nat.add_mul,
      Nat.mul_div_cancel _ hpositive]
  rw [hcount, List.append_assoc, foldBlocks_append count more initial _ hwhole]

end Absorbed

end PrintDrop.Math
