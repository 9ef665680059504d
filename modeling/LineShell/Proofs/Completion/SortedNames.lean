import LineShell.Completion
import Mathlib.Data.List.Sort
import Mathlib.Data.String.Basic

/-!
# Sorted names

Names are put in order and repetitions, which then stand next to each other, are dropped.  What
comes out depends only on which names there are: it is the one list of them in which every name is
less than the next.

## Main results

* `eraseReps_cons_cons` — dropping repetitions, one element at a time.
* `mem_sortNames`, `pairwise_sortNames` — the members and the order of sorted names.
* `sortNames_eq_iff` — **sorted names are told by their members.**
-/

namespace LineShell

/-! ### Repetitions -/

section Repetitions

variable {α : Type}

private theorem loop_eq_append [DecidableEq α] (rest : List α) : ∀ (a : α) (kept : List α),
    List.eraseRepsBy.loop (· == ·) a rest kept = kept.reverse ++ (a :: rest).eraseReps := by
  induction rest with
  | nil => exact fun a kept => List.reverse_cons
  | cons b rest ih =>
    intro a kept
    change _ = kept.reverse ++ List.eraseRepsBy.loop (· == ·) a (b :: rest) []
    by_cases h : a = b
    · simp only [List.eraseRepsBy.loop, h, beq_self_eq_true, ih]
      rfl
    · simp only [List.eraseRepsBy.loop, beq_false_of_ne h, ih]
      simp

/-- An element is dropped exactly if the next one equals it. -/
theorem eraseReps_cons_cons [DecidableEq α] (a b : α) (rest : List α) :
    (a :: b :: rest).eraseReps =
      if a = b then (b :: rest).eraseReps else a :: (b :: rest).eraseReps := by
  change List.eraseRepsBy.loop (· == ·) a (b :: rest) [] = _
  split
  · next h =>
    simp only [List.eraseRepsBy.loop, h, beq_self_eq_true, loop_eq_append]
    rfl
  · next h =>
    simp only [List.eraseRepsBy.loop, beq_false_of_ne h, loop_eq_append]
    rfl

/-- No element is lost for good. -/
theorem mem_eraseReps [DecidableEq α] {x : α} {l : List α} : x ∈ l.eraseReps ↔ x ∈ l := by
  induction l with
  | nil => rfl
  | cons a l ih =>
    cases l with
    | nil => rfl
    | cons b rest =>
      rw [eraseReps_cons_cons]
      split
      · next h =>
        subst h
        rw [ih, List.mem_cons, List.mem_cons, List.mem_cons, ← or_assoc, or_self]
      · rw [List.mem_cons, ih, ← List.mem_cons]

/-- In a sorted list nothing is left twice. -/
theorem pairwise_eraseReps [PartialOrder α] [DecidableEq α] {l : List α}
    (h : l.Pairwise (· ≤ ·)) : l.eraseReps.Pairwise (· < ·) := by
  induction l with
  | nil => exact .nil
  | cons a l ih =>
    cases l with
    | nil => exact List.pairwise_singleton _ _
    | cons b rest =>
      obtain ⟨hfirst, hrest⟩ := List.pairwise_cons.1 h
      rw [eraseReps_cons_cons]
      split
      · exact ih hrest
      · next hne =>
        refine List.pairwise_cons.2 ⟨fun x hx => ?_, ih hrest⟩
        have hab : a < b := lt_of_le_of_ne (hfirst b List.mem_cons_self) hne
        rcases List.mem_cons.1 (mem_eraseReps.1 hx) with rfl | hx
        · exact hab
        · exact lt_of_lt_of_le hab ((List.pairwise_cons.1 hrest).1 x hx)

end Repetitions

/-! ### Names in order -/

variable {names names' : List String} {name : String}

theorem mem_sortNames : name ∈ sortNames names ↔ name ∈ names :=
  mem_eraseReps.trans List.mem_mergeSort

/-- Every name is less than the next. -/
theorem pairwise_sortNames (names : List String) : (sortNames names).Pairwise (· < ·) := by
  refine pairwise_eraseReps ?_
  have hsorted : (names.mergeSort fun a b => !decide (b < a)).Pairwise fun a b =>
      (!decide (b < a)) = true := by
    refine List.pairwise_mergeSort (fun a b c hab hbc => ?_) (fun a b => ?_) names
    · simp only [Bool.not_eq_true', decide_eq_false_iff_not, not_lt] at hab hbc ⊢
      exact hab.trans hbc
    · simp only [Bool.or_eq_true, Bool.not_eq_true', decide_eq_false_iff_not, not_lt]
      exact le_total a b
  exact hsorted.imp fun h => by
    simpa only [Bool.not_eq_true', decide_eq_false_iff_not, not_lt] using h

/-- **Sorted names are told by their members.** -/
theorem sortNames_eq_iff :
    sortNames names = names' ↔
      names'.Pairwise (· < ·) ∧ ∀ name, name ∈ names' ↔ name ∈ names := by
  constructor
  · rintro rfl
    exact ⟨pairwise_sortNames names, fun _ => mem_sortNames⟩
  · rintro ⟨horder, hmem⟩
    exact List.Pairwise.eq_of_mem_iff (pairwise_sortNames names) horder fun name =>
      mem_sortNames.trans (hmem name).symm

end LineShell
