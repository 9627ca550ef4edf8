import Mathlib.Data.List.Basic
import Regen.Sorting

/-!
# Sorting puts lists in one order

Sorting does not depend on the order of a list of elements that the comparison tells apart
(`sort_eq_of_perm`), and sorting by a linear order depends on the elements of a list alone
(`sort_eq_of_mem_iff`). Distinct texts are put in strictly ascending order (`pairwise_texts`).
-/

namespace Regen.Sorting

variable {α : Type}

/-- A comparison puts any two elements in an order, some of them perhaps in both. -/
structure Weak (le : α → α → Bool) : Prop where
  total : ∀ a b, le a b = true ∨ le b a = true
  trans : ∀ a b c, le a b = true → le b c = true → le a c = true

/-- A comparison is that of a linear order. -/
structure Linear (le : α → α → Bool) : Prop extends Weak le where
  antisymm : ∀ a b, le a b = true → le b a = true → a = b

variable {le : α → α → Bool}

section Weak

variable (weak : Weak le)

include weak

theorem pairwise_insert (a : α) {l : List α} (sorted : l.Pairwise (le · ·)) :
    (insert le a l).Pairwise (le · ·) := by
  induction l with
  | nil => simp [insert]
  | cons b l ih =>
    obtain ⟨least, rest⟩ := List.pairwise_cons.1 sorted
    rw [insert]
    split
    · next before =>
      refine List.pairwise_cons.2 ⟨fun c mem => ?_, sorted⟩
      rcases List.mem_cons.1 mem with rfl | mem
      · exact before
      · exact weak.trans a b c before (least c mem)
    · next behind =>
      refine List.pairwise_cons.2 ⟨fun c mem => ?_, ih rest⟩
      rcases List.mem_cons.1 ((perm_insert le a l).mem_iff.1 mem) with rfl | mem
      · exact (weak.total b c).resolve_right behind
      · exact least c mem

theorem pairwise_sort (l : List α) : (sort le l).Pairwise (le · ·) := by
  induction l with
  | nil => exact .nil
  | cons a l ih => exact pairwise_insert weak a ih

/-- Elements that the comparison tells apart are put in one order. -/
theorem sort_eq_of_perm {l l' : List α} (perm : l.Perm l')
    (apart : ∀ a ∈ l, ∀ b ∈ l, le a b = true → le b a = true → a = b) : sort le l = sort le l' := by
  refine List.Perm.eq_of_pairwise (fun a b first second => ?_) (pairwise_sort weak l) (pairwise_sort weak l')
    ((perm_sort le l).trans (perm.trans (perm_sort le l').symm))
  exact apart a ((perm_sort le l).mem_iff.1 first) b (perm.mem_iff.2 ((perm_sort le l').mem_iff.1 second))

end Weak

theorem sort_eq_of_mem_iff (linear : Linear le) {l l' : List α} (distinct : l.Nodup) (distinct' : l'.Nodup)
    (same : ∀ a, a ∈ l ↔ a ∈ l') : sort le l = sort le l' :=
  sort_eq_of_perm linear.toWeak ((List.perm_ext_iff_of_nodup distinct distinct').2 same)
    fun a _ b _ => linear.antisymm a b

/-! ### Texts -/

theorem weak_texts : Weak fun a b : String => decide (a ≤ b) where
  total a b := by simpa using String.le_total a b
  trans a b c := by simpa using String.le_trans

theorem mem_texts {ss : List String} {s : String} : s ∈ texts ss ↔ s ∈ ss := (perm_sort _ ss).mem_iff

theorem pairwise_texts {ss : List String} (distinct : ss.Nodup) : (texts ss).Pairwise (· < ·) := by
  have ascending : (texts ss).Pairwise (· ≤ ·) := (pairwise_sort weak_texts ss).imp of_decide_eq_true
  have apart : (texts ss).Pairwise (· ≠ ·) := (perm_sort _ ss).nodup_iff.2 distinct
  exact (ascending.and apart).imp fun ⟨le, ne⟩ => Std.lt_of_le_of_ne le ne

/-- A list from which the repetitions are gone. -/
theorem nodup_eraseDups [BEq α] [LawfulBEq α] (l : List α) : l.eraseDups.Nodup := by
  induction len : l.length using Nat.strongRecOn generalizing l with
  | ind n ih =>
    cases l with
    | nil => exact .nil
    | cons a l =>
      rw [List.eraseDups_cons, List.nodup_cons, List.mem_eraseDups]
      refine ⟨by simp, ih _ ?_ _ rfl⟩
      rw [← len]
      exact Nat.lt_succ_of_le (List.length_filter_le ..)

end Regen.Sorting
