/-!
# Sorting

Sorting by insertion: each element goes in front of the first one that it does not come behind,
so equal elements keep their order.
-/

namespace Regen.Sorting

variable {α : Type}

def insert (le : α → α → Bool) (a : α) : List α → List α
  | [] => [a]
  | b :: r => if le a b then a :: b :: r else b :: insert le a r

def sort (le : α → α → Bool) : List α → List α
  | [] => []
  | a :: r => insert le a (sort le r)

/-- Texts in the order of their code points. -/
def texts (ss : List String) : List String := sort (fun a b => decide (a ≤ b)) ss

theorem perm_insert (le : α → α → Bool) (a : α) (l : List α) :
    (insert le a l).Perm (a :: l) := by
  induction l with
  | nil => exact .refl _
  | cons b r ih =>
    unfold insert
    split
    · exact .refl _
    · exact (ih.cons b).trans (.swap a b r)

theorem perm_sort (le : α → α → Bool) (l : List α) : (sort le l).Perm l := by
  induction l with
  | nil => exact .refl _
  | cons a r ih => exact (perm_insert le a _).trans (ih.cons a)

end Regen.Sorting
