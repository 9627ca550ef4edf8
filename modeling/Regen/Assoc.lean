/-!
# Tables that keep the order of arrival

A table is a list of keys with their values, each key once. Writing a key that is there keeps
its place; a new key goes to the end.
-/

namespace Regen.Assoc

variable {κ α : Type} [DecidableEq κ]

/-- The table with `v` as the value of `k`. -/
def put : List (κ × α) → κ → α → List (κ × α)
  | [], k, v => [(k, v)]
  | (k', v') :: r, k, v => if k' = k then (k', v) :: r else (k', v') :: put r k v

/-- The table with the entries of `extra` written into it, one after the other. -/
def putAll (t extra : List (κ × α)) : List (κ × α) := extra.foldl (fun t e => put t e.1 e.2) t

def get? (t : List (κ × α)) (k : κ) : Option α := (t.find? fun e => e.1 = k).map (·.2)

def erase (t : List (κ × α)) (k : κ) : List (κ × α) := t.filter fun e => e.1 ≠ k

theorem get?_put (t : List (κ × α)) (k k' : κ) (v : α) :
    get? (put t k v) k' = if k' = k then some v else get? t k' := by
  induction t with
  | nil => by_cases h : k' = k <;> simp_all [put, get?, eq_comm]
  | cons e r ih =>
    by_cases h1 : e.1 = k
    · by_cases h2 : k' = k
      · simp_all [put, get?]
      · have h3 : ¬ k = k' := fun h => h2 h.symm
        simp_all [put, get?]
    · by_cases h2 : e.1 = k'
      · have h3 : ¬ k' = k := fun h => h1 (h2.trans h)
        simp_all [put, get?]
      · simp only [put, if_neg h1, get?, List.find?_cons, decide_eq_false h2] at ih ⊢
        exact ih

end Regen.Assoc
