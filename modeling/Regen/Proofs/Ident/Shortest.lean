import Mathlib.Order.Bounds.Basic
import Regen.Proofs.Ident.NameScope

/-!
# Names with the fewest underscores

The search for a name knows no bound: as long as a name is refused, it gets one more underscore (`Search`). Where it
ends, the name has the fewest underscores with which it is free (`search_iff`), and it ends in every scope, as no mark
refuses two candidates of one kind (`exists_search`). Of the names that are taken at first only those of getters can
become free again (`taken_after`), so a scope never hands out the name of a method (`unique_shortest`).
-/

namespace Regen.Ident.NameScope

variable {s : NameScope} {name result : String} {hasGetter : Bool} {rounds : Nat}

/-! ### The search -/

/-- The search for a name, in as many rounds as it takes. -/
inductive Search (s : NameScope) (hasGetter : Bool) : String → Nat → String → Prop
  | found {name : String} (admitted : s.admits hasGetter name = true) : Search s hasGetter name 0 name
  | again {name result : String} {rounds : Nat} (refused : s.admits hasGetter name = false)
      (rest : Search s hasGetter (name ++ "_") rounds result) : Search s hasGetter name (rounds + 1) result

/-- The numbers of underscores with which a name is free and, if there is a getter, its name is too. -/
def free (s : NameScope) (name : String) (hasGetter : Bool) : Set Nat :=
  {k | s.taken (padded name k) = false ∧ (hasGetter = true → s.taken (getter (padded name k)) = false)}

theorem mem_free_iff {k : Nat} : k ∈ s.free name hasGetter ↔ s.admits hasGetter (padded name k) = true :=
  admits_iff.symm

theorem mem_free_underscore_iff {k : Nat} :
    k ∈ s.free (name ++ "_") hasGetter ↔ k + 1 ∈ s.free name hasGetter := by
  rw [mem_free_iff, mem_free_iff, padded_underscore]

/-- A search that ends has tried all names with fewer underscores. -/
theorem Search.isLeast (search : Search s hasGetter name rounds result) :
    result = padded name rounds ∧ IsLeast (s.free name hasGetter) rounds := by
  induction search with
  | found admitted =>
    constructor
    · exact (padded_zero _).symm
    · exact ⟨mem_free_iff.2 (by rwa [padded_zero]), fun k _ => Nat.zero_le k⟩
  | again refused rest ih =>
    obtain ⟨ends, free, fewest⟩ := ih
    rw [padded_underscore] at ends
    refine ⟨ends, mem_free_underscore_iff.1 free, ?_⟩
    intro k other
    cases k with
    | zero =>
      rw [mem_free_iff, padded_zero, refused] at other
      cases other
    | succ k =>
      have behind := fewest (mem_free_underscore_iff.2 other)
      omega

theorem search_of_isLeast (least : IsLeast (s.free name hasGetter) rounds) :
    Search s hasGetter name rounds (padded name rounds) := by
  induction rounds generalizing name with
  | zero =>
    have admitted := mem_free_iff.1 least.1
    rw [padded_zero] at admitted ⊢
    exact .found admitted
  | succ rounds ih =>
    have refused : s.admits hasGetter name = false := by
      by_contra admitted
      have none : rounds + 1 ≤ 0 := least.2 (mem_free_iff.2 (by simpa using admitted))
      omega
    have rest : Search s hasGetter (name ++ "_") rounds (padded (name ++ "_") rounds) := by
      apply ih
      refine ⟨mem_free_underscore_iff.2 least.1, ?_⟩
      intro k other
      have more := least.2 (mem_free_underscore_iff.1 other)
      omega
    rw [padded_underscore] at rest
    exact .again refused rest

theorem search_iff : Search s hasGetter name rounds result ↔
    result = padded name rounds ∧ IsLeast (s.free name hasGetter) rounds := by
  constructor
  · exact Search.isLeast
  · rintro ⟨rfl, least⟩
    exact search_of_isLeast least

/-- The search ends with the name that is handed out, after no more than two rounds for each mark. -/
theorem exists_search (s : NameScope) (name : String) (hasGetter : Bool) :
    ∃ k ≤ 2 * s.marks.length, Search s hasGetter name k (s.unique name hasGetter).1 := by
  obtain ⟨k, chosen, admitted, fewer⟩ := choose_eq s name hasGetter
  have least : IsLeast (s.free name hasGetter) k := by
    refine ⟨mem_free_iff.2 admitted, ?_⟩
    intro j other
    by_contra less
    have refused := fewer j (by omega)
    rw [mem_free_iff.1 other] at refused
    cases refused
  obtain ⟨j, within, other⟩ := exists_admitted s hasGetter name
  have first := least.2 (mem_free_iff.2 other)
  have handed : (s.unique name hasGetter).1 = padded name k := chosen
  rw [handed]
  exact ⟨k, by omega, search_of_isLeast least⟩

theorem admits_unique (s : NameScope) (name : String) (hasGetter : Bool) :
    s.admits hasGetter (s.unique name hasGetter).1 = true := by
  obtain ⟨k, chosen, admitted, -⟩ := choose_eq s name hasGetter
  show s.admits hasGetter (s.choose name hasGetter) = true
  rwa [chosen]

/-- What a scope hands out for a name: that with which the search ends, in every case after `k` rounds. -/
structure HandsOut (s : NameScope) (name : String) (hasGetter : Bool) (k : Nat) : Prop where
  search : ∀ rounds result,
    Search s hasGetter name rounds result ↔ rounds = k ∧ result = (s.unique name hasGetter).1
  padded : (s.unique name hasGetter).1 = padded name k
  least : IsLeast (s.free name hasGetter) k

theorem Search.handsOut {k : Nat} (search : Search s hasGetter name k (s.unique name hasGetter).1) :
    HandsOut s name hasGetter k := by
  obtain ⟨ends, least⟩ := search.isLeast
  refine ⟨fun rounds result => ?_, ends, least⟩
  rw [search_iff]
  constructor
  · rintro ⟨rfl, also⟩
    obtain rfl : rounds = k := also.unique least
    exact ⟨rfl, ends.symm⟩
  · rintro ⟨rfl, rfl⟩
    exact ⟨ends, least⟩

/-! ### Scopes that were asked before -/

/-- The scope after a sequence of requests. -/
def after (s : NameScope) (requests : List (String × Bool)) : NameScope :=
  requests.foldl (fun s q => (s.unique q.1 q.2).2) s

/-- Every request leaves two marks. -/
theorem length_marks_after (s : NameScope) (requests : List (String × Bool)) :
    (s.after requests).marks.length = s.marks.length + 2 * requests.length := by
  induction requests generalizing s with
  | nil => rfl
  | cons q requests ih =>
    have both : (s.unique q.1 q.2).2.marks.length = s.marks.length + 2 := rfl
    have rest : ((s.unique q.1 q.2).2.after requests).marks.length = _ := ih _
    rw [both] at rest
    rw [List.length_cons]
    show ((s.unique q.1 q.2).2.after requests).marks.length = _
    omega

section Taken

variable {n : String} (other : ∀ m, n ≠ getter m)

include other

/-- A request frees no name but that of a getter. -/
theorem taken_unique (taken : s.taken n = true) (name : String) (hasGetter : Bool) :
    (s.unique name hasGetter).2.taken n = true := by
  show (s.mark _ hasGetter).taken n = true
  rw [taken_mark, if_neg (other _), taken, Bool.or_true]

theorem taken_after (taken : s.taken n = true) (requests : List (String × Bool)) :
    (s.after requests).taken n = true := by
  induction requests generalizing s with
  | nil => exact taken
  | cons q requests ih => exact ih (taken_unique other taken q.1 q.2)

/-- A name that was taken at first, and is no getter's, is not handed out. -/
theorem unique_ne (taken : s.taken n = true) (requests : List (String × Bool)) (name : String)
    (hasGetter : Bool) : ((s.after requests).unique name hasGetter).1 ≠ n := by
  intro same
  have free := (admits_iff.1 (admits_unique (s.after requests) name hasGetter)).1
  rw [same, taken_after other taken requests] at free
  cases free

end Taken

/-- Whatever names are taken at first and whatever a scope was asked, the search for a name ends. The name is handed
out with the fewest underscores with which it is free and, if there is a getter, its name is too. No scope of a message
type ever hands out the name of a method. -/
theorem unique_shortest (reserved : List String) (requests : List (String × Bool)) (name : String) (hasGetter : Bool) :
    (∃ k ≤ 2 * reserved.length + 4 * requests.length,
      HandsOut ((ofReserved reserved).after requests) name hasGetter k) ∧
    ((fresh.after requests).unique name hasGetter).1 ∉ methodNames := by
  constructor
  · obtain ⟨k, within, search⟩ := exists_search ((ofReserved reserved).after requests) name hasGetter
    have marks : (ofReserved reserved).marks.length = reserved.length := List.length_map ..
    rw [length_marks_after, marks] at within
    exact ⟨k, by omega, search.handsOut⟩
  · intro mem
    have other : ∀ m, ((fresh.after requests).unique name hasGetter).1 ≠ getter m := by
      intro m same
      exact getter_not_mem_methodNames m (same ▸ mem)
    exact unique_ne other (keeps_fresh.reserved _ mem) requests name hasGetter rfl

/-- A name whose getter's name is taken gets an underscore as well. -/
example : ((fresh.after [("GetFoo", false)]).unique "Foo" true).1 = "Foo_" := by decide

end Regen.Ident.NameScope
