import Mathlib.Data.List.Nodup
import Mathlib.Data.List.Perm.Subperm
import Mathlib.Data.List.Range
import Regen.Ident.NameScope

/-!
# Names that a scope hands out

The name that is handed out is the first one that the scope admits (`choose_eq`): among as many candidates
as that, not all can be marked. Marking a member without a getter frees the name that its getter would
have, so a scope does not hand out every name only once (`uniques_repeats`). It does when no such name is
a getter's (`nodup_uniques`): what is kept from one request to the next is `Keeps`.
-/

namespace Regen.Ident

/-- The name with `k` underscores behind it. -/
def padded (name : String) (k : Nat) : String := name ++ String.ofList (List.replicate k '_')

theorem toList_padded (name : String) (k : Nat) :
    (padded name k).toList = name.toList ++ List.replicate k '_' := by
  rw [padded, String.toList_append, String.toList_ofList]

@[simp] theorem padded_zero (name : String) : padded name 0 = name := by
  rw [← String.toList_inj, toList_padded, List.replicate_zero, List.append_nil]

theorem padded_underscore (name : String) (k : Nat) : padded (name ++ "_") k = padded name (k + 1) := by
  rw [← String.toList_inj, toList_padded, toList_padded, String.toList_append, List.append_assoc]
  rfl

theorem padded_injective (name : String) : Function.Injective (padded name) := by
  intro j k same
  have lengths := congrArg (fun s => s.toList.length) same
  simpa [toList_padded] using lengths

namespace NameScope

variable {s : NameScope} {n : String} {hasGetter : Bool}

/-! ### Getters -/

theorem toList_getter (name : String) : (getter name).toList = 'G' :: 'e' :: 't' :: name.toList := by
  rw [getter, String.toList_append]
  rfl

theorem getter_injective : Function.Injective getter := by
  intro m n same
  have lists := congrArg String.toList same
  rw [toList_getter, toList_getter] at lists
  exact String.toList_inj.1 (by simpa using lists)

theorem getter_ne_self (name : String) : getter name ≠ name := by
  intro same
  have lengths := congrArg (fun s => s.toList.length) same
  simp only [toList_getter, List.length_cons] at lengths
  omega

theorem replicate_underscore_ne {c : Char} (letter : c ≠ '_') (k : Nat) (r : List Char) :
    List.replicate k '_' ≠ c :: r := by
  intro same
  have mem : c ∈ List.replicate k '_' := by simp [same]
  exact letter (List.mem_replicate.1 mem).2

/-- Underscores do not make a getter's name. -/
theorem eq_getter_of_padded {name m : String} {k : Nat} (same : padded name k = getter m) :
    ∃ l, name = getter l := by
  have lists := congrArg String.toList same
  rw [toList_padded, toList_getter] at lists
  have letter : ∀ {text : List Char} {c : Char} {r : List Char}, c ≠ '_' →
      text ++ List.replicate k '_' = c :: r → ∃ t, text = c :: t ∧ r = t ++ List.replicate k '_' := by
    intro text c r other lists
    rcases List.append_eq_cons_iff.1 lists with ⟨-, none⟩ | found
    · exact absurd none (replicate_underscore_ne other k r)
    · exact found
  obtain ⟨t, first, lists⟩ := letter (by decide) lists
  obtain ⟨u, second, lists⟩ := letter (by decide) lists.symm
  obtain ⟨v, third, -⟩ := letter (by decide) lists.symm
  refine ⟨String.ofList v, ?_⟩
  rw [← String.toList_inj, toList_getter, String.toList_ofList, first, second, third]

/-! ### Marks -/

/-- The newest marks are those of the getter and of the name. -/
theorem taken_mark (s : NameScope) (n : String) (hasGetter : Bool) (x : String) :
    (s.mark n hasGetter).taken x = if x = getter n then hasGetter else (x = n || s.taken x) := by
  unfold taken mark
  rw [List.lookup_cons, List.lookup_cons]
  by_cases first : x = getter n
  · simp [first]
  · have other : (x == getter n) = false := by simpa using first
    rw [other, if_neg first]
    by_cases second : x = n
    · simp [second]
    · have different : (x == n) = false := by simpa using second
      simp [second, different]

theorem admits_iff : s.admits hasGetter n = true ↔
    s.taken n = false ∧ (hasGetter = true → s.taken (getter n) = false) := by
  cases hasGetter <;> simp [admits]

theorem mem_of_taken (taken : s.taken n = true) : n ∈ s.marks.map (·.1) := by
  cases found : s.marks.lookup n with
  | none => simp [NameScope.taken, found] at taken
  | some b =>
    obtain ⟨before, after, marks, -⟩ := List.lookup_eq_some_iff.1 found
    simp [marks]

/-! ### Choosing a name -/

/-- Each refused candidate, or its getter, is marked, and no mark refuses two of either kind. -/
theorem exists_admitted (s : NameScope) (hasGetter : Bool) (name : String) :
    ∃ k ≤ 2 * s.marks.length, s.admits hasGetter (padded name k) = true := by
  by_contra none
  push Not at none
  let keys := s.marks.map (·.1)
  let candidates := (List.range (2 * s.marks.length + 1)).map (padded name)
  have distinct : candidates.Nodup := List.nodup_range.map (padded_injective name)
  have refused : ∀ c ∈ candidates, c ∈ keys ∨ getter c ∈ keys := by
    intro c mem
    obtain ⟨k, inRange, rfl⟩ := List.mem_map.1 mem
    have refuses := none k (by have := List.mem_range.1 inRange; omega)
    rw [Ne, admits_iff, not_and_or, Bool.not_eq_false] at refuses
    rcases refuses with taken | refuses
    · exact .inl (mem_of_taken taken)
    · push Not at refuses
      exact .inr (mem_of_taken (by simpa using refuses.2))
  have marked : (candidates.filter (· ∈ keys)).length ≤ keys.length :=
    ((distinct.filter _).subperm fun c mem => by simpa using (List.mem_filter.1 mem).2).length_le
  have getters : ((candidates.filter fun c => !decide (c ∈ keys)).map getter).length ≤ keys.length := by
    refine (((distinct.filter _).map getter_injective).subperm fun g listed => ?_).length_le
    obtain ⟨c, kept, rfl⟩ := List.mem_map.1 listed
    obtain ⟨mem, unmarked⟩ := List.mem_filter.1 kept
    exact (refused c mem).resolve_left (by simpa using unmarked)
  have all := List.length_eq_length_filter_add (l := candidates) fun c => decide (c ∈ keys)
  simp only [List.length_map, candidates, List.length_range, keys] at marked getters all
  omega

theorem pick_eq (s : NameScope) (hasGetter : Bool) (tries : Nat) (name : String) :
    ∃ k ≤ tries, s.pick hasGetter tries name = padded name k ∧
      (k < tries → s.admits hasGetter (padded name k) = true) ∧
      ∀ j < k, s.admits hasGetter (padded name j) = false := by
  induction tries generalizing name with
  | zero => exact ⟨0, Nat.le_refl 0, by simp [pick], by simp, by simp⟩
  | succ tries ih =>
    rw [pick]
    split
    · next admitted => exact ⟨0, Nat.zero_le _, by simp, by simpa using admitted, by simp⟩
    · next refused =>
      obtain ⟨k, within, picked, admitted, fewer⟩ := ih (name ++ "_")
      simp only [padded_underscore] at picked admitted fewer
      refine ⟨k + 1, by omega, picked, fun h => admitted (by omega), fun j less => ?_⟩
      cases j with
      | zero => simpa using refused
      | succ j => exact fewer j (by omega)

/-- The first admitted name is chosen. -/
theorem choose_eq (s : NameScope) (name : String) (hasGetter : Bool) :
    ∃ k, s.choose name hasGetter = padded name k ∧ s.admits hasGetter (padded name k) = true ∧
      ∀ j < k, s.admits hasGetter (padded name j) = false := by
  obtain ⟨k, within, picked, admitted, fewer⟩ := pick_eq s hasGetter (2 * s.marks.length) name
  refine ⟨k, picked, ?_, fewer⟩
  rcases Nat.lt_or_eq_of_le within with less | last
  · exact admitted less
  · -- the last candidate is not tried, but one of them is admitted and all before it are refused
    obtain ⟨m, within', admitted'⟩ := exists_admitted s hasGetter name
    rcases Nat.lt_or_eq_of_le (last ▸ within') with less | same
    · rw [fewer m less] at admitted'
      cases admitted'
    · rwa [← same]

/-! ### Requests one after the other -/

/-- The names handed out for a sequence of requests, each with whether its member has a getter. -/
def handed : NameScope → List (String × Bool) → List (String × Bool)
  | _, [] => []
  | s, (name, hasGetter) :: r =>
    (s.choose name hasGetter, hasGetter) :: handed (s.mark (s.choose name hasGetter) hasGetter) r

theorem uniques_eq (s : NameScope) (requests : List (String × Bool)) :
    s.uniques requests = (s.handed requests).map (·.1) := by
  induction requests generalizing s with
  | nil => rfl
  | cons q r ih => exact congrArg _ (ih _)

/-- Each request is answered with its name and underscores behind it. -/
theorem forall₂_handed (s : NameScope) (requests : List (String × Bool)) :
    List.Forall₂ (fun q p => p.2 = q.2 ∧ ∃ k, p.1 = padded q.1 k) requests (s.handed requests) := by
  induction requests generalizing s with
  | nil => exact .nil
  | cons q r ih =>
    obtain ⟨k, chosen, -⟩ := choose_eq s q.1 q.2
    exact .cons ⟨rfl, k, chosen⟩ (ih _)

/-- No member without a getter asks for the name of a getter. -/
def Plain (requests : List (String × Bool)) : Prop :=
  ∀ name, (name, false) ∈ requests → ∀ m, name ≠ getter m

/-- What a scope keeps that has handed out the names of `given`. Only a member without a getter frees a
    name, and that is a getter's. -/
structure Keeps (s : NameScope) (given : List (String × Bool)) : Prop where
  reserved : ∀ n ∈ methodNames, s.taken n = true
  getters : ∀ n, (n, true) ∈ given → s.taken (getter n) = true
  names : ∀ p ∈ given, s.taken p.1 = true ∨ ∃ m, p.1 = getter m ∧ (m, false) ∈ given
  plain : Plain given

/-- Neither the names of two members nor, when both have getters, a name and a getter clash. -/
structure Apart (p q : String × Bool) : Prop where
  names : p.1 ≠ q.1
  getters : p.2 = true → q.2 = true → p.1 ≠ getter q.1 ∧ q.1 ≠ getter p.1

instance : Std.Symm Apart where
  symm _ _ apart := ⟨apart.names.symm, fun first second => (apart.getters second first).symm⟩

theorem getter_not_mem_methodNames (n : String) : getter n ∉ methodNames := by
  intro mem
  have none : ∀ m ∈ methodNames, m.toList.take 3 ≠ ['G', 'e', 't'] := by decide
  exact none _ mem (by rw [toList_getter]; rfl)

theorem keeps_fresh : Keeps fresh [] where
  reserved := by decide
  getters := by simp
  names := by simp
  plain := by simp [Plain]

namespace Keeps

variable {given : List (String × Bool)} (keeps : Keeps s given) (admitted : s.admits hasGetter n = true)

include keeps admitted

/-- The next name is not that of a member without a getter: such a name stays taken. -/
theorem not_mem : (n, false) ∉ given := by
  intro mem
  obtain ⟨free, -⟩ := admits_iff.1 admitted
  rcases keeps.names _ mem with taken | ⟨m, same, -⟩
  · rw [free] at taken
    cases taken
  · exact keeps.plain n mem m same

theorem mark (plain : hasGetter = false → ∀ m, n ≠ getter m) :
    Keeps (s.mark n hasGetter) ((n, hasGetter) :: given) where
  reserved m mem := by
    have other : m ≠ getter n := fun same => getter_not_mem_methodNames n (same ▸ mem)
    rw [taken_mark, if_neg other, keeps.reserved m mem, Bool.or_true]
  getters m mem := by
    rw [taken_mark]
    rcases List.mem_cons.1 mem with here | earlier
    · cases here
      exact if_pos rfl
    · have marked := keeps.getters m earlier
      by_cases same : getter m = getter n
      · -- the name is handed out again, which only a member with a getter can bring about
        rw [if_pos same]
        cases hasGetter with
        | true => rfl
        | false =>
          obtain ⟨free, -⟩ := admits_iff.1 admitted
          rcases keeps.names _ earlier with taken | ⟨l, named, -⟩
          · rw [getter_injective same, free] at taken
            cases taken
          · exact absurd (getter_injective same ▸ named) (plain rfl l)
      · rw [if_neg same, marked, Bool.or_true]
  names p mem := by
    rw [taken_mark]
    rcases List.mem_cons.1 mem with rfl | earlier
    · rw [if_neg (Ne.symm (getter_ne_self n))]
      exact .inl (by simp)
    · by_cases freed : p.1 = getter n
      · cases hasGetter with
        | true => exact .inl (if_pos freed)
        | false => exact .inr ⟨n, freed, by simp⟩
      · rw [if_neg freed]
        rcases keeps.names p earlier with taken | ⟨m, same, before⟩
        · exact .inl (by rw [taken, Bool.or_true])
        · exact .inr ⟨m, same, by simp [before]⟩
  plain m mem := by
    rcases List.mem_cons.1 mem with here | earlier
    · cases here
      exact plain rfl
    · exact keeps.plain m earlier

theorem apart (plain : hasGetter = false → ∀ m, n ≠ getter m) : ∀ p ∈ given, Apart p (n, hasGetter) := by
  obtain ⟨free, freeGetter⟩ := admits_iff.1 admitted
  rintro ⟨m, withGetter⟩ mem
  constructor
  · rintro rfl
    rcases keeps.names _ mem with taken | ⟨l, same, -⟩
    · rw [free] at taken
      cases taken
    · cases hasGetter with
      | false => exact plain rfl l same
      | true =>
        cases withGetter with
        | false => exact keeps.plain _ mem l same
        | true =>
          -- the getter of the first member is never freed
          have marked := keeps.getters _ mem
          rw [freeGetter rfl] at marked
          cases marked
  · rintro rfl rfl
    constructor
    · rintro rfl
      rcases keeps.names _ mem with taken | ⟨l, same, freed⟩
      · rw [freeGetter rfl] at taken
        cases taken
      · have named : n = l := getter_injective same
        exact keeps.not_mem admitted (named ▸ freed)
    · rintro rfl
      have marked := keeps.getters _ mem
      rw [free] at marked
      cases marked

theorem reserved_ne : n ∉ methodNames := by
  intro mem
  have taken := keeps.reserved n mem
  rw [(admits_iff.1 admitted).1] at taken
  cases taken

end Keeps

/-- What is handed out later clashes with nothing that was handed out before, nor with each other. -/
theorem Keeps.pairwise_handed {given : List (String × Bool)} (keeps : Keeps s given)
    {requests : List (String × Bool)} (plain : Plain requests) :
    (∀ p ∈ given, ∀ q ∈ s.handed requests, Apart p q) ∧ (s.handed requests).Pairwise Apart ∧
      ∀ q ∈ s.handed requests, q.1 ∉ methodNames := by
  induction requests generalizing s given with
  | nil => simp [handed]
  | cons request r ih =>
    obtain ⟨name, hasGetter⟩ := request
    obtain ⟨k, chosen, admitted, -⟩ := choose_eq s name hasGetter
    have here : hasGetter = false → ∀ m, padded name k ≠ getter m := by
      rintro rfl m same
      obtain ⟨l, asked⟩ := eq_getter_of_padded same
      exact plain name (by simp) l asked
    obtain ⟨before, among, reserved⟩ := ih (keeps.mark admitted here) fun m mem => plain m (by simp [mem])
    rw [handed, chosen]
    refine ⟨fun p mem q later => ?_, List.pairwise_cons.2 ⟨before _ (by simp), among⟩, fun q later => ?_⟩
    · rcases List.mem_cons.1 later with rfl | later
      · exact keeps.apart admitted here p mem
      · exact before p (by simp [mem]) q later
    · rcases List.mem_cons.1 later with rfl | later
      · exact keeps.reserved_ne admitted
      · exact reserved q later

/-- Names are handed out once when no member without a getter asks for a getter's name. -/
theorem nodup_uniques {requests : List (String × Bool)} (plain : Plain requests) :
    (fresh.uniques requests).Nodup := by
  obtain ⟨-, among, -⟩ := keeps_fresh.pairwise_handed plain
  rw [uniques_eq]
  exact (among.map (·.1) fun p q apart => apart.names)

theorem nodup_uniques_sample :
    Plain [("GetFoo", true), ("Foo", false), ("GetFoo", true), ("GetFoo_", true)] ∧
      (fresh.uniques [("GetFoo", true), ("Foo", false), ("GetFoo", true), ("GetFoo_", true)]).Nodup := by
  have plain : Plain [("GetFoo", true), ("Foo", false), ("GetFoo", true), ("GetFoo_", true)] := by
    intro name mem m same
    have only : name = "Foo" := by simpa using mem
    have lists := congrArg String.toList (only ▸ same)
    rw [toList_getter] at lists
    cases lists
  exact ⟨plain, nodup_uniques plain⟩

/-- A member without a getter frees the name that its getter would have. -/
theorem uniques_repeats :
    ¬ (fresh.uniques [("GetFoo", false), ("Foo", false), ("GetFoo", false)]).Nodup := by
  decide

end NameScope
end Regen.Ident
