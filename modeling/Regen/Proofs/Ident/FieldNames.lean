import Mathlib.Data.List.Forall2
import Regen.Ident.FieldNames
import Regen.Proofs.Ident.NameScope

/-!
# The identifiers of a message's fields do not clash

The fields and oneofs of a message ask its scope for names in one sequence (`members`), and the fields get
those that are handed out to members with a getter (`fieldNamesFrom_eq`). So the fields' names are apart
from each other and from each other's getters (`fieldNames_apart`), as long as no oneof asks for the name
of a getter.
-/

namespace Regen

/-- Every oneof that a field stands in is declared; a negative index counts from the end. -/
def Descriptor.OneofsDeclared (d : Descriptor) : Prop :=
  ∀ f ∈ d.fields, ∀ i, f.oneofIndex = some i → -(d.oneofs.length : Int) ≤ i ∧ i < d.oneofs.length

namespace Ident

open NameScope

theorem elementAt?_of_inRange {α : Type} {xs : List α} {i : Int} (low : -(xs.length : Int) ≤ i)
    (high : i < xs.length) : ∃ x ∈ xs, elementAt? xs i = some x := by
  unfold elementAt?
  split
  · next positive =>
    have inside : i.toNat < xs.length := by omega
    exact ⟨xs[i.toNat], List.getElem_mem inside, List.getElem?_eq_getElem inside⟩
  · next negative =>
    have inside : xs.length - (-i).toNat < xs.length := by omega
    rw [if_pos (by omega)]
    exact ⟨xs[xs.length - (-i).toNat], List.getElem_mem inside, List.getElem?_eq_getElem inside⟩

theorem oneofIndex_of_newOneof {seen : List Int} {f : FieldDescriptor} {i : Int}
    (new : newOneof seen f = some i) : f.oneofIndex = some i := by
  unfold newOneof at new
  split at new
  · next j index =>
    split at new
    · cases new
    · rw [index, new]
  · cases new

/-- Every oneof that a field stands in is found. -/
def Declared (oneofs : List String) (fs : List FieldDescriptor) : Prop :=
  ∀ f ∈ fs, ∀ i, f.oneofIndex = some i → ∃ o ∈ oneofs, elementAt? oneofs i = some o

theorem Declared.tail {oneofs : List String} {f : FieldDescriptor} {fs : List FieldDescriptor}
    (declared : Declared oneofs (f :: fs)) : Declared oneofs fs :=
  fun g mem => declared g (List.mem_cons_of_mem f mem)

theorem declared_of_inRange {d : Descriptor} (declared : d.OneofsDeclared) : Declared d.oneofs d.fields := by
  intro f mem i index
  obtain ⟨low, high⟩ := declared f mem i index
  exact elementAt?_of_inRange low high

/-- The oneof at an index. -/
def oneofName (oneofs : List String) (i : Int) : String := (elementAt? oneofs i).getD ""

/-- What the members of a message ask its scope for. -/
def members (oneofs : List String) : List Int → List FieldDescriptor → List (String × Bool)
  | _, [] => []
  | seen, f :: fs =>
    (camel f.name, true) :: match newOneof seen f with
      | none => members oneofs seen fs
      | some i => (camel (oneofName oneofs i), false) :: members oneofs (i :: seen) fs

theorem filter_members (oneofs : List String) (seen : List Int) (fs : List FieldDescriptor) :
    (members oneofs seen fs).filter (·.2) = fs.map fun f => (camel f.name, true) := by
  induction fs generalizing seen with
  | nil => rfl
  | cons f fs ih =>
    rw [members]
    cases newOneof seen f with
    | none => simp [ih]
    | some i => simp [ih]

/-- The fields get the names of the members with a getter. -/
theorem fieldNamesFrom_eq {oneofs : List String} {fs : List FieldDescriptor} {seen : List Int}
    (declared : Declared oneofs fs) (scope : NameScope) : fieldNamesFrom oneofs scope seen fs =
      .ok (((scope.handed (members oneofs seen fs)).filter (·.2)).map (·.1)) := by
  induction fs generalizing scope seen with
  | nil => rfl
  | cons f fs ih =>
    have later : Declared oneofs fs := declared.tail
    rw [fieldNamesFrom, members]
    cases new : newOneof seen f with
    | none =>
      simp only [unique, ih later, handed]
      rfl
    | some i =>
      obtain ⟨o, -, found⟩ := declared f (by simp) i (oneofIndex_of_newOneof new)
      simp only [unique, found, ih later, handed, oneofName, Option.getD_some]
      rfl

/-- A member without a getter is a declared oneof. -/
theorem plain_members {oneofs : List String} {fs : List FieldDescriptor} {seen : List Int}
    (declared : Declared oneofs fs) (plain : ∀ o ∈ oneofs, ∀ m, camel o ≠ getter m) :
    Plain (members oneofs seen fs) := by
  induction fs generalizing seen with
  | nil => simp [members, Plain]
  | cons f fs ih =>
    have later : Declared oneofs fs := declared.tail
    intro name mem
    rw [members] at mem
    cases new : newOneof seen f with
    | none => exact ih later name (by simpa [new] using mem)
    | some i =>
      obtain ⟨o, listed, found⟩ := declared f (by simp) i (oneofIndex_of_newOneof new)
      simp only [new, oneofName, found, Option.getD_some, List.mem_cons, Prod.mk.injEq,
        Bool.false_eq_true, and_false, false_or, and_true] at mem
      rcases mem with rfl | mem
      · exact plain o listed
      · exact ih later name mem

/-- Names for the fields of a message, one for each in order, that clash with nothing. -/
structure FieldsApart (fields : List FieldDescriptor) (names : List String) : Prop where
  padded : List.Forall₂ (fun f name => ∃ k, name = padded (camel f.name) k) fields names
  distinct : names.Nodup
  reserved : ∀ name ∈ names, name ∉ methodNames
  getters : ∀ name ∈ names, ∀ other ∈ names, name ≠ getter other

/-- Each field of a message gets a name. -/
theorem fieldNames_eq {d : Descriptor} (declared : d.OneofsDeclared) :
    fieldNames d = .ok (((fresh.handed (members d.oneofs [] d.fields)).filter (·.2)).map (·.1)) :=
  fieldNamesFrom_eq (declared_of_inRange declared) fresh

theorem forall₂_fieldNames {d : Descriptor} (declared : d.OneofsDeclared) {names : List String}
    (named : fieldNames d = .ok names) :
    List.Forall₂ (fun f name => ∃ k, name = padded (camel f.name) k) d.fields names := by
  let answers (q p : String × Bool) : Prop := p.2 = q.2 ∧ ∃ k, p.1 = padded q.1 k
  have flags : ∀ q p, answers q p → (q.2 = true ↔ p.2 = true) := fun q p same => by rw [same.1]
  have pairs : List.Forall₂ answers ((members d.oneofs [] d.fields).filter (·.2))
      ((fresh.handed (members d.oneofs [] d.fields)).filter (·.2)) :=
    List.rel_filter (fun q p => flags q p) (forall₂_handed fresh _)
  rw [fieldNames_eq declared] at named
  cases named
  rw [filter_members, List.forall₂_map_left_iff] at pairs
  rw [List.forall₂_map_right_iff]
  exact pairs.imp fun f p named => named.2

/-- The names of a message's fields clash neither with each other nor with each other's getters. -/
theorem fieldNames_apart {d : Descriptor} (declared : d.OneofsDeclared)
    (plain : ∀ o ∈ d.oneofs, ∀ m, camel o ≠ getter m) :
    ∃ names, fieldNames d = .ok names ∧ FieldsApart d.fields names := by
  have asked : Plain (members d.oneofs [] d.fields) := plain_members (declared_of_inRange declared) plain
  obtain ⟨-, among, reserved⟩ := keeps_fresh.pairwise_handed asked
  have named := fieldNames_eq declared
  generalize fresh.handed (members d.oneofs [] d.fields) = handed at among reserved named
  have apart : (handed.filter (·.2)).Pairwise Apart := among.filter (·.2)
  refine ⟨_, named, forall₂_fieldNames declared named, ?_, ?_, ?_⟩
  · exact apart.map (·.1) fun p q apart => apart.names
  · intro name mem
    obtain ⟨p, listed, rfl⟩ := List.mem_map.1 mem
    exact reserved p (List.mem_filter.1 listed).1
  · intro name mem other mem'
    obtain ⟨p, listed, rfl⟩ := List.mem_map.1 mem
    obtain ⟨q, listed', rfl⟩ := List.mem_map.1 mem'
    by_cases same : p = q
    · rw [same]
      exact (getter_ne_self q.1).symm
    · exact ((apart.forall listed listed' same).getters (List.mem_filter.1 listed).2
        (List.mem_filter.1 listed').2).1

namespace Sample

def field (name : String) (oneof : Option Int) : FieldDescriptor := ⟨name, 1, 1, 9, "", oneof⟩

/-- The oneof `foo` frees the name `GetFoo`, for which the third field asks again. -/
def message : Descriptor :=
  .mk "M" [field "get_foo" none, field "bar" (some 0), field "GetFoo" none, field "string" none] [] ["foo"]

theorem declared : message.OneofsDeclared := by
  intro f mem i index
  have fields : f = field "get_foo" none ∨ f = field "bar" (some 0) ∨ f = field "GetFoo" none ∨
      f = field "string" none := by simpa [message, Descriptor.fields] using mem
  rcases fields with rfl | rfl | rfl | rfl <;> cases index
  decide

theorem plain : ∀ o ∈ message.oneofs, ∀ m, camel o ≠ getter m := by
  intro o mem m same
  have only : o = "foo" := by simpa [message, Descriptor.oneofs] using mem
  have lists := congrArg String.toList (only ▸ same)
  rw [toList_getter] at lists
  have first : (camel "foo").toList = ['F', 'o', 'o'] := by decide
  rw [first] at lists
  cases lists

end Sample

theorem fieldNames_apart_sample : Sample.message.OneofsDeclared ∧
    (∀ o ∈ Sample.message.oneofs, ∀ m, camel o ≠ getter m) ∧
    ∃ names, fieldNames Sample.message = .ok names ∧ FieldsApart Sample.message.fields names :=
  ⟨Sample.declared, Sample.plain, fieldNames_apart Sample.declared Sample.plain⟩

example : fieldNames Sample.message = .ok ["GetFoo", "Bar", "GetFoo_", "String_"] := by rfl

end Ident
end Regen
