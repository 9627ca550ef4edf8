import Regen.Proofs.Span.Shift
import Regen.Span.Printer

/-!
# What the annotation notation can hold

Whatever is read from a text has numbers that their fields can hold, known choices and nothing
unknown (`legible_of_read?`), and it stays so when bytes leave the file (`Legible.after`).
-/

namespace Regen

namespace Span

/-- An annotation that has a written form. -/
structure Legible (a : Span) : Prop extends Fits a where
  path : ∀ n ∈ a.path, Shape.Kind.int32.holds n = true
  semantic : ∀ n ∈ a.semantic, Shape.semantics.contains n = true
  octets : a.octets = []
  unknown : a.unknown = []

theorem legible_empty : Legible empty :=
  ⟨⟨nofun, nofun⟩, nofun, nofun, rfl, rfl⟩

theorem Legible.after {a : Span} (legible : a.Legible) (start length : Nat) :
    (a.after start length).Legible :=
  ⟨⟨holds_offsetAfter _ _ legible.begins, holds_offsetAfter _ _ legible.ends⟩, legible.path, legible.semantic,
    legible.octets, legible.unknown⟩

theorem holds_of_readInt {ts ts' : List Token} {n : Int} (h : readInt ts = some (n, ts')) :
    Shape.Kind.int32.holds n = true := by
  cases ts with
  | nil => cases h
  | cons t ts =>
    simp only [readInt, Option.bind_eq_bind, Option.bind_eq_some_iff] at h
    obtain ⟨m, -, h⟩ := h
    split at h
    · cases h
      assumption
    · cases h

theorem known_of_readSemantic {ts ts' : List Token} {n : Int} (h : readSemantic ts = some (n, ts')) :
    Shape.semantics.contains n = true := by
  cases ts with
  | nil => cases h
  | cons t ts =>
    simp only [readSemantic, Option.bind_eq_bind, Option.bind_eq_some_iff] at h
    obtain ⟨m, -, h⟩ := h
    split at h
    · cases h
      assumption
    · cases h

section Elements

variable {α : Type} {P : α → Prop} {element : List Token → Option (α × List Token)}

theorem forall_of_readElements (each : ∀ ts a ts', element ts = some (a, ts') → P a) {fuel : Nat}
    {ts ts' : List Token} {as : List α} (h : readElements element fuel ts = some (as, ts')) :
    ∀ a ∈ as, P a := by
  induction fuel generalizing ts as with
  | zero => cases h
  | succ fuel ih =>
    simp only [readElements, Option.bind_eq_bind, Option.bind_eq_some_iff] at h
    obtain ⟨⟨a, us⟩, first, h⟩ := h
    have here := each _ _ _ first
    split at h
    · cases h
      simpa using here
    · simp only [Option.bind_eq_some_iff] at h
      obtain ⟨vs, -, ⟨bs, ws⟩, more, h⟩ := h
      cases h
      have rest := ih more
      simpa using ⟨here, rest⟩

theorem forall_of_readRepeated (each : ∀ ts a ts', element ts = some (a, ts') → P a)
    {ts ts' : List Token} {as : List α} (h : readRepeated element ts = some (as, ts')) :
    ∀ a ∈ as, P a := by
  unfold readRepeated at h
  split at h
  · simp only [Option.bind_eq_bind, Option.bind_eq_some_iff] at h
    obtain ⟨⟨a, us⟩, first, h⟩ := h
    cases h
    simpa using each _ _ _ first
  · split at h
    · cases h
      simp
    · exact forall_of_readElements each h

end Elements

/-- The value of a field keeps an annotation legible. -/
theorem Legible.readValue {a b : Span} {name : Token} {ts ts' : List Token} (legible : a.Legible)
    (h : readValue a name ts = some (b, ts')) : b.Legible := by
  unfold Span.readValue at h
  simp only [Option.bind_eq_bind] at h
  split at h
  · obtain ⟨⟨ns, us⟩, numbers, h⟩ := Option.bind_eq_some_iff.1 h
    cases h
    have fit := forall_of_readRepeated (fun _ _ _ => holds_of_readInt) numbers
    refine ⟨⟨legible.begins, legible.ends⟩, ?_, legible.semantic, legible.octets, legible.unknown⟩
    intro n hn
    rcases List.mem_append.1 hn with old | new
    · exact legible.path n old
    · exact fit n new
  split at h
  · obtain ⟨⟨bs, us⟩, -, h⟩ := Option.bind_eq_some_iff.1 h
    obtain ⟨s, -, h⟩ := Option.bind_eq_some_iff.1 h
    cases h
    exact ⟨⟨legible.begins, legible.ends⟩, legible.path, legible.semantic, legible.octets, legible.unknown⟩
  split at h
  · obtain ⟨⟨n, us⟩, number, h⟩ := Option.bind_eq_some_iff.1 h
    cases h
    refine ⟨⟨?_, legible.ends⟩, legible.path, legible.semantic, legible.octets, legible.unknown⟩
    rintro _ ⟨⟩
    exact holds_of_readInt number
  split at h
  · obtain ⟨⟨n, us⟩, number, h⟩ := Option.bind_eq_some_iff.1 h
    cases h
    refine ⟨⟨legible.begins, ?_⟩, legible.path, legible.semantic, legible.octets, legible.unknown⟩
    rintro _ ⟨⟩
    exact holds_of_readInt number
  split at h
  · obtain ⟨⟨n, us⟩, number, h⟩ := Option.bind_eq_some_iff.1 h
    cases h
    refine ⟨⟨legible.begins, legible.ends⟩, legible.path, ?_, legible.octets, legible.unknown⟩
    rintro _ ⟨⟩
    exact known_of_readSemantic number
  · cases h

theorem Legible.readField {a b : Span} {ts ts' : List Token} (legible : a.Legible)
    (h : readField a ts = some (b, ts')) : b.Legible := by
  cases ts with
  | nil => cases h
  | cons name ts =>
    simp only [Span.readField, Option.bind_eq_bind, Option.bind_eq_some_iff] at h
    obtain ⟨us, -, ⟨c, vs⟩, value, h⟩ := h
    cases h
    exact legible.readValue value

theorem Legible.readFields {close : String} {fuel : Nat} {a b : Span} {ts ts' : List Token}
    (legible : a.Legible) (h : readFields close fuel a ts = some (b, ts')) : b.Legible := by
  induction fuel generalizing a ts with
  | zero => cases h
  | succ fuel ih =>
    simp only [Span.readFields] at h
    split at h
    · cases h
      exact legible
    · simp only [Option.bind_eq_bind, Option.bind_eq_some_iff] at h
      obtain ⟨⟨c, us⟩, field, h⟩ := h
      exact ih (legible.readField field) h

theorem legible_of_readSpan {a : Span} {ts ts' : List Token} (h : readSpan ts = some (a, ts')) :
    a.Legible := by
  unfold readSpan at h
  split at h
  · exact legible_empty.readFields h
  · simp only [Option.bind_eq_bind, Option.bind_eq_some_iff] at h
    obtain ⟨us, -, h⟩ := h
    exact legible_empty.readFields h

theorem legible_of_readAll {fuel : Nat} {ts : List Token} {as : List Span}
    (h : readAll fuel ts = some as) : ∀ a ∈ as, a.Legible := by
  induction fuel generalizing ts as with
  | zero =>
    cases ts with
    | nil => cases h; simp
    | cons t ts => cases h
  | succ fuel ih =>
    cases ts with
    | nil => cases h; simp
    | cons t ts =>
      simp only [readAll, Option.bind_eq_bind] at h
      split at h
      · cases h
      · simp only [Option.bind_eq_some_iff] at h
        obtain ⟨⟨bs, us⟩, here, more, rest, h⟩ := h
        cases h
        intro a ha
        rcases List.mem_append.1 ha with first | later
        · exact forall_of_readRepeated (fun _ _ _ => legible_of_readSpan) here a first
        · exact ih rest a later

end Span

namespace CodeInfo

/-- Annotations that have a written form. -/
structure Legible (info : CodeInfo) : Prop where
  spans : ∀ a ∈ info.spans, a.Legible
  unknown : info.unknown = []

theorem Legible.fits {info : CodeInfo} (legible : info.Legible) : info.Fits :=
  fun a ha => (legible.spans a ha).toFits

theorem Legible.after {info : CodeInfo} (legible : info.Legible) (start length : Nat) :
    (info.after start length).Legible := by
  refine ⟨?_, legible.unknown⟩
  intro a ha
  obtain ⟨b, hb, rfl⟩ := List.mem_map.1 ha
  exact (legible.spans b hb).after start length

theorem legible_of_read? {s : String} {info : CodeInfo} (h : read? s = some info) : info.Legible := by
  obtain ⟨as, all, rfl⟩ := Option.map_eq_some_iff.1 h
  exact ⟨Span.legible_of_readAll all, rfl⟩

end CodeInfo
end Regen
