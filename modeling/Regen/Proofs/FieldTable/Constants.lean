import Mathlib.Data.List.Nodup
import Regen.Proofs.FieldTable.RoundTrip
import Regen.Proofs.Ident.Underscores

/-!
# The constants of a table

All constants of a file share one scope. A table declares one for each field of each message, and calls it by the
identifiers of the message and of the field with an underscore between them (`declared_render`). An underscore may also
stand in either of the two, so that a constant may be divided at more than one place. When the identifiers of the
messages are apart, two constants are called the same exactly when one message's identifier goes on where the other's
ends and a field of the other is called by what is left (`Meets`, `render_declares_once`). That takes a field whose
identifier has an underscore in front of an upper-case letter, and a field in lower case with single underscores has
none (`not_meets`).
-/

namespace Regen

/-! ### Names inside the package -/

namespace Descriptor

mutual

theorem inOrder_append (front outer : String) (d : Descriptor) :
    d.inOrder (front ++ outer) = (d.inOrder outer).map fun m => (front ++ m.1, m.2) := by
  cases d with
  | mk name fields nested oneofs =>
    rw [inOrder, inOrder, List.map_cons, String.append_assoc, String.append_assoc, inOrderList_append]
termination_by sizeOf d

theorem inOrderList_append (front outer : String) (ds : List Descriptor) :
    inOrderList (front ++ outer) ds = (inOrderList outer ds).map fun m => (front ++ m.1, m.2) := by
  cases ds with
  | nil => rfl
  | cons d ds => rw [inOrderList, inOrderList, List.map_append, inOrder_append, inOrderList_append]
termination_by sizeOf ds

end

end Descriptor

/-- The messages of a file in order, with their names inside its package. -/
def FileDescriptor.locals (file : FileDescriptor) : List (String × Descriptor) :=
  Descriptor.inOrderList "" file.messages

theorem FileDescriptor.inOrder_eq_map_locals (file : FileDescriptor) :
    file.inOrder = file.locals.map fun m => (scope file.package ++ m.1, m.2) := by
  have qualified := Descriptor.inOrderList_append (scope file.package) "" file.messages
  rwa [String.append_empty] at qualified

theorem FileDescriptor.Legal.of_mem_locals {file : FileDescriptor} (legal : file.Legal) {m : String × Descriptor}
    (mem : m ∈ file.locals) : m.2.Legal := by
  refine legal.messages (FileDescriptor.scope file.package ++ m.1, m.2) ?_
  rw [file.inOrder_eq_map_locals]
  exact List.mem_map_of_mem mem

namespace FieldTable

open FileDescriptor (scope)

/-! ### What is declared -/

/-- The constant that a line declares. -/
def declared? : List Char → Option String
  | '\t' :: rest => some (.ofList (word rest))
  | _ => none

/-- The constants that a table declares, in order. -/
def declared (text : String) : List String := (tableLines text.toList).filterMap declared?

/-- What the fields of a message are called, and nothing where that fails. -/
def fieldNamesOf (d : Descriptor) : List String := (Ident.fieldNames d).toOption.getD []

/-- The constants for the fields of a message, which has the given name inside its package. -/
def constants (m : String × Descriptor) : List String :=
  (fieldNamesOf m.2).map fun name => Ident.camel m.1 ++ "_" ++ name

theorem declared?_line {owner : String} {e : Entry} (plain : ' ' ∉ owner.toList) (plain' : ' ' ∉ e.name.toList) :
    declared? (e.line owner).toList = some (owner ++ "_" ++ e.name) := by
  have blank : ' ' ∉ owner.toList ++ '_' :: e.name.toList := by simp [plain, plain']
  have line : (e.line owner).toList = '\t' :: ((owner.toList ++ '_' :: e.name.toList) ++
      ' ' :: ("= ".toList ++ (e.number.repr.toList ++ (" // ".toList ++ (e.cardinality.toList ++
        (" ".toList ++ e.kind.toList)))))) := by
    rw [toList_line]
    simp
  have name : (owner ++ "_" ++ e.name).toList = owner.toList ++ '_' :: e.name.toList := by simp
  rw [line, declared?, word_append blank, ← name, String.ofList_toList]

/-- A block declares a constant for each of its entries and no other. -/
theorem declared?_lines {b : Block} (plain : b.Plain) (blank : ' ' ∉ b.owner.toList) :
    (b.lines.map String.toList).filterMap declared? = b.entries.map fun e => b.owner ++ "_" ++ e.name := by
  have entries : (b.entries.map fun e => (e.line b.owner).toList).filterMap declared? =
      b.entries.map fun e => b.owner ++ "_" ++ e.name := by
    rw [List.filterMap_map, ← List.filterMap_eq_map]
    exact List.filterMap_congr fun e mem => declared?_line blank (plain.entries e mem).name.1
  have title : declared? ("// Field numbers for ".toList ++ (b.message.toList ++ ".".toList)) = none := rfl
  have opening : declared? "const (".toList = none := rfl
  have closing : [")".toList].filterMap declared? = [] := rfl
  rw [lines_eq, List.filterMap_cons, title, body, List.cons_append, List.filterMap_cons, opening,
    List.filterMap_append, entries, closing, List.append_nil]

/-- The block of a message has its constants. -/
theorem constants_eq {package : String} {m : String × Descriptor} {b : Block} (legal : m.2.Legal)
    (describes : Describes package (scope package ++ m.1, m.2) b) :
    (b.entries.map fun e => b.owner ++ "_" ++ e.name) = constants m := by
  obtain ⟨localName, full, owner⟩ := describes.owner
  obtain ⟨names, named, listed⟩ := describes.entries
  have own : m.1 = localName := by simpa using full
  have same := (forall₂_entries (Ident.forall₂_fieldNames legal.oneofs named)).2
  rw [constants, fieldNamesOf, named, Except.toOption, Option.getD_some, ← same, List.map_map, own, ← owner, listed]
  rfl

/-- A legal file has a table, and this declares the constants of its messages. -/
theorem declared_render {file : FileDescriptor} (legal : file.Legal) (package preamble : String) :
    ∃ text, render file package preamble = .ok text ∧ declared text = file.locals.flatMap constants := by
  obtain ⟨bs, found, described⟩ := blocks_inOrder fun m mem => (legal.messages m mem).oneofs
  have full := plain_inOrderList (plain_scope legal.package) legal.messages
  have each : ∀ m ∈ file.inOrder, m.2.Legal ∧ Plain m.1 := fun m mem => ⟨legal.messages m mem, full m mem⟩
  have both := (List.forall₂_and_left _ _).2 ⟨each, described⟩
  have plain : ∀ b ∈ bs, b.Plain ∧ ' ' ∉ b.owner.toList := by
    intro b mem
    obtain ⟨m, -, ⟨legal, full⟩, describes⟩ := (mem_of_forall₂ both).2 b mem
    exact ⟨plain_block legal full describes, fun blank => by cases isNamePart_owner full describes _ blank⟩
  have constants : (bs.map fun b => b.entries.map fun e => b.owner ++ "_" ++ e.name) =
      file.locals.map constants := by
    rw [file.inOrder_eq_map_locals, List.forall₂_map_left_iff] at both
    exact map_eq_of_forall₂ both fun m b both => constants_eq both.1.1 both.2
  refine ⟨_, by rw [render, found]; rfl, ?_⟩
  rw [declared, tableLines_blocks preamble package fun b mem => (plain b mem).1, List.map_flatMap,
    List.filterMap_flatMap, List.flatMap_congr fun b mem => declared?_lines (plain b mem).1 (plain b mem).2,
    List.flatMap_def, constants, ← List.flatMap_def]

/-! ### Constants that are called the same -/

/-- The identifier of the first message goes on in that of the second, and a field of the first is called by what is
left and a name of a field of the second, with underscores between. -/
def Meets (m n : String × Descriptor) : Prop :=
  ∃ part, Ident.camel n.1 = Ident.camel m.1 ++ "_" ++ part ∧
    ∃ name ∈ fieldNamesOf n.2, part ++ "_" ++ name ∈ fieldNamesOf m.2

theorem Meets.ne {m n : String × Descriptor} (meets : Meets m n) : m ≠ n := by
  rintro rfl
  obtain ⟨part, same, -⟩ := meets
  have lengths := congrArg String.length same
  simp only [String.length_append] at lengths
  have one : "_".length = 1 := rfl
  omega

theorem Meets.common {m n : String × Descriptor} (meets : Meets m n) : ∃ c ∈ constants m, c ∈ constants n := by
  obtain ⟨part, owner, name, theirs, own⟩ := meets
  refine ⟨Ident.camel n.1 ++ "_" ++ name, List.mem_map.2 ⟨_, own, ?_⟩, List.mem_map_of_mem theirs⟩
  simp only [owner, String.append_assoc]

/-- What stands between the two places at which a constant is divided belongs to the longer message and to the longer
field. -/
theorem exists_part {x y a b : String} {t : List Char} (other : x ≠ y) (longer : y.toList = x.toList ++ t)
    (rest : '_' :: a.toList = t ++ '_' :: b.toList) : ∃ part, y = x ++ "_" ++ part ∧ a = part ++ "_" ++ b := by
  cases t with
  | nil => exact absurd (String.toList_inj.1 (by rw [longer, List.append_nil])) other
  | cons d t =>
    rw [List.cons_append] at rest
    obtain ⟨rfl, rest⟩ := List.cons.inj rest
    refine ⟨.ofList t, String.toList_inj.1 ?_, String.toList_inj.1 ?_⟩
    · simp [longer]
    · simpa using rest

theorem meets_of_common {m n : String × Descriptor} (apart : Ident.camel m.1 ≠ Ident.camel n.1) {c : String}
    (first : c ∈ constants m) (second : c ∈ constants n) : Meets m n ∨ Meets n m := by
  obtain ⟨a, mem, rfl⟩ := List.mem_map.1 first
  obtain ⟨b, mem', same⟩ := List.mem_map.1 second
  have lists := congrArg String.toList same
  simp only [String.toList_append, List.append_assoc] at lists
  rcases List.append_eq_append_iff.1 lists with ⟨t, longer, rest⟩ | ⟨t, longer, rest⟩
  · obtain ⟨part, owner, name⟩ := exists_part apart.symm longer rest
    exact .inr ⟨part, owner, a, mem, name ▸ mem'⟩
  · obtain ⟨part, owner, name⟩ := exists_part apart longer rest
    exact .inl ⟨part, owner, b, mem', name ▸ mem⟩

/-- The fields of a message have names that are apart. -/
theorem nodup_fieldNamesOf {d : Descriptor} (declared : d.OneofsDeclared)
    (plain : ∀ o ∈ d.oneofs, ∀ n, Ident.camel o ≠ Ident.NameScope.getter n) : (fieldNamesOf d).Nodup := by
  obtain ⟨names, named, apart⟩ := Ident.fieldNames_apart declared plain
  rw [fieldNamesOf, named]
  exact apart.distinct

theorem nodup_constants_iff {ms : List (String × Descriptor)} (distinct : ∀ m ∈ ms, (fieldNamesOf m.2).Nodup)
    (apart : (ms.map fun m => Ident.camel m.1).Nodup) :
    (ms.flatMap constants).Nodup ↔ ∀ m ∈ ms, ∀ n ∈ ms, ¬ Meets m n := by
  have within : ∀ m ∈ ms, (constants m).Nodup := by
    intro m mem
    refine (distinct m mem).map fun a b same => ?_
    simpa using same
  have owners : ms.Pairwise fun m n => Ident.camel m.1 ≠ Ident.camel n.1 := List.pairwise_map.1 apart
  rw [List.nodup_flatMap]
  constructor
  · rintro ⟨-, across⟩ m mem n mem' meets
    obtain ⟨c, own, theirs⟩ := meets.common
    have symm : Std.Symm (Function.onFun List.Disjoint constants) :=
      ⟨fun _ _ disjoint _ theirs own => disjoint own theirs⟩
    exact across.forall mem mem' meets.ne own theirs
  · intro none
    refine ⟨within, owners.imp_of_mem fun {m n} mem mem' apart c own theirs => ?_⟩
    rcases meets_of_common apart own theirs with meets | meets
    · exact none m mem n mem' meets
    · exact none n mem' m mem meets

/-- No field in lower case with single underscores is called by a name with another field's name behind it. -/
theorem not_meets {m n : String × Descriptor} (legal : m.2.Legal) (legal' : n.2.Legal)
    (joined : ∀ f ∈ m.2.fields, f.name.toList.IsChain Ident.Joins) : ¬ Meets m n := by
  have named : ∀ {d : Descriptor}, d.Legal → ∀ name ∈ fieldNamesOf d, ∃ f ∈ d.fields, ∃ k,
      name = Ident.padded (Ident.camel f.name) k := by
    intro d legal name mem
    have names := Ident.fieldNames_eq legal.oneofs
    rw [fieldNamesOf, names] at mem
    exact (mem_of_forall₂ (Ident.forall₂_fieldNames legal.oneofs names)).2 name mem
  rintro ⟨part, -, name, theirs, own⟩
  obtain ⟨f, field, k, whole⟩ := named legal _ own
  obtain ⟨g, field', l, behind⟩ := named legal' _ theirs
  obtain ⟨c, r, text, upper⟩ := Ident.padded_opens (legal'.fields g field').name l
  have chain := Ident.isChain_padded (joined f field) k
  have divided : (part ++ "_" ++ name).toList = part.toList ++ '_' :: c :: r := by
    rw [behind, String.toList_append, String.toList_append, text, List.append_assoc]
    rfl
  rw [← whole, divided] at chain
  have plain := (List.isChain_append_cons_cons.1 chain).2.1 rfl
  rw [upper] at plain
  cases plain

/-- In a legal file whose messages have identifiers that are apart, and where no oneof asks for the name of a getter,
the constants of a table are apart if and only if no two messages meet. -/
theorem render_declares_once {file : FileDescriptor} (legal : file.Legal)
    (plain : ∀ m ∈ file.locals, ∀ o ∈ m.2.oneofs, ∀ n, Ident.camel o ≠ Ident.NameScope.getter n)
    (apart : (file.locals.map fun m => Ident.camel m.1).Nodup) (package preamble : String) :
    ∃ text, render file package preamble = .ok text ∧ declared text = file.locals.flatMap constants ∧
      ((declared text).Nodup ↔ ∀ m ∈ file.locals, ∀ n ∈ file.locals, ¬ Meets m n) ∧
      ((∀ m ∈ file.locals, ∀ f ∈ m.2.fields, f.name.toList.IsChain Ident.Joins) → (declared text).Nodup) := by
  obtain ⟨text, rendered, shown⟩ := declared_render legal package preamble
  have legals := fun m mem => legal.of_mem_locals (m := m) mem
  have once := nodup_constants_iff (fun m mem => nodup_fieldNamesOf (legals m mem).oneofs (plain m mem)) apart
  rw [← shown] at once
  exact ⟨text, rendered, shown, once, fun joined => once.2 fun m mem n mem' =>
    not_meets (legals m mem) (legals n mem') (joined m mem)⟩

namespace Sample

theorem plain_locals :
    ∀ m ∈ file.locals, ∀ o ∈ m.2.oneofs, ∀ n, Ident.camel o ≠ Ident.NameScope.getter n := by
  intro m mem o listed n same
  have only : ∀ m ∈ file.locals, ∀ o ∈ m.2.oneofs, o = "kind" := by decide
  have lists := congrArg String.toList (only m mem o listed ▸ same)
  have first : (Ident.camel "kind").toList = ['K', 'i', 'n', 'd'] := by decide
  rw [Ident.NameScope.toList_getter, first] at lists
  cases lists

end Sample

theorem render_declares_once_sample :
    Sample.file.Legal ∧
      (∀ m ∈ Sample.file.locals, ∀ o ∈ m.2.oneofs, ∀ n, Ident.camel o ≠ Ident.NameScope.getter n) ∧
      (Sample.file.locals.map fun m => Ident.camel m.1).Nodup ∧
      (∀ m ∈ Sample.file.locals, ∀ f ∈ m.2.fields, f.name.toList.IsChain Ident.Joins) ∧
      ∃ text, render Sample.file "fieldnum" "// Code generated.\n\n" = .ok text ∧
        declared text = ["Struct_Fields", "Struct_Reset_", "Struct_FieldsEntry_Key", "Struct_FieldsEntry_GetKey_"] ∧
        (∀ m ∈ Sample.file.locals, ∀ n ∈ Sample.file.locals, ¬ Meets m n) ∧ (declared text).Nodup := by
  have apart : (Sample.file.locals.map fun m => Ident.camel m.1).Nodup := by decide
  have joined : ∀ m ∈ Sample.file.locals, ∀ f ∈ m.2.fields, f.name.toList.IsChain Ident.Joins := by decide
  obtain ⟨text, rendered, shown, once, flush⟩ :=
    render_declares_once Sample.legal Sample.plain_locals apart "fieldnum" "// Code generated.\n\n"
  exact ⟨Sample.legal, Sample.plain_locals, apart, joined, text, rendered, shown.trans (by decide),
    once.1 (flush joined), flush joined⟩

namespace Sample

/-- A message with a field that is called like the message nested in it and a field of that. -/
def crossed : FileDescriptor where
  name := "crossed.proto"
  package := "google.protobuf"
  messages := [.mk "A" [⟨"B_C", 1, 1, 9, "", none⟩] [.mk "B" [⟨"c", 1, 1, 9, "", none⟩] [] []] []]

theorem legal_single {name field : String} (own : Ident.IsIdentifier name) (called : Ident.IsIdentifier field)
    (nested : List Descriptor) : Descriptor.Legal (.mk name [⟨field, 1, 1, 9, "", none⟩] nested []) where
  name := own
  fields f mem := by
    rw [List.mem_singleton.1 mem]
    exact legal_scalar called
  oneofs f mem i index := by
    rw [List.mem_singleton.1 mem] at index
    cases index

theorem legal_crossed : crossed.Legal where
  package := .inr (.more (s := "google") (t := "protobuf") (by decide) (.one (by decide)))
  messages m mem := by
    simp only [crossed, FileDescriptor.inOrder, Descriptor.inOrderList, Descriptor.inOrder, List.append_nil,
      List.mem_cons, List.not_mem_nil, or_false] at mem
    rcases mem with rfl | rfl
    · exact legal_single (by decide) (by decide) _
    · exact legal_single (by decide) (by decide) []

end Sample

/-- The field `B_C` of a message `A` and the field `c` of a message `B` nested in it have one constant. -/
theorem render_declares_twice :
    Sample.crossed.Legal ∧ (∀ m ∈ Sample.crossed.locals, m.2.oneofs = []) ∧
      (∀ m ∈ Sample.crossed.locals, (m.2.fields.map (·.name)).Nodup ∧ (m.2.nested.map (·.name)).Nodup) ∧
      (Sample.crossed.messages.map (·.name)).Nodup ∧
      (Sample.crossed.locals.map fun m => Ident.camel m.1).Nodup ∧
      ∃ text, render Sample.crossed "fieldnum" "" = .ok text ∧ declared text = ["A_B_C", "A_B_C"] ∧
        ¬ (declared text).Nodup := by
  obtain ⟨text, rendered, shown⟩ := declared_render Sample.legal_crossed "fieldnum" ""
  have twice : declared text = ["A_B_C", "A_B_C"] := shown.trans (by decide)
  exact ⟨Sample.legal_crossed, by decide, by decide, by decide, by decide, text, rendered, twice,
    by rw [twice]; decide⟩

end FieldTable
end Regen
