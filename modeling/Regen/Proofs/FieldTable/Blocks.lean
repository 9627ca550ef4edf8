import Regen.FieldTable
import Regen.Proofs.Ident.Camel
import Regen.Proofs.Ident.FieldNames

/-!
# The blocks of a table

The messages of a file in the order of its table are each in front of those nested in it (`inOrder`). A
file whose fields stand in declared oneofs has a table, with one block for each of these messages
(`blocks_inOrder`), and a block has one entry for each field of its message, in order
(`Describes.entries`).
-/

namespace Regen

namespace FieldDescriptor

/-- The name of a field, and of its type where that is told by a name, are identifiers; a dot may stand in
    front of the type's. -/
structure Legal (f : FieldDescriptor) : Prop where
  name : Ident.IsDotted f.name
  type : isNamed f.type = true →
    ∃ t, Ident.IsDotted t ∧ (f.typeName = t ∨ f.typeName = "." ++ t)

end FieldDescriptor

namespace Descriptor

/-- The name of a message is an identifier, its fields are legal and stand in declared oneofs. -/
structure Legal (d : Descriptor) : Prop where
  name : Ident.IsIdentifier d.name
  fields : ∀ f ∈ d.fields, f.Legal
  oneofs : d.OneofsDeclared

mutual

/-- A message and those nested in it, with their full names; `outer` stands in front of its name. -/
def inOrder (outer : String) : Descriptor → List (String × Descriptor)
  | .mk name fields nested oneofs =>
    (outer ++ name, .mk name fields nested oneofs) :: inOrderList (outer ++ name ++ ".") nested

def inOrderList (outer : String) : List Descriptor → List (String × Descriptor)
  | [] => []
  | d :: ds => inOrder outer d ++ inOrderList outer ds

end

end Descriptor

namespace FileDescriptor

/-- What stands in front of the names of a package's messages. -/
def scope (package : String) : String := if package = "" then "" else package ++ "."

/-- The messages of a file with their full names, each in front of those nested in it. -/
def inOrder (file : FileDescriptor) : List (String × Descriptor) :=
  Descriptor.inOrderList (scope file.package) file.messages

structure Legal (file : FileDescriptor) : Prop where
  package : file.package = "" ∨ Ident.IsDotted file.package
  messages : ∀ m ∈ file.inOrder, m.2.Legal

end FileDescriptor

namespace FieldTable

open FileDescriptor (scope)

theorem qualified_eq (package name : String) : qualified package name = scope package ++ name := by
  unfold qualified scope
  split
  · rw [String.empty_append]
  · rfl

/-- A block is that of a message with its full name. -/
structure Describes (package : String) (m : String × Descriptor) (b : Block) : Prop where
  message : b.message = m.1
  owner : ∃ localName, m.1 = scope package ++ localName ∧ b.owner = Ident.camel localName
  entries : ∃ names, Ident.fieldNames m.2 = .ok names ∧ b.entries = FieldTable.entries m.2.fields names

mutual

theorem blocksOf_inOrder (package outer : String) (d : Descriptor)
    (declared : ∀ m ∈ d.inOrder (scope package ++ outer), m.2.OneofsDeclared) :
    ∃ bs, blocksOf package outer d = .ok bs ∧
      List.Forall₂ (Describes package) (d.inOrder (scope package ++ outer)) bs := by
  cases d with
  | mk name fields nested oneofs =>
    rw [Descriptor.inOrder] at declared ⊢
    have named := Ident.fieldNames_eq (declared (_, .mk name fields nested oneofs) List.mem_cons_self)
    obtain ⟨inner, found, described⟩ := blocksOfList_inOrder package (outer ++ name ++ ".") nested (by
      intro m mem
      refine declared m (List.mem_cons_of_mem _ ?_)
      simpa only [String.append_assoc] using mem)
    refine ⟨_ :: inner, by rw [blocksOf, named, found]; rfl, .cons ⟨?_, ?_, _, named, rfl⟩ ?_⟩
    · rw [qualified_eq, String.append_assoc]
    · exact ⟨outer ++ name, String.append_assoc, rfl⟩
    · simpa only [String.append_assoc] using described
termination_by sizeOf d

theorem blocksOfList_inOrder (package outer : String) (ds : List Descriptor)
    (declared : ∀ m ∈ Descriptor.inOrderList (scope package ++ outer) ds, m.2.OneofsDeclared) :
    ∃ bs, blocksOfList package outer ds = .ok bs ∧
      List.Forall₂ (Describes package) (Descriptor.inOrderList (scope package ++ outer) ds) bs := by
  cases ds with
  | nil => exact ⟨[], rfl, .nil⟩
  | cons d ds =>
    rw [Descriptor.inOrderList] at declared ⊢
    obtain ⟨first, found, described⟩ := blocksOf_inOrder package outer d fun m mem =>
      declared m (List.mem_append_left _ mem)
    obtain ⟨rest, found', described'⟩ := blocksOfList_inOrder package outer ds fun m mem =>
      declared m (List.mem_append_right _ mem)
    exact ⟨first ++ rest, by rw [blocksOfList, found, found']; rfl, List.rel_append described described'⟩
termination_by sizeOf ds

end

/-- A file has one block for each of its messages. -/
theorem blocks_inOrder {file : FileDescriptor} (declared : ∀ m ∈ file.inOrder, m.2.OneofsDeclared) :
    ∃ bs, blocks file = .ok bs ∧ List.Forall₂ (Describes file.package) file.inOrder bs := by
  have described := blocksOfList_inOrder file.package "" file.messages
  rw [String.append_empty] at described
  exact described declared

/-! ### Names -/

/-- The name is made of identifiers and dots. -/
def Plain (name : String) : Prop := ∀ c ∈ name.toList, Ident.isNamePart c = true ∨ c = '.'

theorem Plain.append {s t : String} (first : Plain s) (second : Plain t) : Plain (s ++ t) := by
  intro c mem
  rw [String.toList_append] at mem
  rcases List.mem_append.1 mem with mem | mem
  · exact first c mem
  · exact second c mem

theorem plain_dot : Plain "." := by
  intro c mem
  exact .inr (by simpa using mem)

mutual

theorem plain_inOrder {outer : String} {d : Descriptor} (front : Plain outer)
    (legal : ∀ m ∈ d.inOrder outer, m.2.Legal) : ∀ m ∈ d.inOrder outer, Plain m.1 := by
  cases d with
  | mk name fields nested oneofs =>
    rw [Descriptor.inOrder] at legal ⊢
    have own := (legal (_, .mk name fields nested oneofs) List.mem_cons_self).name
    have full : Plain (outer ++ name) := front.append fun c mem => .inl (own.isNamePart c mem)
    intro m mem
    rcases List.mem_cons.1 mem with rfl | mem
    · exact full
    · exact plain_inOrderList (full.append plain_dot) (fun m mem => legal m (List.mem_cons_of_mem _ mem)) m mem
termination_by sizeOf d

theorem plain_inOrderList {outer : String} {ds : List Descriptor} (front : Plain outer)
    (legal : ∀ m ∈ Descriptor.inOrderList outer ds, m.2.Legal) :
    ∀ m ∈ Descriptor.inOrderList outer ds, Plain m.1 := by
  cases ds with
  | nil => exact nofun
  | cons d ds =>
    rw [Descriptor.inOrderList] at legal ⊢
    intro m mem
    rcases List.mem_append.1 mem with mem | mem
    · exact plain_inOrder front (fun m mem => legal m (List.mem_append_left _ mem)) m mem
    · exact plain_inOrderList front (fun m mem => legal m (List.mem_append_right _ mem)) m mem
termination_by sizeOf ds

end

/-- The first message is nested in no other. -/
theorem head?_inOrder (file : FileDescriptor) :
    ∀ m ∈ file.inOrder.head?, m.1 = scope file.package ++ m.2.name := by
  intro m first
  unfold FileDescriptor.inOrder at first
  cases messages : file.messages with
  | nil => simp [messages, Descriptor.inOrderList] at first
  | cons d ds =>
    cases d with
    | mk name fields nested oneofs =>
      rw [messages, Descriptor.inOrderList, Descriptor.inOrder, List.cons_append] at first
      cases first
      rfl

theorem plain_scope {package : String} (legal : package = "" ∨ Ident.IsDotted package) :
    Plain (scope package) := by
  unfold scope
  rcases legal with rfl | dotted
  · exact nofun
  · split
    · exact nofun
    · exact Plain.append dotted.isNamePart_or_dot plain_dot

end FieldTable
end Regen
