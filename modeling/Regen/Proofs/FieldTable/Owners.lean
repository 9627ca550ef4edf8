import Mathlib.Data.List.Forall2
import Regen.FieldTable
import Regen.Proofs.Ident.Parts

/-!
# What a table calls its messages

A table calls a message by the identifier of its name behind the names of the messages around it. At any depth this
identifier is put together from those of the single names, outermost first (`render_composes`).
-/

namespace Regen

namespace Descriptor

mutual

/-- For a message and those nested in it, in the order of a table, the names of the messages around it and its own,
outermost first; `outer` are the names around them all. -/
def chains (outer : List String) : Descriptor → List (List String)
  | .mk name _ nested _ => (outer ++ [name]) :: chainsList (outer ++ [name]) nested

def chainsList (outer : List String) : List Descriptor → List (List String)
  | [] => []
  | d :: ds => chains outer d ++ chainsList outer ds

end

end Descriptor

namespace FieldTable

theorem eq_ok_of_bind {α β : Type} {x : Except Failure α} {f : α → Except Failure β} {b : β}
    (made : x >>= f = .ok b) : ∃ a, x = .ok a ∧ f a = .ok b := by
  cases x with
  | error e => cases made
  | ok a => exact ⟨a, rfl, made⟩

/-- A block is headed by the names of its message and of those around it. -/
structure Titled (package : String) (names : List String) (b : Block) : Prop where
  message : b.message = qualified package (".".intercalate names)
  owner : b.owner = Ident.composed names

/-- What stands in front of the names of the messages nested in others. -/
def lead (outer : List String) : String := if outer = [] then "" else ".".intercalate outer ++ "."

theorem lead_append (outer : List String) (name : String) : lead outer ++ name = ".".intercalate (outer ++ [name]) := by
  unfold lead
  split
  · next none => rw [none, List.nil_append, String.intercalate_singleton, String.empty_append]
  · next some =>
    rw [String.intercalate_append_of_ne_nil some (List.cons_ne_nil name []), String.intercalate_singleton]

theorem lead_concat (outer : List String) (name : String) : lead (outer ++ [name]) = lead outer ++ name ++ "." := by
  rw [lead, if_neg (List.concat_ne_nil name outer), lead_append]

mutual

theorem blocksOf_titled {package : String} (outer : List String) (d : Descriptor) {bs : List Block}
    (made : blocksOf package (lead outer) d = .ok bs) : List.Forall₂ (Titled package) (d.chains outer) bs := by
  cases d with
  | mk name fields nested oneofs =>
    rw [blocksOf] at made
    obtain ⟨names, -, made⟩ := eq_ok_of_bind made
    obtain ⟨inner, below, made⟩ := eq_ok_of_bind made
    cases made
    rw [← lead_concat] at below
    rw [Descriptor.chains]
    refine .cons ⟨?_, ?_⟩ (blocksOfList_titled (outer ++ [name]) nested below)
    · exact congrArg (qualified package) (lead_append outer name)
    · exact (congrArg Ident.camel (lead_append outer name)).trans (Ident.camel_intercalate _)
termination_by sizeOf d

theorem blocksOfList_titled {package : String} (outer : List String) (ds : List Descriptor) {bs : List Block}
    (made : blocksOfList package (lead outer) ds = .ok bs) :
    List.Forall₂ (Titled package) (Descriptor.chainsList outer ds) bs := by
  cases ds with
  | nil =>
    cases made
    exact .nil
  | cons d ds =>
    rw [blocksOfList] at made
    obtain ⟨first, here, made⟩ := eq_ok_of_bind made
    obtain ⟨rest, later, made⟩ := eq_ok_of_bind made
    cases made
    rw [Descriptor.chainsList]
    exact List.rel_append (blocksOf_titled outer d here) (blocksOfList_titled outer ds later)
termination_by sizeOf ds

end

/-- Neither side of a dot changes what becomes of the other, and so a table calls each message by the identifiers of
its own name and of the names around it. -/
theorem render_composes :
    (∀ a b : String, Ident.camel (a ++ "." ++ b) =
      Ident.camel a ++ (if Ident.startsLower b.toList then "" else "_") ++ Ident.camel b) ∧
    ∀ (file : FileDescriptor) (package preamble text : String), render file package preamble = .ok text →
      ∃ bs, text = preamble ++ "\n".intercalate ([s!"package {package}", ""] ++ bs.flatMap Block.lines) ++ "\n" ∧
        List.Forall₂ (Titled file.package) (Descriptor.chainsList [] file.messages) bs := by
  refine ⟨Ident.camel_append_dot, ?_⟩
  intro file package preamble text rendered
  obtain ⟨bs, made, rendered⟩ := eq_ok_of_bind rendered
  cases rendered
  exact ⟨bs, rfl, blocksOfList_titled [] file.messages made⟩

namespace Sample

/-- A message in a message in a message; the names of the inner ones begin with a small letter and an underscore. -/
def nest : FileDescriptor where
  name := "nest.proto"
  package := "google.protobuf"
  messages := [.mk "Outer" [⟨"foo_bar", 1, 1, 9, "", none⟩] [.mk "inner_a" [] [.mk "_B" [] [] []] []] []]

def nestBlocks : List Block :=
  [⟨"google.protobuf.Outer", "Outer", [⟨"FooBar", 1, "optional", "string"⟩]⟩,
   ⟨"google.protobuf.Outer.inner_a", "OuterInnerA", []⟩,
   ⟨"google.protobuf.Outer.inner_a._B", "OuterInnerA_XB", []⟩]

theorem blocks_nest : blocks nest = .ok nestBlocks := rfl

end Sample

theorem render_composes_sample :
    Ident.camel ("Outer.inner_a" ++ "." ++ "_B") =
        Ident.camel "Outer.inner_a" ++ (if Ident.startsLower "_B".toList then "" else "_") ++ Ident.camel "_B" ∧
      ∃ text, render Sample.nest "fieldnum" "// Code generated.\n\n" = .ok text ∧
        ∃ bs, text = "// Code generated.\n\n" ++
            "\n".intercalate (["package fieldnum", ""] ++ bs.flatMap Block.lines) ++ "\n" ∧
          List.Forall₂ (Titled "google.protobuf") [["Outer"], ["Outer", "inner_a"], ["Outer", "inner_a", "_B"]] bs := by
  have rendered : ∃ text, render Sample.nest "fieldnum" "// Code generated.\n\n" = .ok text := by
    rw [render, Sample.blocks_nest]
    exact ⟨_, rfl⟩
  obtain ⟨text, rendered⟩ := rendered
  obtain ⟨bs, shown, titled⟩ := render_composes.2 Sample.nest _ _ text rendered
  exact ⟨render_composes.1 "Outer.inner_a" "_B", text, rendered, bs, shown, titled⟩

end FieldTable
end Regen
