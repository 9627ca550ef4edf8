import Regen.Descriptor
import Regen.Failure
import Regen.Ident.Camel
import Regen.Ident.NameScope

/-!
# Identifiers of a message's fields

Each field gets a name of its own in the scope of the message. The first field of a oneof also
takes a name for the oneof, which has no getter, right after its own.
-/

namespace Regen.Ident

/-- The element at an index; a negative index counts from the end. -/
def elementAt? {α : Type} (xs : List α) (i : Int) : Option α :=
  if 0 ≤ i then xs[i.toNat]?
  else if (-i).toNat ≤ xs.length then xs[xs.length - (-i).toNat]? else none

/-- The oneof that a field is the first to name: its index. -/
def newOneof (seen : List Int) (f : FieldDescriptor) : Option Int :=
  match f.oneofIndex with
  | some i => if seen.contains i then none else some i
  | none => none

def fieldNamesFrom (oneofs : List String) :
    NameScope → List Int → List FieldDescriptor → Except Failure (List String)
  | _, _, [] => .ok []
  | scope, seen, f :: fs => do
    let (name, scope) := scope.unique (camel f.name) true
    match newOneof seen f with
    | none => return name :: (← fieldNamesFrom oneofs scope seen fs)
    | some i =>
      match elementAt? oneofs i with
      | none => throw .noSuchElement
      | some oneof =>
        let (_, scope) := scope.unique (camel oneof) false
        return name :: (← fieldNamesFrom oneofs scope (i :: seen) fs)

/-- The identifiers of the fields, in order of declaration. -/
def fieldNames (d : Descriptor) : Except Failure (List String) :=
  fieldNamesFrom d.oneofs .fresh [] d.fields

end Regen.Ident
