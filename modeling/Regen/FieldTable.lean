import Regen.Ident.FieldNames

/-!
# Tables of field numbers

For each message of a file, a block of constants gives the number of each of its fields, with
the field's cardinality and type behind it. Messages stand in order of declaration, each
before the messages nested in it.
-/

namespace Regen.FieldTable

/-- One constant of a table. -/
structure Entry where
  name : String
  number : Int
  cardinality : String
  kind : String
  deriving DecidableEq

/-- The constants of one message. -/
structure Block where
  message : String
  owner : String
  entries : List Entry
  deriving DecidableEq

/-- The entries of a message whose fields have the given names. -/
def entries (fields : List FieldDescriptor) (names : List String) : List Entry :=
  (fields.zip names).map fun (f, name) => ⟨name, f.number, f.cardinality, f.kind⟩

/-- The name of a top-level part inside a package. -/
def qualified (package name : String) : String :=
  if package = "" then name else package ++ "." ++ name

mutual

/-- The blocks of a message and of those nested in it; `outer` is what stands before its name. -/
def blocksOf (package outer : String) : Descriptor → Except Failure (List Block)
  | .mk name fields nested oneofs => do
    let localName := outer ++ name
    let names ← Ident.fieldNames (.mk name fields nested oneofs)
    let block := ⟨qualified package localName, Ident.camel localName, entries fields names⟩
    let inner ← blocksOfList package (localName ++ ".") nested
    return block :: inner

def blocksOfList (package outer : String) : List Descriptor → Except Failure (List Block)
  | [] => .ok []
  | d :: ds => do
    let first ← blocksOf package outer d
    let rest ← blocksOfList package outer ds
    return first ++ rest

end

/-- The blocks of a file. -/
def blocks (file : FileDescriptor) : Except Failure (List Block) :=
  blocksOfList file.package "" file.messages

def Entry.line (owner : String) (e : Entry) : String :=
  s!"\t{owner}_{e.name} = {e.number} // {e.cardinality} {e.kind}"

def Block.lines (b : Block) : List String :=
  [s!"// Field numbers for {b.message}.", "const ("] ++ b.entries.map (·.line b.owner) ++ [")"]

/-- The source text of the table of a file, in the named package. -/
def render (file : FileDescriptor) (package preamble : String) : Except Failure String := do
  let bs ← blocks file
  let lines := [s!"package {package}", ""] ++ bs.flatMap Block.lines
  return preamble ++ "\n".intercalate lines ++ "\n"

/-! ### Octets in place of texts -/

/-- What stands where a table asks for a name. -/
inductive Asked where
  | text
  | octets
  /-- There is no oneof to have the name. -/
  | nothing
  deriving DecidableEq

/-- What stands in the field `n` of a message. -/
def asked (n : Nat) (m : Message) : Asked := if (m.handed? n).all Handed.isText then .text else .octets

/-- The names of fields, and of the oneofs that they are the first to name. -/
def askedNames (oneofs : List Message) : List Int → List Message → List Asked
  | _, [] => []
  | seen, f :: fs =>
    asked 1 f :: match Ident.newOneof seen (.ofMessage f) with
      | none => askedNames oneofs seen fs
      | some i => (Ident.elementAt? oneofs i).elim .nothing (asked 1) :: askedNames oneofs (i :: seen) fs

/-- What a table asks for in a message, in order: the names, then the types that are told by names, then the messages
    nested in it. The name of a message itself may be octets. -/
def askedWithin : Nat → Message → List Asked
  | depth, m =>
    askedNames (m.nested 8) [] (m.nested 2) ++
      ((m.nested 2).filter fun f => FieldDescriptor.isNamed (FieldDescriptor.ofMessage f).type).map (asked 6) ++
      match depth with
      | 0 => []
      | depth + 1 => (m.nested 3).flatMap (askedWithin depth)

/-- The first thing in the way of the table of a file is a name that is no text. -/
def isIllegible (file : Message) : Bool :=
  ((file.nested 4).flatMap (askedWithin Message.maxDepth)).find? (· ≠ .text) = some .octets

end Regen.FieldTable
