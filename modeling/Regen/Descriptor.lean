import Regen.Message.Decode

/-!
# File descriptions

What a generator reads of a described file: its package and, for each message, the fields, the
oneofs and the messages nested in it. Each description is a view of the message that carries
it, and what it does not mention stays in that message. Octets in place of a text stand in it
as they are shown.
-/

namespace Regen

/-- The text in a field as it is shown, empty when there is none. -/
def Message.shown (m : Message) (n : Nat) : String := (m.handed? n).elim "" Handed.shown

/-- A field of a described message. -/
structure FieldDescriptor where
  name : String
  number : Int
  label : Int
  type : Int
  typeName : String
  oneofIndex : Option Int
  deriving DecidableEq

/-- A described message. -/
inductive Descriptor where
  | mk (name : String) (fields : List FieldDescriptor) (nested : List Descriptor)
      (oneofs : List String)

namespace Descriptor

def name : Descriptor → String
  | mk n _ _ _ => n

def fields : Descriptor → List FieldDescriptor
  | mk _ fs _ _ => fs

def nested : Descriptor → List Descriptor
  | mk _ _ ds _ => ds

def oneofs : Descriptor → List String
  | mk _ _ _ os => os

end Descriptor

/-- A described file. -/
structure FileDescriptor where
  name : String
  package : String
  messages : List Descriptor

namespace FieldDescriptor

/-- The cardinality of a field, by its label. -/
def labelName (label : Int) : String :=
  if label = 2 then "required" else if label = 3 then "repeated" else "optional"

/-- The scalar kinds by their numbers; 10, 11 and 14 stand for a group, a message and an enum. -/
def kindNames : List (Int × String) :=
  [(1, "double"), (2, "float"), (3, "int64"), (4, "uint64"), (5, "int32"), (6, "fixed64"),
   (7, "fixed32"), (8, "bool"), (9, "string"), (10, "group"), (11, "message"), (12, "bytes"),
   (13, "uint32"), (14, "enum"), (15, "sfixed32"), (16, "sfixed64"), (17, "sint32"),
   (18, "sint64")]

/-- The type is told by a name and not by a scalar kind. -/
def isNamed (type : Int) : Bool := type == 10 || type == 11 || type == 14

def cardinality (f : FieldDescriptor) : String := labelName f.label

/-- The full name of the field's type without leading dots, or its scalar kind. -/
def kind (f : FieldDescriptor) : String :=
  if isNamed f.type then String.ofList (f.typeName.toList.dropWhile (· = '.'))
  else (kindNames.lookup f.type).getD ""

/-- A field without a label is optional, and one without a type is a double. -/
def ofMessage (m : Message) : FieldDescriptor where
  name := m.shown 1
  number := (m.number? 3).getD 0
  label := (m.number? 4).getD 1
  type := (m.number? 5).getD 1
  typeName := m.shown 6
  oneofIndex := m.number? 9

end FieldDescriptor

/-- The description of a message, with at most `depth` levels of messages nested in it. -/
def Descriptor.ofMessageWithin : Nat → Message → Descriptor
  | depth, m =>
    mk (m.shown 1) ((m.nested 2).map FieldDescriptor.ofMessage)
      (match depth with
        | 0 => []
        | depth + 1 => (m.nested 3).map (ofMessageWithin depth))
      ((m.nested 8).map fun o => o.shown 1)

/-- Messages nest no deeper than the reader of messages admits. -/
def Descriptor.ofMessage (m : Message) : Descriptor := ofMessageWithin Message.maxDepth m

def FileDescriptor.ofMessage (m : Message) : FileDescriptor where
  name := m.shown 1
  package := m.shown 2
  messages := (m.nested 4).map Descriptor.ofMessage

end Regen
