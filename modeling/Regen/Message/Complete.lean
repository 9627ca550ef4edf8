import Regen.Message.Basic
import Regen.Message.Shape

/-!
# Complete messages

A message is complete when it and all messages in it have their required fields.
-/

namespace Regen

/-- The fields that a message of a type has to have. -/
def Shape.required : Shape → List Nat
  | .namePart => [1, 2]
  | _ => []

mutual

/-- The message in a field is complete. -/
def Value.isComplete (kind : Shape.Kind) : Value → Bool
  | .nested m =>
    match kind with
    | .nested shape => m.isComplete shape
    | _ => true
  | _ => true

def Message.isComplete (s : Shape) : Message → Bool
  | .mk fields _ => s.required.all (fun n => fields.any (·.1 == n)) && fieldsComplete s fields

def fieldsComplete (s : Shape) : List (Nat × Value) → Bool
  | [] => true
  | (number, v) :: fs =>
    (match s.slot? number with
      | some slot => v.isComplete slot.kind
      | none => true) && fieldsComplete s fs

end

end Regen
