import Regen.Failure
import Regen.Text.Utf8

/-!
# Texts as they are handed out

A field for a text may hold bytes that are none. Who reads such a field is handed the bytes: they can be compared,
passed on and shown, but what works on texts refuses them.
-/

namespace Regen

/-- What a field for a text hands out. -/
inductive Handed where
  | text (s : String)
  | octets (bs : Bytes)
  deriving DecidableEq

namespace Handed

/-- What is handed out of a field that holds the bytes. -/
def ofBytes (bs : Bytes) : Handed :=
  match Text.decode? bs with
  | some s => text s
  | none => octets bs

/-- How it stands in a message. -/
def shown : Handed → String
  | text s => s
  | octets bs => Text.quotedOctets bs

def isText : Handed → Bool
  | text _ => true
  | octets _ => false

/-- The text, for what works on texts. -/
def demand : Handed → Except Failure String
  | text s => .ok s
  | octets _ => .error (.value .octets)

end Handed
end Regen
