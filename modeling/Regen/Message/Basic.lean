import Regen.Handed
import Regen.Wire.Record

/-!
# Messages as values

A message is its fields in ascending order of their numbers and the bytes of the records that
its shape does not know. A repeated field stands as often as it has elements, except that a
packed one stands once with all its numbers. A field for a text holds octets when its bytes are no
text. `Message.encode` writes the fields in that order and the unknown bytes behind them.
-/

namespace Regen

mutual

/-- What a field holds. -/
inductive Value where
  | number (n : Int)
  | numbers (ns : List Int)
  | fixed (bs : Bytes)
  | text (s : String)
  | octets (bs : Bytes)
  | nested (m : Message)

inductive Message where
  | mk (fields : List (Nat × Value)) (unknown : Bytes)

end

namespace Message

def empty : Message := mk [] []

instance : Inhabited Message := ⟨empty⟩

def fields : Message → List (Nat × Value)
  | mk fs _ => fs

def unknown : Message → Bytes
  | mk _ u => u

/-- The message with `v` behind the fields whose numbers are not above `n`. -/
def add (m : Message) (n : Nat) (v : Value) : Message :=
  mk (m.fields.takeWhile (·.1 ≤ n) ++ (n, v) :: m.fields.dropWhile (·.1 ≤ n)) m.unknown

/-- The message with `v` as the only value of field `n`. -/
def put (m : Message) (n : Nat) (v : Value) : Message :=
  (mk (m.fields.filter (·.1 != n)) m.unknown).add n v

/-- The message with bytes that its shape does not know. -/
def keep (m : Message) (bs : Bytes) : Message := mk m.fields (m.unknown ++ bs)

/-- The values of field `n`. -/
def values (m : Message) (n : Nat) : List Value :=
  m.fields.filterMap fun f => if f.1 = n then some f.2 else none

def texts (m : Message) (n : Nat) : List String :=
  (m.values n).filterMap fun v => match v with
    | .text s => some s
    | _ => none

/-- What the fields for texts of number `n` hand out. -/
def handed (m : Message) (n : Nat) : List Handed :=
  (m.values n).filterMap fun v => match v with
    | .text s => some (.text s)
    | .octets bs => some (.octets bs)
    | _ => none

/-- The octets in the fields of a message, with the numbers of the fields. -/
def octets (m : Message) : List (Nat × Bytes) :=
  m.fields.filterMap fun f => match f.2 with
    | .octets bs => some (f.1, bs)
    | _ => none

def numbers (m : Message) (n : Nat) : List Int :=
  (m.values n).flatMap fun v => match v with
    | .number i => [i]
    | .numbers is => is
    | _ => []

def nested (m : Message) (n : Nat) : List Message :=
  (m.values n).filterMap fun v => match v with
    | .nested m => some m
    | _ => none

def text? (m : Message) (n : Nat) : Option String := (m.texts n).head?

def handed? (m : Message) (n : Nat) : Option Handed := (m.handed n).head?

def number? (m : Message) (n : Nat) : Option Int := (m.numbers n).head?

def nested? (m : Message) (n : Nat) : Option Message := (m.nested n).head?

/-- The message with field `n` set when there is a value for it. -/
def putText? (m : Message) (n : Nat) (s : Option String) : Message :=
  s.elim m fun s => m.put n (.text s)

def putNumber? (m : Message) (n : Nat) (i : Option Int) : Message :=
  i.elim m fun i => m.put n (.number i)

def putOctets (m : Message) (os : List (Nat × Bytes)) : Message :=
  os.foldl (fun m o => m.put o.1 (.octets o.2)) m

end Message

/-- What a field for a text holds. -/
def Value.ofHanded : Handed → Value
  | .text s => .text s
  | .octets bs => .octets bs

mutual

/-- The record of a field. -/
def Value.encode (number : Nat) : Value → Bytes
  | .number n => Wire.numberRecord number (Wire.word64 n)
  | .numbers [] => []
  | .numbers (n :: ns) =>
    Wire.chunkRecord number ((n :: ns).flatMap fun n => Wire.varint (Wire.word64 n))
  | .fixed bs => Wire.tag number 1 ++ bs
  | .text s => Wire.chunkRecord number (Text.bytes s)
  | .octets bs => Wire.chunkRecord number bs
  | .nested m => Wire.chunkRecord number m.encode

def Message.encode : Message → Bytes
  | .mk fields unknown => encodeFields fields ++ unknown

def encodeFields : List (Nat × Value) → Bytes
  | [] => []
  | (number, v) :: fs => v.encode number ++ encodeFields fs

end

end Regen
