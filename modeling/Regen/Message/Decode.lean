import Regen.Message.Basic
import Regen.Message.Shape

/-!
# Reading a message by its shape

Later records of a field that stands once replace earlier ones, and later records of a nested
message add to it. A record whose number the shape does not know, or whose payload does not
suit the field's kind, is kept as it was written; so is a choice outside its list, which is taken
out of its chunk when it stands in one. Bytes that are no sequence of records are refused at every
level.
-/

namespace Regen

/-- The integer that a field of the kind reads from a number on the wire. -/
def Shape.Kind.ofWire (k : Shape.Kind) (n : Nat) : Option Int :=
  match k with
  | .int32 => some (Wire.signed32 n)
  | .int64 => some (Wire.signed64 n)
  | .uint64 => some n
  | .bool => some (if n = 0 then 0 else 1)
  | .choice values =>
    let v := Wire.signed32 n
    if values.contains v then some v else none
  | _ => none

def Shape.Kind.isNumber : Shape.Kind → Bool
  | .int32 | .int64 | .uint64 | .bool | .choice _ => true
  | _ => false

/-- The numbers packed into a chunk. -/
def Wire.packedWithin : Nat → Bytes → Option (List Nat)
  | _, [] => some []
  | 0, _ :: _ => none
  | fuel + 1, b :: bs => do
    let (n, r) ← Wire.readVarint 10 (b :: bs)
    let ns ← packedWithin fuel r
    some (n % Nat.pow 2 64 :: ns)

def Wire.packed (bs : Bytes) : Option (List Nat) := Wire.packedWithin bs.length bs

namespace Message

/-- Takes in one number of a field. -/
def takeNumber (packed : Bool) (slot : Shape.Slot) (m : Message) (n : Nat) : Message :=
  match slot.kind.ofWire n with
  | none => m.keep (Wire.numberRecord slot.number (n % Nat.pow 2 32))
  | some i =>
    if packed then m.put slot.number (.numbers (m.numbers slot.number ++ [i]))
    else if slot.repeated then m.add slot.number (.number i)
    else m.put slot.number (.number i)

/-- Takes in one record; `inner` reads a nested message into the one that stands already. -/
def takeRecord (inner : Shape → Message → Bytes → Option Message) (s : Shape) (m : Message)
    (r : Wire.Record) : Option Message :=
  match s.slot? r.number with
  | none => some (m.keep r.written)
  | some slot =>
    let place : Value → Message := if slot.repeated then m.add slot.number else m.put slot.number
    match slot.kind, r.payload with
    | .text, .chunk bs => some (place (.ofHanded (.ofBytes bs)))
    | .octets, .chunk bs => some (place (.octets bs))
    | .double, .fixed64 bs => some (place (.fixed bs))
    | .nested shape, .chunk bs => do
      let old := if slot.repeated then empty else (m.nested? slot.number).getD empty
      let new ← inner shape old bs
      some (place (.nested new))
    | k, .varint n =>
      if (k.ofWire n).isSome then some (m.takeNumber (s.isPacked slot.number) slot n)
      else some (m.keep r.written)
    | k, .chunk bs =>
      if k.isNumber && slot.repeated then do
        let ns ← Wire.packed bs
        some (ns.foldl (takeNumber (s.isPacked slot.number) slot) m)
      else some (m.keep r.written)
    | _, _ => some (m.keep r.written)

/-- Reads bytes into a message, with at most `depth` levels of nesting below it. -/
def absorb : (depth : Nat) → Shape → Message → Bytes → Option Message
  | 0, s, m, bs => do
    (← Wire.records 0 bs).foldlM (takeRecord (fun _ _ _ => none) s) m
  | depth + 1, s, m, bs => do
    (← Wire.records (depth + 1) bs).foldlM (takeRecord (absorb depth) s) m

/-- Messages nest at most a hundred levels deep. -/
def maxDepth : Nat := 100

/-- The message that the bytes encode. -/
def decode? (s : Shape) (bs : Bytes) : Option Message := absorb maxDepth s empty bs

end Message
end Regen
