import Regen.Wire.Varint

/-!
# Records of an encoded message

An encoded message is a sequence of records: a tag with a field number and a kind, then a
payload. `records` cuts bytes into records and refuses bytes that are no message: a field
number of zero, an unknown kind, an end of a group that no group opened, a number or a tag with
too many bytes, a payload that is cut off, and groups nested deeper than `depth`.
-/

namespace Regen.Wire

/-- What stands behind a tag. The body of a group is kept as it was written. -/
inductive Payload where
  | varint (n : Nat)
  | fixed64 (bs : Bytes)
  | chunk (bs : Bytes)
  | group (body : Bytes)
  | fixed32 (bs : Bytes)
  deriving DecidableEq

/-- A record with the bytes that it was read from. -/
structure Record where
  number : Nat
  payload : Payload
  written : Bytes
  deriving DecidableEq

/-- The first `n` bytes and the rest, when there are that many. -/
def takeBytes (n : Nat) (bs : Bytes) : Option (Bytes × Bytes) :=
  if n ≤ bs.length then some (bs.take n, bs.drop n) else none

/-- A tag is a number of at most five bytes below `2 ^ 32`. -/
def readTag (bs : Bytes) : Option (Nat × Nat × Bytes) := do
  let (tag, r) ← readVarint 5 bs
  if tag < Nat.pow 2 32 ∧ tag / 8 ≠ 0 then some (tag / 8, tag % 8, r) else none

/-- A length is a number of at most five bytes below `2 ^ 31`. -/
def readLength (bs : Bytes) : Option (Nat × Bytes) := do
  let (n, r) ← readVarint 5 bs
  if n < Nat.pow 2 31 then some (n, r) else none

/-- The payload behind a tag of a kind without nesting. -/
def readFlat (kind : Nat) (bs : Bytes) : Option (Payload × Bytes) :=
  match kind with
  | 0 => (readVarint 10 bs).map fun (n, r) => (.varint (n % Nat.pow 2 64), r)
  | 1 => (takeBytes 8 bs).map fun (p, r) => (.fixed64 p, r)
  | 2 => do
    let (n, r) ← readLength bs
    (takeBytes n r).map fun (p, r) => (.chunk p, r)
  | 5 => (takeBytes 4 bs).map fun (p, r) => (.fixed32 p, r)
  | _ => none

/-- The bytes behind the end of the innermost group of `opened` and of all groups around it. -/
def skipGroups (depth : Nat) : Nat → List Nat → Bytes → Option Bytes
  | _, [], bs => some bs
  | 0, _ :: _, _ => none
  | fuel + 1, g :: opened, bs => do
    let (number, kind, r) ← readTag bs
    match kind with
    | 3 =>
      if opened.length + 1 < depth then skipGroups depth fuel (number :: g :: opened) r else none
    | 4 => if number = g then skipGroups depth fuel opened r else none
    | _ => do
      let (_, r) ← readFlat kind r
      skipGroups depth fuel (g :: opened) r

/-- The first record of `bs` and the bytes behind it. -/
def readRecord (depth : Nat) (bs : Bytes) : Option (Record × Bytes) := do
  let (number, kind, r) ← readTag bs
  let (payload, rest) ←
    if kind = 3 then
      if depth = 0 then none
      else (skipGroups depth r.length [number] r).map fun rest =>
        (Payload.group (r.take (r.length - rest.length)), rest)
    else readFlat kind r
  some (⟨number, payload, bs.take (bs.length - rest.length)⟩, rest)

def recordsWithin (depth : Nat) : Nat → Bytes → Option (List Record)
  | _, [] => some []
  | 0, _ :: _ => none
  | fuel + 1, b :: bs => do
    let (r, rest) ← readRecord depth (b :: bs)
    let rs ← recordsWithin depth fuel rest
    some (r :: rs)

/-- The records of an encoded message. -/
def records (depth : Nat) (bs : Bytes) : Option (List Record) := recordsWithin depth bs.length bs

/-- The bytes of a tag. -/
def tag (number kind : Nat) : Bytes := varint (number * 8 + kind)

/-- A record that holds a number. -/
def numberRecord (number n : Nat) : Bytes := tag number 0 ++ varint n

/-- A record that holds bytes behind their count. -/
def chunkRecord (number : Nat) (bs : Bytes) : Bytes := tag number 2 ++ varint bs.length ++ bs

end Regen.Wire
