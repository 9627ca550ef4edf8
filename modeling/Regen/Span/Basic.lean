import Regen.Failure
import Regen.Message.Decode

/-!
# Annotations of generated code

An annotation ties the bytes of a generated file from `begin` up to `end` to an element of the
description file. When bytes are cut out of the file, the offsets behind them move forward.
-/

namespace Regen

structure Span where
  path : List Int
  sourceFile : Option String
  beginAt : Option Int
  endAt : Option Int
  semantic : Option Int
  /-- The source file, when its name is no text. -/
  octets : List (Nat × Bytes)
  unknown : Bytes
  deriving DecidableEq

/-- The annotations of one file. -/
structure CodeInfo where
  spans : List Span
  unknown : Bytes
  deriving DecidableEq

namespace Span

def empty : Span := ⟨[], none, none, none, none, [], []⟩

/-- An offset that does not lie in front of the end of the `length` bytes cut out at `start`
    moves forward by their count. An offset that is not set counts as zero. -/
def moved (start length : Int) (offset : Option Int) : Except Failure (Option Int) :=
  let at_ := offset.getD 0
  if start + length ≤ at_ then
    if Shape.Kind.int32.holds (at_ - length) then .ok (some (at_ - length)) else .error .outOfRange
  else .ok offset

def shift (start length : Int) (a : Span) : Except Failure Span := do
  let b ← moved start length a.beginAt
  let e ← moved start length a.endAt
  return { a with beginAt := b, endAt := e }

def ofMessage (m : Message) : Span where
  path := m.numbers 1
  sourceFile := m.text? 2
  beginAt := m.number? 3
  endAt := m.number? 4
  semantic := m.number? 5
  octets := m.octets
  unknown := m.unknown

def toMessage (a : Span) : Message :=
  let path := if a.path.isEmpty then Message.empty else Message.empty.put 1 (.numbers a.path)
  (((((path.putText? 2 a.sourceFile).putNumber? 3 a.beginAt).putNumber? 4 a.endAt).putNumber? 5
    a.semantic).putOctets a.octets).keep a.unknown

end Span

namespace CodeInfo

def empty : CodeInfo := ⟨[], []⟩

/-- The annotations of a file after `length` bytes have been cut out of it at `start`. -/
def shift (start length : Int) (info : CodeInfo) : Except Failure CodeInfo := do
  return { info with spans := ← info.spans.mapM (Span.shift start length) }

def ofMessage (m : Message) : CodeInfo where
  spans := (m.nested 1).map Span.ofMessage
  unknown := m.unknown

def toMessage (info : CodeInfo) : Message :=
  (info.spans.foldl (fun m a => m.add 1 (.nested a.toMessage)) Message.empty).keep
    info.unknown

end CodeInfo
end Regen
