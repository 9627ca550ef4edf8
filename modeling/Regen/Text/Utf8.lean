import Regen.Text.Quoted

/-!
# Bytes and characters

Texts are stored as UTF-8. `pieces` reads bytes as a sequence of characters and of stray bytes:
the longest start of a character that nothing continues is one piece, and so is a byte that
starts no character. The three readers differ only in what they make of stray bytes: refuse
the whole, show one replacement character for each piece, or show the escape of each byte.
-/

namespace Regen

/-- The content of a file, of a stream or of a field. -/
abbrev Bytes := List UInt8

namespace Text

def encode (s : List Char) : Bytes := s.flatMap String.utf8EncodeChar

/-- The bytes of a text. -/
def bytes (s : String) : Bytes := encode s.toList

/-- What stands next in a sequence of bytes. -/
inductive Piece where
  | char (c : Char)
  | stray (bs : Bytes)
  deriving DecidableEq

def isTail (b : UInt8) : Bool := 0x80 ≤ b && b ≤ 0xBF

/-- The bounds of the second byte and the count of bytes behind the first, by the first byte. -/
def lead (b : UInt8) : Option (UInt8 × UInt8 × Nat) :=
  if 0xC2 ≤ b && b ≤ 0xDF then some (0x80, 0xBF, 1)
  else if b = 0xE0 then some (0xA0, 0xBF, 2)
  else if b = 0xED then some (0x80, 0x9F, 2)
  else if 0xE1 ≤ b && b ≤ 0xEF then some (0x80, 0xBF, 2)
  else if b = 0xF0 then some (0x90, 0xBF, 3)
  else if 0xF1 ≤ b && b ≤ 0xF3 then some (0x80, 0xBF, 3)
  else if b = 0xF4 then some (0x80, 0x8F, 3)
  else none

/-- The payload of the tail bytes, six bits each, below the bits of the first byte. -/
def assemble (top : Nat) (tails : Bytes) : Char :=
  Char.ofNat (tails.foldl (fun n b => n * 64 + b.toNat % 64) top)

/-- The bits that the first byte of a character of `1 + n` bytes adds. -/
def leadBits (n : Nat) (b : UInt8) : Nat :=
  if n = 1 then b.toNat % 32 else if n = 2 then b.toNat % 16 else b.toNat % 8

/-- The piece that starts with `b`, given the bytes behind it. -/
def piece (b : UInt8) (r : Bytes) : Piece :=
  if b < 0x80 then .char (Char.ofNat b.toNat)
  else match lead b with
    | none => .stray [b]
    | some (lo, hi, n) =>
      match r with
      | [] => .stray [b]
      | c :: r =>
        if lo ≤ c && c ≤ hi then
          let tails := c :: (r.take (n - 1)).takeWhile isTail
          if tails.length = n then .char (assemble (leadBits n b) tails) else .stray (b :: tails)
        else .stray [b]

/-- The count of bytes in a piece. -/
def Piece.size : Piece → Nat
  | .char c => c.utf8Size
  | .stray bs => bs.length

/-- Reads pieces for as long as `fuel` and the bytes last; each piece takes at least one byte. -/
def piecesWithin : Nat → Bytes → List Piece
  | 0, _ => []
  | _ + 1, [] => []
  | fuel + 1, b :: r => piece b r :: piecesWithin fuel (r.drop ((piece b r).size - 1))

def pieces (bs : Bytes) : List Piece := piecesWithin bs.length bs

def Piece.char? : Piece → Option Char
  | .char c => some c
  | .stray _ => none

/-- The character for a stray piece where the reader has to go on. -/
def Piece.orReplacement : Piece → Char
  | .char c => c
  | .stray _ => '\ufffd'

/-- The character, or the escape of each stray byte. -/
def Piece.orEscapes : Piece → List Char
  | .char c => [c]
  | .stray bs => bs.flatMap fun b => codeEscape b.toNat

/-- The characters of `bs`; nothing when a byte is stray. -/
def decodeChars? (bs : Bytes) : Option (List Char) := (pieces bs).mapM Piece.char?

def decode? (bs : Bytes) : Option String := (decodeChars? bs).map String.ofList

/-- Shows one replacement character for each stray piece. -/
def decodeReplacing (bs : Bytes) : String := String.ofList ((pieces bs).map Piece.orReplacement)

/-- Shows each stray byte as its escape. -/
def decodeEscaping (bs : Bytes) : List Char := (pieces bs).flatMap Piece.orEscapes

theorem encode_append (s t : List Char) : encode (s ++ t) = encode s ++ encode t := by
  simp [encode]

end Text
end Regen
