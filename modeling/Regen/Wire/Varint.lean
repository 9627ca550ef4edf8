import Regen.Text.Utf8

/-!
# Variable-length numbers

Seven bits a byte, the lowest first; a set high bit says that more bytes follow.
-/

namespace Regen.Wire

/-- Reads a number of at most `limit` bytes, and the bytes behind it. -/
def readVarint : Nat → Bytes → Option (Nat × Bytes)
  | 0, _ => none
  | _ + 1, [] => none
  | limit + 1, b :: r =>
    if b < 0x80 then some (b.toNat, r)
    else (readVarint limit r).map fun (n, r) => (b.toNat - 128 + 128 * n, r)

/-- The bytes of a number, at most `1 + more` of them. -/
def varintWithin : Nat → Nat → Bytes
  | 0, n => [UInt8.ofNat n]
  | more + 1, n =>
    if n < 128 then [UInt8.ofNat n]
    else UInt8.ofNat (n % 128 + 128) :: varintWithin more (n / 128)

/-- The bytes of a number below `2 ^ 64`. -/
def varint (n : Nat) : Bytes := varintWithin 9 n

/-- The two's complement of an integer in 64 bits. -/
def word64 (n : Int) : Nat := (n % Int.pow 2 64).toNat

/-- The low 32 bits of a number, read as two's complement. -/
def signed32 (n : Nat) : Int := Int.bmod n (Nat.pow 2 32)

/-- The low 64 bits of a number, read as two's complement. -/
def signed64 (n : Nat) : Int := Int.bmod n (Nat.pow 2 64)

end Regen.Wire
