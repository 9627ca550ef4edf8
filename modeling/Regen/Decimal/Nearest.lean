import Regen.Decimal.Shortest

/-!
# The binary number nearest to a decimal

The quotient of two integers is scaled by a power of two until its whole part has the digits of
a binary number, and is then rounded; a tie goes to the even number. Decimals that are too large
become infinite.
-/

namespace Regen.Decimal

/-- The integer nearest to `n / d`; a tie goes to the even one. -/
def roundedQuotient (n d : Nat) : Nat :=
  let q := n / d
  let r := 2 * (n % d)
  if d < r ∨ (r = d ∧ q % 2 = 1) then q + 1 else q

/-- The bits of infinity. -/
def infinityBits : Nat := 0x7FF * Nat.pow 2 52

/-- The bits of the number nearest to `n / d`, for positive `n` and `d`. -/
def quotientBits (n d : Nat) : Nat :=
  let scaled (q : Int) : Nat := roundedQuotient (n * Nat.pow 2 (-q).toNat) (d * Nat.pow 2 q.toNat)
  let low : Int := max (-1074) ((n.log2 : Int) - d.log2 - 53)
  -- At the lower of the two exponents the quotient has 53 or 54 digits.
  let q := if n * Nat.pow 2 (-low).toNat < Nat.pow 2 53 * (d * Nat.pow 2 low.toNat) then low else low + 1
  let m := scaled q
  if m < Nat.pow 2 52 then m
  else min infinityBits ((q + 1075).toNat * Nat.pow 2 52 + (m - Nat.pow 2 52))

/-- The bits of the number nearest to a decimal. -/
def Numeral.bits (d : Numeral) : Nat :=
  let top := (toString d.digits).length + d.exp
  if d.digits = 0 ∨ top < -330 then 0
  else if 320 < top then infinityBits
  else quotientBits (d.digits * Nat.pow 10 d.exp.toNat) (Nat.pow 10 (-d.exp).toNat)

/-- The number nearest to a decimal. -/
def Numeral.toFloat (d : Numeral) : Float := Float.ofBits (UInt64.ofNat d.bits)

end Regen.Decimal
