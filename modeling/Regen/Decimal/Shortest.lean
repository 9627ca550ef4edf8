/-!
# The fewest digits that identify a number

A finite binary number stands for the interval of reals that round to it. Its shortest form is
a decimal inside the interval with as few digits as possible and, among those, the one nearest
to the number; a tie goes to the even digit.
-/

namespace Regen.Decimal

/-- A finite number that is not negative, `m * 2 ^ q`. -/
structure Binary where
  m : Nat
  q : Int
  /-- The gap to the number below is half the gap to the number above. -/
  narrowBelow : Bool

/-- The number with the given bits, its sign left out. -/
def Binary.ofBits (b : UInt64) : Binary :=
  let e := ((b >>> 52) &&& 0x7FF).toNat
  let f := (b &&& 0xFFFFFFFFFFFFF).toNat
  if e == 0 then ⟨f, -1074, false⟩ else ⟨Nat.pow 2 52 + f, (e : Int) - 1075, f == 0 && e > 1⟩

/-- A decimal, `digits * 10 ^ exp`. -/
structure Numeral where
  digits : Nat
  exp : Int
  deriving DecidableEq

/-- Compares `a * 10 ^ i` with `n * 2 ^ j`. -/
def compareScaled (a : Nat) (i : Int) (n : Nat) (j : Int) : Ordering :=
  compare (a * Nat.pow 10 i.toNat * Nat.pow 2 (-j).toNat) (n * Nat.pow 2 j.toNat * Nat.pow 10 (-i).toNat)

/-- The decimal lies among the reals that round to `x`; the ends belong to an even `x`. -/
def Binary.admits (x : Binary) (d : Numeral) : Bool :=
  let low := if x.narrowBelow then 4 * x.m - 1 else 4 * x.m - 2
  let ends := x.m % 2 == 0
  let l := compareScaled d.digits d.exp low (x.q - 2)
  let h := compareScaled d.digits d.exp (4 * x.m + 2) (x.q - 2)
  (l == .gt || (ends && l == .eq)) && (h == .lt || (ends && h == .eq))

/-- The greatest decimal with exponent `e` that is not above `x`. -/
def Binary.below (x : Binary) (e : Int) : Nat :=
  x.m * Nat.pow 2 x.q.toNat * Nat.pow 10 (-e).toNat / (Nat.pow 2 (-x.q).toNat * Nat.pow 10 e.toNat)

/-- The admitted decimal with exponent `e` that is nearest to `x`. -/
def Binary.nearest? (x : Binary) (e : Int) : Option Numeral :=
  let lo := x.below e
  match x.admits ⟨lo, e⟩, x.admits ⟨lo + 1, e⟩ with
  | true, false => some ⟨lo, e⟩
  | false, true => some ⟨lo + 1, e⟩
  | false, false => none
  | true, true =>
    match compareScaled (2 * lo + 1) e (2 * x.m) x.q with
    | .gt => some ⟨lo, e⟩
    | .lt => some ⟨lo + 1, e⟩
    | .eq => some (if lo % 2 = 0 then ⟨lo, e⟩ else ⟨lo + 1, e⟩)

/-- The decimal without zeros at the end of its digits. -/
def Numeral.strip : Nat → Numeral → Numeral
  | 0, d => d
  | fuel + 1, d =>
    if d.digits ≠ 0 ∧ d.digits % 10 = 0 then strip fuel ⟨d.digits / 10, d.exp + 1⟩ else d

/-- The shortest form of a number other than zero. Exponents from that of the leading digit down
    are tried; the exact value of the number stands where none fits. -/
def Binary.shortest (x : Binary) : Numeral :=
  let top : Int := ((x.m.log2 : Int) + x.q) * 30103 / 100000 + 2
  let found := (List.range 22).findSome? fun (k : Nat) => x.nearest? (top - k)
  (found.getD ⟨x.m * Nat.pow 2 x.q.toNat * Nat.pow 5 (-x.q).toNat, -(-x.q).toNat⟩).strip 400

end Regen.Decimal
