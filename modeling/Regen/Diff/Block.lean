import Std.Data.HashMap

/-!
# Runs of lines that two texts share

The longest run of lines that stands in both texts is found first, of several the one that
starts earliest; then the lines in front of it and those behind it are treated in the same way.
In a long text, lines that stand very often start no run, but a run may grow over them.
-/

namespace Regen.Diff

variable {α : Type} [DecidableEq α]

/-- A run of `size` lines that stands at two places. -/
structure Block where
  old : Nat
  new : Nat
  size : Nat
  deriving DecidableEq

/-- From this many lines on, a text is long. -/
def longFrom : Nat := 200

/-- The places of each line of a text, in order. -/
def places [Hashable α] (b : List α) : Std.HashMap α (List Nat) :=
  b.zipIdx.foldr (fun (x, j) t => t.insert x (j :: t.getD x [])) ∅

/-- A line at so many places of a long text starts no run. -/
def isPopular (length count : Nat) : Bool := longFrom ≤ length && length / 100 + 1 < count

/-- For each line of `a` the places where it may start a run in `b`. -/
def seeds [Hashable α] (a b : List α) : List (List Nat) :=
  let t := places b
  let length := b.length
  a.map fun x =>
    let js := t.getD x []
    if isPopular length js.length then [] else js

/-- The lengths of the runs that end at the given places, from those that end one line
    before. Both lists are in ascending order of their places. -/
def runs : (before : List (Nat × Nat)) → List Nat → List (Nat × Nat)
  | _, [] => []
  | before, j :: js =>
    let before := before.dropWhile fun p => p.1 + 1 < j
    let k := match before with
      | (i, k) :: _ => if i + 1 = j then k + 1 else 1
      | [] => 1
    (j, k) :: runs before js

/-- The longest run among those of each line, the first one of several. -/
def longestOf (best : Block) (before : List (Nat × Nat)) : (at_ : Nat) → List (List Nat) → Block
  | _, [] => best
  | i, js :: rest =>
    let here := runs before js
    let best := here.foldl (fun best (j, k) =>
      if best.size < k then ⟨i + 1 - k, j + 1 - k, k⟩ else best) best
    longestOf best here (i + 1) rest

/-- How many lines two texts share at their heads. -/
def sharedHead : List α → List α → Nat
  | x :: xs, y :: ys => if x = y then sharedHead xs ys + 1 else 0
  | _, _ => 0

/-- The part of a list from one place up to another. -/
def slice (xs : List α) (lo hi : Nat) : List α := (xs.drop lo).take (hi - lo)

/-- The longest run between the given places of both texts, grown at both ends as far as the
    lines agree. -/
def longest (a b : List α) (seeds : List (List Nat)) (alo ahi blo bhi : Nat) : Block :=
  let within := (slice seeds alo ahi).map fun js => js.filter fun j => blo ≤ j && j < bhi
  let m := longestOf ⟨alo, blo, 0⟩ [] alo within
  let front := sharedHead (slice a alo m.old).reverse (slice b blo m.new).reverse
  let back := sharedHead (slice a (m.old + m.size) ahi) (slice b (m.new + m.size) bhi)
  ⟨m.old - front, m.new - front, m.size + front + back⟩

/-- The runs between the given places, in order; each leaves fewer lines of `a` on either side,
    so `fuel` of them is enough for as many lines. -/
def blocksWithin (a b : List α) (seeds : List (List Nat)) :
    (fuel alo ahi blo bhi : Nat) → List Block
  | 0, _, _, _, _ => []
  | fuel + 1, alo, ahi, blo, bhi =>
    let m := longest a b seeds alo ahi blo bhi
    if m.size = 0 then []
    else
      let front := if alo < m.old ∧ blo < m.new then
          blocksWithin a b seeds fuel alo m.old blo m.new
        else []
      let back := if m.old + m.size < ahi ∧ m.new + m.size < bhi then
          blocksWithin a b seeds fuel (m.old + m.size) ahi (m.new + m.size) bhi
        else []
      front ++ m :: back

/-- Puts a run in front of others; a run that touches the first of them becomes one with it. -/
def joinBlock (m : Block) : List Block → List Block
  | [] => [m]
  | n :: rest =>
    if m.old + m.size = n.old ∧ m.new + m.size = n.new then ⟨m.old, m.new, m.size + n.size⟩ :: rest
    else m :: n :: rest

/-- The runs that two texts share. -/
def blocks [Hashable α] (a b : List α) : List Block :=
  (blocksWithin a b (seeds a b) (a.length + 1) 0 a.length 0 b.length).foldr joinBlock []

end Regen.Diff
