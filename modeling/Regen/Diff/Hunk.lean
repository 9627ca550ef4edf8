import Regen.Diff.Block

/-!
# Hunks

Two texts are cut into parts that they share and parts in which they differ. The old sides of
all parts make up the old text and the new sides the new one, whatever runs the cut goes by. A
hunk is a group of differing parts with up to three shared lines around each.
-/

namespace Regen.Diff

variable {α : Type} [DecidableEq α]

/-- Lines of both texts, or lines of the old one that lines of the new one stand for. -/
inductive Part (α : Type) where
  | same (lines : List α)
  | change (old new : List α)
  deriving DecidableEq

namespace Part

def old : Part α → List α
  | same ls => ls
  | change o _ => o

def new : Part α → List α
  | same ls => ls
  | change _ n => n

end Part

/-- A change in front of other parts, when there is one. -/
def consChange (old new : List α) (ps : List (Part α)) : List (Part α) :=
  if old = [] ∧ new = [] then ps else .change old new :: ps

/-- The parts of two texts whose first lines stand at `i` and `j`. -/
def partsFrom (i j : Nat) (a b : List α) : List Block → List (Part α)
  | [] => consChange a b []
  | m :: ms =>
    let a' := a.drop (m.old - i)
    let b' := b.drop (m.new - j)
    let rest := partsFrom (m.old + m.size) (m.new + m.size) (a'.drop m.size) (b'.drop m.size) ms
    consChange (a.take (m.old - i)) (b.take (m.new - j))
      (if a'.take m.size = b'.take m.size then .same (a'.take m.size) :: rest
       else consChange (a'.take m.size) (b'.take m.size) rest)

def parts [Hashable α] (a b : List α) : List (Part α) := partsFrom 0 0 a b (blocks a b)

omit [DecidableEq α] in
theorem take_append_drop_drop (n k : Nat) (l : List α) :
    l.take n ++ ((l.drop n).take k ++ (l.drop n).drop k) = l := by
  rw [List.take_append_drop, List.take_append_drop]

omit [DecidableEq α] in
theorem flatMap_old_consChange (o n : List α) (ps : List (Part α)) :
    (consChange o n ps).flatMap Part.old = o ++ ps.flatMap Part.old := by
  unfold consChange
  split <;> simp_all [Part.old]

omit [DecidableEq α] in
theorem flatMap_new_consChange (o n : List α) (ps : List (Part α)) :
    (consChange o n ps).flatMap Part.new = n ++ ps.flatMap Part.new := by
  unfold consChange
  split <;> simp_all [Part.new]

theorem flatMap_old_partsFrom (i j : Nat) (a b : List α) (ms : List Block) :
    (partsFrom i j a b ms).flatMap Part.old = a := by
  induction ms generalizing i j a b with
  | nil => simp [partsFrom, flatMap_old_consChange]
  | cons m ms ih =>
    unfold partsFrom
    simp only [flatMap_old_consChange]
    split
    · simp only [List.flatMap_cons, Part.old, ih]
      exact take_append_drop_drop ..
    · simp only [flatMap_old_consChange, ih]
      exact take_append_drop_drop ..

theorem flatMap_new_partsFrom (i j : Nat) (a b : List α) (ms : List Block) :
    (partsFrom i j a b ms).flatMap Part.new = b := by
  induction ms generalizing i j a b with
  | nil => simp [partsFrom, flatMap_new_consChange]
  | cons m ms ih =>
    unfold partsFrom
    simp only [flatMap_new_consChange]
    split
    · rename_i h
      simp only [List.flatMap_cons, Part.new, ih, h]
      exact take_append_drop_drop ..
    · simp only [flatMap_new_consChange, ih]
      exact take_append_drop_drop ..

/-- The old sides of the parts make up the old text. -/
theorem flatMap_old_parts [Hashable α] (a b : List α) : (parts a b).flatMap Part.old = a :=
  flatMap_old_partsFrom ..

/-- The new sides of the parts make up the new text. -/
theorem flatMap_new_parts [Hashable α] (a b : List α) : (parts a b).flatMap Part.new = b :=
  flatMap_new_partsFrom ..

/-- A group of parts that starts at the given places of both texts. -/
structure Hunk (α : Type) where
  oldStart : Nat
  newStart : Nat
  parts : List (Part α)
  deriving DecidableEq

namespace Hunk

def old (h : Hunk α) : List α := h.parts.flatMap Part.old

def new (h : Hunk α) : List α := h.parts.flatMap Part.new

end Hunk

/-- How many shared lines a hunk shows around a change. -/
def context : Nat := 3

/-- The hunks of parts that start at the places `i` and `j`. The open hunk started at `hi` and
    `hj` and holds the parts `held`, in reverse. -/
def hunksFrom (hi hj : Nat) (held : List (Part α)) :
    (i j : Nat) → List (Part α) → List (Hunk α)
  | _, _, [] =>
    match held with
    | [] | [.same _] => []
    | ps => [⟨hi, hj, ps.reverse⟩]
  | i, j, .change o n :: ps =>
    hunksFrom hi hj (.change o n :: held) (i + o.length) (j + n.length) ps
  | i, j, .same ls :: ps =>
    let i' := i + ls.length
    let j' := j + ls.length
    let tail := ls.drop (ls.length - context)
    if held = [] then
      hunksFrom (i' - tail.length) (j' - tail.length) [.same tail] i' j' ps
    else if ps = [] then hunksFrom hi hj (.same (ls.take context) :: held) i' j' ps
    else if 2 * context < ls.length then
      ⟨hi, hj, (.same (ls.take context) :: held).reverse⟩ ::
        hunksFrom (i' - tail.length) (j' - tail.length) [.same tail] i' j' ps
    else hunksFrom hi hj (.same ls :: held) i' j' ps

/-- The hunks that tell two texts apart. -/
def hunks [Hashable α] (a b : List α) : List (Hunk α) := hunksFrom 0 0 [] 0 0 (parts a b)

end Regen.Diff
