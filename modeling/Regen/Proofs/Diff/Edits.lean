import Regen.Diff.Hunk

/-!
# Hunks tell all that changed

Hunks edit a list of lines into another one when each of them stands where it says, behind lines that both
lists share (`Edits`). The hunks of two lists do (`edits_hunks`), whatever runs of lines the lists were compared
by, and applying hunks that do gives the second list (`applied?_of_edits`).
-/

namespace Regen.Diff

variable {α : Type}

/-- Hunks that edit the lines `old` into the lines `new`, which start at the places `i` and `j` of their texts. -/
inductive Edits : (i j : Nat) → List (Hunk α) → (old new : List α) → Prop
  | done (i j : Nat) (rest : List α) : Edits i j [] rest rest
  | hunk {i j : Nat} {h : Hunk α} {hs : List (Hunk α)} {old new : List α} (shared : List α) :
      h.oldStart = i + shared.length → h.newStart = j + shared.length →
      Edits (h.oldStart + h.old.length) (h.newStart + h.new.length) hs old new →
      Edits i j (h :: hs) (shared ++ (h.old ++ old)) (shared ++ (h.new ++ new))

namespace Edits

variable {i j : Nat} {hs : List (Hunk α)} {old new : List α}

/-- Lines that both lists have in front. -/
theorem behind (shared : List α) (edits : Edits (i + shared.length) (j + shared.length) hs old new) :
    Edits i j hs (shared ++ old) (shared ++ new) := by
  cases edits with
  | done => exact .done i j _
  | hunk more first second rest =>
    rw [← List.append_assoc, ← List.append_assoc shared more]
    refine .hunk (shared ++ more) ?_ ?_ rest
    · rw [first, List.length_append, Nat.add_assoc]
    · rw [second, List.length_append, Nat.add_assoc]

/-- No hunks are left only where the lists are the same. -/
theorem eq_of_nil (edits : Edits i j [] old new) : old = new := by
  cases edits
  rfl

/-- A hunk stands in both lists where it says. -/
theorem standing (edits : Edits i j hs old new) {h : Hunk α} (mem : h ∈ hs) :
    (∃ front rest, old = front ++ (h.old ++ rest) ∧ h.oldStart = i + front.length) ∧
      ∃ front rest, new = front ++ (h.new ++ rest) ∧ h.newStart = j + front.length := by
  induction edits with
  | done => cases mem
  | @hunk i j h' hs old new shared first second edits ih =>
    rcases List.mem_cons.1 mem with rfl | mem
    · exact ⟨⟨shared, old, rfl, first⟩, shared, new, rfl, second⟩
    · obtain ⟨⟨front, rest, rfl, start⟩, front', rest', rfl, start'⟩ := ih mem
      refine ⟨⟨shared ++ (h'.old ++ front), rest, by simp only [List.append_assoc], ?_⟩,
        shared ++ (h'.new ++ front'), rest', by simp only [List.append_assoc], ?_⟩
      · rw [start, first, List.length_append, List.length_append]
        omega
      · rw [start', second, List.length_append, List.length_append]
        omega

theorem getElem?_behind {front ls rest : List α} {k : Nat} {l : α} (line : ls[k]? = some l) :
    (front ++ (ls ++ rest))[front.length + k]? = some l := by
  have bound := (List.getElem?_eq_some_iff.1 line).1
  rw [List.getElem?_append_right (Nat.le_add_right ..), Nat.add_sub_cancel_left, List.getElem?_append_left bound, line]

/-- The lines of a hunk stand in both lists where the hunk says. -/
theorem getElem?_old (edits : Edits i j hs old new) {h : Hunk α} (mem : h ∈ hs) {k : Nat} {l : α}
    (line : h.old[k]? = some l) : old[h.oldStart - i + k]? = some l := by
  obtain ⟨⟨front, rest, rfl, start⟩, -⟩ := edits.standing mem
  rw [start, Nat.add_sub_cancel_left, getElem?_behind line]

theorem getElem?_new (edits : Edits i j hs old new) {h : Hunk α} (mem : h ∈ hs) {k : Nat} {l : α}
    (line : h.new[k]? = some l) : new[h.newStart - j + k]? = some l := by
  obtain ⟨-, front, rest, rfl, start⟩ := edits.standing mem
  rw [start, Nat.add_sub_cancel_left, getElem?_behind line]

end Edits

/-! ### Applying hunks -/

section Apply

variable [DecidableEq α]

/-- Applies hunks to `lines`, which start at the place `i` of the old text and at `j` of the new one. A hunk
applies only where its old lines stand, and only when it says of both texts where that is. -/
def applyFrom (i j : Nat) (lines : List α) : List (Hunk α) → Option (List α)
  | [] => some lines
  | h :: hs =>
    let front := h.oldStart - i
    if i ≤ h.oldStart ∧ front ≤ lines.length ∧ h.newStart = j + front ∧ h.old <+: lines.drop front then
      (applyFrom (h.oldStart + h.old.length) (h.newStart + h.new.length)
        ((lines.drop front).drop h.old.length) hs).map fun rest => lines.take front ++ (h.new ++ rest)
    else none

/-- Applies hunks to the lines of a text. -/
def applied? (hs : List (Hunk α)) (lines : List α) : Option (List α) := applyFrom 0 0 lines hs

theorem applyFrom_of_edits {i j : Nat} {hs : List (Hunk α)} {old new : List α} (edits : Edits i j hs old new) :
    applyFrom i j old hs = some new := by
  induction edits with
  | done => rfl
  | @hunk i j h hs old new shared first second rest ih =>
    have front : h.oldStart - i = shared.length := by omega
    have here : i ≤ h.oldStart ∧ shared.length ≤ (shared ++ (h.old ++ old)).length ∧
        h.newStart = j + shared.length ∧ h.old <+: (shared ++ (h.old ++ old)).drop shared.length := by
      refine ⟨by omega, by simp, second, ?_⟩
      rw [List.drop_left]
      exact List.prefix_append ..
    rw [applyFrom, front, if_pos here, List.drop_left, List.drop_left, ih, Option.map_some, List.take_left]

theorem applied?_of_edits {hs : List (Hunk α)} {old new : List α} (edits : Edits 0 0 hs old new) :
    applied? hs old = some new :=
  applyFrom_of_edits edits

end Apply

/-! ### The hunks of two texts -/

/-- The old lines of parts, which are in reverse. -/
def heldOld (held : List (Part α)) : List α := held.reverse.flatMap Part.old

def heldNew (held : List (Part α)) : List α := held.reverse.flatMap Part.new

@[simp] theorem heldOld_cons (p : Part α) (held : List (Part α)) :
    heldOld (p :: held) = heldOld held ++ p.old := by
  simp [heldOld]

@[simp] theorem heldNew_cons (p : Part α) (held : List (Part α)) :
    heldNew (p :: held) = heldNew held ++ p.new := by
  simp [heldNew]

/-- A hunk is closed where the next one starts to be looked for. -/
theorem edits_close {hi hj : Nat} {hs : List (Hunk α)} {old new : List α} (held : List (Part α))
    (rest : Edits (hi + (heldOld held).length) (hj + (heldNew held).length) hs old new) :
    Edits hi hj (⟨hi, hj, held.reverse⟩ :: hs) (heldOld held ++ old) (heldNew held ++ new) :=
  .hunk [] rfl rfl rest

/-- What is shared behind the last part stays as it is. -/
theorem edits_hunksFrom_nil (hi hj i j : Nat) (held : List (Part α)) (rest : List α) :
    Edits hi hj (hunksFrom hi hj held i j []) (heldOld held ++ rest) (heldNew held ++ rest) := by
  unfold hunksFrom
  split
  · exact .done ..
  · exact .done ..
  · exact edits_close held (.done ..)

/-- Whatever an open hunk holds, it and the hunks behind it edit what it holds and the parts that follow. -/
def Follows (ps : List (Part α)) : Prop :=
  ∀ (hi hj i j : Nat) (held : List (Part α)), i = hi + (heldOld held).length → j = hj + (heldNew held).length →
    Edits hi hj (hunksFrom hi hj held i j ps) (heldOld held ++ ps.flatMap Part.old)
      (heldNew held ++ ps.flatMap Part.new)

namespace Follows

variable {ps : List (Part α)}

theorem change (follows : Follows ps) (o n : List α) : Follows (.change o n :: ps) := by
  intro hi hj i j held first second
  have edits := follows hi hj (i + o.length) (j + n.length) (.change o n :: held)
    (by simp [first, Part.old, Nat.add_assoc]) (by simp [second, Part.new, Nat.add_assoc])
  simpa [hunksFrom, Part.old, Part.new] using edits

/-- The last lines of a shared part open a hunk, behind those in front of them. -/
theorem reopened (follows : Follows ps) (hi hj i j : Nat) (front tail : List α)
    (first : i = hi + (front ++ tail).length) (second : j = hj + (front ++ tail).length) :
    Edits hi hj (hunksFrom (i - tail.length) (j - tail.length) [.same tail] i j ps)
      (front ++ tail ++ ps.flatMap Part.old) (front ++ tail ++ ps.flatMap Part.new) := by
  rw [List.length_append] at first second
  obtain rfl : i = hi + front.length + tail.length := by omega
  obtain rfl : j = hj + front.length + tail.length := by omega
  rw [Nat.add_sub_cancel, Nat.add_sub_cancel, List.append_assoc, List.append_assoc]
  refine .behind front ?_
  have edits := follows (hi + front.length) (hj + front.length) (hi + front.length + tail.length)
    (hj + front.length + tail.length) [.same tail] (by simp [heldOld, Part.old]) (by simp [heldNew, Part.new])
  simpa [heldOld, heldNew, Part.old, Part.new] using edits

theorem same (follows : Follows ps) (ls : List α) : Follows (.same ls :: ps) := by
  intro hi hj i j held first second
  simp only [List.flatMap_cons, Part.old, Part.new]
  rw [hunksFrom]
  split
  · next opened =>
    subst opened
    have edits := follows.reopened hi hj (i + ls.length) (j + ls.length) (ls.take (ls.length - context))
      (ls.drop (ls.length - context))
    rw [List.take_append_drop] at edits
    exact edits (by simp [first, heldOld]) (by simp [second, heldNew])
  split
  · next last =>
    subst last
    have edits := edits_hunksFrom_nil hi hj (i + ls.length) (j + ls.length)
      (.same (ls.take context) :: held) (ls.drop context)
    simpa [Part.old, Part.new] using edits
  split
  · next long =>
    -- The hunk ends with the first shared lines, and those in the middle are passed over.
    have parted : (ls.drop context).take (ls.length - 2 * context) ++ ls.drop (ls.length - context) =
        ls.drop context := by
      rw [show ls.length - context = context + (ls.length - 2 * context) by omega, ← List.drop_drop,
        List.take_append_drop]
    have edits := follows.reopened (hi + (heldOld (.same (ls.take context) :: held)).length)
      (hj + (heldNew (.same (ls.take context) :: held)).length) (i + ls.length) (j + ls.length)
      ((ls.drop context).take (ls.length - 2 * context)) (ls.drop (ls.length - context))
    rw [parted] at edits
    have closed := edits_close (.same (ls.take context) :: held)
      (edits (by simp [first, Part.old]; omega) (by simp [second, Part.new]; omega))
    rw [heldOld_cons, heldNew_cons] at closed
    simp only [Part.old, Part.new, List.append_assoc] at closed
    rwa [← List.append_assoc (ls.take context), List.take_append_drop,
      ← List.append_assoc (ls.take context), List.take_append_drop] at closed
  · have edits := follows hi hj (i + ls.length) (j + ls.length) (.same ls :: held)
      (by simp [first, Part.old, Nat.add_assoc]) (by simp [second, Part.new, Nat.add_assoc])
    simpa [Part.old, Part.new] using edits

end Follows

theorem follows (ps : List (Part α)) : Follows ps := by
  induction ps with
  | nil => exact fun hi hj i j held _ _ => edits_hunksFrom_nil hi hj i j held []
  | cons p ps ih =>
    cases p with
    | same ls => exact ih.same ls
    | change o n => exact ih.change o n

/-- The hunks of two lists edit the first into the second. -/
theorem edits_hunks [DecidableEq α] [Hashable α] (a b : List α) : Edits 0 0 (hunks a b) a b := by
  have edits := follows (parts a b) 0 0 0 0 [] rfl rfl
  rw [flatMap_old_parts, flatMap_new_parts] at edits
  exact edits

end Regen.Diff
