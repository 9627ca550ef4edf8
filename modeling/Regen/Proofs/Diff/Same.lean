import Mathlib.Data.List.TakeWhile
import Regen.Proofs.Diff.Edits

/-!
# A text has no differences to itself

Compared with itself a text is one run, so there are no hunks (`hunks_self`). The search for the longest run must
not be led astray by lines that stand at several places: every run that ends at a line is at most as long as the
run of the text with itself that ends there, and as the one that ends at the other place (`Ends`). So the first of
the longest runs stands at one place twice (`Centred`), and it grows over the whole text (`longest_self`).
-/

namespace Regen.Diff

variable {α : Type}

/-! ### Runs that end at one line -/

theorem map_fst_runs (before : List (Nat × Nat)) (js : List Nat) : (runs before js).map Prod.fst = js := by
  induction js generalizing before with
  | nil => rfl
  | cons j js ih => rw [runs, List.map_cons, ih]

/-- A run is one line long or goes on from one that ends one line before. -/
theorem mem_runs {before : List (Nat × Nat)} {js : List Nat} {j k : Nat} (mem : (j, k) ∈ runs before js) :
    k = 1 ∨ ∃ i l, (i, l) ∈ before ∧ j = i + 1 ∧ k = l + 1 := by
  induction js generalizing before with
  | nil => cases mem
  | cons j' js ih =>
    rw [runs, List.mem_cons] at mem
    have inner : ∀ {p}, p ∈ before.dropWhile (fun p => p.1 + 1 < j') → p ∈ before :=
      fun mem => (List.dropWhile_sublist _).subset mem
    rcases mem with here | later
    · obtain ⟨rfl, length⟩ := Prod.mk.inj here
      split at length
      · next i l rest opens =>
        split at length
        · next next =>
          exact .inr ⟨i, l, inner (by simp [opens]), next.symm, length⟩
        · exact .inl length
      · exact .inl length
    · rcases ih later with one | ⟨i, l, mem, next, length⟩
      · exact .inl one
      · exact .inr ⟨i, l, inner mem, next, length⟩

theorem mem_dropWhile {β : Type} {p : β → Bool} {l : List β} {x : β} (mem : x ∈ l) (stop : p x = false) :
    x ∈ l.dropWhile p := by
  rw [← List.takeWhile_append_dropWhile (p := p) (l := l), List.mem_append] at mem
  refine mem.resolve_left fun passed => ?_
  rw [List.mem_takeWhile_imp passed] at stop
  cases stop

/-- Where a run may go on, it does. -/
theorem mem_runs_of_mem {before : List (Nat × Nat)} {js : List Nat} {i k : Nat}
    (ordered : before.Pairwise fun p q => p.1 < q.1) (ascending : js.Pairwise (· < ·)) (mem : (i, k) ∈ before)
    (goes : i + 1 ∈ js) : (i + 1, k + 1) ∈ runs before js := by
  induction js generalizing before with
  | nil => cases goes
  | cons j js ih =>
    obtain ⟨least, ascending⟩ := List.pairwise_cons.1 ascending
    have upTo : j ≤ i + 1 := by
      rcases List.mem_cons.1 goes with rfl | later
      · exact Nat.le_refl _
      · exact Nat.le_of_lt (least _ later)
    have kept : (i, k) ∈ before.dropWhile fun p => p.1 + 1 < j :=
      mem_dropWhile mem (decide_eq_false (Nat.not_lt.2 upTo))
    have ordered' : (before.dropWhile fun p => p.1 + 1 < j).Pairwise fun p q => p.1 < q.1 :=
      ordered.sublist (List.dropWhile_sublist _)
    rw [runs, List.mem_cons]
    rcases List.mem_cons.1 goes with rfl | later
    · left
      have stop := List.head?_dropWhile_not (fun p : Nat × Nat => p.1 + 1 < i + 1) before
      cases opens : before.dropWhile fun p => p.1 + 1 < i + 1 with
      | nil =>
        rw [opens] at kept
        cases kept
      | cons p rest =>
        rw [opens] at kept ordered' stop
        -- The first run that is not dropped is the one that goes on.
        rcases List.mem_cons.1 kept with rfl | behind
        · simp
        · have longer := (List.pairwise_cons.1 ordered').1 _ behind
          simp only [List.head?_cons, decide_eq_false_iff_not] at stop
          omega
    · exact .inr (ih ordered' ascending kept later)

/-! ### The places of a line -/

section Hashed

variable [DecidableEq α] [Hashable α]

theorem getD_places (b : List α) (x : α) :
    (places b).getD x [] = (b.zipIdx.filter fun p => p.1 = x).map Prod.snd := by
  unfold places
  induction b.zipIdx with
  | nil => simp
  | cons p l ih =>
    obtain ⟨y, j⟩ := p
    rw [List.foldr_cons, Std.HashMap.getD_insert]
    by_cases same : y = x
    · subst same
      simp [ih]
    · simp [same, ih]

/-- The places where a line of a text may start a run. -/
def seedsOf (b : List α) (x : α) : List Nat :=
  let js := (places b).getD x []
  if isPopular b.length js.length then [] else js

theorem seeds_eq (a b : List α) : seeds a b = a.map (seedsOf b) := rfl

theorem mem_places {b : List α} {x : α} {j : Nat} : j ∈ (places b).getD x [] ↔ b[j]? = some x := by
  rw [getD_places, List.mem_map]
  constructor
  · rintro ⟨⟨y, i⟩, kept, rfl⟩
    obtain ⟨mem, same⟩ := List.mem_filter.1 kept
    obtain rfl := of_decide_eq_true same
    exact List.mem_zipIdx_iff_getElem?.1 mem
  · intro there
    exact ⟨(x, j), List.mem_filter.2 ⟨List.mem_zipIdx_iff_getElem?.2 there, by simp⟩, rfl⟩

theorem pairwise_seedsOf (b : List α) (x : α) : (seedsOf b x).Pairwise (· < ·) := by
  have ordered : (b.zipIdx.map Prod.snd).Pairwise (· < ·) := by
    rw [List.zipIdx_map_snd]
    exact List.pairwise_lt_range'
  have places : ((places b).getD x []).Pairwise (· < ·) := by
    rw [getD_places]
    exact List.pairwise_map.2 ((List.pairwise_map.1 ordered).filter _)
  simp only [seedsOf]
  split
  · exact .nil
  · exact places

/-- The places where the line at a place of a text may start a run in the same text. -/
def row (a : List α) (i : Nat) : List Nat := a[i]?.elim [] (seedsOf a)

theorem pairwise_row (a : List α) (i : Nat) : (row a i).Pairwise (· < ·) := by
  unfold row
  cases a[i]? with
  | none => exact .nil
  | some x => exact pairwise_seedsOf a x

theorem row_eq {a : List α} {i : Nat} {x : α} (line : a[i]? = some x) : row a i = seedsOf a x := by
  rw [row, line]
  rfl

/-- A line that may start a run at another place may start one at both. -/
theorem mem_row_of_mem {a : List α} {i j : Nat} (mem : j ∈ row a i) : i ∈ row a i ∧ j ∈ row a j := by
  cases line : a[i]? with
  | none =>
    rw [row, line] at mem
    cases mem
  | some x =>
    rw [row_eq line] at mem ⊢
    have seeded : seedsOf a x = (places a).getD x [] := by
      simp only [seedsOf] at mem ⊢
      split
      · next popular => simp [popular] at mem
      · rfl
    rw [seeded] at mem ⊢
    rw [row_eq (mem_places.1 mem), seeded]
    exact ⟨mem_places.2 line, mem⟩

/-! ### The longest run of a text with itself -/

/-- How many lines in front of a place may start runs, without a gap. -/
def reach (a : List α) : Nat → Nat
  | 0 => 0
  | i + 1 => if i ∈ row a i then reach a i + 1 else 0

theorem reach_succ {a : List α} {i : Nat} (mem : i ∈ row a i) : reach a (i + 1) = reach a i + 1 := if_pos mem

theorem reach_le (a : List α) (i : Nat) : reach a i ≤ i := by
  induction i with
  | zero => exact Nat.le_refl 0
  | succ i ih =>
    rw [reach]
    split <;> omega

/-- The runs that end in front of the line at `i`: none reaches farther than the run of the text with itself, at
either place, and that run is among them. -/
structure Ends (a : List α) (i : Nat) (before : List (Nat × Nat)) : Prop where
  ordered : before.Pairwise fun p q => p.1 < q.1
  bounded : ∀ j k, (j, k) ∈ before → k ≤ reach a i ∧ k ≤ reach a (j + 1)
  reached : 0 < reach a i → (i - 1, reach a i) ∈ before

theorem Ends.start (a : List α) : Ends a 0 [] := ⟨.nil, nofun, fun some => absurd some (Nat.lt_irrefl 0)⟩

variable {a : List α} {i : Nat} {before : List (Nat × Nat)}

theorem Ends.next (ends : Ends a i before) : Ends a (i + 1) (runs before (row a i)) where
  ordered := by
    have ascending := pairwise_row a i
    rw [← map_fst_runs before (row a i), List.pairwise_map] at ascending
    exact ascending
  bounded := by
    intro j k mem
    have place : j ∈ row a i := by
      rw [← map_fst_runs before (row a i)]
      exact List.mem_map_of_mem mem
    obtain ⟨here, there⟩ := mem_row_of_mem place
    rw [reach_succ here, reach_succ there]
    rcases mem_runs mem with rfl | ⟨j', l, earlier, rfl, rfl⟩
    · omega
    · have bounded := ends.bounded j' l earlier
      omega
  reached := by
    intro some
    have here : i ∈ row a i := by
      by_contra none
      rw [reach, if_neg none] at some
      exact Nat.lt_irrefl 0 some
    rw [reach_succ here, Nat.add_sub_cancel]
    by_cases first : 0 < reach a i
    · have far := reach_le a i
      have last : i - 1 + 1 = i := by omega
      have goes : i - 1 + 1 ∈ row a i := by rwa [last]
      have next := mem_runs_of_mem ends.ordered (pairwise_row a i) (ends.reached first) goes
      rwa [last] at next
    · have none : reach a i = 0 := Nat.eq_zero_of_not_pos first
      obtain ⟨⟨j, k⟩, mem, rfl⟩ : ∃ p ∈ runs before (row a i), p.1 = i := by
        rwa [← List.mem_map, map_fst_runs]
      rcases mem_runs mem with rfl | ⟨j', l, earlier, rfl, rfl⟩
      · rwa [none]
      · have short := (ends.bounded j' l earlier).1
        obtain rfl : l = 0 := by omega
        rwa [none]

/-- A run stands at one place twice, within the lines in front of `i`, and none of the runs of the text with itself
that end there is longer. -/
structure Centred (a : List α) (i : Nat) (best : Block) : Prop where
  level : best.old = best.new
  within : best.old + best.size ≤ i
  longest : ∀ j ≤ i, reach a j ≤ best.size

/-- The longer one of a run and another one that ends behind the line at `i`. -/
def better (i : Nat) (best : Block) (p : Nat × Nat) : Block :=
  if best.size < p.2 then ⟨i + 1 - p.2, p.1 + 1 - p.2, p.2⟩ else best

theorem foldl_better_of_le {i : Nat} {best : Block} {l : List (Nat × Nat)} (short : ∀ p ∈ l, p.2 ≤ best.size) :
    l.foldl (better i) best = best := by
  induction l with
  | nil => rfl
  | cons p l ih =>
    obtain ⟨first, others⟩ := List.forall_mem_cons.1 short
    rw [List.foldl_cons, better, if_neg (Nat.not_lt.2 first)]
    exact ih others

/-- Of the runs that end at one line only the one of the text with itself can be longer than all before. -/
theorem Centred.next {best : Block} {here : List (Nat × Nat)} (centred : Centred a i best)
    (ends : Ends a (i + 1) here) : Centred a (i + 1) (here.foldl (better i) best) := by
  by_cases some : 0 < reach a (i + 1)
  · have mem := ends.reached some
    rw [Nat.add_sub_cancel] at mem
    obtain ⟨front, back, rfl⟩ := List.append_of_mem mem
    have ordered := List.pairwise_append.1 ends.ordered
    -- Runs to places in front of this line were as long where those places stand, so one of them is `best` already.
    have earlier : ∀ p ∈ front, p.2 ≤ best.size := by
      rintro ⟨j, k⟩ mem
      have before : j < i := ordered.2.2 (j, k) mem (i, reach a (i + 1)) List.mem_cons_self
      have bounded := (ends.bounded j k (by simp [mem])).2
      exact Nat.le_trans bounded (centred.longest (j + 1) before)
    have longer : reach a (i + 1) ≤ (better i best (i, reach a (i + 1))).size := by
      unfold better
      split
      · exact Nat.le_refl _
      · next short => exact Nat.not_lt.1 short
    have later : ∀ p ∈ back, p.2 ≤ (better i best (i, reach a (i + 1))).size := by
      rintro ⟨j, k⟩ mem
      have bounded := (ends.bounded j k (by simp [mem])).1
      exact Nat.le_trans bounded longer
    rw [List.foldl_append, foldl_better_of_le earlier, List.foldl_cons, foldl_better_of_le later]
    have far := reach_le a (i + 1)
    unfold better at longer ⊢
    split
    · next improved =>
      refine ⟨rfl, ?_, fun j upTo => ?_⟩
      · simp only
        omega
      · rcases Nat.le_succ_iff.1 upTo with before | rfl
        · exact Nat.le_trans (centred.longest j before) (Nat.le_of_lt improved)
        · exact Nat.le_refl _
    · next short =>
      refine ⟨centred.level, Nat.le_succ_of_le centred.within, fun j upTo => ?_⟩
      rcases Nat.le_succ_iff.1 upTo with before | rfl
      · exact centred.longest j before
      · exact Nat.not_lt.1 short
  · have none : reach a (i + 1) = 0 := Nat.eq_zero_of_not_pos some
    have short : ∀ p ∈ here, p.2 ≤ best.size := by
      rintro ⟨j, k⟩ mem
      have := (ends.bounded j k mem).1
      omega
    rw [foldl_better_of_le short]
    refine ⟨centred.level, Nat.le_succ_of_le centred.within, fun j upTo => ?_⟩
    rcases Nat.le_succ_iff.1 upTo with before | rfl
    · exact centred.longest j before
    · rw [none]
      exact Nat.zero_le _

/-- The induction is on the lines that are left; those in front have been gone through. -/
theorem centred_longestOf {front rest : List α} {best : Block} (whole : a = front ++ rest)
    (centred : Centred a front.length best) (ends : Ends a front.length before) :
    Centred a a.length (longestOf best before front.length (rest.map (seedsOf a))) := by
  induction rest generalizing front best before with
  | nil =>
    rw [List.append_nil] at whole
    rwa [whole] at centred ⊢
  | cons x rest ih =>
    have line : a[front.length]? = some x := by
      rw [whole, List.getElem?_append_right (Nat.le_refl _), Nat.sub_self]
      rfl
    have ends' := ends.next
    have centred' := centred.next ends'
    rw [row_eq line] at ends' centred'
    have onward : a = front ++ [x] ++ rest := by simp [whole]
    have length : front.length + 1 = (front ++ [x]).length := by simp
    rw [length] at ends' centred'
    have further := ih onward centred' ends'
    rwa [← length] at further

omit [Hashable α] in
theorem sharedHead_self (xs : List α) : sharedHead xs xs = xs.length := by
  induction xs with
  | nil => rfl
  | cons x xs ih => rw [sharedHead, if_pos rfl, ih, List.length_cons]

theorem lt_of_mem_seedsOf {x : α} {j : Nat} (mem : j ∈ seedsOf a x) : j < a.length := by
  simp only [seedsOf] at mem
  split at mem
  · cases mem
  · exact (List.getElem?_eq_some_iff.1 (mem_places.1 mem)).1

/-- Between the ends of a text no place is left out. -/
theorem seeds_within (a : List α) : (slice (seeds a a) 0 a.length).map
    (fun js => js.filter fun j => 0 ≤ j && j < a.length) = a.map (seedsOf a) := by
  have all : slice (seeds a a) 0 a.length = a.map (seedsOf a) := by
    rw [slice, seeds_eq, List.drop_zero, Nat.sub_zero]
    exact List.take_of_length_le (by simp)
  rw [all, List.map_map]
  refine List.map_congr_left fun x _ => List.filter_eq_self.2 fun j mem => ?_
  simp [lt_of_mem_seedsOf mem]

/-- The longest run of a text with itself is the whole text. -/
theorem longest_self (a : List α) : longest a a (seeds a a) 0 a.length 0 a.length = ⟨0, 0, a.length⟩ := by
  have start : Centred a ([] : List α).length ⟨0, 0, 0⟩ := ⟨rfl, Nat.le_refl 0, fun j none => by
    obtain rfl := Nat.le_zero.1 none
    exact Nat.le_refl 0⟩
  have centred := centred_longestOf (List.nil_append a).symm start (.start a)
  rw [List.length_nil] at centred
  rw [longest, seeds_within]
  generalize longestOf ⟨0, 0, 0⟩ [] 0 (a.map (seedsOf a)) = m at centred ⊢
  obtain ⟨i, j, size⟩ := m
  obtain rfl : i = j := centred.level
  have within : i + size ≤ a.length := centred.within
  have front : (slice a 0 i).length = i := by
    rw [slice, List.length_take, List.length_drop]
    omega
  have back : (slice a (i + size) a.length).length = a.length - (i + size) := by
    rw [slice, List.length_take, List.length_drop]
    omega
  simp only [sharedHead_self, List.length_reverse, front, back, Block.mk.injEq, Nat.sub_self, true_and]
  omega

theorem blocks_self (some : a ≠ []) : blocks a a = [⟨0, 0, a.length⟩] := by
  have length : a.length ≠ 0 := fun none => some (List.length_eq_zero_iff.1 none)
  rw [blocks, blocksWithin, longest_self]
  simp [length, joinBlock]

theorem parts_self (some : a ≠ []) : parts a a = [.same a] := by
  rw [parts, blocks_self some]
  simp [partsFrom, consChange]

/-- A text has no hunks to itself. -/
theorem hunks_self (a : List α) : hunks a a = [] := by
  by_cases none : a = []
  · subst none
    rfl
  · rw [hunks, parts_self none, hunksFrom, if_pos rfl]
    rfl

/-- Two texts have no hunks just when they are the same. -/
theorem hunks_eq_nil_iff {a b : List α} : hunks a b = [] ↔ a = b := by
  constructor
  · intro none
    have edits := edits_hunks a b
    rw [none] at edits
    exact edits.eq_of_nil
  · rintro rfl
    exact hunks_self a

end Hashed

end Regen.Diff
