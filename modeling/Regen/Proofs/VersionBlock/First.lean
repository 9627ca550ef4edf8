import Mathlib.Data.List.TakeWhile
import Mathlib.Logic.Function.Iterate
import Regen.Proofs.VersionBlock.Cut

/-!
# Taking out the first of several blocks

A text in which a line opens a block has one first block, which stands at a seam (`exists_seam`), and without such
a line there is nothing to take out (`strip_of_clear`). Nothing opens anew where a block was, so every round leaves one
block fewer (`headerCount_withoutBlock`, `headerCount_iterate`).
-/

namespace Regen.Text

variable {s : List Char}

/-- All lines in front of another one end with a line feed. -/
theorem isLine_of_feedLines {front rest : List (List Char)} {l : List Char} (lines : feedLines s = front ++ l :: rest) :
    ∀ m ∈ front, IsLine m := by
  obtain ⟨ls, last, whole, ended, -⟩ := feedLines_cases s
  have inner : front <+: ls := by
    have longer : front <+: (ls ++ last.toList).dropLast := by
      rw [← whole, lines, List.dropLast_append_of_ne_nil (List.cons_ne_nil l rest)]
      exact List.prefix_append ..
    cases last with
    | none => exact longer.trans (by simpa using List.dropLast_prefix ls)
    | some m => simpa using longer
  exact fun m mem => ended m (inner.subset mem)

/-- A line that ends with a line feed has no other one. -/
theorem isLine_of_mem_feedLines {l : List Char} (mem : l ∈ feedLines s) (ends : l.getLast? = some '\n') :
    IsLine l := by
  obtain ⟨ls, last, whole, ended, unended⟩ := feedLines_cases s
  rw [whole, List.mem_append] at mem
  rcases mem with mem | mem
  · exact ended l mem
  · have plain := (unended l (by simpa using mem)).2
    exact absurd (List.mem_of_getLast? ends) plain

/-- The last lines of a text are the lines that their text is cut into. -/
theorem feedLines_flatten_of_append {front rest : List (List Char)} (lines : feedLines s = front ++ rest) :
    feedLines rest.flatten = rest := by
  cases rest with
  | nil => rfl
  | cons l rest =>
    have ended := isLine_of_feedLines lines
    have whole : s = front.flatten ++ (l :: rest).flatten := by
      rw [← List.flatten_append, ← lines, flatten_feedLines]
    have again := lines
    rw [whole, feedLines_append (ended_flatten ended), feedLines_flatten ended] at again
    exact List.append_cancel_left again

end Regen.Text

namespace Regen.VersionBlock

/-- How many lines open a block. -/
def headerCount (content : String) : Nat := (Text.feedLines content.toList).count header

/-- The text without its first block. -/
def withoutBlock (content : String) : String := (strip content).content

theorem not_isEntry_header : isEntry header = false := by decide

theorem ended_of_isEntry {l : List Char} (entry : isEntry l = true) : l.getLast? = some '\n' := by
  simp only [isEntry, Bool.and_eq_true, beq_iff_eq] at entry
  exact entry.1

/-- Where lines open blocks, the first of them opens one at a seam. -/
theorem exists_insert {s : List Char} (opens : header ∈ Text.feedLines s) :
    ∃ (m : Seam) (b : Block), s = m.insert b := by
  obtain ⟨front, rest, lines, clear⟩ := List.eq_append_cons_of_mem opens
  have ended := Text.isLine_of_feedLines lines
  have parted : rest.takeWhile isEntry ++ rest.dropWhile isEntry = rest := List.takeWhile_append_dropWhile
  have behind : Text.feedLines (rest.dropWhile isEntry).flatten = rest.dropWhile isEntry := by
    have whole : Text.feedLines s = front ++ header :: rest.takeWhile isEntry ++ rest.dropWhile isEntry := by
      rw [lines, List.append_assoc, List.cons_append, parted]
    exact Text.feedLines_flatten_of_append whole
  have marked : ∀ l ∈ rest.takeWhile isEntry, isEntry l = true := fun l mem => List.mem_takeWhile_imp mem
  have entries : ∀ l ∈ rest.takeWhile isEntry, Text.IsLine l := by
    intro l mem
    refine Text.isLine_of_mem_feedLines (s := s) ?_ (ended_of_isEntry (marked l mem))
    rw [lines]
    simp [(List.takeWhile_prefix isEntry).subset mem]
  have closed : ∀ l, (Text.feedLines (rest.dropWhile isEntry).flatten).head? = some l → isEntry l = false := by
    intro l first
    rw [behind] at first
    have stop := List.head?_dropWhile_not isEntry rest
    rw [first] at stop
    simpa using stop
  have clear' : header ∉ Text.feedLines front.flatten := by rwa [Text.feedLines_flatten ended]
  refine ⟨⟨front.flatten, (rest.dropWhile isEntry).flatten, Text.ended_flatten ended, clear', closed⟩,
    ⟨rest.takeWhile isEntry, entries, marked⟩, ?_⟩
  calc s = (front ++ header :: (rest.takeWhile isEntry ++ rest.dropWhile isEntry)).flatten := by
        rw [parted, ← lines, Text.flatten_feedLines]
    _ = _ := by simp only [Seam.insert, Block.text, List.flatten_append, List.flatten_cons, List.append_assoc]

theorem cut?_of_clear {s : List Char} (clear : header ∉ Text.feedLines s) : cut? s = none := by
  have passed : (Text.feedLines s).dropWhile (fun l => decide (l ≠ header)) = [] := by
    rw [List.dropWhile_eq_nil_iff]
    intro l mem
    have other : l ≠ header := fun same => clear (same ▸ mem)
    exact decide_eq_true other
  rw [cut?, cutLines, passed]

theorem strip_of_clear {content : String} (clear : headerCount content = 0) : strip content = ⟨content, 0, 0⟩ := by
  rw [strip, cut?_of_clear (List.count_eq_zero.1 clear)]

/-- The entries of a block open none. -/
theorem Block.header_not_mem (b : Block) : header ∉ b.entries := fun mem => by
  have entry := b.marked _ mem
  rw [not_isEntry_header] at entry
  cases entry

theorem headerCount_insert (m : Seam) (b : Block) :
    headerCount (String.ofList (m.insert b)) = headerCount (String.ofList m.text) + 1 := by
  have before : (Text.feedLines m.before).count header = 0 := List.count_eq_zero.2 m.clear
  have entries : b.entries.count header = 0 := List.count_eq_zero.2 b.header_not_mem
  rw [headerCount, headerCount, String.toList_ofList, String.toList_ofList, m.lines_insert, m.lines_text]
  simp only [List.count_append, List.count_cons_self, before, entries]
  omega

/-- The first block of a text is what is taken out of it. -/
theorem exists_seam {content : String} (opens : 0 < headerCount content) :
    ∃ (m : Seam) (b : Block), content = String.ofList (m.insert b) ∧
      strip content = ⟨String.ofList m.text, (Text.encode m.before).length, (Text.encode b.text).length⟩ := by
  obtain ⟨m, b, text⟩ := exists_insert (List.count_pos_iff.1 opens)
  have whole : content = String.ofList (m.insert b) := by rw [← text, String.ofList_toList]
  exact ⟨m, b, whole, by rw [whole, strip_insert]⟩

/-- One block fewer is left. -/
theorem headerCount_withoutBlock (content : String) :
    headerCount (withoutBlock content) = headerCount content - 1 := by
  by_cases clear : headerCount content = 0
  · rw [withoutBlock, strip_of_clear clear, clear]
  · obtain ⟨m, b, whole, stripped⟩ := exists_seam (Nat.pos_of_ne_zero clear)
    rw [withoutBlock, stripped, whole, headerCount_insert, Nat.add_sub_cancel]

theorem headerCount_iterate (content : String) (n : Nat) :
    headerCount (withoutBlock^[n] content) = headerCount content - n := by
  induction n with
  | zero => rfl
  | succ n ih => rw [Function.iterate_succ_apply', headerCount_withoutBlock, ih, Nat.sub_add_eq]

end Regen.VersionBlock
