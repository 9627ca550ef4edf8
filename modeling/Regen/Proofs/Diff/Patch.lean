import Mathlib.Data.List.Basic
import Regen.Diff.Unified
import Regen.Proofs.Text.Integer
import Regen.Proofs.Text.Lines

/-!
# Unified diffs are read back

A unified diff is read by its records, which end at line feeds; a note behind a record takes its line feed away.
The first record of a hunk tells how many lines of either text follow. What is read of the text of hunks are
those hunks, each line on its own (`readHunks?_text`).
-/

namespace Regen.Diff

/-! ### The reader -/

/-- What stands behind a record whose line has no line feed. -/
def note : List Char := "\\ No newline at end of file\n".toList

/-- The records of a diff without the notes, which take away the line feeds in front of them. -/
def unnoted : List (List Char) → List (List Char)
  | r :: s :: rs => if s = note then r.dropLast :: unnoted rs else r :: unnoted (s :: rs)
  | rs => rs

/-- The number that decimal digits spell. -/
def number? (ds : List Char) : Option Nat :=
  if ds ≠ [] ∧ ds.all Char.isDigit = true then some (Nat.ofDigitChars 10 ds 0) else none

/-- Lines of a text: the place of the first, counted from zero, and how many they are. -/
structure Range where
  start : Nat
  count : Nat

/-- Lines are told by the number of the first, counted from one, and their count, unless it is one. Where there
are none, the number is that of the line in front. -/
def readRange? (s : List Char) : Option Range := do
  let first ← number? (s.takeWhile (· ≠ ','))
  let count ← match s.dropWhile (· ≠ ',') with
    | [] => some 1
    | _ :: ds => number? ds
  if count = 0 then some ⟨first, 0⟩
  else if first = 0 then none
  else some ⟨first - 1, count⟩

/-- The record that opens a hunk tells its lines in either text. -/
def readRanges? (record : List Char) : Option (Range × Range) := do
  let r ← "@@ -".toList.isPrefixOf? record
  let old ← readRange? (r.takeWhile (· ≠ ' '))
  let r ← " +".toList.isPrefixOf? (r.dropWhile (· ≠ ' '))
  let new ← readRange? (r.takeWhile (· ≠ ' '))
  if r.dropWhile (· ≠ ' ') = " @@\n".toList then some (old, new) else none

/-- The texts in which a line of a hunk stands. -/
inductive Mark where
  | both
  | old
  | new

namespace Mark

def char : Mark → Char
  | both => ' '
  | old => '-'
  | new => '+'

def ofChar? : Char → Option Mark
  | ' ' => some both
  | '-' => some old
  | '+' => some new
  | _ => none

/-- The part that one line is. -/
def part : Mark → List Char → Part (List Char)
  | both, l => .same [l]
  | old, l => .change [l] []
  | new, l => .change [] [l]

end Mark

/-- Reads records until there are as many lines of either text as told. -/
def readParts? (old new : Nat) : List (List Char) → Option (List (Part (List Char)) × List (List Char))
  | [] => if old = 0 ∧ new = 0 then some ([], []) else none
  | r :: rs =>
    if old = 0 ∧ new = 0 then some ([], r :: rs)
    else do
      let p ← (← r.head?.bind Mark.ofChar?).part r.tail
      if p.old.length ≤ old ∧ p.new.length ≤ new then
        let (ps, rest) ← readParts? (old - p.old.length) (new - p.new.length) rs
        some (p :: ps, rest)
      else none

/-- Reads hunks, at most `fuel` many. -/
def readHunks? : (fuel : Nat) → List (List Char) → Option (List (Hunk (List Char)))
  | _, [] => some []
  | 0, _ :: _ => none
  | fuel + 1, r :: rs => do
    let (old, new) ← readRanges? r
    let (ps, rest) ← readParts? old.count new.count rs
    let hs ← readHunks? fuel rest
    some (⟨old.start, new.start, ps⟩ :: hs)

/-- The hunks of the diff of two files that have the given labels. -/
def read? (oldLabel newLabel text : String) : Option (List (Hunk (List Char))) := do
  let body ← s!"--- {oldLabel}\n+++ {newLabel}\n".toList.isPrefixOf? text.toList
  readHunks? body.length (unnoted (Text.feedLines body))

/-! ### Records -/

theorem unnoted_cons {r : List Char} {rs : List (List Char)} (plain : rs.head? ≠ some note) :
    unnoted (r :: rs) = r :: unnoted rs := by
  cases rs with
  | nil => rfl
  | cons s rs =>
    have other : s ≠ note := by simpa using plain
    rw [unnoted, if_neg other]

/-- A line of a text: it ends with a line feed, or it has none. -/
def IsRecord (l : List Char) : Prop := Text.IsLine l ∨ '\n' ∉ l

/-- The lines in which a line is shown. -/
def shown (m : Mark) (l : List Char) : List (List Char) :=
  if l.getLast? = some '\n' then [m.char :: l] else [m.char :: l ++ ['\n'], note]

theorem flatten_shown (m : Mark) (l : List Char) : (shown m l).flatten = recordText m.char l := by
  unfold shown recordText
  split
  · simp
  · simp only [List.flatten_cons, List.flatten_nil, List.append_nil, List.append_assoc]
    rfl

theorem isLine_note : Text.IsLine note := ⟨"\\ No newline at end of file".toList, by decide, by decide⟩

theorem isLine_shown (m : Mark) {l : List Char} (record : IsRecord l) : ∀ r ∈ shown m l, Text.IsLine r := by
  have mark : m.char ≠ '\n' := by cases m <;> decide
  intro r mem
  unfold shown at mem
  rcases record with ⟨body, plain, rfl⟩ | plain
  · rw [if_pos List.getLast?_concat, List.mem_singleton] at mem
    exact ⟨m.char :: body, by simp [plain, mark.symm], mem⟩
  · have unended : l.getLast? ≠ some '\n' := fun last => plain (List.mem_of_getLast? last)
    rw [if_neg unended] at mem
    rcases List.mem_cons.1 mem with rfl | mem
    · exact ⟨m.char :: l, by simp [plain, mark.symm], rfl⟩
    · rw [List.mem_singleton.1 mem]
      exact isLine_note

/-- No record that starts otherwise than a note is one. -/
theorem ne_note {c : Char} (other : c ≠ '\\') (r : List Char) : c :: r ≠ note := by
  intro same
  have first : note.head? = some '\\' := rfl
  rw [← same, List.head?_cons] at first
  exact other (Option.some.inj first)

theorem head?_shown (m : Mark) (l : List Char) (rs : List (List Char)) :
    (shown m l ++ rs).head? ≠ some note := by
  have mark : m.char ≠ '\\' := by cases m <;> decide
  unfold shown
  split
  · exact fun same => ne_note mark _ (Option.some.inj same)
  · exact fun same => ne_note mark _ (Option.some.inj same)

theorem unnoted_shown (m : Mark) (l : List Char) {rs : List (List Char)} (plain : rs.head? ≠ some note) :
    unnoted (shown m l ++ rs) = (m.char :: l) :: unnoted rs := by
  unfold shown
  split
  · exact unnoted_cons plain
  · show unnoted ((m.char :: l ++ ['\n']) :: note :: rs) = _
    rw [unnoted, if_pos rfl, List.dropLast_concat]

/-! ### Parts -/

/-- The lines of a part with the texts in which they stand. -/
def marked : Part (List Char) → List (Mark × List Char)
  | .same ls => ls.map fun l => (.both, l)
  | .change old new => old.map (fun l => (.old, l)) ++ new.map fun l => (.new, l)

/-- The parts that the lines are which a diff shows. -/
def single (ms : List (Mark × List Char)) : List (Part (List Char)) := ms.map fun m => m.1.part m.2

theorem partText_eq (p : Part (List Char)) :
    partText p = (marked p).flatMap fun m => recordText m.1.char m.2 := by
  cases p with
  | same ls => simp [partText, marked, List.flatMap_map, Mark.char]
  | change old new => simp [partText, marked, List.flatMap_map, Mark.char]

theorem old_single_marked (p : Part (List Char)) : (single (marked p)).flatMap Part.old = p.old := by
  cases p with
  | same ls => simp [single, marked, List.flatMap_map, Mark.part, Part.old, Function.comp_def]
  | change old new => simp [single, marked, List.flatMap_map, Mark.part, Part.old, Function.comp_def]

theorem new_single_marked (p : Part (List Char)) : (single (marked p)).flatMap Part.new = p.new := by
  cases p with
  | same ls => simp [single, marked, List.flatMap_map, Mark.part, Part.new, Function.comp_def]
  | change old new => simp [single, marked, List.flatMap_map, Mark.part, Part.new, Function.comp_def]

/-- Each line of a diff stands in one of the texts. -/
theorem mem_of_marked {p : Part (List Char)} {m : Mark × List Char} (mem : m ∈ marked p) :
    m.2 ∈ p.old ∨ m.2 ∈ p.new := by
  cases p with
  | same ls =>
    obtain ⟨l, inside, rfl⟩ := List.mem_map.1 mem
    exact .inl inside
  | change old new =>
    rcases List.mem_append.1 mem with mem | mem
    · obtain ⟨l, inside, rfl⟩ := List.mem_map.1 mem
      exact .inl inside
    · obtain ⟨l, inside, rfl⟩ := List.mem_map.1 mem
      exact .inr inside

theorem ofChar?_char (m : Mark) : Mark.ofChar? m.char = some m := by cases m <;> rfl

/-- As many records are read as there are lines. -/
theorem readParts?_marked (ms : List (Mark × List Char)) (rest : List (List Char)) :
    readParts? ((single ms).flatMap Part.old).length ((single ms).flatMap Part.new).length
      (ms.map (fun m => m.1.char :: m.2) ++ rest) = some (single ms, rest) := by
  induction ms with
  | nil => cases rest <;> rfl
  | cons m ms ih =>
    obtain ⟨m, l⟩ := m
    have parted : single ((m, l) :: ms) = m.part l :: single ms := rfl
    have more : ¬ (((m.part l).old.length + ((single ms).flatMap Part.old).length = 0) ∧
        ((m.part l).new.length + ((single ms).flatMap Part.new).length = 0)) := by
      cases m <;> simp [Mark.part, Part.old, Part.new]
    have within : (m.part l).old.length ≤ (m.part l).old.length + ((single ms).flatMap Part.old).length ∧
        (m.part l).new.length ≤ (m.part l).new.length + ((single ms).flatMap Part.new).length :=
      ⟨Nat.le_add_right .., Nat.le_add_right ..⟩
    rw [parted, List.flatMap_cons, List.flatMap_cons, List.length_append, List.length_append, List.map_cons,
      List.cons_append, readParts?, if_neg more]
    simp only [List.head?_cons, Option.bind_some, ofChar?_char, List.tail_cons, Option.bind_eq_bind,
      if_pos within, Nat.add_sub_cancel_left, ih]

/-! ### Ranges -/

theorem number?_toDigits (n : Nat) : number? (Nat.toDigits 10 n) = some n := by
  have digits : (Nat.toDigits 10 n).all Char.isDigit = true :=
    List.all_eq_true.2 fun _ mem => Text.isDigit_of_mem_toDigits mem
  rw [number?, if_pos ⟨Nat.toDigits_ne_nil, digits⟩, Nat.ofDigitChars_ten_toDigits]

theorem not_mem_toDigits {c : Char} (other : c.isDigit = false) (n : Nat) : c ∉ Nat.toDigits 10 n := by
  intro mem
  rw [Text.isDigit_of_mem_toDigits mem] at other
  cases other

/-- The text of a range has the number of a line first, and then its count unless it is one. -/
theorem toList_rangeText (start n : Nat) : (rangeText start n).toList =
    Nat.toDigits 10 (if n = 0 then start else start + 1) ++
      (if n = 1 then [] else ',' :: Nat.toDigits 10 n) := by
  unfold rangeText
  by_cases one : n = 1
  · simp [one, toString, Nat.toList_repr]
  · by_cases none : n = 0
    · simp [none, toString, Nat.toList_repr]
    · simp [one, none, toString, Nat.toList_repr]

theorem readRange?_rangeText (start n : Nat) : readRange? (rangeText start n).toList = some ⟨start, n⟩ := by
  have plain : ∀ c ∈ Nat.toDigits 10 (if n = 0 then start else start + 1), decide (c ≠ ',') = true := by
    intro c mem
    exact decide_eq_true (ne_of_mem_of_not_mem mem (not_mem_toDigits rfl _))
  have stop : ∀ c ∈ (if n = 1 then [] else ',' :: Nat.toDigits 10 n).head?, decide (c ≠ ',') = false := by
    intro c first
    split at first
    · cases first
    · cases first
      rfl
  rw [readRange?, toList_rangeText, Text.takeWhile_append_head plain stop,
    Text.dropWhile_append_head plain stop, number?_toDigits]
  by_cases one : n = 1
  · simp [one]
  · by_cases none : n = 0
    · have zero : number? ['0'] = some 0 := number?_toDigits 0
      simp [none, zero]
    · simp [one, none, number?_toDigits]

theorem not_mem_rangeText {c : Char} (other : c.isDigit = false) (comma : c ≠ ',') (start n : Nat) :
    c ∉ (rangeText start n).toList := by
  rw [toList_rangeText, List.mem_append]
  refine not_or.2 ⟨not_mem_toDigits other _, ?_⟩
  split
  · exact List.not_mem_nil
  · exact List.not_mem_cons_of_ne_of_not_mem comma (not_mem_toDigits other _)

/-! ### Hunks -/

/-- The record that opens a hunk. -/
def opening (h : Hunk (List Char)) : List Char :=
  s!"@@ -{rangeText h.oldStart h.old.length} +{rangeText h.newStart h.new.length} @@\n".toList

theorem toList_opening (h : Hunk (List Char)) : opening h =
    "@@ -".toList ++ ((rangeText h.oldStart h.old.length).toList ++
      (" +".toList ++ ((rangeText h.newStart h.new.length).toList ++ " @@\n".toList))) := by
  simp [opening, toString]

theorem readRanges?_opening (h : Hunk (List Char)) : readRanges? (opening h) =
    some (⟨h.oldStart, h.old.length⟩, ⟨h.newStart, h.new.length⟩) := by
  have plain : ∀ start n, ∀ c ∈ (rangeText start n).toList, decide (c ≠ ' ') = true := by
    intro start n c mem
    exact decide_eq_true (ne_of_mem_of_not_mem mem (not_mem_rangeText rfl (by decide) start n))
  have old : ∀ c ∈ (" +".toList ++ ((rangeText h.newStart h.new.length).toList ++ " @@\n".toList)).head?,
      decide (c ≠ ' ') = false := by
    rintro _ ⟨⟩
    rfl
  have new : ∀ c ∈ " @@\n".toList.head?, decide (c ≠ ' ') = false := by
    rintro _ ⟨⟩
    rfl
  have behind : ∀ p r : List Char, p.isPrefixOf? (p ++ r) = some r := fun p r =>
    List.isPrefixOf?_eq_some_iff_append_eq.2 rfl
  rw [readRanges?, toList_opening, behind]
  simp only [Option.bind_eq_bind, Option.bind_some]
  rw [Text.takeWhile_append_head (plain _ _) old, Text.dropWhile_append_head (plain _ _) old,
    readRange?_rangeText, behind]
  simp only [Option.bind_some]
  rw [Text.takeWhile_append_head (plain _ _) new, Text.dropWhile_append_head (plain _ _) new,
    readRange?_rangeText]
  simp

theorem isLine_opening (h : Hunk (List Char)) : Text.IsLine (opening h) := by
  have plain : ∀ start n, '\n' ∉ (rangeText start n).toList := not_mem_rangeText rfl (by decide)
  refine ⟨"@@ -".toList ++ ((rangeText h.oldStart h.old.length).toList ++
    (" +".toList ++ ((rangeText h.newStart h.new.length).toList ++ " @@".toList))), ?_, ?_⟩
  · simp [plain]
  · rw [toList_opening]
    simp [List.append_assoc]

/-- The hunk with each of its lines as a part of its own, as it is read. -/
def Hunk.spread (h : Hunk (List Char)) : Hunk (List Char) := { h with parts := single (h.parts.flatMap marked) }

theorem Hunk.old_spread (h : Hunk (List Char)) : h.spread.old = h.old := by
  simp only [spread, old, single]
  rw [List.map_flatMap, List.flatMap_assoc]
  exact congrArg (List.flatMap · h.parts) (funext old_single_marked)

theorem Hunk.new_spread (h : Hunk (List Char)) : h.spread.new = h.new := by
  simp only [spread, new, single]
  rw [List.map_flatMap, List.flatMap_assoc]
  exact congrArg (List.flatMap · h.parts) (funext new_single_marked)

/-- The lines of the text of a hunk. -/
def hunkLines (h : Hunk (List Char)) : List (List Char) :=
  opening h :: (h.parts.flatMap marked).flatMap fun m => shown m.1 m.2

/-- The records of a hunk. -/
def hunkRecords (h : Hunk (List Char)) : List (List Char) :=
  opening h :: (h.parts.flatMap marked).map fun m => m.1.char :: m.2

theorem flatten_hunkLines (h : Hunk (List Char)) : (hunkLines h).flatten = hunkText h := by
  have parts : h.parts.flatMap partText =
      (h.parts.flatMap marked).flatMap fun m => recordText m.1.char m.2 := by
    rw [List.flatMap_assoc]
    exact congrArg (List.flatMap · h.parts) (funext partText_eq)
  rw [hunkText, parts, hunkLines, List.flatten_cons]
  simp only [List.flatMap_def, List.flatten_flatten, List.map_map, Function.comp_def, flatten_shown]
  rfl

theorem isLine_hunkLines {h : Hunk (List Char)} (records : ∀ l, l ∈ h.old ∨ l ∈ h.new → IsRecord l) :
    ∀ r ∈ hunkLines h, Text.IsLine r := by
  intro r mem
  rcases List.mem_cons.1 mem with rfl | mem
  · exact isLine_opening h
  · obtain ⟨m, inside, mem⟩ := List.mem_flatMap.1 mem
    obtain ⟨p, part, inside⟩ := List.mem_flatMap.1 inside
    refine isLine_shown m.1 (records m.2 ?_) r mem
    exact (mem_of_marked inside).imp (fun old => List.mem_flatMap.2 ⟨p, part, old⟩)
      fun new => List.mem_flatMap.2 ⟨p, part, new⟩

theorem head?_hunkLines (hs : List (Hunk (List Char))) : (hs.flatMap hunkLines).head? ≠ some note := by
  cases hs with
  | nil => exact nofun
  | cons h hs =>
    intro same
    rw [List.flatMap_cons, hunkLines, List.cons_append, List.head?_cons, toList_opening] at same
    exact ne_note (by decide) _ (Option.some.inj same)

theorem unnoted_marked (ms : List (Mark × List Char)) {rs : List (List Char)} (plain : rs.head? ≠ some note) :
    unnoted ((ms.flatMap fun m => shown m.1 m.2) ++ rs) =
      (ms.map fun m => m.1.char :: m.2) ++ unnoted rs ∧
    ((ms.flatMap fun m => shown m.1 m.2) ++ rs).head? ≠ some note := by
  induction ms with
  | nil => exact ⟨rfl, plain⟩
  | cons m ms ih =>
    rw [List.flatMap_cons, List.append_assoc, unnoted_shown m.1 m.2 ih.2, ih.1]
    exact ⟨rfl, head?_shown m.1 m.2 _⟩

theorem unnoted_hunkLines (hs : List (Hunk (List Char))) :
    unnoted (hs.flatMap hunkLines) = hs.flatMap hunkRecords := by
  induction hs with
  | nil => rfl
  | cons h hs ih =>
    obtain ⟨records, plain⟩ := unnoted_marked (h.parts.flatMap marked) (head?_hunkLines hs)
    rw [List.flatMap_cons, List.flatMap_cons, hunkLines, hunkRecords, List.cons_append, unnoted_cons plain,
      records, ih, List.cons_append]

theorem readHunks?_hunkRecords (hs : List (Hunk (List Char))) {fuel : Nat} (enough : hs.length ≤ fuel) :
    readHunks? fuel (hs.flatMap hunkRecords) = some (hs.map Hunk.spread) := by
  induction hs generalizing fuel with
  | nil => cases fuel <;> rfl
  | cons h hs ih =>
    cases fuel with
    | zero => cases enough
    | succ fuel =>
      have read := readParts?_marked (h.parts.flatMap marked) (hs.flatMap hunkRecords)
      rw [show (single (h.parts.flatMap marked)).flatMap Part.old = h.old from h.old_spread,
        show (single (h.parts.flatMap marked)).flatMap Part.new = h.new from h.new_spread] at read
      rw [List.flatMap_cons, hunkRecords, List.cons_append, readHunks?, readRanges?_opening]
      simp only [Option.bind_eq_bind, Option.bind_some, read, ih (Nat.le_of_succ_le_succ enough)]
      rfl

theorem length_le_text (hs : List (Hunk (List Char))) : hs.length ≤ (hs.flatMap hunkText).length := by
  induction hs with
  | nil => exact Nat.le_refl 0
  | cons h hs ih =>
    have positive : 0 < (hunkText h).length := by
      rw [← flatten_hunkLines, hunkLines, List.flatten_cons, List.length_append, toList_opening]
      simp only [List.length_append, show "@@ -".toList.length = 4 from rfl]
      omega
    rw [List.flatMap_cons, List.length_append, List.length_cons]
    omega

/-- Hunks are read back from their text, each line on its own. -/
theorem readHunks?_text {hs : List (Hunk (List Char))}
    (records : ∀ h ∈ hs, ∀ l, l ∈ h.old ∨ l ∈ h.new → IsRecord l) :
    readHunks? (hs.flatMap hunkText).length (unnoted (Text.feedLines (hs.flatMap hunkText))) =
      some (hs.map Hunk.spread) := by
  have text : hs.flatMap hunkText = (hs.flatMap hunkLines).flatten := by
    simp only [List.flatMap_def, List.flatten_flatten, List.map_map, Function.comp_def, flatten_hunkLines]
  have lines : ∀ r ∈ hs.flatMap hunkLines, Text.IsLine r := by
    intro r mem
    obtain ⟨h, inside, mem⟩ := List.mem_flatMap.1 mem
    exact isLine_hunkLines (records h inside) r mem
  have cut : Text.feedLines (hs.flatMap hunkText) = hs.flatMap hunkLines := by
    rw [text, Text.feedLines_flatten lines]
  rw [cut, unnoted_hunkLines]
  exact readHunks?_hunkRecords hs (length_le_text hs)

end Regen.Diff
