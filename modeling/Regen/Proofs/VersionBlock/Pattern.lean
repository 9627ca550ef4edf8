import Regen.Pattern.Reader
import Regen.Proofs.Pattern.Search
import Regen.Proofs.VersionBlock.First

/-!
# The pattern of a version block

A version block is what the pattern `^// versions:\n(?:// ?\t.*\n)*` matches, where `^` stands at the start of every
line (`read?_pattern`). Its entries match just the lines that are entries (`takes_entry`, `stops_entry`), so the first
match of the pattern in a text is the block at which the text is cut by its lines (`firstMatch?_pattern`).

`strip_removes` tells what this leaves of a text, in its bytes and in its lines.
-/

namespace Regen.VersionBlock

open Pattern

deriving instance DecidableEq for Node

/-- A tab and the rest of a line. -/
def tabbedPattern : Node := .seq (.char '\t') (.seq (.repeated 0 none true (.any false)) (.char '\n'))

def entryPattern : Node := .text "//".toList (.seq (.repeated 0 (some 1) true (.char ' ')) tabbedPattern)

def pattern : Node := .seq (.place .lineStart) (.text header (.repeated 0 none true entryPattern))

theorem read?_pattern : Pattern.read? "(?m)^// versions:\\n(?:// ?\\t.*\\n)*" = some pattern := by
  decide +kernel

variable {k : Follow} {l before after body r : List Char}

/-! ### Entries -/

theorem run_tabbed (plain : '\n' ∉ body) : run tabbedPattern k (.atHead before ('\t' :: (body ++ '\n' :: r))) =
    k (.atHead (('\t' :: (body ++ ['\n'])).reverse ++ before) r) := by
  have tab : run tabbedPattern k (.atHead before ('\t' :: (body ++ '\n' :: r))) =
      run (.seq (.repeated 0 none true (.any false)) (.char '\n')) k (.atHead ('\t' :: before) (body ++ '\n' :: r)) :=
    run_char_cons ..
  rw [tab, run_line plain]
  simp

theorem run_tabbed_of_unended (unended : ∀ r, after = '\t' :: r → '\n' ∉ r) :
    run tabbedPattern k (.atHead before after) = none := by
  by_cases tab : after.head? = some '\t'
  · obtain ⟨r, rfl⟩ := List.head?_eq_some_iff.1 tab
    exact (run_char_cons ..).trans (run_line_of_unended (unended r rfl))
  · exact run_char_of_ne tab

/-- What may stand between the slashes and the tab of an entry. -/
theorem isEntry_iff : isEntry l = true ↔ l.getLast? = some '\n' ∧
    ∃ space ∈ [[], [' ']], ∃ r, l = "//".toList ++ (space ++ '\t' :: r) := by
  have opens : ("//\t".toList.isPrefixOf l || "// \t".toList.isPrefixOf l) = true ↔
      ∃ space ∈ [[], [' ']], ∃ r, l = "//".toList ++ (space ++ '\t' :: r) := by
    simp only [Bool.or_eq_true, List.isPrefixOf_iff_prefix, List.mem_cons, List.not_mem_nil, or_false, exists_eq_or_imp,
      exists_eq_left]
    exact or_congr ⟨fun ⟨r, text⟩ => ⟨r, text.symm⟩, fun ⟨r, text⟩ => ⟨r, text.symm⟩⟩
      ⟨fun ⟨r, text⟩ => ⟨r, text.symm⟩, fun ⟨r, text⟩ => ⟨r, text.symm⟩⟩
  rw [isEntry, Bool.and_eq_true, opens, beq_iff_eq]

/-- The space is read when there is one. -/
theorem run_space {space : List Char} (mem : space ∈ [[], [' ']]) (plain : '\n' ∉ body) :
    run (.seq (.repeated 0 (some 1) true (.char ' ')) tabbedPattern) k
        (.atHead before (space ++ '\t' :: (body ++ '\n' :: r))) =
      k (.atHead ((space ++ '\t' :: (body ++ ['\n'])).reverse ++ before) r) := by
  rw [run_seq, run_optional]
  rcases List.mem_cons.1 mem with rfl | mem
  · rw [List.nil_append, List.nil_append, run_char_of_ne (by simp), run_tabbed plain]
    rfl
  · obtain rfl := List.mem_singleton.1 mem
    have noTab : run tabbedPattern k (.atHead before (' ' :: '\t' :: (body ++ '\n' :: r))) = none :=
      run_tabbed_of_unended fun r text => absurd (List.cons.inj text).1 (by decide)
    rw [List.singleton_append, List.singleton_append, run_char_cons, run_tabbed plain, noTab,
      List.reverse_cons (a := ' '), List.append_assoc, List.singleton_append]
    cases k (.atHead (('\t' :: (body ++ ['\n'])).reverse ++ ' ' :: before) r) <;> rfl

theorem takes_entry (line : Text.IsLine l) (entry : isEntry l = true) (r : List Char) : entryPattern.Takes l r := by
  obtain ⟨-, space, mem, rest, rfl⟩ := isEntry_iff.1 entry
  have plain : '\n' ∉ "//".toList ++ space ++ ['\t'] := by
    simp only [List.mem_cons, List.not_mem_nil, or_false] at mem
    rcases mem with rfl | rfl <;> decide
  have inner : Text.IsLine rest := by
    refine Text.IsLine.of_append plain ?_
    simpa using line
  obtain ⟨body, unfed, rfl⟩ := inner
  intro k before
  have text : "//".toList ++ (space ++ '\t' :: (body ++ ['\n'])) ++ r =
      "//".toList ++ (space ++ '\t' :: (body ++ '\n' :: r)) := by simp
  rw [text, entryPattern, run_text_append, run_space mem unfed]
  simp only [List.reverse_append, List.append_assoc]

/-- A line feed behind the tab ends an entry. -/
theorem isEntry_of_feed {space rest : List Char} (mem : space ∈ [[], [' ']]) (feed : '\n' ∈ rest) :
    ∃ l, (Text.feedLines ("//".toList ++ (space ++ '\t' :: rest))).head? = some l ∧ isEntry l = true := by
  obtain ⟨body, r, rfl, plain⟩ := List.eq_append_cons_of_mem feed
  have line : Text.IsLine ("//".toList ++ (space ++ '\t' :: (body ++ ['\n']))) := by
    refine ⟨"//".toList ++ (space ++ '\t' :: body), ?_, by simp⟩
    simp only [List.mem_cons, List.not_mem_nil, or_false] at mem
    rcases mem with rfl | rfl <;> simp [plain]
  have text : "//".toList ++ (space ++ '\t' :: (body ++ '\n' :: r)) =
      "//".toList ++ (space ++ '\t' :: (body ++ ['\n'])) ++ r := by simp
  refine ⟨_, ?_, isEntry_iff.2 ⟨line.ended, space, mem, _, rfl⟩⟩
  rw [text, Text.feedLines_append (.inr line.ended), Text.feedLines_line line]
  rfl

theorem stops_entry (closed : ∀ l, (Text.feedLines after).head? = some l → isEntry l = false) :
    entryPattern.Stops after := by
  intro k before
  by_cases slashes : "//".toList <+: after
  · obtain ⟨rest, rfl⟩ := slashes
    -- No line feed ends the line, with or without the space.
    have unended : ∀ space ∈ [[], [' ']], ∀ r, rest = space ++ '\t' :: r → '\n' ∉ r := by
      rintro space mem r rfl feed
      obtain ⟨l, first, entry⟩ := isEntry_of_feed mem feed
      rw [closed l first] at entry
      cases entry
    rw [entryPattern, run_text_append, run_seq, run_optional,
      run_tabbed_of_unended (fun r text => unended [] (by simp) r text)]
    by_cases space : rest.head? = some ' '
    · obtain ⟨r, rfl⟩ := List.head?_eq_some_iff.1 space
      rw [run_char_cons, run_tabbed_of_unended (fun r text => unended [' '] (by simp) r (by rw [text]; rfl))]
      rfl
    · rw [run_char_of_ne space]
      rfl
  · exact run_text_of_not_prefix slashes

/-! ### Blocks -/

/-- The pattern matches a block at the start of a line, up to the first line that is no entry. -/
theorem matchAt?_block (start : before = [] ∨ before.head? = some '\n') (b : Block)
    (closed : ∀ l, (Text.feedLines after).head? = some l → isEntry l = false) :
    pattern.matchAt? before (b.text ++ after) = some ⟨before.reverse, b.text, after⟩ := by
  have stands : (Cursor.atHead before (b.text ++ after)).standsAt .lineStart = true := by
    rcases start with rfl | feed
    · rfl
    · simp [Cursor.standsAt, Cursor.atHead, feed]
  have ran : run pattern some (.atHead before (b.text ++ after)) = some (.atHead (b.text.reverse ++ before) after) := by
    rw [pattern, run_seq, run_place, if_pos stands, Block.text, List.append_assoc, run_text_append]
    rw [run_repeated (fun l mem => ?_) (fun l mem => takes_entry (b.lines l mem) (b.marked l mem)) (stops_entry closed)]
    · simp
    · obtain ⟨body, -, rfl⟩ := b.lines l mem
      simp
  rw [Node.matchAt?, ran]
  simp [Cursor.atHead]

theorem matchAt?_inside (inside : before ≠ [] ∧ before.head? ≠ some '\n') : pattern.matchAt? before after = none := by
  have stands : (Cursor.atHead before after).standsAt .lineStart = false := by
    simp [Cursor.standsAt, Cursor.atHead, inside.1, inside.2]
  rw [Node.matchAt?, pattern, run_seq, run_place, if_neg (by simp [stands])]
  rfl

theorem matchAt?_of_not_header (other : ¬ header <+: after) : pattern.matchAt? before after = none := by
  have ran : run pattern some (.atHead before after) = none := by
    rw [pattern, run_seq, run_place]
    split
    · exact run_text_of_not_prefix other
    · rfl
  rw [Node.matchAt?, ran]
  rfl

/-- Inside a line no block is found. -/
theorem matchFrom?_inside (plain : '\n' ∉ body) (inside : before ≠ [] ∧ before.head? ≠ some '\n') :
    pattern.matchFrom? before (body ++ '\n' :: after) = pattern.matchFrom? ('\n' :: (body.reverse ++ before)) after := by
  induction body generalizing before with
  | nil => exact Node.matchFrom?_cons_of_none (matchAt?_inside inside)
  | cons c body ih =>
    have rest : '\n' ∉ body := fun mem => plain (by simp [mem])
    have within : c :: before ≠ [] ∧ (c :: before).head? ≠ some '\n' :=
      ⟨nofun, by simpa using fun same => plain (by simp [same])⟩
    rw [List.cons_append, Node.matchFrom?_cons_of_none (matchAt?_inside inside), ih rest within]
    simp

/-- A line that opens no block is passed over. -/
theorem matchFrom?_line (line : Text.IsLine l) (other : l ≠ header) (before after : List Char) :
    pattern.matchFrom? before (l ++ after) = pattern.matchFrom? (l.reverse ++ before) after := by
  have noHeader : ¬ header <+: l ++ after := by
    rintro ⟨r, text⟩
    have lines := congrArg Text.feedLines text
    rw [Text.feedLines_append (.inr isLine_header.ended), Text.feedLines_append (.inr line.ended),
      Text.feedLines_line isLine_header, Text.feedLines_line line] at lines
    exact other (List.cons.inj lines).1.symm
  obtain ⟨body, plain, rfl⟩ := line
  cases body with
  | nil => exact Node.matchFrom?_cons_of_none (matchAt?_of_not_header noHeader)
  | cons c body =>
    have first : c ≠ '\n' := fun same => plain (by simp [same])
    have rest : '\n' ∉ body := fun mem => plain (by simp [mem])
    have within : c :: before ≠ [] ∧ (c :: before).head? ≠ some '\n' := ⟨nofun, by simpa using first⟩
    have text : c :: body ++ ['\n'] ++ after = c :: (body ++ '\n' :: after) := by simp
    rw [text] at noHeader ⊢
    rw [Node.matchFrom?_cons_of_none (matchAt?_of_not_header noHeader), matchFrom?_inside rest within]
    simp

theorem matchFrom?_lines {ls : List (List Char)} (lines : ∀ l ∈ ls, Text.IsLine l) (clear : header ∉ ls)
    (before after : List Char) :
    pattern.matchFrom? before (ls.flatten ++ after) = pattern.matchFrom? (ls.flatten.reverse ++ before) after := by
  induction ls generalizing before with
  | nil => rfl
  | cons l ls ih =>
    obtain ⟨line, lines⟩ := List.forall_mem_cons.1 lines
    rw [List.flatten_cons, List.append_assoc, matchFrom?_line line (fun same => clear (by simp [same])),
      ih lines fun mem => clear (by simp [mem]), List.reverse_append, List.append_assoc]

theorem matchFrom?_of_unended (plain : '\n' ∉ after) (before : List Char) : pattern.matchFrom? before after = none := by
  have noHeader : ¬ header <+: after := fun opens => plain (opens.subset (by decide))
  induction after generalizing before with
  | nil => exact matchAt?_of_not_header noHeader
  | cons c r ih =>
    have rest : '\n' ∉ r := fun mem => plain (by simp [mem])
    rw [Node.matchFrom?_cons_of_none (matchAt?_of_not_header noHeader)]
    exact ih rest _ fun opens => rest (opens.subset (by decide))

theorem firstMatch?_insert (m : Seam) (b : Block) :
    pattern.firstMatch? (m.insert b) = some ⟨m.before, b.text, m.after⟩ := by
  have lines := Text.isLine_of_feedLines (m.lines_insert b)
  have start : m.before.reverse = [] ∨ m.before.reverse.head? = some '\n' := by
    simpa [Text.Ended] using m.ended
  have passed := matchFrom?_lines lines m.clear [] (b.text ++ m.after)
  rw [Text.flatten_feedLines, List.append_nil] at passed
  have here := Node.matchFrom?_of_some (matchAt?_block start b m.closed)
  rw [Node.firstMatch?, Seam.insert, List.append_assoc, passed, here, List.reverse_reverse]

theorem firstMatch?_of_clear {s : List Char} (clear : header ∉ Text.feedLines s) : pattern.firstMatch? s = none := by
  obtain ⟨ls, last, whole, ended, unended⟩ := Text.feedLines_cases s
  have text : s = ls.flatten ++ last.toList.flatten := by
    rw [← List.flatten_append, ← whole, Text.flatten_feedLines]
  have plain : '\n' ∉ last.toList.flatten := by
    cases last with
    | none => exact List.not_mem_nil
    | some l => simpa using (unended l rfl).2
  rw [Node.firstMatch?, text, matchFrom?_lines ended fun mem => clear (by simp [whole, mem])]
  exact matchFrom?_of_unended plain _

/-- The first match of the pattern is the block at which the text is cut. -/
theorem firstMatch?_pattern (s : List Char) :
    pattern.firstMatch? s = (cut? s).map fun c => ⟨c.before, c.block, c.after⟩ := by
  by_cases opens : header ∈ Text.feedLines s
  · obtain ⟨m, b, rfl⟩ := exists_insert opens
    rw [firstMatch?_insert, cut?_insert]
    rfl
  · rw [firstMatch?_of_clear opens, cut?_of_clear opens]
    rfl

/-! ### What is left of a text -/

/-- A text without a match, and the bytes that the match took. -/
def withoutMatch (content : String) : Option Match → Stripped
  | none => ⟨content, 0, 0⟩
  | some m =>
    ⟨String.ofList (m.before ++ m.after), (Text.encode m.before).length, (Text.encode m.matched).length⟩

theorem strip_pattern (content : String) : strip content = withoutMatch content (pattern.firstMatch? content.toList) := by
  rw [firstMatch?_pattern, strip]
  cases cut? content.toList <;> rfl

/-- What taking out the first block does to a text. -/
structure Removes (content : String) : Prop where
  /-- The block is the first match of the pattern. -/
  matched : ∃ p, Pattern.read? "(?m)^// versions:\\n(?:// ?\\t.*\\n)*" = some p ∧
    strip content = withoutMatch content (p.firstMatch? content.toList)
  /-- The bytes of the rest are those of the text without the run that is told. -/
  bytes : (strip content).start + (strip content).length ≤ (Text.bytes content).length ∧
    Text.bytes (strip content).content = (Text.bytes content).take (strip content).start ++
      (Text.bytes content).drop ((strip content).start + (strip content).length)
  /-- A text in which no line opens a block stays as it is. -/
  clear : headerCount content = 0 → strip content = ⟨content, 0, 0⟩
  /-- Otherwise the run is the first line that opens a block and the entries behind it. -/
  first : 0 < headerCount content → ∃ (m : Seam) (b : Block), content = String.ofList (m.insert b) ∧
    strip content = ⟨String.ofList m.text, (Text.encode m.before).length, (Text.encode b.text).length⟩
  /-- No line opens a block that did not before. -/
  count : headerCount (withoutBlock content) = headerCount content - 1
  /-- As many rounds as there are blocks take out all of them, and further ones change nothing. -/
  rounds : ∀ n, headerCount content ≤ n → headerCount (withoutBlock^[n] content) = 0 ∧
    strip (withoutBlock^[n] content) = ⟨withoutBlock^[n] content, 0, 0⟩
  /-- With one block at most, one round is enough. -/
  idempotent : headerCount content ≤ 1 → strip (withoutBlock content) = ⟨withoutBlock content, 0, 0⟩

theorem strip_removes (content : String) : Removes content where
  matched := ⟨pattern, read?_pattern, strip_pattern content⟩
  bytes := strip_bytes content
  clear := strip_of_clear
  first := exists_seam
  count := headerCount_withoutBlock content
  rounds n enough := by
    have none : headerCount (withoutBlock^[n] content) = 0 := by
      rw [headerCount_iterate]
      omega
    exact ⟨none, strip_of_clear none⟩
  idempotent single := by
    have none : headerCount (withoutBlock content) = 0 := by
      rw [headerCount_withoutBlock]
      omega
    exact strip_of_clear none

end Regen.VersionBlock
