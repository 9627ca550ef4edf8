import Regen.Proofs.Diff.Edits
import Regen.Proofs.Diff.Patch
import Regen.Proofs.Text.Utf8

/-!
# Unified diffs are patches

Reading the diff of two texts and applying it to the first gives the second, and the note that a line feed is
missing stands only behind the last line of a text (`unified_patches`). This needs lines that end at line feeds:
with any other boundary inside a text, the diff shows lines that the text does not have
(`unified_misreads`).
-/

namespace Regen.Diff

/-- Hunks are a patch from one text to another one. Applied to the lines of the first they give the second, and
a line without a line feed is the last one of its text, which does not end with one. -/
structure Patches (hs : List (Hunk (List Char))) (old new : String) : Prop where
  applies : (applied? hs (Text.feedLines old.toList)).map (fun ls => String.ofList ls.flatten) = some new
  oldUnended : ∀ h ∈ hs, ∀ k l, h.old[k]? = some l → l.getLast? ≠ some '\n' →
    h.oldStart + k + 1 = (Text.feedLines old.toList).length ∧ old.toList.getLast? ≠ some '\n'
  newUnended : ∀ h ∈ hs, ∀ k l, h.new[k]? = some l → l.getLast? ≠ some '\n' →
    h.newStart + k + 1 = (Text.feedLines new.toList).length ∧ new.toList.getLast? ≠ some '\n'

/-! ### What is read edits the texts -/

theorem edits_spread {i j : Nat} {hs : List (Hunk (List Char))} {old new : List (List Char)}
    (edits : Edits i j hs old new) : Edits i j (hs.map Hunk.spread) old new := by
  induction edits with
  | done => exact .done ..
  | hunk shared first second rest ih =>
    rw [← Hunk.old_spread, ← Hunk.new_spread] at ih ⊢
    exact .hunk shared first second ih

theorem patches_of_edits {hs : List (Hunk (List Char))} {old new : String}
    (edits : Edits 0 0 hs (Text.feedLines old.toList) (Text.feedLines new.toList)) : Patches hs old new where
  applies := by
    rw [applied?_of_edits edits, Option.map_some, Text.flatten_feedLines, String.ofList_toList]
  oldUnended := by
    intro h mem k l line unended
    exact Text.last_of_unended (edits.getElem?_old mem line) unended
  newUnended := by
    intro h mem k l line unended
    exact Text.last_of_unended (edits.getElem?_new mem line) unended

/-! ### The text of a diff -/

theorem isRecord_of_mem_feedLines {s l : List Char} (mem : l ∈ Text.feedLines s) : IsRecord l := by
  obtain ⟨ls, last, lines, ended, unended⟩ := Text.feedLines_cases s
  rw [lines] at mem
  rcases List.mem_append.1 mem with mem | mem
  · exact .inl (ended l mem)
  · exact .inr (unended l (by simpa using mem)).2

theorem shownLines_bytes (s : String) : shownLines (Text.bytes s) = Text.boundaryLines s.toList := by
  rw [shownLines, Text.decodeEscaping_bytes]

/-- The diff of two texts has hunks, since no two texts show the same lines. -/
theorem unified_bytes {old new : String} (differ : old ≠ new) (oldLabel newLabel : String) :
    unified (Text.bytes old) (Text.bytes new) oldLabel newLabel =
      s!"--- {oldLabel}\n+++ {newLabel}\n" ++
        String.ofList ((hunks (Text.boundaryLines old.toList) (Text.boundaryLines new.toList)).flatMap hunkText) := by
  have other : Text.bytes old ≠ Text.bytes new := by
    intro same
    have read := Text.decode?_bytes old
    rw [same, Text.decode?_bytes new] at read
    exact differ (Option.some.inj read).symm
  rw [unified, if_neg other, shownLines_bytes, shownLines_bytes]
  split
  · next none =>
    have edits := edits_hunks (Text.boundaryLines old.toList) (Text.boundaryLines new.toList)
    rw [none] at edits
    have same := congrArg List.flatten edits.eq_of_nil
    rw [Text.flatten_boundaryLines, Text.flatten_boundaryLines] at same
    exact absurd (String.toList_injective same) differ
  · rfl

theorem read?_append (oldLabel newLabel : String) (body : List Char) :
    read? oldLabel newLabel (s!"--- {oldLabel}\n+++ {newLabel}\n" ++ String.ofList body) =
      readHunks? body.length (unnoted (Text.feedLines body)) := by
  have behind : s!"--- {oldLabel}\n+++ {newLabel}\n".toList.isPrefixOf?
      (s!"--- {oldLabel}\n+++ {newLabel}\n" ++ String.ofList body).toList = some body := by
    rw [List.isPrefixOf?_eq_some_iff_append_eq, String.toList_append (t := String.ofList body),
      String.toList_ofList]
  rw [read?, behind]
  rfl

/-- The diff of two texts whose lines end at line feeds is a patch from the first to the second. -/
theorem unified_patches {old new : String} (differ : old ≠ new) (oldEnds : Text.endsAtFeeds old.toList = true)
    (newEnds : Text.endsAtFeeds new.toList = true) (oldLabel newLabel : String) :
    ∃ hs, read? oldLabel newLabel (unified (Text.bytes old) (Text.bytes new) oldLabel newLabel) = some hs ∧
      Patches hs old new := by
  have edits := edits_hunks (Text.feedLines old.toList) (Text.feedLines new.toList)
  have records : ∀ h ∈ hunks (Text.feedLines old.toList) (Text.feedLines new.toList), ∀ l,
      l ∈ h.old ∨ l ∈ h.new → IsRecord l := by
    rintro h mem l (old | new)
    · obtain ⟨⟨front, rest, text, -⟩, -⟩ := edits.standing mem
      exact isRecord_of_mem_feedLines (text ▸ List.mem_append_right _ (List.mem_append_left _ old))
    · obtain ⟨-, front, rest, text, -⟩ := edits.standing mem
      exact isRecord_of_mem_feedLines (text ▸ List.mem_append_right _ (List.mem_append_left _ new))
  refine ⟨_, ?_, patches_of_edits (edits_spread edits)⟩
  rw [unified_bytes differ, Text.boundaryLines_eq_feedLines oldEnds, Text.boundaryLines_eq_feedLines newEnds,
    read?_append, readHunks?_text records]

/-- Lines may end with a carriage return and a line feed, and the last one with neither. -/
theorem unified_patches_sample :
    ∃ hs, read? "a/x" "b/x" (unified (Text.bytes "é\r\nb") (Text.bytes "é\r\nc\n") "a/x" "b/x") = some hs ∧
      Patches hs "é\r\nb" "é\r\nc\n" :=
  unified_patches (by decide) (by decide) (by decide) "a/x" "b/x"

/-- The hunk that takes two lines away. -/
theorem hunks_sample : hunks ["a\r".toList, "b\n".toList] [] =
    [⟨0, 0, [.change ["a\r".toList, "b\n".toList] []]⟩] := by
  simp [hunks, parts, blocks, blocksWithin, longest, seeds, slice, longestOf, runs, sharedHead, partsFrom,
    consChange, hunksFrom]

/-- A carriage return that stands alone is shown as the end of a line, with the note that it has no line feed,
although the text goes on behind it and ends with one. -/
theorem unified_misreads :
    ¬ ∃ hs, read? "a/x" "b/x" (unified (Text.bytes "a\rb\n") (Text.bytes "") "a/x" "b/x") = some hs ∧
      Patches hs "a\rb\n" "" := by
  have lines : Text.boundaryLines "a\rb\n".toList = ["a\r".toList, "b\n".toList] := by decide
  have records : ∀ h ∈ [(⟨0, 0, [.change ["a\r".toList, "b\n".toList] []]⟩ : Hunk (List Char))], ∀ l,
      l ∈ h.old ∨ l ∈ h.new → IsRecord l := by
    intro h mem l inside
    rw [List.mem_singleton.1 mem] at inside
    have which : l = "a\r".toList ∨ l = "b\n".toList := by simpa [Hunk.old, Hunk.new, Part.old, Part.new] using inside
    rcases which with rfl | rfl
    · exact .inr (by decide)
    · exact .inl ⟨"b".toList, by decide, by decide⟩
  rintro ⟨hs, read, patches⟩
  rw [unified_bytes (by decide), lines, show Text.boundaryLines "".toList = [] from rfl, hunks_sample, read?_append,
    readHunks?_text records] at read
  obtain rfl := Option.some.inj read
  exact (patches.oldUnended _ (List.mem_singleton_self _) 0 "a\r".toList rfl (by decide)).2 (by decide)

end Regen.Diff
