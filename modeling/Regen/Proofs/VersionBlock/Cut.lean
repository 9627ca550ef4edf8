import Regen.Proofs.Text.Lines
import Regen.VersionBlock

/-!
# Cutting the version block out

What `strip` takes out of a text is a run of its bytes (`strip_bytes`). A block that is put at a seam,
a boundary between lines with no block in front of it and no entry behind it, is exactly what
`strip` finds (`strip_insert`).
-/

namespace Regen.VersionBlock

/-- A version block: the header, then the entries. -/
structure Block where
  entries : List (List Char)
  lines : ∀ l ∈ entries, Text.IsLine l
  marked : ∀ l ∈ entries, isEntry l = true

def Block.text (b : Block) : List Char := header ++ b.entries.flatten

/-- A boundary between two lines of a text at which a block would stand alone: no block opens in
front of it, and the line behind it would not be taken for an entry. -/
structure Seam where
  before : List Char
  after : List Char
  ended : Text.Ended before
  clear : header ∉ Text.feedLines before
  closed : ∀ l, (Text.feedLines after).head? = some l → isEntry l = false

namespace Seam

/-- The text with nothing at the seam. -/
def text (m : Seam) : List Char := m.before ++ m.after

/-- The text with a block at the seam. -/
def insert (m : Seam) (b : Block) : List Char := m.before ++ b.text ++ m.after

end Seam

theorem isLine_header : Text.IsLine header := ⟨"// versions:".toList, by decide, by decide⟩

theorem Block.lines_text (b : Block) : Text.feedLines b.text = header :: b.entries := by
  have all : ∀ l ∈ header :: b.entries, Text.IsLine l := by
    intro l hl
    rcases List.mem_cons.1 hl with rfl | hl
    · exact isLine_header
    · exact b.lines l hl
  exact Text.feedLines_flatten all

theorem Block.ended_text (b : Block) : Text.Ended b.text := by
  rcases Text.ended_flatten b.lines with none | last
  · exact .inr (by simp [text, none, isLine_header.ended])
  · exact .inr (by simp [text, last])

theorem Seam.lines_text (m : Seam) : Text.feedLines m.text = Text.feedLines m.before ++ Text.feedLines m.after :=
  Text.feedLines_append m.ended _

theorem Seam.lines_insert (m : Seam) (b : Block) : Text.feedLines (m.insert b) =
    Text.feedLines m.before ++ (header :: (b.entries ++ Text.feedLines m.after)) := by
  rw [Seam.insert, List.append_assoc, Text.feedLines_append m.ended, Text.feedLines_append b.ended_text,
    b.lines_text]
  rfl

/-- A block at a seam is the first block of the text. -/
theorem cut?_insert (m : Seam) (b : Block) : cut? (m.insert b) = some ⟨m.before, b.text, m.after⟩ := by
  have clear : ∀ l ∈ Text.feedLines m.before, decide (l ≠ header) = true := fun l hl =>
    decide_eq_true fun e => m.clear (e ▸ hl)
  have found : ∀ l, (header :: (b.entries ++ Text.feedLines m.after)).head? = some l →
      decide (l ≠ header) = false := by
    intro l hl
    cases hl
    simp
  rw [cut?, cutLines, m.lines_insert, Text.takeWhile_append_head clear found, Text.dropWhile_append_head clear found]
  simp only [Text.takeWhile_append_head b.marked m.closed, Text.dropWhile_append_head b.marked m.closed,
    Text.flatten_feedLines, Block.text]

/-- The parts of a cut are the text, and the block is not empty. -/
theorem cut?_parts {s : List Char} {c : Cut} (h : cut? s = some c) :
    c.before ++ c.block ++ c.after = s ∧ header <+: c.block := by
  rw [cut?, cutLines] at h
  split at h
  · cases h
  · rename_i l r opens
    obtain rfl : c = _ := (Option.some.inj h).symm
    have whole : (Text.feedLines s).takeWhile (· ≠ header) ++ l :: r = Text.feedLines s := by
      rw [← opens]
      exact List.takeWhile_append_dropWhile
    have first : l = header := by
      have stop := List.head?_dropWhile_not (fun l => decide (l ≠ header)) (Text.feedLines s)
      rw [opens] at stop
      simpa using stop
    refine ⟨?_, by simp [first]⟩
    calc _ = ((Text.feedLines s).takeWhile (· ≠ header) ++ l :: r).flatten := by
          simp only [List.append_assoc, List.flatten_append, List.flatten_cons]
          rw [← List.flatten_append, List.takeWhile_append_dropWhile]
      _ = s := by rw [whole, Text.flatten_feedLines]

theorem length_encode_pos {s : List Char} (some : s ≠ []) : 0 < (Text.encode s).length := by
  cases s with
  | nil => exact absurd rfl some
  | cons c r =>
    have := c.utf8Size_pos
    simp only [Text.encode, List.flatMap_cons, List.length_append, String.length_utf8EncodeChar]
    omega

/-- What is taken out is a run of the text's bytes, and the rest stays as it was. -/
theorem strip_bytes (content : String) :
    (strip content).start + (strip content).length ≤ (Text.bytes content).length ∧
    Text.bytes (strip content).content =
      (Text.bytes content).take (strip content).start ++
        (Text.bytes content).drop ((strip content).start + (strip content).length) := by
  unfold strip
  split
  · simp
  · rename_i c found
    obtain ⟨parts, -⟩ := cut?_parts found
    have whole : Text.bytes content =
        Text.encode c.before ++ Text.encode c.block ++ Text.encode c.after := by
      rw [Text.bytes, ← parts, Text.encode_append, Text.encode_append]
    rw [whole]
    simp [Text.bytes, Text.encode_append, ← List.drop_drop]

/-- A block at a seam is what is taken out again. -/
theorem strip_insert (m : Seam) (b : Block) :
    strip (String.ofList (m.insert b)) =
      ⟨String.ofList m.text, (Text.encode m.before).length, (Text.encode b.text).length⟩ := by
  simp [strip, cut?_insert, Seam.text]

end Regen.VersionBlock
