import Regen.Diff.Hunk
import Regen.Text.Lines
import Regen.Text.Utf8

/-!
# Unified diffs

The text that tells two contents apart: two header lines, then for each hunk a line with its
places and its lines behind a blank, `-` or `+`. A record that does not end with a line feed is
followed by a note. Contents that differ but read as the same lines get one line that says so.
-/

namespace Regen.Diff

/-- The place of a hunk in one text: the number of its first line and, unless it is one, the
    count of its lines. A hunk without lines is named by the line in front of it. -/
def rangeText (start length : Nat) : String :=
  if length = 1 then toString (start + 1)
  else if length = 0 then s!"{start},0"
  else s!"{start + 1},{length}"

/-- A record of the diff, with the note that its line feed is missing when it is. -/
def recordText (mark : Char) (line : List Char) : List Char :=
  mark :: line ++
    (if line.getLast? = some '\n' then [] else "\n\\ No newline at end of file\n".toList)

def partText : Part (List Char) → List Char
  | .same ls => ls.flatMap (recordText ' ')
  | .change old new => old.flatMap (recordText '-') ++ new.flatMap (recordText '+')

def hunkText (h : Hunk (List Char)) : List Char :=
  let old := rangeText h.oldStart h.old.length
  let new := rangeText h.newStart h.new.length
  s!"@@ -{old} +{new} @@\n".toList ++ h.parts.flatMap partText

/-- The lines in which a content is shown. -/
def shownLines (content : Bytes) : List (List Char) :=
  Text.boundaryLines (Text.decodeEscaping content)

/-- Lines are looked up by the text that they spell. -/
instance hashableLine : Hashable (List Char) := ⟨fun cs => hash (String.ofList cs)⟩

/-- The unified diff of two contents; empty only when they are equal. -/
def unified (old new : Bytes) (oldLabel newLabel : String) : String :=
  if old = new then ""
  else
    match hunks (shownLines old) (shownLines new) with
    | [] => s!"Binary files {oldLabel} and {newLabel} differ\n"
    | hs => s!"--- {oldLabel}\n+++ {newLabel}\n" ++ String.ofList (hs.flatMap hunkText)

end Regen.Diff
