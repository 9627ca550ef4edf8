import Regen.Text.Lines
import Regen.Text.Utf8

/-!
# The version block of a generated file

Generators name their versions in a block of comment lines: a line `// versions:` and the lines
directly behind it that start with `//`, perhaps a space, and a tab. Lines end at the line feed
alone, and a line that nothing ends is no part of a block. `strip` takes the first block out
and tells where it stood, in bytes.
-/

namespace Regen.VersionBlock

/-- The line that opens a block. -/
def header : List Char := "// versions:\n".toList

/-- A line that belongs to the block above it. -/
def isEntry (line : List Char) : Bool :=
  line.getLast? == some '\n' && ("//\t".toList.isPrefixOf line || "// \t".toList.isPrefixOf line)

/-- A text cut at its first block. -/
structure Cut where
  before : List Char
  block : List Char
  after : List Char
  deriving DecidableEq

/-- The first block among the lines of a text. -/
def cutLines (ls : List (List Char)) : Option Cut :=
  match ls.dropWhile (· ≠ header) with
  | [] => none
  | h :: r =>
    some ⟨(ls.takeWhile (· ≠ header)).flatten, h ++ (r.takeWhile isEntry).flatten,
      (r.dropWhile isEntry).flatten⟩

def cut? (s : List Char) : Option Cut := cutLines (Text.feedLines s)

/-- A text without its first block, and the bytes that the block took: the place of the first
    and their count. -/
structure Stripped where
  content : String
  start : Nat
  length : Nat
  deriving DecidableEq

def strip (content : String) : Stripped :=
  match cut? content.toList with
  | none => ⟨content, 0, 0⟩
  | some c =>
    ⟨String.ofList (c.before ++ c.after), (Text.encode c.before).length,
      (Text.encode c.block).length⟩

end Regen.VersionBlock
