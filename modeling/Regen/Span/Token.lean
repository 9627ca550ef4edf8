import Regen.Text.Blank
import Regen.Text.Lines

/-!
# Tokens of the annotation notation

Blanks and comments from `#` to the end of the line separate tokens. A token is a word, a
number, a quoted text as far as its line goes, or any other single character. No text is
refused here: every character outside blanks and comments belongs to a token.
-/

namespace Regen.Span

def isLetter (c : Char) : Bool := ('a' ≤ c && c ≤ 'z') || ('A' ≤ c && c ≤ 'Z') || c == '_'

def isWordChar (c : Char) : Bool := isLetter c || c.isDigit || c == '+' || c == '-'

def isNumberChar (c : Char) : Bool := isWordChar c || c == '.'

def isQuote (c : Char) : Bool := c == '"' || c.toNat == 39

/-- The count of characters in a quoted text behind its opening quote `q`. -/
def quotedLength (q : Char) : List Char → Nat
  | [] => 0
  | ['\\'] => 1
  | '\\' :: _ :: r => 2 + quotedLength q r
  | c :: r => if c = q then 1 else 1 + quotedLength q r

/-- The count of characters of the token that starts with `c`, in front of `r`. -/
def tokenLength (c : Char) (r : List Char) : Nat :=
  if isLetter c then 1 + (r.takeWhile isWordChar).length
  else if c.isDigit || c == '+' || c == '-' || (c == '.' && (r.head?.any Char.isDigit)) then
    1 + (r.takeWhile isNumberChar).length
  else if isQuote c then 1 + quotedLength c r
  else 1

def tokensWithin : Nat → List Char → List (List Char)
  | 0, _ => []
  | _ + 1, [] => []
  | fuel + 1, c :: r =>
    if c = '#' then []
    else if Text.isBlank c then tokensWithin fuel r
    else
      let n := tokenLength c r
      (c :: r).take n :: tokensWithin fuel ((c :: r).drop n)

/-- The tokens of one line. -/
def lineTokens (line : List Char) : List (List Char) := tokensWithin line.length line

/-- The tokens of a text. -/
def tokens (s : List Char) : List (List Char) :=
  (Text.feedLines s).flatMap fun l => lineTokens (l.filter (· ≠ '\n'))

end Regen.Span
