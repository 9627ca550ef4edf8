/-!
# Lines of a text

Two ways of cutting a text into lines. `feedLines` ends a line at the line feed alone.
`boundaryLines` ends it at every line boundary that Unicode knows, with a carriage return and
the line feed behind it as one boundary. Both keep the boundaries, so the lines of a text
concatenate to it.
-/

namespace Regen.Text

/-- The characters that end a line. -/
def isBoundary (c : Char) : Bool :=
  c = '\n' || c = '\r' || c = '\x0b' || c = '\x0c' || c = '\x1c' || c = '\x1d' || c = '\x1e' ||
  c = '\u0085' || c = '\u2028' || c = '\u2029'

/-- Puts `c` in front of the first line. -/
def consLine (c : Char) : List (List Char) → List (List Char)
  | [] => [[c]]
  | l :: ls => (c :: l) :: ls

/-- The lines of a text, each with the boundary that ends it. -/
def boundaryLines : List Char → List (List Char)
  | [] => []
  | '\r' :: '\n' :: r => ['\r', '\n'] :: boundaryLines r
  | c :: r => if isBoundary c then [c] :: boundaryLines r else consLine c (boundaryLines r)

/-- The lines of a text, each with the line feed that ends it. -/
def feedLines : List Char → List (List Char)
  | [] => []
  | c :: r => if c = '\n' then [c] :: feedLines r else consLine c (feedLines r)

theorem flatten_consLine (c : Char) (ls : List (List Char)) :
    (consLine c ls).flatten = c :: ls.flatten := by
  cases ls <;> simp [consLine]

theorem flatten_boundaryLines (s : List Char) : (boundaryLines s).flatten = s := by
  fun_induction boundaryLines s <;> simp_all [flatten_consLine]

theorem flatten_feedLines (s : List Char) : (feedLines s).flatten = s := by
  fun_induction feedLines s <;> simp_all [flatten_consLine]

end Regen.Text
