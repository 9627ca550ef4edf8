/-!
# Styled text

A terminal takes some sequences of characters for orders of style and place: an escape character,
an opening square bracket, parameters, marks and a letter. Where no terminal reads, they are left
out.
-/

namespace Regen.Text

/-- A character from `lo` to `hi`. -/
def isBetween (lo hi : Char) (c : Char) : Bool := lo ≤ c && c ≤ hi

/-- What stands behind the rest of an order, which is behind its bracket: parameters, marks and a
    letter. Nothing when this is no order. -/
def behindStyle? (s : List Char) : Option (List Char) :=
  match (s.dropWhile (isBetween '0' '?')).dropWhile (isBetween ' ' '/') with
  | c :: r => if isBetween '@' '~' c then some r else none
  | [] => none

theorem behindStyle?_length {s r : List Char} (h : behindStyle? s = some r) :
    r.length < s.length := by
  have parameters := (List.dropWhile_suffix (isBetween '0' '?') (l := s)).length_le
  have marks := (List.dropWhile_suffix (isBetween ' ' '/')
    (l := s.dropWhile (isBetween '0' '?'))).length_le
  unfold behindStyle? at h
  split at h
  · next c t hs =>
    rw [hs] at marks
    split at h
    · obtain rfl := Option.some.inj h
      simp only [List.length_cons] at marks
      omega
    · cases h
  · cases h

/-- The characters without orders to a terminal. -/
def unstyledChars : List Char → List Char
  | [] => []
  | '\x1b' :: '[' :: r =>
    match h : behindStyle? r with
    | some rest =>
      have := behindStyle?_length h
      unstyledChars rest
    | none => '\x1b' :: '[' :: unstyledChars r
  | c :: r => c :: unstyledChars r
termination_by s => s.length

/-- A text without orders to a terminal. -/
def unstyled (s : String) : String := String.ofList (unstyledChars s.toList)

end Regen.Text
