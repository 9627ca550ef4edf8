import Regen.Text.Lines

/-!
# Texts put together from lines

`feedLines` cuts at line feeds only, so a text that is empty or ends with a line feed is cut as if
nothing stood behind it (`feedLines_append`), and a list of lines is what its text is cut into
(`feedLines_flatten`). Where other boundaries stand only in front of a line feed or at the end, both ways of
cutting a text agree (`boundaryLines_eq_feedLines`).
-/

namespace Regen.Text

theorem takeWhile_append_head {α : Type} {p : α → Bool} {as bs : List α} (all : ∀ a ∈ as, p a = true)
    (stop : ∀ b ∈ bs.head?, p b = false) : (as ++ bs).takeWhile p = as := by
  rw [List.takeWhile_append_of_pos all]
  cases bs with
  | nil => simp
  | cons b bs => simp [stop b rfl]

theorem dropWhile_append_head {α : Type} {p : α → Bool} {as bs : List α} (all : ∀ a ∈ as, p a = true)
    (stop : ∀ b ∈ bs.head?, p b = false) : (as ++ bs).dropWhile p = bs := by
  rw [List.dropWhile_append_of_pos all]
  cases bs with
  | nil => rfl
  | cons b bs => simp [stop b rfl]

/-- Nothing, or lines that all end with a line feed. -/
def Ended (s : List Char) : Prop := s = [] ∨ s.getLast? = some '\n'

/-- One line with the line feed that ends it. -/
def IsLine (l : List Char) : Prop := ∃ body, '\n' ∉ body ∧ l = body ++ ['\n']

theorem IsLine.ended {l : List Char} (line : IsLine l) : l.getLast? = some '\n' := by
  obtain ⟨body, -, rfl⟩ := line
  simp

/-- What stands in front of the end of a line, up to its line feed, is a line. -/
theorem IsLine.of_append {front rest : List Char} (plain : '\n' ∉ front) (line : IsLine (front ++ rest)) :
    IsLine rest := by
  induction front with
  | nil => exact line
  | cons c front ih =>
    refine ih (fun mem => plain (by simp [mem])) ?_
    obtain ⟨body, unfed, text⟩ := line
    cases body with
    | nil => exact absurd (List.cons.inj text).1 fun same => plain (by simp [same])
    | cons d body =>
      exact ⟨body, fun mem => unfed (by simp [mem]), (List.cons.inj text).2⟩

theorem Ended.tail {c : Char} {r : List Char} (h : Ended (c :: r)) (inner : c ≠ '\n') :
    r ≠ [] ∧ Ended r := by
  rcases h with none | last
  · cases none
  · cases r with
    | nil => simp_all
    | cons d r => exact ⟨by simp, .inr (by simpa using last)⟩

theorem feedLines_ne_nil {s : List Char} (some : s ≠ []) : feedLines s ≠ [] := by
  intro none
  have := flatten_feedLines s
  rw [none] at this
  exact some this.symm

theorem consLine_append {c : Char} {ls : List (List Char)} (some : ls ≠ []) (ms : List (List Char)) :
    consLine c (ls ++ ms) = consLine c ls ++ ms := by
  cases ls with
  | nil => exact absurd rfl some
  | cons l ls => rfl

/-- What stands behind a line feed does not change the lines in front of it. -/
theorem feedLines_append {s : List Char} (ended : Ended s) (t : List Char) :
    feedLines (s ++ t) = feedLines s ++ feedLines t := by
  induction s with
  | nil => rfl
  | cons c r ih =>
    by_cases feed : c = '\n'
    · subst feed
      have rest : Ended r := by
        rcases ended with none | last
        · cases none
        · cases r with
          | nil => exact .inl rfl
          | cons d r => exact .inr (by simpa using last)
      simp only [List.cons_append, feedLines, if_pos, ih rest]
    · obtain ⟨more, rest⟩ := ended.tail feed
      simp only [List.cons_append, feedLines, if_neg feed, ih rest]
      exact consLine_append (feedLines_ne_nil more) _

theorem feedLines_body {body : List Char} (plain : '\n' ∉ body) :
    feedLines (body ++ ['\n']) = [body ++ ['\n']] := by
  induction body with
  | nil => rfl
  | cons c r ih =>
    have inner : c ≠ '\n' := fun e => plain (by simp [e])
    simp only [List.cons_append, feedLines, if_neg inner, ih (fun m => plain (by simp [m]))]
    rfl

theorem feedLines_line {l : List Char} (line : IsLine l) : feedLines l = [l] := by
  obtain ⟨body, plain, rfl⟩ := line
  exact feedLines_body plain

theorem ended_flatten {ls : List (List Char)} (lines : ∀ l ∈ ls, IsLine l) : Ended ls.flatten := by
  induction ls with
  | nil => exact .inl rfl
  | cons l ls ih =>
    rcases ih (fun m hm => lines m (by simp [hm])) with none | last
    · exact .inr (by simp [none, (lines l (by simp)).ended])
    · exact .inr (by simp [last])

/-- Lines are what their text is cut into. -/
theorem feedLines_flatten {ls : List (List Char)} (lines : ∀ l ∈ ls, IsLine l) :
    feedLines ls.flatten = ls := by
  induction ls with
  | nil => rfl
  | cons l ls ih =>
    have line := lines l (by simp)
    rw [List.flatten_cons, feedLines_append (.inr line.ended), feedLines_line line,
      ih (fun m hm => lines m (by simp [hm]))]
    rfl

theorem toList_unlines {ls : List String} (some : ls ≠ []) :
    ("\n".intercalate ls ++ "\n").toList = (ls.map fun l => l.toList ++ ['\n']).flatten := by
  rw [String.toList_append, String.toList_intercalate]
  induction ls with
  | nil => exact absurd rfl some
  | cons l ls ih =>
    cases ls with
    | nil => simp
    | cons m ms =>
      have rest := ih (by simp)
      simp only [List.map_cons, List.intercalate_cons_cons, List.append_assoc, List.flatten_cons] at rest ⊢
      rw [rest]
      simp

/-- All lines of a text end with a line feed, but perhaps the last. -/
theorem feedLines_cases (s : List Char) : ∃ (ls : List (List Char)) (last : Option (List Char)),
    feedLines s = ls ++ last.toList ∧ (∀ l ∈ ls, IsLine l) ∧ ∀ l ∈ last, l ≠ [] ∧ '\n' ∉ l := by
  induction s with
  | nil => exact ⟨[], none, rfl, nofun, nofun⟩
  | cons c r ih =>
    obtain ⟨ls, last, lines, ended, unended⟩ := ih
    rw [feedLines, lines]
    split
    · next feed =>
      refine ⟨[c] :: ls, last, rfl, ?_, unended⟩
      exact List.forall_mem_cons.2 ⟨⟨[], List.not_mem_nil, by rw [feed]; rfl⟩, ended⟩
    · next inner =>
      cases ls with
      | cons l ls =>
        obtain ⟨⟨body, plain, rfl⟩, rest⟩ := List.forall_mem_cons.1 ended
        refine ⟨(c :: (body ++ ['\n'])) :: ls, last, rfl, List.forall_mem_cons.2 ⟨?_, rest⟩, unended⟩
        exact ⟨c :: body, List.not_mem_cons_of_ne_of_not_mem (Ne.symm inner) plain, rfl⟩
      | nil =>
        cases last with
        | none => exact ⟨[], some [c], rfl, nofun, by rintro _ ⟨⟩; simp [Ne.symm inner]⟩
        | some l =>
          refine ⟨[], some (c :: l), rfl, nofun, ?_⟩
          rintro _ ⟨⟩
          exact ⟨nofun, List.not_mem_cons_of_ne_of_not_mem (Ne.symm inner) (unended l rfl).2⟩

/-- Only the last line of a text may have no line feed, and then the text does not end with one. -/
theorem last_of_unended {s l : List Char} {k : Nat} (line : (feedLines s)[k]? = some l)
    (unended : l.getLast? ≠ some '\n') : k + 1 = (feedLines s).length ∧ s.getLast? ≠ some '\n' := by
  obtain ⟨ls, last, lines, ended, rest⟩ := feedLines_cases s
  have whole : s = ls.flatten ++ last.toList.flatten := by
    rw [← List.flatten_append, ← lines, flatten_feedLines]
  rw [lines] at line ⊢
  by_cases before : k < ls.length
  · rw [List.getElem?_append_left before] at line
    exact absurd (ended l (List.mem_of_getElem? line)).ended unended
  · rw [List.getElem?_append_right (by omega)] at line
    cases last with
    | none => simp at line
    | some m =>
      rw [Option.toList_some, List.getElem?_singleton, Option.ite_none_right_eq_some] at line
      obtain ⟨first, same⟩ := line
      obtain rfl := Option.some.inj same
      refine ⟨by simp; omega, ?_⟩
      rw [whole, show (some m).toList.flatten = m by simp, List.getLast?_append,
        Option.or_of_isSome (by simpa using (rest m rfl).1)]
      exact unended

/-! ### Boundaries -/

/-- A line boundary other than a line feed stands only at the end of the text, or it is the carriage return in
front of a line feed. -/
def endsAtFeeds : List Char → Bool
  | [] => true
  | c :: r =>
    (!isBoundary c || c == '\n' || r.isEmpty || (c == '\r' && r.head? == some '\n')) && endsAtFeeds r

theorem boundaryLines_eq_feedLines {s : List Char} (ends : endsAtFeeds s = true) :
    boundaryLines s = feedLines s := by
  fun_induction boundaryLines s with
  | case1 => rfl
  | case2 r ih =>
    have rest : endsAtFeeds r = true := by simp_all [endsAtFeeds]
    rw [ih rest]
    rfl
  | case3 c r pair boundary ih =>
    simp only [endsAtFeeds, Bool.and_eq_true] at ends
    obtain ⟨here, rest⟩ := ends
    rw [ih rest, feedLines]
    split
    · rfl
    · next inner =>
      have last : r = [] := by
        cases r with
        | nil => rfl
        | cons d r =>
          obtain ⟨rfl, rfl⟩ : c = '\r' ∧ d = '\n' := by simpa [boundary, inner] using here
          exact (pair r rfl rfl).elim
      subst last
      rfl
  | case4 c r pair inner ih =>
    simp only [endsAtFeeds, Bool.and_eq_true] at ends
    have plain : c ≠ '\n' := by
      rintro rfl
      exact inner rfl
    rw [ih ends.2, feedLines, if_neg plain]

end Regen.Text
