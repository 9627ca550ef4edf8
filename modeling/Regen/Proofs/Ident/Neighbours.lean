import Mathlib.Data.List.TakeWhile
import Regen.Proofs.Ident.Camel

/-!
# Identifiers character by character

`camel` goes through a name once and remembers where it stands. What becomes of a character depends on no more
than the two characters beside it: the identifier is put together from what its positions become, each on its own
(`camel_eq_flatMap`). A name may as well be read word by word, with all letters of a word in one run
(`camel_eq_byWords`).
-/

namespace Regen.Ident

/-- Raising a letter is the upper-case form that ASCII gives it. -/
theorem raise_eq_toUpper {c : Char} (lower : isLower c = true) : raise c = c.toUpper := by
  obtain ⟨low, high⟩ := isLower_iff.1 lower
  have each : ∀ n < 123, 97 ≤ n → raise (Char.ofNat n) = (Char.ofNat n).toUpper := by decide
  rw [← Char.ofNat_toNat c]
  exact each c.toNat (by omega) low

/-! ### Positions -/

/-- What a character becomes, by the characters in front of it and behind it. -/
def rewritten (before : Option Char) (c : Char) (behind : Option Char) : List Char :=
  if c = '.' then
    if behind.any isLower then [] else ['_']
  else if c = '_' then
    if before = none ∨ before = some '.' then ['X']
    else if behind.any isLower then []
    else ['_']
  else if isLower c then
    if before = none ∨ before = some '.' ∨ before = some '_' ∨ before.any isDigit then [c.toUpper] else [c]
  else [c]

/-- The character in front of a position. -/
def characterBefore (s : List Char) (i : Nat) : Option Char := if i = 0 then none else s[i - 1]?

/-- Where a character stands, by the one in front of it. -/
def placeBehind : Option Char → Place
  | none => .start
  | some c => if c = '.' then .start else if c = '_' ∨ isDigit c then .gap else .word

theorem startsLower_eq (r : List Char) : startsLower r = r.head?.any isLower := by
  cases r <;> rfl

variable {before : Option Char}

theorem placeBehind_eq_start_iff : placeBehind before = .start ↔ before = none ∨ before = some '.' := by
  cases before with
  | none => simp [placeBehind]
  | some d =>
    by_cases dot : d = '.'
    · simp [placeBehind, dot]
    · by_cases gap : d = '_' ∨ isDigit d = true <;> simp [placeBehind, dot, gap]

theorem placeBehind_eq_word_iff : placeBehind before = .word ↔
    ¬ (before = none ∨ before = some '.' ∨ before = some '_' ∨ before.any isDigit) := by
  cases before with
  | none => simp [placeBehind]
  | some d =>
    by_cases dot : d = '.'
    · simp [placeBehind, dot]
    · by_cases gap : d = '_' ∨ isDigit d = true <;> simp [placeBehind, dot, gap]

theorem placeBehind_word_of_lower {c : Char} (lower : isLower c = true) : placeBehind (some c) = .word := by
  have noDot : c ≠ '.' := by rintro rfl; cases lower
  have noUnderscore : c ≠ '_' := by rintro rfl; cases lower
  simp [placeBehind, noDot, noUnderscore, not_isDigit_of_isLower lower]

/-- A character becomes what its neighbours say, and the one behind it goes by this one. -/
theorem camelFrom_cons (before : Option Char) (c : Char) (r : List Char) :
    camelFrom (placeBehind before) (c :: r) =
      rewritten before c r.head? ++ camelFrom (placeBehind (some c)) r := by
  by_cases dot : c = '.'
  · subst dot
    rw [camelFrom_dot, startsLower_eq]
    rfl
  by_cases underscore : c = '_'
  · subst underscore
    rw [camelFrom_underscore, startsLower_eq]
    simp only [placeBehind_eq_start_iff]
    rfl
  cases lower : isLower c with
  | true =>
    have becomes : rewritten before c r.head? = [if placeBehind before = .word then c else raise c] := by
      rw [rewritten, if_neg dot, if_neg underscore, if_pos lower, raise_eq_toUpper lower]
      simp only [placeBehind_eq_word_iff, ite_not]
      split <;> rfl
    rw [camelFrom_lower _ _ lower, placeBehind_word_of_lower lower, becomes, List.singleton_append]
  | false =>
    have behind : placeBehind (some c) = if isDigit c then .gap else .word := by
      simp [placeBehind, dot, underscore]
    rw [camelFrom_other _ _ dot underscore lower, behind, rewritten, if_neg dot, if_neg underscore,
      if_neg (Bool.eq_false_iff.1 lower), List.singleton_append]

/-- The rest of a name, from the position behind `front` on. -/
theorem camelFrom_append (front rest : List Char) :
    camelFrom (placeBehind front.getLast?) rest = (rest.zipIdx front.length).flatMap fun (c, i) =>
      rewritten (characterBefore (front ++ rest) i) c (front ++ rest)[i + 1]? := by
  induction rest generalizing front with
  | nil => rfl
  | cons c rest ih =>
    have before : characterBefore (front ++ c :: rest) front.length = front.getLast? := by
      unfold characterBefore
      split
      · next none => rw [List.length_eq_zero_iff.1 none, List.getLast?_nil]
      · rw [List.getElem?_append_left (by omega), List.getLast?_eq_getElem?]
    have behind : (front ++ c :: rest)[front.length + 1]? = rest.head? := by
      rw [List.getElem?_append_right (by omega), Nat.add_sub_cancel_left, List.getElem?_cons_succ,
        List.head?_eq_getElem?]
    have further := ih (front ++ [c])
    rw [List.getLast?_concat, List.append_assoc, List.singleton_append, List.length_append, List.length_singleton]
      at further
    rw [camelFrom_cons, further, List.zipIdx_cons, List.flatMap_cons]
    simp only [before, behind]

/-- An identifier is put together from what the positions of its name become. -/
theorem camel_eq_flatMap (s : String) : camel s = String.ofList (s.toList.zipIdx.flatMap fun (c, i) =>
    rewritten (characterBefore s.toList i) c s.toList[i + 1]?) :=
  congrArg String.ofList (camelFrom_append [] s.toList)

example : camel "_x.a9b-c.D._e" = "XXA9B-c_D_XE" := by decide

/-! ### Words -/

/-- Inside a word, all letters up to the next other character stay as they are. -/
theorem camelFrom_word (r : List Char) :
    camelFrom .word r = r.takeWhile isLower ++ camelFrom .word (r.dropWhile isLower) := by
  induction r with
  | nil => rfl
  | cons c r ih =>
    cases lower : isLower c with
    | true =>
      rw [camelFrom_lower _ _ lower, if_pos rfl, List.takeWhile_cons_of_pos lower, List.dropWhile_cons_of_pos lower,
        List.cons_append, ← ih]
    | false =>
      have stays : ¬ isLower c = true := Bool.eq_false_iff.1 lower
      rw [List.takeWhile_cons_of_neg stays, List.dropWhile_cons_of_neg stays, List.nil_append]

/-- The name read word by word, from behind the character `before` on: the letters that follow the first character of
a word are read with it. -/
def byWords (before : Option Char) : List Char → List Char
  | [] => []
  | c :: r =>
    if c = '.' then (if startsLower r then [] else ['_']) ++ byWords (some c) r
    else if c = '_' ∧ (before = none ∨ before = some '.') then 'X' :: byWords (some c) r
    else if c = '_' ∧ startsLower r then byWords (some c) r
    else if isDigit c then c :: byWords (some c) r
    else
      raise c :: (r.takeWhile isLower ++ byWords (c :: r.takeWhile isLower).getLast? (r.dropWhile isLower))
termination_by s => s.length
decreasing_by
  all_goals simp only [List.length_cons]
  all_goals have := (List.dropWhile_sublist (l := r) isLower).length_le
  all_goals omega

/-- Behind a word no letter is left to be read. -/
theorem startsLower_dropWhile (r : List Char) : startsLower (r.dropWhile isLower) = false := by
  have stop := List.head?_dropWhile_not isLower r
  rw [startsLower_eq]
  cases first : (r.dropWhile isLower).head? with
  | none => rfl
  | some d => rwa [first] at stop

theorem takeWhile_of_not_startsLower {r : List Char} (ends : startsLower r = false) :
    r.takeWhile isLower = [] ∧ r.dropWhile isLower = r := by
  cases r with
  | nil => exact ⟨rfl, rfl⟩
  | cons c r =>
    have noLower : ¬ isLower c = true := Bool.eq_false_iff.1 ends
    exact ⟨List.takeWhile_cons_of_neg noLower, List.dropWhile_cons_of_neg noLower⟩

/-- Behind the letters of a word the name goes on as inside of it. -/
theorem placeBehind_word {c : Char} (word : placeBehind (some c) = .word) (r : List Char) :
    placeBehind (c :: r.takeWhile isLower).getLast? = .word := by
  cases last : (r.takeWhile isLower).getLast? with
  | none =>
    rw [List.getLast?_eq_none_iff.1 last]
    exact word
  | some d =>
    have lower := List.mem_takeWhile_imp (List.mem_of_getLast? last)
    rw [List.getLast?_cons, last]
    exact placeBehind_word_of_lower lower

theorem camelFrom_eq_byWords (before : Option Char) (s : List Char)
    (fresh : placeBehind before = .word → startsLower s = false) :
    camelFrom (placeBehind before) s = byWords before s := by
  fun_induction byWords before s with
  | case1 => rfl
  | case2 before r ih =>
    rw [camelFrom_dot, ← ih nofun]
    rfl
  | case3 before c r _ opens ih =>
    obtain ⟨rfl, first⟩ := opens
    rw [camelFrom_underscore, if_pos (placeBehind_eq_start_iff.2 first), ← ih nofun]
    rfl
  | case4 before c r _ inner lower ih =>
    obtain ⟨rfl, lower⟩ := lower
    have noStart : placeBehind before ≠ .start := fun start => inner ⟨rfl, placeBehind_eq_start_iff.1 start⟩
    rw [camelFrom_underscore, if_neg noStart, if_pos lower, ← ih nofun]
    rfl
  | case5 before c r dot _ _ digit ih =>
    have underscore : c ≠ '_' := by rintro rfl; cases digit
    have noLower : isLower c = false := Bool.eq_false_iff.2 fun lower => not_isDigit_of_isLower lower digit
    have behind : placeBehind (some c) = .gap := by simp [placeBehind, dot, digit]
    rw [behind] at ih
    rw [camelFrom_other _ _ dot underscore noLower, if_pos digit, ih nofun]
  | case6 before c r dot noStart noWord noDigit ih =>
    have rest := ih fun _ => startsLower_dropWhile r
    by_cases underscore : c = '_'
    · subst underscore
      have ends : startsLower r = false := Bool.eq_false_iff.2 fun lower => noWord ⟨rfl, lower⟩
      have inside : placeBehind before ≠ .start := fun start => noStart ⟨rfl, placeBehind_eq_start_iff.1 start⟩
      obtain ⟨none, all⟩ := takeWhile_of_not_startsLower ends
      rw [none, all] at rest ⊢
      rw [camelFrom_underscore, if_neg inside, if_neg (Bool.eq_false_iff.1 ends), ← rest]
      rfl
    · have word : placeBehind (some c) = .word := by simp [placeBehind, dot, underscore, noDigit]
      have opens : camelFrom (placeBehind before) (c :: r) = raise c :: camelFrom .word r := by
        cases lower : isLower c with
        | true =>
          have outside : placeBehind before ≠ .word := fun inside => by
            have := fresh inside
            rw [startsLower, lower] at this
            cases this
          rw [camelFrom_lower _ _ lower, if_neg outside]
        | false => rw [camelFrom_other _ _ dot underscore lower, if_neg noDigit, raise_of_not_isLower lower]
      rw [opens, camelFrom_word, ← rest, placeBehind_word word]

/-- Reading a name word by word gives the same identifier. -/
theorem camel_eq_byWords (s : String) : camel s = String.ofList (byWords none s.toList) :=
  congrArg String.ofList (camelFrom_eq_byWords none s.toList nofun)

end Regen.Ident
