import Regen.Proofs.Ident.Camel

/-!
# Identifiers that stay as they are

An exported identifier begins with an upper-case letter, and that of a name in the description language holds letters,
digits and underscores alone. What `camel` gives has no dot, no underscore in front and no lower-case letter behind an
underscore or a digit (`fixed_camelFrom`), and such a text it leaves as it is (`Fixed.camelFrom_eq`). So making an
identifier of an identifier changes nothing, unless a dot stood in front (`camel_exports`).
-/

namespace Regen.Ident

theorem isUpper_iff {c : Char} : isUpper c = true ↔ 65 ≤ c.toNat ∧ c.toNat ≤ 90 := by
  have bounds : isUpper c = true ↔ 'A'.toNat ≤ c.toNat ∧ c.toNat ≤ 'Z'.toNat := by
    simp [isUpper, Char.le_def, UInt32.le_iff_toNat_le]
  exact bounds

/-- No other class holds an upper-case letter. -/
theorem alone_of_isUpper {c : Char} (upper : isUpper c = true) :
    c ≠ '.' ∧ c ≠ '_' ∧ isLower c = false ∧ isDigit c = false := by
  have noDot : c ≠ '.' := by rintro rfl; cases upper
  have noUnderscore : c ≠ '_' := by rintro rfl; cases upper
  rw [isUpper_iff] at upper
  refine ⟨noDot, noUnderscore, ?_, ?_⟩
  · rw [Bool.eq_false_iff, ne_eq, isLower_iff]
    omega
  · rw [Bool.eq_false_iff, ne_eq, isDigit_iff]
    omega

/-! ### The first letter -/

/-- The name of the description language begins with a letter or an underscore, its identifier with a letter. -/
theorem camelFrom_opens {c : Char} (part : isNamePart c = true) (noDigit : isDigit c = false) (r : List Char) :
    ∃ d rest, camelFrom .start (c :: r) = d :: rest ∧ isUpper d = true := by
  by_cases underscore : c = '_'
  · subst underscore
    exact ⟨'X', camelFrom .gap r, camelFrom_underscore .start r, by decide⟩
  cases lower : isLower c with
  | true => exact ⟨raise c, camelFrom .word r, camelFrom_lower .start r lower, isUpper_raise lower⟩
  | false =>
    have upper : isUpper c = true := by simpa [isNamePart, lower, noDigit, underscore] using part
    exact ⟨c, _, camelFrom_other .start r (alone_of_isUpper upper).1 underscore lower, upper⟩

/-! ### Texts that stay -/

/-- A text that stays as it is, where its first character stands at the place. -/
inductive Fixed : Place → List Char → Prop where
  | nil {p : Place} : Fixed p []
  | letter {c : Char} {r : List Char} (lower : isLower c = true) (rest : Fixed .word r) : Fixed .word (c :: r)
  | underscore {p : Place} {r : List Char} (inner : p ≠ .start) (rest : Fixed .gap r) : Fixed p ('_' :: r)
  | other {p : Place} {c : Char} {r : List Char} (noDot : c ≠ '.') (noUnderscore : c ≠ '_')
      (noLower : isLower c = false) (rest : Fixed (if isDigit c then .gap else .word) r) : Fixed p (c :: r)

namespace Fixed

variable {p : Place} {s : List Char}

/-- Only inside a word does a lower-case letter stay. -/
theorem startsLower_eq_false (fixed : Fixed p s) (outside : p ≠ .word) : startsLower s = false := by
  cases fixed with
  | nil => rfl
  | letter => exact absurd rfl outside
  | underscore => rfl
  | other _ _ noLower => exact noLower

theorem camelFrom_eq (fixed : Fixed p s) : camelFrom p s = s := by
  induction fixed with
  | nil => rfl
  | letter lower _ ih => rw [camelFrom_lower _ _ lower, if_pos rfl, ih]
  | underscore inner rest ih =>
    have ends := rest.startsLower_eq_false nofun
    rw [camelFrom_underscore, if_neg inner, ends, if_neg Bool.false_ne_true, ih, List.singleton_append]
  | other noDot noUnderscore noLower _ ih => rw [camelFrom_other _ _ noDot noUnderscore noLower, ih]

end Fixed

/-- What becomes of a name from the place `p` on stays as it is from the place `q` on. What has been written may be
inside a word where the name is not, and nothing has been written only at the start of a name. -/
theorem fixed_camelFrom {p q : Place} (s : List Char) (inside : p = .word → q = .word)
    (opening : q = .start → p = .start ∧ s.head? ≠ some '.') : Fixed q (camelFrom p s) := by
  induction s generalizing p q with
  | nil => exact .nil
  | cons c r ih =>
    by_cases dot : c = '.'
    · subst dot
      have later : q ≠ .start := fun start => (opening start).2 rfl
      rw [camelFrom_dot]
      split
      · exact ih nofun fun start => absurd start later
      · exact .underscore later (ih nofun nofun)
    by_cases underscore : c = '_'
    · subst underscore
      rw [camelFrom_underscore]
      split
      · exact .other (by decide) (by decide) rfl (ih nofun nofun)
      · next begun =>
        have later : q ≠ .start := fun start => begun (opening start).1
        split
        · exact ih nofun fun start => absurd start later
        · exact .underscore later (ih nofun nofun)
    cases lower : isLower c with
    | true =>
      rw [camelFrom_lower _ _ lower]
      split
      · next word =>
        rw [inside word]
        exact .letter lower (ih (fun _ => rfl) nofun)
      · obtain ⟨noDot, noUnderscore, noLower, noDigit⟩ := alone_of_isUpper (isUpper_raise lower)
        refine .other noDot noUnderscore noLower ?_
        rw [noDigit, if_neg Bool.false_ne_true]
        exact ih (fun _ => rfl) nofun
    | false =>
      rw [camelFrom_other _ _ dot underscore lower]
      refine .other dot underscore lower (ih id ?_)
      split <;> exact nofun

/-- The identifier of a name in the description language is exported and holds letters, digits and underscores alone.
An identifier is its own identifier, if no dot stood in front of its name. -/
theorem camel_exports :
    (∀ s, IsDotted s →
      ∃ c r, (camel s).toList = c :: r ∧ isUpper c = true ∧ ∀ d ∈ c :: r, isNamePart d = true) ∧
    ∀ s : String, s.toList.head? ≠ some '.' → camel (camel s) = camel s := by
  constructor
  · intro s dotted
    obtain ⟨c, r, text, part, noDigit⟩ := dotted.opens
    obtain ⟨d, rest, becomes, upper⟩ := camelFrom_opens part noDigit r
    have identifier : (camel s).toList = d :: rest := by rw [camel, String.toList_ofList, camelChars, text, becomes]
    exact ⟨d, rest, identifier, upper, identifier ▸ isNamePart_camel dotted.isNamePart_or_dot⟩
  · intro s noDot
    have fixed : Fixed .start (camelChars s.toList) := fixed_camelFrom s.toList id fun _ => ⟨rfl, noDot⟩
    rw [camel, camel, String.toList_ofList]
    exact congrArg String.ofList fixed.camelFrom_eq

theorem camel_exports_sample :
    IsDotted "_a9b.c__D" ∧
      (∃ c r, (camel "_a9b.c__D").toList = c :: r ∧ isUpper c = true ∧ ∀ d ∈ c :: r, isNamePart d = true) ∧
      "_é9a..b".toList.head? ≠ some '.' ∧ camel (camel "_é9a..b") = camel "_é9a..b" := by
  have dotted : IsDotted "_a9b.c__D" := .more (s := "_a9b") (t := "c__D") (by decide) (.one (by decide))
  have noDot : "_é9a..b".toList.head? ≠ some '.' := by decide
  exact ⟨dotted, camel_exports.1 _ dotted, noDot, camel_exports.2 _ noDot⟩

/-- A dot in front may leave an underscore in front, and this becomes a letter when an identifier is made once more. -/
example : camel "._" = "_X" ∧ camel "_X" = "XX" := by decide

end Regen.Ident
