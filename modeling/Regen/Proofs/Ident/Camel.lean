import Regen.Ident.Camel

/-!
# Identifiers of the description language

What `camel` does next depends on the class of the next character: there is one equation for a dot, for an underscore,
for a lower-case letter and for any other character. An identifier holds ASCII letters, digits and underscores, and
several of them stand behind each other with dots between. What `camel` makes of them holds letters, digits and
underscores alone (`isNamePart_camel`).
-/

namespace Regen.Ident

section

variable {c : Char}

theorem isLower_iff : isLower c = true ↔ 97 ≤ c.toNat ∧ c.toNat ≤ 122 := by
  have bounds : isLower c = true ↔ 'a'.toNat ≤ c.toNat ∧ c.toNat ≤ 'z'.toNat := by
    simp [isLower, Char.le_def, UInt32.le_iff_toNat_le]
  exact bounds

theorem isDigit_iff : isDigit c = true ↔ 48 ≤ c.toNat ∧ c.toNat ≤ 57 := by
  have bounds : isDigit c = true ↔ '0'.toNat ≤ c.toNat ∧ c.toNat ≤ '9'.toNat := by
    simp [isDigit, Char.le_def, UInt32.le_iff_toNat_le]
  exact bounds

theorem not_isDigit_of_isLower (lower : isLower c = true) : ¬ isDigit c = true := by
  rw [isLower_iff] at lower
  rw [isDigit_iff]
  omega

theorem raise_of_not_isLower (noLower : isLower c = false) : raise c = c := by
  rw [raise, noLower]
  rfl

/-! ### One character, wherever it stands -/

variable (p : Place) (r : List Char)

theorem camelFrom_dot : camelFrom p ('.' :: r) = (if startsLower r then [] else ['_']) ++ camelFrom .start r := by
  have plain : ¬ (p = .word ∧ isLower '.' = true) := fun ⟨_, lower⟩ => by cases lower
  rw [camelFrom, if_neg plain, if_pos rfl]
  split <;> rfl

theorem camelFrom_underscore : camelFrom p ('_' :: r) =
    (if p = .start then ['X'] else if startsLower r then [] else ['_']) ++ camelFrom .gap r := by
  have plain : ¬ (p = .word ∧ isLower '_' = true) := fun ⟨_, lower⟩ => by cases lower
  rw [camelFrom, if_neg plain, if_neg (by decide), if_pos rfl]
  split
  · rfl
  · split <;> rfl

theorem camelFrom_lower (lower : isLower c = true) :
    camelFrom p (c :: r) = (if p = .word then c else raise c) :: camelFrom .word r := by
  have noDot : c ≠ '.' := by rintro rfl; cases lower
  have noUnderscore : c ≠ '_' := by rintro rfl; cases lower
  rw [camelFrom]
  by_cases inside : p = .word
  · rw [if_pos ⟨inside, lower⟩, if_pos inside]
  · rw [if_neg fun h => inside h.1, if_neg noDot, if_neg noUnderscore,
      if_neg (not_isDigit_of_isLower lower), if_neg inside]

theorem camelFrom_other (noDot : c ≠ '.') (noUnderscore : c ≠ '_') (noLower : isLower c = false) :
    camelFrom p (c :: r) = c :: camelFrom (if isDigit c then .gap else .word) r := by
  have plain : ¬ (p = .word ∧ isLower c = true) := fun ⟨_, lower⟩ => by rw [noLower] at lower; cases lower
  rw [camelFrom, if_neg plain, if_neg noDot, if_neg noUnderscore, raise_of_not_isLower noLower]
  split <;> rfl

end

def isUpper (c : Char) : Bool := 'A' ≤ c && c ≤ 'Z'

/-- An ASCII letter or digit, or an underscore. -/
def isNamePart (c : Char) : Bool := isLower c || isUpper c || isDigit c || c == '_'

/-- A letter or an underscore, and any letters, digits and underscores behind it. -/
def IsIdentifier (s : String) : Prop :=
  ∃ c r, s.toList = c :: r ∧ isNamePart c = true ∧ isDigit c = false ∧ ∀ d ∈ r, isNamePart d = true

theorem isIdentifier_iff {s : String} : IsIdentifier s ↔
    s.toList.head?.any (fun c => isNamePart c && !isDigit c) = true ∧ s.toList.tail.all isNamePart = true := by
  cases text : s.toList with
  | nil => simp [IsIdentifier, text]
  | cons c r => simp [IsIdentifier, text, and_assoc]

instance (s : String) : Decidable (IsIdentifier s) := decidable_of_iff' _ isIdentifier_iff

/-- Identifiers with dots between them. -/
inductive IsDotted : String → Prop where
  | one {s : String} : IsIdentifier s → IsDotted s
  | more {s t : String} : IsIdentifier s → IsDotted t → IsDotted (s ++ "." ++ t)

theorem IsIdentifier.isNamePart {s : String} (identifier : IsIdentifier s) :
    ∀ c ∈ s.toList, isNamePart c = true := by
  obtain ⟨c, r, text, first, -, rest⟩ := identifier
  intro d mem
  rw [text] at mem
  rcases List.mem_cons.1 mem with rfl | mem
  · exact first
  · exact rest d mem

theorem IsDotted.isNamePart_or_dot {s : String} (dotted : IsDotted s) :
    ∀ c ∈ s.toList, isNamePart c = true ∨ c = '.' := by
  induction dotted with
  | one identifier => exact fun c mem => .inl (identifier.isNamePart c mem)
  | more identifier _ ih =>
    intro c mem
    simp only [String.toList_append, List.mem_append] at mem
    rcases mem with (mem | mem) | mem
    · exact .inl (identifier.isNamePart c mem)
    · exact .inr (by simpa using mem)
    · exact ih c mem

/-- A letter or an underscore stands first. -/
theorem IsDotted.opens {s : String} (dotted : IsDotted s) :
    ∃ c r, s.toList = c :: r ∧ isNamePart c = true ∧ isDigit c = false := by
  cases dotted with
  | one identifier =>
    obtain ⟨c, r, text, part, noDigit, -⟩ := identifier
    exact ⟨c, r, text, part, noDigit⟩
  | @more s t identifier _ =>
    obtain ⟨c, r, text, part, noDigit, -⟩ := identifier
    exact ⟨c, r ++ ".".toList ++ t.toList, by simp [text], part, noDigit⟩

/-- What stands in no identifier. -/
theorem ne_of_isNamePart {c d : Char} (part : isNamePart c = true) (other : isNamePart d = false) : c ≠ d := by
  rintro rfl
  rw [part] at other
  cases other

theorem isUpper_raise {c : Char} (lower : isLower c = true) : isUpper (raise c) = true := by
  obtain ⟨low, high⟩ := isLower_iff.1 lower
  have upper : ∀ n < 91, 65 ≤ n → isUpper (Char.ofNat n) = true := by decide
  rw [raise, if_pos lower]
  exact upper _ (by omega) (by omega)

theorem isNamePart_raise {c : Char} (part : isNamePart c = true) : isNamePart (raise c) = true := by
  cases lower : isLower c with
  | true => simp [isNamePart, isUpper_raise lower]
  | false => rwa [raise_of_not_isLower lower]

theorem isNamePart_camelFrom {s : List Char} (dotted : ∀ c ∈ s, isNamePart c = true ∨ c = '.') (p : Place) :
    ∀ c ∈ camelFrom p s, isNamePart c = true := by
  induction s generalizing p with
  | nil => simp [camelFrom]
  | cons c r ih =>
    have rest : ∀ p, ∀ d ∈ camelFrom p r, isNamePart d = true := ih fun d mem => dotted d (by simp [mem])
    have behind : ∀ (front : List Char) (p : Place), (∀ d ∈ front, isNamePart d = true) →
        ∀ d ∈ front ++ camelFrom p r, isNamePart d = true := fun front p first d mem =>
      (List.mem_append.1 mem).elim (first d) (rest p d)
    by_cases dot : c = '.'
    · rw [dot, camelFrom_dot]
      refine behind _ _ ?_
      split <;> simp [isNamePart]
    have here : isNamePart c = true := (dotted c (by simp)).resolve_right dot
    by_cases underscore : c = '_'
    · rw [underscore, camelFrom_underscore]
      refine behind _ _ ?_
      split
      · exact List.forall_mem_singleton.2 (by decide)
      · split <;> simp [isNamePart]
    cases lower : isLower c with
    | true =>
      rw [camelFrom_lower _ _ lower]
      refine behind [_] _ (List.forall_mem_singleton.2 ?_)
      split
      · exact here
      · exact isNamePart_raise here
    | false =>
      rw [camelFrom_other _ _ dot underscore lower]
      exact behind [c] _ (List.forall_mem_singleton.2 here)

theorem isNamePart_camel {s : String} (dotted : ∀ c ∈ s.toList, isNamePart c = true ∨ c = '.') :
    ∀ c ∈ (camel s).toList, isNamePart c = true := by
  rw [camel, String.toList_ofList]
  exact isNamePart_camelFrom dotted .start

end Regen.Ident
