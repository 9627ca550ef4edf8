import Regen.Proofs.Ident.Fixed
import Regen.Proofs.Ident.NameScope

/-!
# Underscores in identifiers

In the identifier of a name an underscore stands in front of an upper-case letter only where the name has an underscore
or a dot in front of a character that is neither a lower-case letter nor a digit (`isChain_camelFrom`). Underscores
behind the identifier do not change that (`isChain_padded`).
-/

namespace Regen.Ident

open NameScope

/-- An underscore or a dot has a lower-case letter or a digit behind it. -/
def Joins (c d : Char) : Prop := c = '_' ∨ c = '.' → isLower d = true ∨ isDigit d = true

instance : DecidableRel Joins := fun c d =>
  inferInstanceAs (Decidable (c = '_' ∨ c = '.' → isLower d = true ∨ isDigit d = true))

/-- No underscore stands in front of an upper-case letter. -/
def Seamless (c d : Char) : Prop := c = '_' → isUpper d = false

/-- Behind an underscore or a dot nothing is written that begins with an upper-case letter, except where the separator
is dropped. -/
theorem isChain_separated {c : Char} {r : List Char} (separator : c = '_' ∨ c = '.') (joined : (c :: r).IsChain Joins)
    {p : Place} (rest : (camelFrom p r).IsChain Seamless) :
    ((if startsLower r then [] else ['_']) ++ camelFrom p r).IsChain Seamless := by
  cases r with
  | nil => exact .singleton '_'
  | cons d r =>
    cases lower : isLower d with
    | true => rwa [startsLower, if_pos lower]
    | false =>
      have digit : isDigit d = true := by simpa [lower] using (List.isChain_cons_cons.1 joined).1 separator
      have noDot : d ≠ '.' := by rintro rfl; cases digit
      have noUnderscore : d ≠ '_' := by rintro rfl; cases digit
      have upper : isUpper d = false := by
        by_contra upper
        rw [(alone_of_isUpper (by simpa using upper)).2.2.2] at digit
        cases digit
      rw [startsLower, lower, if_neg Bool.false_ne_true, List.singleton_append]
      rw [camelFrom_other _ _ noDot noUnderscore lower] at rest ⊢
      exact .cons_cons (fun _ => upper) rest

/-- A character that is no underscore may stand in front of everything. -/
theorem isChain_seamless_cons {c : Char} {l : List Char} (other : c ≠ '_') (rest : l.IsChain Seamless) :
    (c :: l).IsChain Seamless :=
  rest.cons fun _ _ same => absurd same other

/-- The identifier of a name in lower case with single underscores has no underscore in front of an upper-case
letter. -/
theorem isChain_camelFrom {s : List Char} (joined : s.IsChain Joins) (p : Place) :
    (camelFrom p s).IsChain Seamless := by
  induction s generalizing p with
  | nil => exact .nil
  | cons c r ih =>
    have rest := fun p => ih joined.tail p
    by_cases dot : c = '.'
    · subst dot
      rw [camelFrom_dot]
      exact isChain_separated (.inr rfl) joined (rest .start)
    by_cases underscore : c = '_'
    · subst underscore
      rw [camelFrom_underscore]
      split
      · exact isChain_seamless_cons (by decide) (rest .gap)
      · exact isChain_separated (.inl rfl) joined (rest .gap)
    cases lower : isLower c with
    | true =>
      rw [camelFrom_lower _ _ lower]
      refine isChain_seamless_cons ?_ (rest .word)
      split
      · exact underscore
      · exact (alone_of_isUpper (isUpper_raise lower)).2.1
    | false =>
      rw [camelFrom_other _ _ dot underscore lower]
      exact isChain_seamless_cons underscore (rest _)

theorem isChain_padded {name : String} (joined : name.toList.IsChain Joins) (k : Nat) :
    (padded (camel name) k).toList.IsChain Seamless := by
  have under : ∀ c, Seamless c '_' := fun _ _ => rfl
  rw [toList_padded, camel, String.toList_ofList]
  refine List.isChain_append.2 ⟨isChain_camelFrom joined .start, List.isChain_replicate_of_rel k (under '_'), ?_⟩
  intro c _ d first
  rw [(List.mem_replicate.1 (List.mem_of_mem_head? first)).2]
  exact under c

/-- The name of a field begins with an upper-case letter. -/
theorem padded_opens {name : String} (dotted : IsDotted name) (k : Nat) :
    ∃ c r, (padded (camel name) k).toList = c :: r ∧ isUpper c = true := by
  obtain ⟨c, r, text, part, noDigit⟩ := dotted.opens
  obtain ⟨d, rest, becomes, upper⟩ := camelFrom_opens part noDigit r
  refine ⟨d, rest ++ List.replicate k '_', ?_, upper⟩
  rw [toList_padded, camel, String.toList_ofList, camelChars, text, becomes, List.cons_append]

end Regen.Ident
