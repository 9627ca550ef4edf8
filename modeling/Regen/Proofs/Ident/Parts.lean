import Mathlib.Data.List.Induction
import Regen.Proofs.Ident.Neighbours

/-!
# Identifiers of names in parts

A dot divides a name: what stands on one side of it does not change what becomes of the other
(`camel_append_dot`). The identifier of a name in parts is therefore put together from those of its parts, with
an underscore in front of each part that does not begin with a lower-case letter (`camel_intercalate`).
-/

namespace Regen.Ident

/-- Of the character behind it, a character asks only whether it is a lower-case letter. -/
theorem rewritten_congr (before : Option Char) (c : Char) {behind behind' : Option Char}
    (alike : behind.any isLower = behind'.any isLower) : rewritten before c behind = rewritten before c behind' := by
  rw [rewritten, rewritten, alike]

theorem camelFrom_append_dot (before : Option Char) (a b : List Char) :
    camelFrom (placeBehind before) (a ++ '.' :: b) =
      camelFrom (placeBehind before) a ++ ((if startsLower b then [] else ['_']) ++ camelChars b) := by
  induction a generalizing before with
  | nil => exact camelFrom_dot (placeBehind before) b
  | cons c a ih =>
    -- A dot stands behind the last character of `a`, where nothing stands when `a` is all there is.
    have behind : (a ++ '.' :: b).head?.any isLower = a.head?.any isLower := by cases a <;> rfl
    rw [List.cons_append, camelFrom_cons, camelFrom_cons, ih, rewritten_congr before c behind, List.append_assoc]

/-- What stands in an identifier in front of a part that is not the first. -/
def seam (part : String) : String := if startsLower part.toList then "" else "_"

theorem toList_seam (part : String) : (seam part).toList = if startsLower part.toList then [] else ['_'] := by
  unfold seam
  split <;> rfl

theorem camel_append_dot (a b : String) : camel (a ++ "." ++ b) = camel a ++ seam b ++ camel b := by
  have divided := camelFrom_append_dot none a.toList b.toList
  apply String.toList_inj.1
  simp only [camel, String.toList_append, String.toList_ofList, toList_seam, List.append_assoc]
  exact divided

/-- The identifier of a name in parts, part by part. -/
def composed : List String → String
  | [] => ""
  | part :: parts => parts.foldl (fun front part => front ++ seam part ++ camel part) (camel part)

theorem composed_concat {parts : List String} (some : parts ≠ []) (part : String) :
    composed (parts ++ [part]) = composed parts ++ seam part ++ camel part := by
  cases parts with
  | nil => exact absurd rfl some
  | cons first parts => rw [List.cons_append, composed, composed, List.foldl_append, List.foldl_cons, List.foldl_nil]

theorem camel_intercalate (parts : List String) : camel (".".intercalate parts) = composed parts := by
  induction parts using List.reverseRecOn with
  | nil => rfl
  | append_singleton parts part ih =>
    by_cases none : parts = []
    · subst none
      rw [List.nil_append, String.intercalate_singleton]
      rfl
    · rw [String.intercalate_append_of_ne_nil none (List.cons_ne_nil part []), String.intercalate_singleton,
        camel_append_dot, ih, composed_concat none]

example : composed ["Outer", "inner_a", "_B", ""] = "OuterInnerA_XB_" := by decide

end Regen.Ident
