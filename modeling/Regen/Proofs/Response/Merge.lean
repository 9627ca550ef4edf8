import Mathlib.Order.MinMax
import Regen.Response.Basic

/-!
# Merged answers

Merging is associative, so answers may be merged in groups first (`foldl_merge_flatten`). What a list of
answers is merged into has the files of all of them, the union of their features and the bounds that all
of them keep (`Gathered`). But for the order of the files, none of this asks for the order of the answers
(`merge_gathers`).
-/

namespace Regen.Response

theorem agree_assoc {choose : Int → Int → Int} (assoc : ∀ a b c, choose (choose a b) c = choose a (choose b c))
    (a b c : Option Int) : agree choose (agree choose a b) c = agree choose a (agree choose b c) := by
  cases a <;> cases b <;> cases c <;> simp [agree, assoc]

theorem merge_assoc (a b c : Response) : (a.merge b).merge c = a.merge (b.merge c) := by
  simp only [merge, Option.getD_some, Nat.or_assoc, agree_assoc max_assoc, agree_assoc min_assoc,
    List.append_assoc]

/-- Nothing is added to an answer by merging it into the empty one first. -/
theorem merge_empty_merge (a b : Response) : a.merge (empty.merge b) = a.merge b := by
  simp [merge, empty, agree]

theorem foldl_merge_merge (parts : List Response) (a b : Response) :
    parts.foldl merge (a.merge b) = a.merge (parts.foldl merge b) := by
  induction parts generalizing b with
  | nil => rfl
  | cons part parts ih => rw [List.foldl_cons, List.foldl_cons, merge_assoc, ih]

/-- Answers may be merged in groups. -/
theorem foldl_merge_flatten {groups : List (List Response)} (some : ∀ g ∈ groups, g ≠ []) (whole : Response) :
    groups.flatten.foldl merge whole = (groups.map (·.foldl merge empty)).foldl merge whole := by
  induction groups generalizing whole with
  | nil => rfl
  | cons g groups ih =>
    rw [List.flatten_cons, List.foldl_append, List.map_cons, List.foldl_cons,
      ih fun g mem => some g (by simp [mem])]
    congr 1
    cases g with
    | nil => exact absurd rfl (some [] (by simp))
    | cons part parts =>
      rw [List.foldl_cons, List.foldl_cons, foldl_merge_merge, foldl_merge_merge, merge_empty_merge]

theorem files_foldl_merge (parts : List Response) (whole : Response) :
    (parts.foldl merge whole).files = whole.files ++ parts.flatMap (·.files) := by
  induction parts generalizing whole with
  | nil => simp
  | cons part parts ih => simp [ih, merge]

theorem error_foldl_merge (parts : List Response) (whole : Response) :
    (parts.foldl merge whole).error = whole.error := by
  induction parts generalizing whole with
  | nil => rfl
  | cons part parts ih => rw [List.foldl_cons, ih, merge]

/-- The union of the features of answers. -/
def featuresOf (parts : List Response) : Nat := parts.foldl (fun n part => n ||| part.features.getD 0) 0

theorem features_foldl_merge (parts : List Response) :
    (parts.foldl merge empty).features = if parts = [] then none else some (featuresOf parts) := by
  have later : ∀ (parts : List Response) (whole : Response) (n : Nat), whole.features = some n →
      (parts.foldl merge whole).features = some (parts.foldl (fun n part => n ||| part.features.getD 0) n) := by
    intro parts
    induction parts with
    | nil => exact fun _ _ features => features
    | cons part parts ih =>
      intro whole n features
      exact ih (whole.merge part) _ (by rw [merge, features, Option.getD_some])
  cases parts with
  | nil => rfl
  | cons part parts =>
    rw [if_neg (by simp)]
    exact later parts (empty.merge part) _ rfl

/-- What a choice between two bounds leaves of a list of them. -/
def chosen (choose : Int → Int → Int) : List Int → Option Int
  | [] => none
  | a :: r => some (r.foldl choose a)

theorem chosen_max (bounds : List Int) : chosen max bounds = bounds.max? := by
  cases bounds <;> rfl

theorem chosen_min (bounds : List Int) : chosen min bounds = bounds.min? := by
  cases bounds <;> rfl

/-- Answers without a bound do not count. -/
theorem foldl_agree (choose : Int → Int → Int) (bounds : List (Option Int)) :
    bounds.foldl (agree choose) none = chosen choose (bounds.filterMap id) := by
  have later : ∀ (bounds : List (Option Int)) (a : Int),
      bounds.foldl (agree choose) (some a) = some ((bounds.filterMap id).foldl choose a) := by
    intro bounds
    induction bounds with
    | nil => exact fun _ => rfl
    | cons bound bounds ih =>
      intro a
      cases bound <;> exact ih _
  induction bounds with
  | nil => rfl
  | cons bound bounds ih =>
    cases bound with
    | none => exact ih
    | some a => exact later bounds a

theorem bound_foldl_merge (choose : Int → Int → Int) (bound : Response → Option Int)
    (merged : ∀ a b, bound (a.merge b) = agree choose (bound a) (bound b)) (parts : List Response)
    {whole : Response} (unbounded : bound whole = none) :
    bound (parts.foldl merge whole) = chosen choose (parts.filterMap bound) := by
  have step : ∀ whole, bound (parts.foldl merge whole) =
      (parts.map bound).foldl (agree choose) (bound whole) := by
    induction parts with
    | nil => exact fun _ => rfl
    | cons part parts ih =>
      intro whole
      rw [List.foldl_cons, ih, merged, List.map_cons, List.foldl_cons]
  rw [step, unbounded, foldl_agree, List.filterMap_map]
  rfl

theorem minimumEdition_foldl_merge (parts : List Response) :
    (parts.foldl merge empty).minimumEdition = (parts.filterMap (·.minimumEdition)).max? := by
  rw [bound_foldl_merge max Response.minimumEdition (fun _ _ => rfl) parts rfl, chosen_max]

theorem maximumEdition_foldl_merge (parts : List Response) :
    (parts.foldl merge empty).maximumEdition = (parts.filterMap (·.maximumEdition)).min? := by
  rw [bound_foldl_merge min Response.maximumEdition (fun _ _ => rfl) parts rfl, chosen_min]

theorem unknown_foldl_merge (parts : List Response) (whole : Response) :
    (parts.foldl merge whole).unknown = whole.unknown := by
  induction parts generalizing whole with
  | nil => rfl
  | cons part parts ih => rw [List.foldl_cons, ih, merge]

/-! ### What a list of answers comes to -/

/-- A feature is supported if one of the answers supports it. -/
theorem testBit_featuresOf (parts : List Response) (i : Nat) :
    (featuresOf parts).testBit i = parts.any fun part => (part.features.getD 0).testBit i := by
  have united : ∀ n : Nat, (parts.foldl (fun n part => n ||| part.features.getD 0) n).testBit i =
      (n.testBit i || parts.any fun part => (part.features.getD 0).testBit i) := by
    induction parts with
    | nil => exact fun n => (Bool.or_false _).symm
    | cons part parts ih =>
      intro n
      rw [List.foldl_cons, ih, Nat.testBit_or, List.any_cons, Bool.or_assoc]
  rw [featuresOf, united, Nat.zero_testBit, Bool.false_or]

/-- What answers come to when they are merged into an empty one. Without answers no features are set, and
without bounds there is no bound. -/
structure Gathered (parts : List Response) (whole : Response) : Prop where
  features : whole.features = if parts = [] then none else some (featuresOf parts)
  minimumEdition : whole.minimumEdition = (parts.filterMap (·.minimumEdition)).max?
  maximumEdition : whole.maximumEdition = (parts.filterMap (·.maximumEdition)).min?
  files : whole.files = parts.flatMap (·.files)
  error : whole.error = none
  unknown : whole.unknown = []

theorem gathered_foldl_merge (parts : List Response) : Gathered parts (parts.foldl merge empty) where
  features := features_foldl_merge parts
  minimumEdition := minimumEdition_foldl_merge parts
  maximumEdition := maximumEdition_foldl_merge parts
  files := files_foldl_merge parts empty
  error := error_foldl_merge parts empty
  unknown := unknown_foldl_merge parts empty

section Reordered

variable {parts parts' : List Response} (perm : parts'.Perm parts)

include perm

theorem featuresOf_perm : featuresOf parts' = featuresOf parts := by
  apply Nat.eq_of_testBit_eq
  intro i
  rw [testBit_featuresOf, testBit_featuresOf, perm.any_eq]

theorem greatest_perm (bound : Response → Option Int) :
    (parts'.filterMap bound).max? = (parts.filterMap bound).max? := by
  apply Option.ext
  intro a
  simp only [List.max?_eq_some_iff, (perm.filterMap bound).mem_iff]

theorem least_perm (bound : Response → Option Int) :
    (parts'.filterMap bound).min? = (parts.filterMap bound).min? := by
  apply Option.ext
  intro a
  simp only [List.min?_eq_some_iff, (perm.filterMap bound).mem_iff]

theorem Gathered.reordered {whole whole' : Response} (gathered : Gathered parts whole)
    (gathered' : Gathered parts' whole') : whole' = { whole with files := parts'.flatMap (·.files) } := by
  have none : parts' = [] ↔ parts = [] := by
    constructor <;> rintro rfl
    · exact perm.nil_eq.symm
    · exact perm.eq_nil
  have features : whole'.features = whole.features := by
    rw [gathered'.features, gathered.features]
    simp only [none, featuresOf_perm perm]
  have minimum := gathered'.minimumEdition.trans ((greatest_perm perm _).trans gathered.minimumEdition.symm)
  have maximum := gathered'.maximumEdition.trans ((least_perm perm _).trans gathered.maximumEdition.symm)
  have error := gathered'.error.trans gathered.error.symm
  have unknown := gathered'.unknown.trans gathered.unknown.symm
  show Response.mk whole'.error whole'.features whole'.minimumEdition whole'.maximumEdition whole'.files
    whole'.unknown = _
  rw [error, features, minimum, maximum, gathered'.files, unknown]

end Reordered

/-- Answers at the head may be merged into one first. -/
theorem foldl_merge_front {first : List Response} (some : first ≠ []) (rest : List Response) :
    (first.foldl merge empty :: rest).foldl merge empty = (first ++ rest).foldl merge empty := by
  cases first with
  | nil => exact absurd rfl some
  | cons part parts =>
    rw [List.foldl_cons, List.foldl_append, List.foldl_cons, foldl_merge_merge parts empty part, merge_empty_merge]

/-- Merging answers unites their features, keeps the narrowest of their bounds and lines up their files. Their order
matters to the order of the files alone, and it makes no difference whether those at the head have been merged
before. -/
theorem merge_gathers (parts : List Response) :
    Gathered parts (parts.foldl merge empty) ∧
      (∀ i, (featuresOf parts).testBit i = parts.any fun part => (part.features.getD 0).testBit i) ∧
      (∀ parts' : List Response, parts'.Perm parts →
        parts'.foldl merge empty = { parts.foldl merge empty with files := parts'.flatMap (·.files) } ∧
          (parts'.flatMap (·.files)).Perm (parts.flatMap (·.files))) ∧
      ∀ first rest : List Response, first ≠ [] → first ++ rest = parts →
        (first.foldl merge empty :: rest).foldl merge empty = parts.foldl merge empty := by
  refine ⟨gathered_foldl_merge parts, testBit_featuresOf parts, ?_, ?_⟩
  · intro parts' perm
    have reordered := (gathered_foldl_merge parts).reordered perm (gathered_foldl_merge parts')
    exact ⟨reordered, perm.flatMap_right _⟩
  · rintro first rest some rfl
    exact foldl_merge_front some rest

namespace Sample

/-- Answers without bounds, with a bound of zero and with wide bounds. -/
def answers : List Response :=
  [{ empty with features := some 0, files := [.plain "a.go" "a"] },
   { empty with features := some 5, minimumEdition := some (-2), maximumEdition := some 0, files := [.plain "b.go" "b"] },
   { empty with features := some 3, minimumEdition := some (-7), maximumEdition := some 9, files := [.plain "c.go" "c"] }]

end Sample

theorem merge_gathers_sample :
    Gathered Sample.answers (Sample.answers.foldl merge empty) ∧
      Sample.answers.reverse.foldl merge empty = { Sample.answers.foldl merge empty with
        files := [.plain "c.go" "c", .plain "b.go" "b", .plain "a.go" "a"] } ∧
      ((Sample.answers.take 2).foldl merge empty :: Sample.answers.drop 2).foldl merge empty =
        ⟨none, some 7, some (-2), some 0, [.plain "a.go" "a", .plain "b.go" "b", .plain "c.go" "c"], []⟩ := by
  obtain ⟨gathered, -, reordered, front⟩ := merge_gathers Sample.answers
  have reversed := reordered Sample.answers.reverse (List.reverse_perm _)
  have regrouped := front (Sample.answers.take 2) (Sample.answers.drop 2) (List.cons_ne_nil _ _) rfl
  exact ⟨gathered, reversed.1, regrouped.trans rfl⟩

end Regen.Response
