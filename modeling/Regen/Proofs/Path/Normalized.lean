import Regen.Proofs.Files.Resolve

/-!
# Normalised path texts

A path text behind another one makes a path with the names of both (`ofString_joinText`). What a path text is
normalised to is read back as the names of its path without those that a `..` takes away (`namesOf_normalized`). Names
without `..` are all kept behind those of another path (`collapse_append`), so path texts that begin alike and go on
with different names are normalised to different texts (`normalized_joinText_inj`).
-/

namespace Regen.Path

variable {a b s : String}

/-! ### One path text behind another -/

/-- The slashes at the head of a text are its root's, whatever stands behind another character. -/
theorem rootOf_append {s t : List Char} (parted : t.head? = some '/' → ∃ c ∈ s, c ≠ '/') :
    rootOf (s ++ t) = rootOf s := by
  have relative {c : Char} (other : c ≠ '/') (r : List Char) : rootOf (c :: r) = "" :=
    (rootOf_eq_empty_iff _).2 (by simpa using other)
  have stops (slashes : ∀ c ∈ s, c = '/') : t.head? ≠ some '/' := by
    intro slash
    obtain ⟨c, mem, other⟩ := parted slash
    exact other (slashes c mem)
  -- A root is told by the first three characters.
  rcases s with _ | ⟨c, s⟩
  · exact (rootOf_eq_empty_iff t).2 (stops nofun)
  · by_cases first : c = '/'
    · subst first
      rcases s with _ | ⟨d, s⟩
      · exact rootOf_slash (stops (by simp))
      · by_cases second : d = '/'
        · subst second
          rcases s with _ | ⟨e, s⟩
          · exact rootOf_slashes (stops (by simp))
          · by_cases third : e = '/'
            · rw [third]
              rfl
            · have other (r : List Char) : rootOf ('/' :: '/' :: e :: r) = "//" :=
                rootOf_slashes (by simpa using third)
              exact (other _).trans (other _).symm
        · have other (r : List Char) : rootOf ('/' :: d :: r) = "/" := rootOf_slash (by simpa using second)
          exact (other _).trans (other _).symm
    · exact (relative first _).trans (relative first _).symm

/-- A path text that is not absolute goes on with its names behind another one. -/
theorem ofString_joinText (head : b.toList.head? ≠ some '/') :
    ofString (joinText a b) = ⟨(ofString a).root, (ofString a).parts ++ (ofString b).parts⟩ := by
  have parts := Downward.parts_joinText (a := a) head
  have root : (ofString (joinText a b)).root = (ofString a).root := by
    simp only [ofString]
    rw [joinText, if_neg head]
    split
    · rw [String.toList_append]
      exact rootOf_append fun slash => absurd slash head
    · next inner =>
      obtain ⟨some, last⟩ := not_or.1 inner
      have more : a.toList ≠ [] := fun none => some (String.toList_eq_nil_iff.1 none)
      rw [String.append_assoc, String.toList_append]
      refine rootOf_append fun _ => ⟨_, List.getLast_mem more, fun slash => last ?_⟩
      rw [List.getLast?_eq_some_getLast more, slash]
  rw [← root, ← parts]

/-! ### Names that are taken together -/

/-- Names without `..` stay as they are behind those of another path. -/
theorem collapse_append (absolute : Bool) (front : List String) {parts : List String} (inner : ".." ∉ parts) :
    collapse absolute (front ++ parts) = collapse absolute front ++ parts := by
  unfold collapse
  rw [List.foldl_append]
  generalize front.foldl _ [] = kept
  induction parts generalizing kept with
  | nil => simp
  | cons part parts ih =>
    obtain ⟨here, rest⟩ := List.ne_and_not_mem_of_not_mem_cons inner
    rw [List.foldl_cons, if_pos (Ne.symm here), ih rest, List.reverse_cons, List.append_assoc, List.singleton_append]

theorem mem_of_mem_collapse {absolute : Bool} {parts : List String} {name : String}
    (mem : name ∈ collapse absolute parts) : name ∈ parts := by
  -- whatever is kept on the way consists of parts
  refine List.foldlRecOn (motive := fun kept => kept ⊆ parts) parts _ (List.nil_subset parts) ?_
    (List.mem_reverse.1 mem)
  intro kept old part here
  have added : part :: kept ⊆ parts := List.cons_subset.2 ⟨here, old⟩
  by_cases dots : part = ".."
  · rw [if_neg (not_not.2 dots)]
    cases kept with
    | nil => cases absolute <;> simp [here]
    | cons k r =>
      dsimp only
      split
      · exact added
      · exact (List.cons_subset.1 old).2
  · rw [if_pos dots]
    exact added

/-! ### Normalised texts -/

/-- The root of a path text adds no name. -/
theorem namesOf_root_append (s t : List Char) : namesOf ((rootOf s).toList ++ t) = namesOf t := by
  have slash (t : List Char) : namesOf ('/' :: t) = namesOf t := by
    rw [← List.nil_append ('/' :: t), namesOf_append]
    rfl
  unfold rootOf
  split
  · exact slash t
  · exact (slash _).trans (slash t)
  · exact slash t
  · rfl

theorem isSegment_of_mem_collapsed {name : String} (mem : name ∈ (ofString s).collapsed.parts) : IsSegment name :=
  isSegment_of_mem_namesOf (mem_of_mem_collapse mem)

/-- The names of a normalised text are those of its path without what a `..` takes away. -/
theorem namesOf_normalized :
    namesOf (normalized s).toList = collapse (ofString s).isAbsolute (ofString s).parts := by
  rw [normalized, toString]
  split
  · next none => exact none.2.symm
  · rw [String.toList_append, collapsed, ofString, namesOf_root_append]
    exact namesOf_intercalate fun _ => isSegment_of_mem_collapsed

theorem mem_intercalate {c : Char} {names : List String} (mem : c ∈ ("/".intercalate names).toList) :
    c = '/' ∨ ∃ name ∈ names, c ∈ name.toList := by
  rw [String.toList_intercalate] at mem
  induction names with
  | nil => cases mem
  | cons n names ih =>
    cases names with
    | nil => exact .inr ⟨n, by simpa using mem⟩
    | cons m names =>
      simp only [List.map_cons, List.intercalate_cons_cons, List.mem_append] at mem ih
      rcases mem with (here | slash) | below
      · exact .inr ⟨n, List.mem_cons_self, here⟩
      · exact .inl (List.mem_singleton.1 slash)
      · rcases ih below with slash | ⟨name, inside, mem⟩
        · exact .inl slash
        · exact .inr ⟨name, List.mem_cons_of_mem n inside, mem⟩

/-- Every character of a normalised text is a slash, a dot or one of a name. -/
theorem mem_normalized {c : Char} (mem : c ∈ (normalized s).toList) :
    c = '/' ∨ c = '.' ∨ ∃ name ∈ (ofString s).parts, c ∈ name.toList := by
  have roots : ∀ d ∈ (ofString s).root.toList, d = '/' := by
    simp only [ofString]
    unfold rootOf
    split <;> simp
  rw [normalized, toString] at mem
  split at mem
  · exact .inr (.inl (List.mem_singleton.1 mem))
  · rw [String.toList_append, List.mem_append] at mem
    rcases mem with mem | mem
    · exact .inl (roots c mem)
    · rcases mem_intercalate mem with slash | ⟨name, inside, mem⟩
      · exact .inl slash
      · exact .inr (.inr ⟨name, mem_of_mem_collapse inside, mem⟩)

/-- Only the path that a text names matters. -/
theorem normalized_congr {t : String} (same : ofString s = ofString t) : normalized s = normalized t := by
  rw [normalized, same, normalized]

/-- Names that slashes part stand behind those of the text in front. -/
theorem ofString_joinText_intercalate {names : List String} (segments : ∀ n ∈ names, IsSegment n) :
    ofString (joinText a ("/".intercalate names)) = ⟨(ofString a).root, (ofString a).parts ++ names⟩ := by
  rw [ofString_joinText (head?_intercalate segments), parts_ofString ("/".intercalate names),
    namesOf_intercalate segments]

/-- Path texts that go on with different names are normalised to different texts. -/
theorem normalized_joinText_inj {names names' : List String} (isName : ∀ n ∈ names, Files.IsEntryName n)
    (isName' : ∀ n ∈ names', Files.IsEntryName n)
    (same : normalized (joinText a ("/".intercalate names)) = normalized (joinText a ("/".intercalate names'))) :
    names = names' := by
  have read : ∀ {ns : List String}, (∀ n ∈ ns, Files.IsEntryName n) →
      namesOf (normalized (joinText a ("/".intercalate ns))).toList =
        collapse (ofString a).isAbsolute (ofString a).parts ++ ns := by
    intro ns isName
    have above : ".." ∉ ns := fun mem => (isName _ mem).dots rfl
    rw [namesOf_normalized, ofString_joinText_intercalate fun n mem => (isName n mem).isSegment]
    exact collapse_append _ _ above
  have both := congrArg (fun text => namesOf text.toList) same
  rw [read isName, read isName'] at both
  exact List.append_cancel_left both

/-- What stands in no name stands in no normalised text, but for slashes and dots. -/
theorem not_mem_normalized {c : Char} (slash : c ≠ '/') (dot : c ≠ '.')
    (plain : ∀ name ∈ (ofString s).parts, c ∉ name.toList) : c ∉ (normalized s).toList := by
  intro mem
  rcases mem_normalized mem with rfl | rfl | ⟨name, part, mem⟩
  · exact slash rfl
  · exact dot rfl
  · exact plain name part mem

end Regen.Path
