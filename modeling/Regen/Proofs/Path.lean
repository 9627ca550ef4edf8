import Mathlib.Data.List.Forall2
import Regen.Proofs.Files.Below

/-!
# Path texts that lead downwards

Names that slashes part are read back from their text (`namesOf_intercalate`). A path text without a root and without
`..` leads downwards from where it starts (`Downward`), and so does one such text behind another
(`Downward.joinText`).
-/

namespace Regen.Path

theorem splitSlash_ne_nil (s : List Char) : splitSlash s ≠ [] := by
  cases s with
  | nil => exact nofun
  | cons c s =>
    rw [splitSlash, List.foldr_cons]
    split
    · exact nofun
    · split <;> exact nofun

theorem splitSlash_cons_slash (s : List Char) : splitSlash ('/' :: s) = [] :: splitSlash s := by
  have more := splitSlash_ne_nil s
  rw [splitSlash, List.foldr_cons, ← splitSlash]
  cases split : splitSlash s with
  | nil => exact absurd split more
  | cons p ps => rfl

theorem splitSlash_cons {c : Char} (plain : c ≠ '/') {s p : List Char} {ps : List (List Char)}
    (split : splitSlash s = p :: ps) : splitSlash (c :: s) = (c :: p) :: ps := by
  rw [splitSlash, List.foldr_cons, ← splitSlash, split]
  simp [plain]

/-- A slash stands between names. -/
theorem splitSlash_append (s t : List Char) : splitSlash (s ++ '/' :: t) = splitSlash s ++ splitSlash t := by
  induction s with
  | nil => exact splitSlash_cons_slash t
  | cons c s ih =>
    rw [List.cons_append]
    by_cases slash : c = '/'
    · rw [slash, splitSlash_cons_slash, splitSlash_cons_slash, ih, List.cons_append]
    · cases split : splitSlash s with
      | nil => exact absurd split (splitSlash_ne_nil s)
      | cons p ps =>
        rw [split, List.cons_append] at ih
        rw [splitSlash_cons slash ih, splitSlash_cons slash split, List.cons_append]

/-- The names between the slashes of a text. -/
def namesOf (s : List Char) : List String := ((splitSlash s).filter isPart).map String.ofList

theorem parts_ofString (s : String) : (ofString s).parts = namesOf s.toList := rfl

theorem namesOf_append (s t : List Char) : namesOf (s ++ '/' :: t) = namesOf s ++ namesOf t := by
  rw [namesOf, splitSlash_append, List.filter_append, List.map_append, namesOf, namesOf]

theorem ne_dot_of_mem_namesOf {s : List Char} {name : String} (mem : name ∈ namesOf s) : name ≠ "." := by
  obtain ⟨cs, inside, rfl⟩ := List.mem_map.1 mem
  have part := (List.mem_filter.1 inside).2
  intro dot
  obtain rfl : cs = ['.'] := by rw [← String.toList_ofList (l := cs), dot]; rfl
  exact absurd part (by decide)

/-! ### Names that are read back -/

/-- A text that stands between two slashes and is read as a name. -/
structure IsSegment (name : String) : Prop where
  part : isPart name.toList = true
  slash : '/' ∉ name.toList

theorem IsSegment.ne_nil {name : String} (segment : IsSegment name) : name.toList ≠ [] := by
  intro none
  have part := segment.part
  rw [none] at part
  cases part

theorem splitSlash_plain {s : List Char} (plain : '/' ∉ s) : splitSlash s = [s] := by
  induction s with
  | nil => rfl
  | cons c s ih =>
    obtain ⟨here, rest⟩ := List.ne_and_not_mem_of_not_mem_cons plain
    exact splitSlash_cons (Ne.symm here) (ih rest)

theorem slash_not_mem_of_mem_splitSlash {s p : List Char} (mem : p ∈ splitSlash s) : '/' ∉ p := by
  induction s generalizing p with
  | nil =>
    rw [List.mem_singleton.1 mem]
    exact List.not_mem_nil
  | cons c s ih =>
    by_cases slash : c = '/'
    · rw [slash, splitSlash_cons_slash] at mem
      rcases List.mem_cons.1 mem with rfl | mem
      · exact List.not_mem_nil
      · exact ih mem
    · obtain ⟨q, qs, split⟩ := List.exists_cons_of_ne_nil (splitSlash_ne_nil s)
      rw [splitSlash_cons slash split] at mem
      rcases List.mem_cons.1 mem with rfl | mem
      · exact List.not_mem_cons_of_ne_of_not_mem (Ne.symm slash) (ih (split ▸ List.mem_cons_self))
      · exact ih (split ▸ List.mem_cons_of_mem q mem)

theorem mem_of_mem_splitSlash {s p : List Char} (mem : p ∈ splitSlash s) {c : Char} (inside : c ∈ p) : c ∈ s := by
  induction s generalizing p with
  | nil =>
    rw [List.mem_singleton.1 mem] at inside
    exact inside
  | cons d s ih =>
    by_cases slash : d = '/'
    · rw [slash, splitSlash_cons_slash] at mem
      rcases List.mem_cons.1 mem with rfl | mem
      · cases inside
      · exact List.mem_cons_of_mem d (ih mem inside)
    · obtain ⟨q, qs, split⟩ := List.exists_cons_of_ne_nil (splitSlash_ne_nil s)
      rw [splitSlash_cons slash split] at mem
      rcases List.mem_cons.1 mem with rfl | mem
      · rcases List.mem_cons.1 inside with rfl | inside
        · exact List.mem_cons_self
        · exact List.mem_cons_of_mem d (ih (split ▸ List.mem_cons_self) inside)
      · exact List.mem_cons_of_mem d (ih (split ▸ List.mem_cons_of_mem q mem) inside)

/-- A name is made of characters of its text. -/
theorem mem_of_mem_namesOf {s : List Char} {name : String} (mem : name ∈ namesOf s) {c : Char}
    (inside : c ∈ name.toList) : c ∈ s := by
  obtain ⟨p, kept, rfl⟩ := List.mem_map.1 mem
  rw [String.toList_ofList] at inside
  exact mem_of_mem_splitSlash (List.mem_filter.1 kept).1 inside

theorem isSegment_of_mem_namesOf {s : List Char} {name : String} (mem : name ∈ namesOf s) : IsSegment name := by
  obtain ⟨p, kept, rfl⟩ := List.mem_map.1 mem
  obtain ⟨split, part⟩ := List.mem_filter.1 kept
  constructor
  · rwa [String.toList_ofList]
  · rw [String.toList_ofList]
    exact slash_not_mem_of_mem_splitSlash split

theorem namesOf_segment {name : String} (segment : IsSegment name) : namesOf name.toList = [name] := by
  simp [namesOf, splitSlash_plain segment.slash, segment.part]

theorem namesOf_intercalate {names : List String} (segments : ∀ n ∈ names, IsSegment n) :
    namesOf ("/".intercalate names).toList = names := by
  rw [String.toList_intercalate]
  induction names with
  | nil => rfl
  | cons n names ih =>
    obtain ⟨here, rest⟩ := List.forall_mem_cons.1 segments
    have tail := ih rest
    cases names with
    | nil => simpa using namesOf_segment here
    | cons m names =>
      simp only [List.map_cons, List.intercalate_cons_cons, List.append_assoc] at tail ⊢
      rw [show "/".toList = ['/'] from rfl, List.singleton_append, namesOf_append, namesOf_segment here]
      exact congrArg (n :: ·) tail

theorem head?_intercalate {names : List String} (segments : ∀ n ∈ names, IsSegment n) :
    ("/".intercalate names).toList.head? ≠ some '/' := by
  rw [String.toList_intercalate]
  cases names with
  | nil => exact nofun
  | cons n names =>
    have first := segments n (by simp)
    have slash := first.slash
    obtain ⟨c, cs, text⟩ := List.exists_cons_of_ne_nil first.ne_nil
    have head : ("/".toList.intercalate ((n :: names).map String.toList)).head? = some c := by
      cases names <;> simp [text]
    rw [head]
    rintro ⟨⟩
    exact slash (by simp [text])

/-! ### Path texts that lead downwards -/

theorem rootOf_eq_empty_iff (s : List Char) : rootOf s = "" ↔ s.head? ≠ some '/' := by
  cases s with
  | nil => simp [rootOf]
  | cons c s =>
    rw [List.head?_cons, ne_eq, Option.some.injEq]
    unfold rootOf
    split <;> simp_all

theorem rootOf_slash {s : List Char} (single : s.head? ≠ some '/') : rootOf ('/' :: s) = "/" := by
  cases s with
  | nil => rfl
  | cons c s =>
    have other : c ≠ '/' := by simpa using single
    unfold rootOf
    split <;> simp_all

theorem rootOf_slashes {s : List Char} (double : s.head? ≠ some '/') : rootOf ('/' :: '/' :: s) = "//" := by
  cases s with
  | nil => rfl
  | cons c s =>
    have other : c ≠ '/' := by simpa using double
    unfold rootOf
    split <;> grind

/-- A path text that leads downwards from where it starts. -/
structure Downward (s : String) : Prop where
  relative : (ofString s).isAbsolute = false
  inner : ".." ∉ (ofString s).parts

instance (s : String) : Decidable (Downward s) :=
  decidable_of_iff ((ofString s).isAbsolute = false ∧ ".." ∉ (ofString s).parts)
    ⟨fun h => ⟨h.1, h.2⟩, fun h => ⟨h.relative, h.inner⟩⟩

namespace Downward

variable {a b s : String}

theorem isInner (down : Downward s) : ∀ n ∈ (ofString s).parts, Files.IsInner n := fun _ mem =>
  ⟨ne_dot_of_mem_namesOf mem, fun dots => down.inner (dots ▸ mem)⟩

theorem join (down : Downward s) (p : Path) : p.join s = ⟨p.root, p.parts ++ (ofString s).parts⟩ := by
  rw [Path.join, append, if_neg]
  rw [down.relative]
  exact Bool.false_ne_true

theorem head? (down : Downward s) : s.toList.head? ≠ some '/' := by
  have relative := down.relative
  simp only [isAbsolute, ofString, bne_eq_false_iff_eq] at relative
  exact (rootOf_eq_empty_iff _).1 relative

theorem parts_joinText (head : b.toList.head? ≠ some '/') :
    (ofString (Path.joinText a b)).parts = (ofString a).parts ++ (ofString b).parts := by
  rw [Path.joinText, if_neg head]
  simp only [parts_ofString]
  split
  · next ends =>
    rw [String.toList_append]
    rcases ends with rfl | ends
    · rfl
    · obtain ⟨front, last⟩ := List.getLast?_eq_some_iff.1 ends
      rw [last, List.append_assoc, List.singleton_append, namesOf_append, namesOf_append]
      simp [show namesOf [] = [] from rfl]
  · rw [String.toList_append, String.toList_append, List.append_assoc]
    exact namesOf_append _ _

/-- One behind another. -/
theorem joinText (first : Downward a) (second : Downward b) : Downward (Path.joinText a b) where
  relative := by
    have head : (Path.joinText a b).toList.head? ≠ some '/' := by
      rw [Path.joinText, if_neg second.head?]
      by_cases empty : a = ""
      · rw [if_pos (.inl empty), empty]
        exact second.head?
      · have more : a.toList ≠ [] := fun none => empty (String.toList_eq_nil_iff.1 none)
        split <;> rw [String.toList_append]
        · rw [List.head?_append, Option.or_of_isSome (List.isSome_head?.2 more)]
          exact first.head?
        · rw [String.toList_append, List.append_assoc, List.head?_append,
            Option.or_of_isSome (List.isSome_head?.2 more)]
          exact first.head?
    simp only [isAbsolute, ofString, bne_eq_false_iff_eq]
    exact (rootOf_eq_empty_iff _).2 head
  inner := by
    rw [parts_joinText second.head?, List.mem_append]
    exact not_or.2 ⟨first.inner, second.inner⟩

end Downward

/-! ### The length of a path -/

/-- A text of names that slashes part is as long as another one whose names are as long. -/
theorem utf8ByteSize_intercalate_congr {names names' : List String}
    (sizes : List.Forall₂ (·.utf8ByteSize = ·.utf8ByteSize) names names') :
    ("/".intercalate names).utf8ByteSize = ("/".intercalate names').utf8ByteSize := by
  induction sizes with
  | nil => rfl
  | cons here rest ih =>
    cases rest with
    | nil => simpa using here
    | cons next rest =>
      rw [String.intercalate_cons_cons, String.intercalate_cons_cons, String.utf8ByteSize_append,
        String.utf8ByteSize_append, ih, String.utf8ByteSize_append, String.utf8ByteSize_append, here]

theorem utf8ByteSize_toString_congr (root : String) (lead ns : List String) {a b : String}
    (size : a.utf8ByteSize = b.utf8ByteSize) :
    (toString ⟨root, lead ++ [a] ++ ns⟩).utf8ByteSize = (toString ⟨root, lead ++ [b] ++ ns⟩).utf8ByteSize := by
  have same (names : List String) : List.Forall₂ (·.utf8ByteSize = ·.utf8ByteSize) names names :=
    List.forall₂_same.2 fun _ _ => rfl
  have sizes : List.Forall₂ (·.utf8ByteSize = ·.utf8ByteSize) (lead ++ [a] ++ ns) (lead ++ [b] ++ ns) :=
    List.rel_append (List.rel_append (same lead) (.cons size .nil)) (same ns)
  rw [toString, toString, if_neg (by simp), if_neg (by simp), String.utf8ByteSize_append, String.utf8ByteSize_append,
    utf8ByteSize_intercalate_congr sizes]

end Regen.Path
