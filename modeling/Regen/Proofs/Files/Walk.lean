import Regen.Proofs.Files.Change
import Regen.Proofs.Sorting

/-!
# What a walk finds

A walk names each file below a directory once (`mem_walkNames_iff`, `nodup_walkNames`), and it names the
same files in the same order as long as only places elsewhere change (`namesBelow_put`). Two trees with the
same files below them are walked alike (`Anchor.walkNames_congr`).
-/

namespace Regen.Files

variable {t u : Files} {base p root : Place} {endings : Option (List String)}

/-- No place has two entries, and the root has none. -/
structure Keyed (t : Files) : Prop where
  distinct : (t.entries.map (·.1)).Nodup
  rooted : ∀ e ∈ t.entries, e.1 ≠ []

theorem Sound.keyed (sound : t.Sound) : t.Keyed := ⟨sound.distinct, sound.rooted⟩

theorem Keyed.get?_of_mem (keyed : t.Keyed) {e : Place × Entry} (mem : e ∈ t.entries) : t.get? e.1 = some e.2 := by
  rw [get?, if_neg (keyed.rooted e mem)]
  exact Assoc.get?_of_mem keyed.distinct mem

/-- The names lead from a directory to what counts as a file there, with one of the endings. -/
structure Listed (t : Files) (root : Place) (endings : Option (List String)) (names : List String) : Prop where
  inner : names ≠ []
  file : ∃ e, t.get? (root ++ names) = some e ∧ t.countsAsFile (root ++ names) e = true
  ending : hasEnding endings (names.getLast?.getD "") = true

theorem mem_namesBelow {names : List String} (keyed : t.Keyed) :
    names ∈ t.namesBelow root endings ↔ Listed t root endings names := by
  have last : ∀ {rest : List String}, rest ≠ [] → (root ++ rest).getLast? = rest.getLast? := fun inner => by
    rw [List.getLast?_append, Option.or_of_isSome (by simpa using inner)]
  simp only [namesBelow, List.mem_filterMap, Option.ite_none_right_eq_some, Option.some.injEq]
  constructor
  · rintro ⟨⟨at_, e⟩, mem, ⟨below, longer, counts, ending⟩, rfl⟩
    obtain ⟨rest, rfl⟩ := List.isPrefixOf_iff_prefix.1 below
    have inner : rest ≠ [] := by
      rintro rfl
      simp at longer
    rw [List.drop_left]
    rw [last inner] at ending
    exact ⟨inner, ⟨e, keyed.get?_of_mem mem, counts⟩, ending⟩
  · rintro ⟨inner, ⟨e, there, counts⟩, ending⟩
    refine ⟨⟨root ++ names, e⟩, mem_of_get? (by simp [inner]) there, ⟨?_, ?_, counts, ?_⟩, List.drop_left⟩
    · exact List.isPrefixOf_iff_prefix.2 (List.prefix_append root names)
    · have := List.length_pos_iff.2 inner
      rw [List.length_append]
      omega
    · rwa [last inner]

theorem nodup_namesBelow (keyed : t.Keyed) : (t.namesBelow root endings).Nodup := by
  refine List.Pairwise.filterMap _ ?_ (List.pairwise_map.1 keyed.distinct)
  rintro ⟨at_, e⟩ ⟨at', e'⟩ other n hn m hm same
  simp only [Option.ite_none_right_eq_some, Option.some.injEq] at hn hm
  obtain ⟨⟨below, -⟩, rfl⟩ := hn
  obtain ⟨⟨below', -⟩, rfl⟩ := hm
  obtain ⟨rest, rfl⟩ := List.isPrefixOf_iff_prefix.1 below
  obtain ⟨rest', rfl⟩ := List.isPrefixOf_iff_prefix.1 below'
  rw [List.drop_left, List.drop_left] at same
  exact other (congrArg (root ++ ·) same)

/-- The names lead from a directory to a file with one of the endings. -/
structure FileBelow (t : Files) (root : Place) (endings : Option (List String)) (names : List String) :
    Prop where
  inner : names ≠ []
  file : ∃ content x, t.get? (root ++ names) = some (.file content x)
  ending : hasEnding endings (names.getLast?.getD "") = true

/-- Without links only files count as files. -/
theorem mem_namesBelow_iff (sound : t.Sound) {names : List String} :
    names ∈ t.namesBelow root endings ↔ FileBelow t root endings names := by
  rw [mem_namesBelow sound.keyed]
  constructor
  · rintro ⟨inner, ⟨e, there, counts⟩, ending⟩
    cases e with
    | file content x => exact ⟨inner, ⟨content, x, there⟩, ending⟩
    | directory => cases counts
    | link target => exact absurd there (sound.not_link _ target)
  · rintro ⟨inner, ⟨content, x, there⟩, ending⟩
    exact ⟨inner, ⟨_, there, rfl⟩, ending⟩

/-- The names of an entry, when it is a file below a directory with one of the endings. -/
def nameBelow? (root : Place) (endings : Option (List String)) (e : Place × Entry) : Option (List String) :=
  match e.2 with
  | .file _ _ =>
    if root <+: e.1 ∧ root.length < e.1.length ∧ hasEnding endings (e.1.getLast?.getD "") = true then
      some (e.1.drop root.length)
    else none
  | _ => none

theorem namesBelow_eq (sound : t.Sound) (root : Place) (endings : Option (List String)) :
    t.namesBelow root endings = t.entries.filterMap (nameBelow? root endings) := by
  refine List.filterMap_congr ?_
  rintro ⟨at_, e⟩ mem
  cases e with
  | file content x => simp [nameBelow?, countsAsFile]
  | directory => simp [nameBelow?, countsAsFile]
  | link target => exact absurd rfl (sound.unlinked _ mem target)

/-- Changes elsewhere are not seen below a directory. -/
theorem namesBelow_put (sound : t.Sound) {e : Entry} (sound' : (t.put p e).Sound) (apart : ¬ root <+: p) :
    (t.put p e).namesBelow root endings = t.namesBelow root endings := by
  have elsewhere : ∀ e : Entry, nameBelow? root endings (p, e) = none := by
    intro e
    cases e <;> simp only [nameBelow?, apart, false_and, if_false]
  rw [namesBelow_eq sound, namesBelow_eq sound', put, Assoc.filterMap_put elsewhere]

theorem Paved.namesBelow {goal : Place} (paved : Paved goal t u) (sound : t.Sound)
    (names : ∀ n ∈ goal, IsName n) (apart : ¬ root <+: goal) :
    u.namesBelow root endings = t.namesBelow root endings := by
  induction paved with
  | refl => rfl
  | make before none way parent ih =>
    have sound' := before.sound names sound
    have sound'' := (Paved.make before none way parent).sound names sound
    rw [namesBelow_put sound' sound'' fun below => apart (below.trans way), ih]

theorem walkNames_eq {q : Path} (found : t.find? base q = some (root, .directory)) :
    t.walkNames base q endings = Sorting.sort namesLe (t.namesBelow root endings) := by
  rw [walkNames, found]

theorem walkNames_of_not_directory {q : Path} (none : t.isDirectory base q = false) :
    t.walkNames base q endings = [] := by
  unfold walkNames
  split
  · next at_ found =>
    rw [isDirectory, found] at none
    cases none
  · rfl

/-- A walk that names something has a directory to walk. -/
theorem find?_of_mem_walkNames {q : Path} {names : List String} (mem : names ∈ t.walkNames base q endings) :
    ∃ root, t.find? base q = some (root, .directory) := by
  unfold walkNames at mem
  split at mem
  · next at_ found => exact ⟨at_, found⟩
  · cases mem

namespace Keyed

variable {q : Path} {names : List String} (keyed : t.Keyed)

include keyed

theorem mem_walkNames (found : t.find? base q = some (root, .directory)) :
    names ∈ t.walkNames base q endings ↔ Listed t root endings names := by
  rw [walkNames_eq found, (Sorting.perm_sort _ _).mem_iff, mem_namesBelow keyed]

theorem listed_of_mem_walkNames (mem : names ∈ t.walkNames base q endings) :
    ∃ root, Listed t root endings names := by
  obtain ⟨root, found⟩ := find?_of_mem_walkNames mem
  exact ⟨root, (keyed.mem_walkNames found).1 mem⟩

theorem nodup_walkNames : (t.walkNames base q endings).Nodup := by
  unfold walkNames
  split
  · exact (Sorting.perm_sort _ _).nodup_iff.2 (nodup_namesBelow keyed)
  · exact List.nodup_nil

end Keyed

theorem mem_walkNames_iff (sound : t.Sound) {q : Path} (found : t.find? base q = some (root, .directory))
    {names : List String} : names ∈ t.walkNames base q endings ↔ FileBelow t root endings names := by
  rw [walkNames_eq found, (Sorting.perm_sort _ _).mem_iff, mem_namesBelow_iff sound]

theorem nodup_walkNames (sound : t.Sound) {q : Path} (_ : t.find? base q = some (root, .directory)) :
    (t.walkNames base q endings).Nodup :=
  sound.keyed.nodup_walkNames

/-! ### Walks behind a path that leads to a directory -/

theorem namesLe_cons (a b : String) (as bs : List String) :
    namesLe (a :: as) (b :: bs) = true ↔ a < b ∨ a = b ∧ namesLe as bs = true := by
  rw [namesLe]
  split
  · next same => simp only [same, String.lt_irrefl, true_and, false_or]
  · next other => simp [other]

theorem namesLe_total (as bs : List String) : namesLe as bs = true ∨ namesLe bs as = true := by
  induction as generalizing bs with
  | nil => exact .inl rfl
  | cons a as ih =>
    cases bs with
    | nil => exact .inr rfl
    | cons b bs =>
      simp only [namesLe_cons]
      by_cases before : a < b
      · exact .inl (.inl before)
      by_cases behind : b < a
      · exact .inr (.inl behind)
      have same := String.le_antisymm (String.not_lt.1 behind) (String.not_lt.1 before)
      exact (ih bs).imp (fun le => .inr ⟨same, le⟩) fun le => .inr ⟨same.symm, le⟩

theorem namesLe_trans (as bs cs : List String) (first : namesLe as bs = true) (second : namesLe bs cs = true) :
    namesLe as cs = true := by
  induction as generalizing bs cs with
  | nil => rfl
  | cons a as ih =>
    cases bs with
    | nil => cases first
    | cons b bs =>
      cases cs with
      | nil => cases second
      | cons c cs =>
        rw [namesLe_cons] at first second ⊢
        rcases first with before | ⟨rfl, le⟩
        · rcases second with before' | ⟨rfl, -⟩
          · exact .inl (String.lt_trans before before')
          · exact .inl before
        · exact second.imp_right fun ⟨same, le'⟩ => ⟨same, ih bs cs le le'⟩

theorem namesLe_antisymm (as bs : List String) (first : namesLe as bs = true) (second : namesLe bs as = true) :
    as = bs := by
  induction as generalizing bs with
  | nil =>
    cases bs with
    | nil => rfl
    | cons b bs => cases second
  | cons a as ih =>
    cases bs with
    | nil => cases first
    | cons b bs =>
      rw [namesLe_cons] at first second
      rcases first with before | ⟨rfl, le⟩
      · rcases second with before' | ⟨rfl, -⟩
        · exact absurd before' (String.lt_asymm before)
        · exact absurd before (String.lt_irrefl b)
      · rcases second with before | ⟨-, le'⟩
        · exact absurd before (String.lt_irrefl a)
        · rw [ih bs le le']

theorem namesLe_linear : Sorting.Linear namesLe := ⟨⟨namesLe_total, namesLe_trans⟩, namesLe_antisymm⟩

theorem pairwise_walkNames (t : Files) (base : Place) (q : Path) (endings : Option (List String)) :
    (t.walkNames base q endings).Pairwise (namesLe · ·) := by
  unfold walkNames
  split
  · exact Sorting.pairwise_sort namesLe_linear.toWeak _
  · exact .nil

/-- Names can be followed behind a path; none lead nowhere. -/
def Reaches (root : String) (lead ns : List String) : Prop := ns = [] ∨ Fits ⟨root, lead ++ ns⟩ ns

namespace Anchor

variable {root : String} {lead ns : List String} {L : Place}

theorem find?_directory_iff_of_clear (anchor : Anchor t base root lead L) (closed : t.Closed) (clear : Clear t L)
    (inner : ∀ n ∈ ns, IsInner n) : t.find? base ⟨root, lead ++ ns⟩ = some (p, .directory) ↔
      p = L ++ ns ∧ Reaches root lead ns ∧ t.get? (L ++ ns) = some .directory := by
  rw [find?_eq_some_iff]
  by_cases more : ns = []
  · subst more
    simp only [List.append_nil, anchor.found, anchor.directory, Reaches, true_or, and_true]
    exact ⟨fun ⟨found, _⟩ => (Except.ok.inj found).symm, by rintro rfl; exact ⟨rfl, anchor.directory⟩⟩
  · constructor
    · rintro ⟨found, directory⟩
      obtain ⟨rfl, -⟩ := anchor.locate clear inner more found
      rw [anchor.locate_there closed inner more directory Entry.directory_ne_link] at found
      split at found
      · next fits => exact ⟨rfl, .inr fits, directory⟩
      · cases found
    · rintro ⟨rfl, reaches, directory⟩
      rw [anchor.locate_there closed inner more directory Entry.directory_ne_link,
        if_pos (reaches.resolve_left more)]
      exact ⟨rfl, directory⟩

theorem find?_directory_iff (anchor : Anchor t base root lead L) (sound : t.Sound)
    (inner : ∀ n ∈ ns, IsInner n) : t.find? base ⟨root, lead ++ ns⟩ = some (p, .directory) ↔
      p = L ++ ns ∧ Reaches root lead ns ∧ t.get? (L ++ ns) = some .directory :=
  anchor.find?_directory_iff_of_clear sound.isClosed (sound.clear L) inner

theorem mem_walkNames_iff (anchor : Anchor t base root lead L) (sound : t.Sound)
    (inner : ∀ n ∈ ns, IsInner n) {names : List String} :
    names ∈ t.walkNames base ⟨root, lead ++ ns⟩ endings ↔
      Reaches root lead ns ∧ FileBelow t (L ++ ns) endings names := by
  by_cases found : t.find? base ⟨root, lead ++ ns⟩ = some (L ++ ns, .directory)
  · rw [Files.mem_walkNames_iff sound found]
    have reaches := ((anchor.find?_directory_iff sound inner).1 found).2.1
    exact ⟨fun below => ⟨reaches, below⟩, And.right⟩
  · have nothing : t.walkNames base ⟨root, lead ++ ns⟩ endings = [] := by
      unfold walkNames
      split
      · next p directory =>
        obtain ⟨rfl, -⟩ := (anchor.find?_directory_iff sound inner).1 directory
        exact absurd directory found
      · rfl
    rw [nothing]
    refine iff_of_false List.not_mem_nil ?_
    rintro ⟨reaches, below⟩
    obtain ⟨content, x, there⟩ := below.file
    have directory := sound.isClosed.directory below.inner there
    exact found ((anchor.find?_directory_iff sound inner).2 ⟨rfl, reaches, directory⟩)

/-- Directories with the same files below them are walked alike. -/
theorem walkNames_congr {lead' : List String} {M : Place} (anchor : Anchor t base root lead L)
    (anchor' : Anchor u base root lead' M) (sound : t.Sound) (sound' : u.Sound) (inner : ∀ n ∈ ns, IsInner n)
    (reaches : Reaches root lead ns ↔ Reaches root lead' ns)
    (same : ∀ names, FileBelow t (L ++ ns) endings names ↔ FileBelow u (M ++ ns) endings names) :
    t.walkNames base ⟨root, lead ++ ns⟩ endings = u.walkNames base ⟨root, lead' ++ ns⟩ endings := by
  have listed : ∀ {v : Files} {around : List String} {at_ : Place}, Anchor v base root around at_ → v.Sound →
      ∃ l, v.walkNames base ⟨root, around ++ ns⟩ endings = Sorting.sort namesLe l ∧ l.Nodup := by
    intro v around at_ anchor sound
    unfold walkNames
    split
    · exact ⟨_, rfl, nodup_namesBelow sound.keyed⟩
    · exact ⟨[], rfl, List.nodup_nil⟩
  obtain ⟨l, sorted, distinct⟩ := listed anchor sound
  obtain ⟨l', sorted', distinct'⟩ := listed anchor' sound'
  rw [sorted, sorted']
  -- The trees may hold the files in different orders, which sorting forgets.
  refine Sorting.sort_eq_of_mem_iff namesLe_linear distinct distinct' fun names => ?_
  rw [← (Sorting.perm_sort namesLe l).mem_iff, ← (Sorting.perm_sort namesLe l').mem_iff, ← sorted, ← sorted',
    anchor.mem_walkNames_iff sound inner, anchor'.mem_walkNames_iff sound' inner, reaches, same]

end Anchor

end Regen.Files
