import Regen.Proofs.Files.Walk

/-!
# The same directory in two trees

Two trees may hold the same below two directories (`Copies`). Where a path leads to such a directory in each of
them, it is walked in the same order with the same names (`Corresponds.walkNames`), links among the files
included. A tree without links that is placed at two directories is the same below them
(`corresponds_placed`).
-/

namespace Regen.Files

variable {t u : Files} {base base' L M root : Place} {p q : Path} {endings : Option (List String)}
  {names : List String}

/-- Two trees hold the same below two directories, and a link there leads to a directory in both or in neither. -/
structure Copies (t u : Files) (L M : Place) : Prop where
  same : ∀ ns, t.get? (L ++ ns) = u.get? (M ++ ns)
  links : ∀ ns target, t.get? (L ++ ns) = some (.link target) →
    t.isDirectory [] ⟨"/", L ++ ns⟩ = u.isDirectory [] ⟨"/", M ++ ns⟩

theorem Copies.listed_iff (copies : Copies t u L M) : Listed t L endings names ↔ Listed u M endings names := by
  have counts : ∀ e, t.get? (L ++ names) = some e → t.countsAsFile (L ++ names) e = u.countsAsFile (M ++ names) e := by
    intro e there
    cases e with
    | file => rfl
    | directory => rfl
    | link target => rw [countsAsFile, countsAsFile, copies.links names target there]
  constructor
  · rintro ⟨inner, ⟨e, there, file⟩, ending⟩
    exact ⟨inner, ⟨e, copies.same names ▸ there, counts e there ▸ file⟩, ending⟩
  · rintro ⟨inner, ⟨e, there, file⟩, ending⟩
    rw [← copies.same] at there
    exact ⟨inner, ⟨e, there, (counts e there).trans file⟩, ending⟩

theorem Copies.below (copies : Copies t u L M) (ns : List String) : Copies t u (L ++ ns) (M ++ ns) where
  same rest := by rw [List.append_assoc, List.append_assoc, copies.same]
  links rest target link := by
    rw [List.append_assoc] at link ⊢
    rw [List.append_assoc]
    exact copies.links _ target link

/-- Two paths lead to directories with the same below them, or both to no directory. -/
def Corresponds (t u : Files) (base base' : Place) (p q : Path) : Prop :=
  (∃ L M, t.find? base p = some (L, .directory) ∧ u.find? base' q = some (M, .directory) ∧ Copies t u L M) ∨
    t.isDirectory base p = false ∧ u.isDirectory base' q = false

/-- In trees that hold the same below two directories, without links there, names lead from them to the same. -/
theorem Copies.corresponds {root root' : String} {lead lead' ns : List String} (copies : Copies t u L M)
    (anchor : Anchor t base root lead L) (anchor' : Anchor u base' root' lead' M) (closed : t.Closed)
    (closed' : u.Closed) (clear : Clear t L) (inner : ∀ n ∈ ns, IsInner n)
    (reaches : Reaches root lead ns ↔ Reaches root' lead' ns) :
    Corresponds t u base base' ⟨root, lead ++ ns⟩ ⟨root', lead' ++ ns⟩ := by
  have clear' : Clear u M := by
    rintro _ target ⟨rest, rfl⟩ link
    exact clear _ target (List.prefix_append L rest) ((copies.same rest).trans link)
  have leads : ∀ p, t.find? base ⟨root, lead ++ ns⟩ = some (p, .directory) ↔ _ :=
    fun p => anchor.find?_directory_iff_of_clear closed clear inner
  have leads' : ∀ p, u.find? base' ⟨root', lead' ++ ns⟩ = some (p, .directory) ↔ _ :=
    fun p => anchor'.find?_directory_iff_of_clear closed' clear' inner
  by_cases here : Reaches root lead ns ∧ t.get? (L ++ ns) = some .directory
  · refine .inl ⟨L ++ ns, M ++ ns, (leads _).2 ⟨rfl, here⟩, (leads' _).2 ⟨rfl, reaches.1 here.1, ?_⟩,
      copies.below ns⟩
    rw [← copies.same, here.2]
  · refine .inr ⟨Bool.eq_false_iff.2 fun yes => ?_, Bool.eq_false_iff.2 fun yes => ?_⟩
    · obtain ⟨p, found, directory⟩ := isDirectory_iff.1 yes
      exact here ((leads p).1 (find?_eq_some_iff.2 ⟨found, directory⟩)).2
    · obtain ⟨p, found, directory⟩ := isDirectory_iff.1 yes
      obtain ⟨-, reached, there⟩ := (leads' p).1 (find?_eq_some_iff.2 ⟨found, directory⟩)
      exact here ⟨reaches.2 reached, (copies.same ns).trans there⟩

theorem Corresponds.walkNames (corresponds : Corresponds t u base base' p q) (keyed : t.Keyed) (keyed' : u.Keyed) :
    t.walkNames base p endings = u.walkNames base' q endings := by
  rcases corresponds with ⟨L, M, found, found', copies⟩ | ⟨none, none'⟩
  · rw [walkNames_eq found, walkNames_eq found']
    refine Sorting.sort_eq_of_mem_iff namesLe_linear (nodup_namesBelow keyed) (nodup_namesBelow keyed') fun names => ?_
    rw [mem_namesBelow keyed, mem_namesBelow keyed', copies.listed_iff]
  · rw [walkNames_of_not_directory none, walkNames_of_not_directory none']

/-! ### A tree in two places -/

/-- The tree below a new directory. -/
def lowered (name : String) (t : Files) : Files :=
  ⟨([name], .directory) :: t.entries.map fun e => (name :: e.1, e.2)⟩

/-- The tree placed at a directory. -/
def placed (t : Files) (L : Place) : Files := L.foldr lowered t

variable {name : String}

theorem get?_lowered (ns : List String) : (t.lowered name).get? (name :: ns) = t.get? ns := by
  cases ns with
  | nil => simp [get?, lowered, Assoc.get?]
  | cons n ns =>
    simp only [get?, lowered, Assoc.get?, List.find?_cons, List.find?_map]
    simp [Function.comp_def]

theorem get?_placed (L : Place) (ns : List String) : (t.placed L).get? (L ++ ns) = t.get? ns := by
  induction L with
  | nil => rfl
  | cons name L ih => exact (get?_lowered (L ++ ns)).trans ih

theorem Sound.lowered (sound : t.Sound) (named : IsName name) : (t.lowered name).Sound where
  distinct := by
    have longer : [name] ∉ (t.entries.map fun e => (name :: e.1, e.2)).map (·.1) := by
      simp only [List.map_map, List.mem_map, Function.comp_apply]
      rintro ⟨e, mem, same⟩
      exact sound.rooted e mem (List.cons.inj same).2
    refine List.nodup_cons.2 ⟨longer, ?_⟩
    rw [List.map_map]
    exact List.pairwise_map.2 ((List.pairwise_map.1 sound.distinct).imp fun other same =>
      other (List.cons.inj same).2)
  unlinked := by
    rintro e mem target
    rcases List.mem_cons.1 mem with rfl | mem
    · exact nofun
    · obtain ⟨e, kept, rfl⟩ := List.mem_map.1 mem
      exact sound.unlinked e kept target
  rooted := by
    rintro e mem
    rcases List.mem_cons.1 mem with rfl | mem
    · exact nofun
    · obtain ⟨e, -, rfl⟩ := List.mem_map.1 mem
      exact nofun
  named := by
    rintro e mem n inside
    rcases List.mem_cons.1 mem with rfl | mem
    · exact List.mem_singleton.1 inside ▸ named
    · obtain ⟨e, kept, rfl⟩ := List.mem_map.1 mem
      rcases List.mem_cons.1 inside with rfl | inside
      · exact named
      · exact sound.named e kept n inside
  closed := by
    rintro e mem
    rcases List.mem_cons.1 mem with rfl | mem
    · rfl
    · obtain ⟨e, kept, rfl⟩ := List.mem_map.1 mem
      rw [List.dropLast_cons_of_ne_nil (sound.rooted e kept), get?_lowered]
      exact sound.closed e kept

theorem Sound.placed (sound : t.Sound) {L : Place} (named : ∀ n ∈ L, IsName n) : (t.placed L).Sound := by
  induction L with
  | nil => exact sound
  | cons name L ih =>
    exact (ih fun n mem => named n (List.mem_cons_of_mem _ mem)).lowered (named name List.mem_cons_self)

/-- A tree without links is the same in all its places. -/
theorem copies_placed (sound : t.Sound) (L M : Place) : Copies (t.placed L) (t.placed M) L M where
  same ns := by rw [get?_placed, get?_placed]
  links ns target link := by
    rw [get?_placed] at link
    exact absurd link (sound.not_link ns target)

/-- The absolute path of a place leads there, unless it is too long. -/
theorem anchor_placed (sound : t.Sound) (named : ∀ n ∈ L, IsName n) (reaches : Reaches "/" [] L) :
    Anchor (t.placed L) base "/" L L := by
  have top : Anchor (t.placed L) base "/" [] [] := ⟨rfl, rfl⟩
  have here : (t.placed L).get? L = some .directory := by
    have := get?_placed (t := t) L []
    rwa [List.append_nil] at this
  refine ⟨?_, here⟩
  rcases reaches with rfl | fits
  · exact top.found
  by_cases inner : L = []
  · subst inner
    exact top.found
  · exact (top.locate_there (sound.placed named).isClosed (fun n mem => (named n mem).inner) inner here
      Entry.directory_ne_link).trans (if_pos fits)

/-- Names lead from the two places of a tree to the same. -/
theorem corresponds_placed (sound : t.Sound) (named : ∀ n ∈ L, IsName n) (named' : ∀ n ∈ M, IsName n)
    (reaches : Reaches "/" [] L) (reaches' : Reaches "/" [] M) {ns : List String} (inner : ∀ n ∈ ns, IsInner n)
    (onward : Reaches "/" L ns ↔ Reaches "/" M ns) :
    Corresponds (t.placed L) (t.placed M) base base' ⟨"/", L ++ ns⟩ ⟨"/", M ++ ns⟩ :=
  (copies_placed sound L M).corresponds (anchor_placed sound named reaches) (anchor_placed sound named' reaches')
    (sound.placed named).isClosed (sound.placed named').isClosed ((sound.placed named).clear L) inner onward

end Regen.Files
