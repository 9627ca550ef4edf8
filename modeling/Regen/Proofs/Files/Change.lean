import Regen.Proofs.Files.Below

/-!
# Making directories and writing files

Making the directories around a file adds directories on the way to it and changes nothing that is there
(`paved_makeDirectories`); whether it fails or not, what it made stays. Writing a file changes the place
that its path leads to (`write_cases`).
-/

namespace Regen

theorem Path.parent_append {root : String} {lead ns : List String} (more : ns ≠ []) :
    Path.parent ⟨root, lead ++ ns⟩ = ⟨root, lead ++ ns.dropLast⟩ := by
  rw [Path.parent, List.dropLast_append_of_ne_nil more]

namespace Files

variable {t u : Files} {base p L goal : Place}

theorem find?_eq_some_iff {q : Path} {e : Entry} :
    t.find? base q = some (p, e) ↔ t.locate base true q = .ok p ∧ t.get? p = some e := by
  unfold find?
  cases found : t.locate base true q with
  | error n => simp
  | ok at_ =>
    simp only [Option.map_eq_some_iff, Prod.mk.injEq, Except.ok.injEq]
    constructor
    · rintro ⟨_, there, rfl, rfl⟩
      exact ⟨rfl, there⟩
    · rintro ⟨rfl, there⟩
      exact ⟨e, there, rfl, rfl⟩

theorem isDirectory_iff {q : Path} :
    t.isDirectory base q = true ↔ ∃ p, t.locate base true q = .ok p ∧ t.get? p = some .directory := by
  unfold isDirectory
  constructor
  · intro h
    split at h
    · next p found => exact ⟨p, find?_eq_some_iff.1 found⟩
    · cases h
  · rintro ⟨p, found⟩
    rw [find?_eq_some_iff.2 found]

/-- The second tree is the first one with directories made on the way to a place. -/
inductive Paved (goal : Place) : Files → Files → Prop
  | refl (t : Files) : Paved goal t t
  | make {t u : Files} {p : Place} : Paved goal t u → u.get? p = none → p <+: goal →
      u.get? p.dropLast = some .directory → Paved goal t (u.put p .directory)

theorem ne_nil_of_none (none : t.get? p = .none) : p ≠ [] := by
  rintro rfl
  cases none

namespace Paved

theorem mono {goal' : Place} (further : goal <+: goal') (paved : Paved goal t u) : Paved goal' t u := by
  induction paved with
  | refl => exact .refl _
  | make _ none way parent ih => exact .make ih none (way.trans further) parent

theorem trans {v : Files} (first : Paved goal t u) (second : Paved goal u v) : Paved goal t v := by
  induction second with
  | refl => exact first
  | make _ none way parent ih => exact .make ih none way parent

theorem sound (paved : Paved goal t u) (names : ∀ n ∈ goal, IsName n) (sound : t.Sound) : u.Sound := by
  induction paved with
  | refl => exact sound
  | make _ none way parent ih =>
    exact ih.put (ne_nil_of_none none) (fun n hn => names n (way.subset hn)) parent (by simp [none])
      Entry.directory_ne_link

theorem kept (paved : Paved goal t u) {q : Place} {e : Entry} (there : t.get? q = some e) :
    u.get? q = some e := by
  induction paved with
  | refl => exact there
  | make _ none _ _ ih => exact get?_put_of_free none ih _

theorem made (paved : Paved goal t u) {q : Place} {e : Entry} (fresh : t.get? q = none)
    (there : u.get? q = some e) : e = .directory ∧ q <+: goal := by
  induction paved with
  | refl =>
    rw [fresh] at there
    cases there
  | make _ none way _ ih =>
    rw [get?_put (ne_nil_of_none none)] at there
    split at there
    · next here =>
      cases there
      exact ⟨rfl, here ▸ way⟩
    · exact ih there

theorem ways (paved : Paved goal t u) : Ways t u := .of_kept fun _ _ => paved.kept

theorem clear (paved : Paved goal t u) (clear : Clear t L) : Clear u L := by
  intro q target inside link
  cases before : t.get? q with
  | none => cases (paved.made before link).1
  | some e =>
    rw [paved.kept before] at link
    cases link
    exact clear q target inside before

end Paved

theorem makeDirectory_cases (base : Place) (q : Path) :
    (∃ p, t.locate base false q = .ok p ∧ t.get? p = none ∧
      t.makeDirectory base q = .ok (t.put p .directory)) ∨
    (∃ p, t.locate base false q = .ok p ∧
      t.makeDirectory base q = .error ⟨SystemFault.alreadyThere, q.toString⟩) ∨
    ∃ n, t.locate base false q = .error n ∧ t.makeDirectory base q = .error ⟨n, q.toString⟩ := by
  unfold makeDirectory
  cases found : t.locate base false q with
  | error n => exact .inr (.inr ⟨n, rfl, rfl⟩)
  | ok p =>
    cases there : t.get? p with
    | none =>
      refine .inl ⟨p, rfl, there, ?_⟩
      simp only [onPath, bind, Except.bind, there]
      rfl
    | some e =>
      refine .inr (.inl ⟨p, rfl, ?_⟩)
      simp only [onPath, bind, Except.bind, there]
      rfl

/-! ### Behind a path that leads to a directory -/

/-- What is around the files of a directory tree: the path with the names `lead` leads to the directory
`L`, and further names lead on from there. -/
structure Anchor (t : Files) (base : Place) (root : String) (lead : List String) (L : Place) : Prop where
  found : t.locate base true ⟨root, lead⟩ = .ok L
  directory : t.get? L = some .directory

variable {root : String} {lead ns : List String} {follow : Bool}

/-- A path and the names at its end are not too long. -/
def Fits (q : Path) (ns : List String) : Prop :=
  q.toString.utf8ByteSize < pathBytesLimit ∧ ∀ n ∈ ns, n.utf8ByteSize ≤ maxNameBytes

instance (q : Path) (ns : List String) : Decidable (Fits q ns) := inferInstanceAs (Decidable (_ ∧ _))

namespace Anchor

theorem mono (anchor : Anchor t base root lead L) (sound : t.Sound) (sound' : u.Sound)
    (stay : ∀ q, t.get? q = some .directory → u.get? q = some .directory) : Anchor u base root lead L :=
  ⟨locate_mono sound sound' stay anchor.found, stay L anchor.directory⟩

theorem kept (anchor : Anchor t base root lead L) (ways : Ways t u) : Anchor u base root lead L := by
  have directory := ways.directory _ anchor.directory
  exact ⟨locate_kept ways (by simp [directory]) id anchor.found, directory⟩

/-- Further names are followed from the directory. -/
theorem walks (anchor : Anchor t base root lead L) (follow : Bool) (more : ns ≠ []) :
    ∃ left, t.locate base follow ⟨root, lead ++ ns⟩ =
      if pathBytesLimit ≤ (Path.toString ⟨root, lead ++ ns⟩).utf8ByteSize then
        .error SystemFault.nameTooLong
      else t.walkThrough follow left L ns := by
  have found := anchor.found
  unfold Files.locate at found ⊢
  split at found
  · cases found
  · obtain ⟨left, onward⟩ := walkThrough_append more anchor.directory found
    exact ⟨left, congrArg _ onward⟩

/-- Names of files lead from the directory downwards. -/
theorem locate (anchor : Anchor t base root lead L) (clear : Clear t L) (inner : ∀ n ∈ ns, IsInner n)
    (more : ns ≠ []) (found : t.locate base follow ⟨root, lead ++ ns⟩ = .ok p) :
    p = L ++ ns ∧ t.get? p.dropLast = some .directory := by
  obtain ⟨left, walks⟩ := anchor.walks follow more
  rw [walks] at found
  split at found
  · cases found
  · obtain ⟨here, parent⟩ := walkThrough_below clear inner anchor.directory found
    exact ⟨here, parent more⟩

/-- Where something stands the path leads to it, unless the path or a name is too long. -/
theorem locate_there (anchor : Anchor t base root lead L) (closed : t.Closed) (inner : ∀ n ∈ ns, IsInner n)
    (more : ns ≠ []) {e : Entry} (there : t.get? (L ++ ns) = some e) (plain : ∀ target, e ≠ .link target) :
    t.locate base follow ⟨root, lead ++ ns⟩ =
      if Fits ⟨root, lead ++ ns⟩ ns then .ok (L ++ ns) else .error SystemFault.nameTooLong := by
  obtain ⟨left, walks⟩ := anchor.walks follow more
  rw [walks, walkThrough_there closed inner there plain]
  split
  · next long =>
    rw [if_neg]
    rintro ⟨short, -⟩
    omega
  · next short => exact if_congr ⟨fun names => ⟨by omega, names⟩, And.right⟩ rfl rfl

theorem names (anchor : Anchor t base root lead L) (sound : t.Sound) (names : ∀ n ∈ ns, IsName n) :
    ∀ n ∈ L ++ ns, IsName n := by
  intro n mem
  rcases List.mem_append.1 mem with above | below
  · exact sound.isName anchor.directory n above
  · exact names n below

/-- The directory that a path starts from is there already. -/
theorem makeDirectory (anchor : Anchor t base root lead L) :
    t.makeDirectory base ⟨root, lead⟩ =
      .error ⟨SystemFault.alreadyThere, Path.toString ⟨root, lead⟩⟩ := by
  have found := anchor.found
  have stop : ∃ p, t.locate base false ⟨root, lead⟩ = .ok p ∧ t.get? p ≠ none := by
    unfold Files.locate at found ⊢
    split at found
    · cases found
    · next short =>
      rw [if_neg short]
      exact walkThrough_stop (by simp [anchor.directory]) found
  obtain ⟨p, leads, there⟩ := stop
  rcases makeDirectory_cases base ⟨root, lead⟩ with ⟨p', leads', none, -⟩ | ⟨p', -, done⟩ | ⟨n, lost, -⟩
  · rw [leads] at leads'
    cases leads'
    exact absurd none there
  · exact done
  · rw [leads] at lost
    cases lost

end Anchor

theorem prefix_of_dropLast {α : Type} (xs ys : List α) : xs ++ ys.dropLast <+: xs ++ ys :=
  (List.prefix_append_right_inj xs).2 (List.dropLast_prefix ys)

/-- What `makeDirectory` does behind a directory. -/
theorem makeDirectory_paved (anchor : Anchor t base root lead L) (clear : Clear t L)
    (inner : ∀ n ∈ ns, IsInner n) (made : t.makeDirectory base ⟨root, lead ++ ns⟩ = .ok u) :
    Paved (L ++ ns) t u ∧ u.isDirectory base ⟨root, lead ++ ns⟩ = true := by
  have below : ns ≠ [] := by
    rintro rfl
    rw [List.append_nil, anchor.makeDirectory] at made
    cases made
  rcases makeDirectory_cases base ⟨root, lead ++ ns⟩ with ⟨p, found, none, done⟩ | ⟨p, -, done⟩ | ⟨n, -, done⟩
  · rw [done] at made
    cases made
    obtain ⟨rfl, parent⟩ := anchor.locate clear inner below found
    have paved : Paved (L ++ ns) t (t.put (L ++ ns) .directory) :=
      .make (.refl t) none (List.prefix_refl _) parent
    have there : (t.put (L ++ ns) .directory).get? (L ++ ns) = some .directory := by
      rw [get?_put (ne_nil_of_none none), if_pos rfl]
    have leads : (t.put (L ++ ns) .directory).locate base true ⟨root, lead ++ ns⟩ = .ok (L ++ ns) :=
      locate_kept paved.ways (by simp [there]) (fun _ => rfl) found
    exact ⟨paved, isDirectory_iff.2 ⟨L ++ ns, leads, there⟩⟩
  · rw [done] at made
    cases made
  · rw [done] at made
    cases made

/-- A directory that is there already is no fault. -/
theorem isDirectory_of_allowDirectory {q : Path} {f : SystemFault} (none : t.allowDirectory base q f = none) :
    t.isDirectory base q = true := by
  unfold allowDirectory at none
  split at none
  · assumption
  · cases none

/-- What was made, and the fault that kept more from being made. -/
structure MakesWay (t : Files) (base : Place) (goal : Place) (q : Path) (r : Files × Option SystemFault) :
    Prop where
  paved : Paved goal t r.1
  reached : r.2 = none → r.1.isDirectory base q = true

theorem makesWay_of_ok (anchor : Anchor t base root lead L) (clear : Clear t L) (inner : ∀ n ∈ ns, IsInner n)
    (made : t.makeDirectory base ⟨root, lead ++ ns⟩ = .ok u) :
    MakesWay t base (L ++ ns) ⟨root, lead ++ ns⟩ (u, none) := by
  obtain ⟨paved, reached⟩ := makeDirectory_paved anchor clear inner made
  exact ⟨paved, fun _ => reached⟩

theorem makesWay_allowDirectory (goal : Place) (q : Path) (f : SystemFault) :
    MakesWay t base goal q (t, t.allowDirectory base q f) :=
  ⟨.refl t, isDirectory_of_allowDirectory⟩

theorem makesWay_stopped (goal : Place) (q : Path) (f : SystemFault) :
    MakesWay t base goal q (t, some f) :=
  ⟨.refl t, nofun⟩

/-- More that is made after a part of the way. -/
theorem MakesWay.after {v : Files} {goal : Place} {q : Path} {r : Files × Option SystemFault}
    (paved : Paved goal t v) (way : MakesWay v base goal q r) : MakesWay t base goal q r :=
  ⟨paved.trans way.paved, way.reached⟩

theorem makesWay_makeWithin (anchor : Anchor t base root lead L) (clear : Clear t L)
    (inner : ∀ n ∈ ns, IsInner n) (levels : Nat) :
    MakesWay t base (L ++ ns) ⟨root, lead ++ ns⟩ (t.makeWithin base levels ⟨root, lead ++ ns⟩) := by
  induction levels generalizing ns with
  | zero =>
    rw [makeWithin]
    cases made : t.makeDirectory base ⟨root, lead ++ ns⟩ with
    | ok u => exact makesWay_of_ok anchor clear inner made
    | error f =>
      simp only
      split
      · exact makesWay_allowDirectory _ _ f
      · exact makesWay_stopped _ _ f
  | succ levels ih =>
    rw [makeWithin]
    cases made : t.makeDirectory base ⟨root, lead ++ ns⟩ with
    | ok u => exact makesWay_of_ok anchor clear inner made
    | error f =>
      simp only
      split
      · exact makesWay_allowDirectory _ _ f
      next missing =>
      have below : ns ≠ [] := by
        rintro rfl
        rw [List.append_nil, anchor.makeDirectory] at made
        cases made
        exact missing (show SystemFault.alreadyThere ≠ SystemFault.noEntry by decide)
      rw [Path.parent_append below]
      have innerAbove : ∀ n ∈ ns.dropLast, IsInner n := fun n hn => inner n (List.dropLast_subset ns hn)
      have above : MakesWay t base (L ++ ns.dropLast) ⟨root, lead ++ ns.dropLast⟩ _ := ih innerAbove
      generalize t.makeWithin base levels ⟨root, lead ++ ns.dropLast⟩ = r at above ⊢
      obtain ⟨v, fault⟩ := r
      have paved : Paved (L ++ ns) t v := above.paved.mono (prefix_of_dropLast L ns)
      -- The directories around it are there now, or there is a fault that keeps them from being made.
      cases fault with
      | some g => exact .after paved (makesWay_stopped _ _ g)
      | none =>
        have anchor' := anchor.kept paved.ways
        refine .after paved ?_
        simp only
        cases again : v.makeDirectory base ⟨root, lead ++ ns⟩ with
        | ok u => exact makesWay_of_ok anchor' (paved.clear clear) inner again
        | error g =>
          simp only
          split
          · exact makesWay_stopped _ _ g
          · exact makesWay_allowDirectory _ _ g

theorem makesWay_makeDirectories (anchor : Anchor t base root lead L) (clear : Clear t L)
    (inner : ∀ n ∈ ns, IsInner n) :
    MakesWay t base (L ++ ns) ⟨root, lead ++ ns⟩ (t.makeDirectories base ⟨root, lead ++ ns⟩) :=
  makesWay_makeWithin anchor clear inner _

/-- A directory that is there already is left alone. -/
theorem makeDirectories_of_isDirectory {q : Path} (there : t.isDirectory base q = true) :
    t.makeDirectories base q = (t, none) := by
  obtain ⟨p, found, directory⟩ := isDirectory_iff.1 there
  have anchor : Anchor t base q.root q.parts p := ⟨found, directory⟩
  have allowed : ∀ f, t.allowDirectory base q f = none := fun f => if_pos there
  have taken : t.makeDirectory base q = _ := anchor.makeDirectory
  rw [makeDirectories, makeWithin, taken]
  simp only [allowed]
  rfl

/-! ### Writing -/

/-- Writing a file changes the place that its path leads to, where a file or nothing stands. -/
theorem write_eq_ok {q : Path} {content : Bytes} (written : t.write base q content = .ok u) :
    ∃ p x, t.locate base true q = .ok p ∧ (∀ e, t.get? p = some e → ∃ old y, e = .file old y) ∧
      u = t.put p (.file content x) := by
  unfold write at written
  cases found : t.locate base true q with
  | error n =>
    rw [found] at written
    cases written
  | ok p =>
    rw [found] at written
    simp only [bind, Except.bind, writeAt] at written
    cases there : t.get? p with
    | none =>
      rw [there] at written
      cases written
      exact ⟨p, false, rfl, by simp [there], rfl⟩
    | some e =>
      rw [there] at written
      cases e with
      | file old x =>
        cases written
        exact ⟨p, x, rfl, fun e here => ⟨old, x, by rw [there] at here; exact (Option.some.inj here).symm⟩, rfl⟩
      | directory => cases written
      | link target => cases written

theorem ne_nil_of_leaf (leaf : ∀ e, t.get? p = some e → ∃ old y, e = .file old y) : p ≠ [] := by
  rintro rfl
  obtain ⟨old, y, file⟩ := leaf .directory rfl
  cases file

/-- Ways stay when a file is written where a file or nothing stands. -/
theorem ways_put_file (leaf : ∀ e, t.get? p = some e → ∃ old y, e = .file old y) {content : Bytes} {x : Bool} :
    Ways t (t.put p (.file content x)) := by
  have other {q : Place} {e : Entry} (here : t.get? q = some e) (plain : ∀ old y, e ≠ .file old y) :
      (t.put p (.file content x)).get? q = some e := by
    rw [get?_put (ne_nil_of_leaf leaf), if_neg, here]
    rintro rfl
    obtain ⟨old, y, file⟩ := leaf e here
    exact plain old y file
  exact ⟨fun q here => other here nofun, fun q target here => other here nofun⟩

theorem ways_of_write {q : Path} {content : Bytes} (written : t.write base q content = .ok u) : Ways t u := by
  obtain ⟨p, x, -, leaf, rfl⟩ := write_eq_ok written
  exact ways_put_file leaf

/-! ### Reading -/

/-- The bytes of the file at a place. -/
def content? (t : Files) (p : Place) : Option Bytes :=
  match t.get? p with
  | some (.file content _) => some content
  | _ => none

theorem content?_of_file {content : Bytes} {x : Bool} (there : t.get? p = some (.file content x)) :
    t.content? p = some content := by
  rw [content?, there]

theorem content?_eq_some_iff {content : Bytes} :
    t.content? p = some content ↔ ∃ x, t.get? p = some (.file content x) := by
  constructor
  · intro file
    unfold content? at file
    split at file
    · next bytes x there =>
      cases file
      exact ⟨x, there⟩
    · cases file
  · rintro ⟨x, there⟩
    exact content?_of_file there

theorem content?_of_get? (same : t.get? p = u.get? p) : t.content? p = u.content? p := by
  rw [content?, content?, same]

theorem read_eq_ok {q : Path} {content : Bytes} (read : t.read base q = .ok content) :
    ∃ p, t.locate base true q = .ok p ∧ t.content? p = some content := by
  unfold Files.read at read
  cases located : t.locate base true q with
  | error k =>
    rw [located] at read
    cases read
  | ok p =>
    rw [located] at read
    simp only [bind, Except.bind, readAt] at read
    cases there : t.get? p with
    | none =>
      rw [there] at read
      cases read
    | some e =>
      rw [there] at read
      cases e with
      | file bytes x =>
        cases read
        exact ⟨p, rfl, content?_of_file there⟩
      | directory => cases read
      | link target => cases read

/-- What is read as empty may be missing. -/
theorem readOrEmpty_eq_ok {q : Path} {content : Bytes} (read : t.readOrEmpty base q = .ok content) :
    (∃ p, t.locate base true q = .ok p ∧ content = (t.content? p).getD []) ∨
      content = [] ∧ t.locate base true q = .error SystemFault.noEntry := by
  unfold Files.readOrEmpty at read
  cases here : t.read base q with
  | ok bytes =>
    rw [here] at read
    cases read
    obtain ⟨p, located, file⟩ := read_eq_ok here
    exact .inl ⟨p, located, by rw [file]; rfl⟩
  | error f =>
    rw [here] at read
    simp only at read
    split at read
    · next missing =>
      cases read
      unfold Files.read at here
      cases located : t.locate base true q with
      | error k =>
        rw [located] at here
        cases here
        exact .inr ⟨rfl, congrArg _ missing⟩
      | ok p =>
        refine .inl ⟨p, rfl, ?_⟩
        unfold content?
        split
        · next bytes x there =>
          rw [located] at here
          simp only [bind, Except.bind, readAt, there] at here
          cases here
        · rfl
    · cases read

theorem read_of_there {q : Path} {content : Bytes} {x : Bool} (found : t.locate base true q = .ok p)
    (there : t.get? p = some (.file content x)) : t.read base q = .ok content := by
  rw [read, found]
  simp only [bind, Except.bind, readAt, there]
  rfl

/-- What was written is read. -/
theorem read_of_write {q : Path} {content : Bytes} (written : t.write base q content = .ok u) :
    u.read base q = .ok content := by
  have ways := ways_of_write written
  obtain ⟨p, x, found, leaf, rfl⟩ := write_eq_ok written
  have there : (t.put p (.file content x)).get? p = some (.file content x) := by
    rw [get?_put (ne_nil_of_leaf leaf), if_pos rfl]
  exact read_of_there (locate_kept ways (by simp [there]) id found) there

/-- Writing what is there changes nothing. -/
theorem write_of_there {q : Path} {content : Bytes} {x : Bool} (found : t.locate base true q = .ok p)
    (there : t.get? p = some (.file content x)) : t.write base q content = .ok t := by
  have inner : p ≠ [] := by
    rintro rfl
    cases there
  rw [write, found]
  simp only [bind, Except.bind, writeAt, there, put_of_get? inner there]
  rfl

end Files
end Regen
