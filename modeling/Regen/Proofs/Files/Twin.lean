import Regen.Proofs.Alike
import Regen.Proofs.Files.Held
import Regen.Proofs.Path

/-!
# The same work in two directories

In two trees, two paths that differ in one name lead to directories with the same inside. All that is done behind
the paths is then alike: where something is found behind the one it is found behind the other, and where a file is
written behind the one it can be written behind the other, and the directories have the same inside again
(`twin_writeFile`).
-/

namespace Regen

namespace Files

/-! ### Making directories in related trees -/

section Makes

variable {F : SystemFault → SystemFault → Prop} {R : Files → Files → Prop} {P : Path → Path → Prop} {base : Place}

/-- In related trees directories are made alike, and found alike, at the two paths of some pairs; the pairs go on
with those of the directories around, as long as they may be missing. Related faults have one number. -/
structure Makes (base : Place) (F : SystemFault → SystemFault → Prop) (R : Files → Files → Prop)
    (P : Path → Path → Prop) : Prop where
  number : ∀ {f g}, F f g → f.number = g.number
  make : ∀ {t u p q}, R t u → P p q → Both F R (t.makeDirectory base p) (u.makeDirectory base q)
  directory : ∀ {t u p q}, R t u → P p q → t.isDirectory base p = u.isDirectory base q
  parent : ∀ {t u p q f}, R t u → P p q → t.makeDirectory base p = .error f →
    f.number = SystemFault.noEntry → P p.parent q.parent

theorem Makes.allowDirectory (makes : Makes base F R P) {t u : Files} {p q : Path} (related : R t u)
    (among : P p q) {f g : SystemFault} (faults : F f g) :
    Option.Rel F (t.allowDirectory base p f) (u.allowDirectory base q g) := by
  rw [Files.allowDirectory, Files.allowDirectory, makes.directory related among]
  split
  · exact .none
  · exact .some faults

/-- Directories around are then made alike too. -/
theorem Makes.makeWithin (makes : Makes base F R P) (levels : Nat) {t u : Files} {p q : Path} (related : R t u)
    (among : P p q) : Option.Rel F (t.makeWithin base levels p).2 (u.makeWithin base levels q).2 ∧
      R (t.makeWithin base levels p).1 (u.makeWithin base levels q).1 := by
  induction levels generalizing p q with
  | zero =>
    rw [Files.makeWithin, Files.makeWithin]
    have both := makes.make related among
    generalize t.makeDirectory base p = r at both ⊢
    generalize u.makeDirectory base q = r' at both ⊢
    cases both with
    | ok after => exact ⟨.none, after⟩
    | error faults =>
      simp only [makes.number faults]
      split
      · exact ⟨makes.allowDirectory related among faults, related⟩
      · exact ⟨.some faults, related⟩
  | succ levels ih =>
    rw [Files.makeWithin, Files.makeWithin]
    have both := makes.make related among
    have parent := fun f => makes.parent (f := f) related among
    generalize t.makeDirectory base p = r at both parent ⊢
    generalize u.makeDirectory base q = r' at both ⊢
    cases both with
    | ok after => exact ⟨.none, after⟩
    | error faults =>
      simp only [makes.number faults]
      split
      · exact ⟨makes.allowDirectory related among faults, related⟩
      next missing =>
      obtain ⟨same, around⟩ := ih (parent _ rfl ((makes.number faults).trans (not_not.1 missing)))
      generalize t.makeWithin base levels p.parent = s at same around ⊢
      generalize u.makeWithin base levels q.parent = s' at same around ⊢
      obtain ⟨t', fault⟩ := s
      obtain ⟨u', fault'⟩ := s'
      cases same with
      | some faults => exact ⟨.some faults, around⟩
      | none =>
        simp only at around ⊢
        have both := makes.make around among
        generalize t'.makeDirectory base p = r at both ⊢
        generalize u'.makeDirectory base q = r' at both ⊢
        cases both with
        | ok after => exact ⟨.none, after⟩
        | error faults =>
          simp only [makes.number faults]
          split
          · exact ⟨.some faults, around⟩
          · exact ⟨makes.allowDirectory around among faults, around⟩

end Makes

/-- In two trees the paths with the one or the other of two names of one length lead to directories, `S` and `S'`,
with the same inside, without links. -/
structure Twin (base : Place) (root : String) (lead : List String) (name name' : String) (S S' : Place)
    (t u : Files) : Prop where
  anchor : Anchor t base root (lead ++ [name]) S
  anchor' : Anchor u base root (lead ++ [name']) S'
  clear : Clear t S
  agree : AgreeIn S S' t u
  length : name.utf8ByteSize = name'.utf8ByteSize

/-- Faults of one kind, at different paths perhaps. -/
def SameNumber (f g : SystemFault) : Prop := f.number = g.number

namespace Twin

variable {t u : Files} {base S S' p : Place} {root name name' : String} {lead ns : List String} {follow : Bool}
  (twin : Twin base root lead name name' S S' t u) (inner : ∀ n ∈ ns, IsInner n)

include twin inner

theorem locate_moved (more : ns ≠ []) : u.locate base follow ⟨root, lead ++ [name'] ++ ns⟩ =
    (t.locate base follow ⟨root, lead ++ [name] ++ ns⟩).map fun _ => S' ++ ns := by
  obtain ⟨left, walks⟩ := twin.anchor.walks follow more
  obtain ⟨left', walks'⟩ := twin.anchor'.walks follow more
  rw [walks, walks', Path.utf8ByteSize_toString_congr root lead ns twin.length,
    walkThrough_moved twin.clear twin.agree inner]
  split <;> rfl

/-- What is found behind the one path is found behind the other. -/
theorem finds : u.locate base true ⟨root, lead ++ [name'] ++ ns⟩ =
      (t.locate base true ⟨root, lead ++ [name] ++ ns⟩).map (fun _ => S' ++ ns) ∧
    ∀ p, t.locate base true ⟨root, lead ++ [name] ++ ns⟩ = .ok p → p = S ++ ns := by
  by_cases more : ns = []
  · subst more
    simp only [List.append_nil, twin.anchor.found, twin.anchor'.found]
    refine ⟨rfl, ?_⟩
    rintro _ ⟨⟩
    rfl
  · exact ⟨twin.locate_moved inner more, fun p found => (twin.anchor.locate twin.clear inner more found).1⟩

theorem isFile_eq_ok {b : Bool} (here : t.isFile base ⟨root, lead ++ [name] ++ ns⟩ = .ok b) :
    u.isFile base ⟨root, lead ++ [name'] ++ ns⟩ = .ok b := by
  obtain ⟨finds, leads⟩ := twin.finds inner
  unfold isFile at here ⊢
  rw [finds]
  cases found : t.locate base true ⟨root, lead ++ [name] ++ ns⟩ with
  | error n =>
    rw [found] at here
    simp only [Except.map] at here ⊢
    split at here
    · cases here
    · next other => rwa [if_neg other]
  | ok p =>
    rw [found] at here
    obtain rfl := leads p found
    simpa only [Except.map, ← twin.agree ns] using here

theorem read_eq_ok {content : Bytes} (here : t.read base ⟨root, lead ++ [name] ++ ns⟩ = .ok content) :
    u.read base ⟨root, lead ++ [name'] ++ ns⟩ = .ok content := by
  obtain ⟨finds, leads⟩ := twin.finds inner
  unfold Files.read at here ⊢
  rw [finds]
  cases found : t.locate base true ⟨root, lead ++ [name] ++ ns⟩ with
  | error n =>
    rw [found] at here
    cases here
  | ok p =>
    rw [found] at here
    obtain rfl := leads p found
    simp only [bind, Except.bind, Except.map, readAt, ← twin.agree ns] at here ⊢
    cases there : t.get? (S ++ ns) with
    | none =>
      rw [there] at here
      cases here
    | some e =>
      rw [there] at here
      cases e with
      | file old x => exact here
      | directory => cases here
      | link target => cases here

theorem isDirectory_congr :
    t.isDirectory base ⟨root, lead ++ [name] ++ ns⟩ = u.isDirectory base ⟨root, lead ++ [name'] ++ ns⟩ := by
  obtain ⟨finds, leads⟩ := twin.finds inner
  unfold isDirectory find?
  rw [finds]
  cases found : t.locate base true ⟨root, lead ++ [name] ++ ns⟩ with
  | error n => rfl
  | ok p =>
    obtain rfl := leads p found
    simp only [Except.map, ← twin.agree ns]
    cases t.get? (S ++ ns) with
    | none => rfl
    | some e => cases e <;> rfl

omit inner in
/-- The same is put at the same place in both. -/
theorem put {e : Entry} (leaf : ∀ e', t.get? (S ++ ns) = some e' → ∃ old x, e' = .file old x)
    (plain : ∀ target, e ≠ .link target) :
    Twin base root lead name name' S S' (t.put (S ++ ns) e) (u.put (S' ++ ns) e) := by
  have ways : ∀ {v : Files} {p : Place}, (∀ e', v.get? p = some e' → ∃ old x, e' = .file old x) →
      Ways v (v.put p e) := by
    intro v p leaf
    constructor
    · intro q there
      rw [get?_put (ne_nil_of_leaf leaf), if_neg, there]
      rintro rfl
      obtain ⟨old, x, file⟩ := leaf _ there
      cases file
    · intro q target there
      rw [get?_put (ne_nil_of_leaf leaf), if_neg, there]
      rintro rfl
      obtain ⟨old, x, file⟩ := leaf _ there
      cases file
  have leaf' : ∀ e', u.get? (S' ++ ns) = some e' → ∃ old x, e' = .file old x := fun e' there =>
    leaf e' ((twin.agree ns).trans there)
  refine ⟨twin.anchor.kept (ways leaf), twin.anchor'.kept (ways leaf'), ?_, fun ms => ?_, twin.length⟩
  · intro q target inside
    rw [get?_put (ne_nil_of_leaf leaf)]
    split
    · exact fun link => plain target (Option.some.inj link)
    · exact twin.clear q target inside
  · rw [get?_put (ne_nil_of_leaf leaf), get?_put (ne_nil_of_leaf leaf'), twin.agree ms]
    simp only [List.append_cancel_left_eq]

theorem makeDirectory_both : Both SameNumber (Twin base root lead name name' S S')
    (t.makeDirectory base ⟨root, lead ++ [name] ++ ns⟩) (u.makeDirectory base ⟨root, lead ++ [name'] ++ ns⟩) := by
  by_cases more : ns = []
  · subst more
    rw [List.append_nil, List.append_nil, twin.anchor.makeDirectory, twin.anchor'.makeDirectory]
    exact .error rfl
  have moved : u.locate base false ⟨root, lead ++ [name'] ++ ns⟩ = _ := twin.locate_moved inner more
  unfold makeDirectory
  rw [moved]
  cases found : t.locate base false ⟨root, lead ++ [name] ++ ns⟩ with
  | error n => exact .error rfl
  | ok p =>
    obtain ⟨rfl, -⟩ := twin.anchor.locate twin.clear inner more found
    simp only [bind, Except.bind, Except.map, ← twin.agree ns]
    cases there : t.get? (S ++ ns) with
    | some e => exact .error rfl
    | none => exact .ok (twin.put (by simp [there]) Entry.directory_ne_link)

/-- What could be made is the same in both, and so is the fault that ended it. -/
theorem makeWithin_both (levels : Nat) :
    Option.Rel SameNumber (t.makeWithin base levels ⟨root, lead ++ [name] ++ ns⟩).2
        (u.makeWithin base levels ⟨root, lead ++ [name'] ++ ns⟩).2 ∧
      Twin base root lead name name' S S' (t.makeWithin base levels ⟨root, lead ++ [name] ++ ns⟩).1
        (u.makeWithin base levels ⟨root, lead ++ [name'] ++ ns⟩).1 := by
  have behind : Makes base SameNumber (Twin base root lead name name' S S') fun p q =>
      ∃ ns, (∀ n ∈ ns, IsInner n) ∧ p = ⟨root, lead ++ [name] ++ ns⟩ ∧ q = ⟨root, lead ++ [name'] ++ ns⟩ := by
    constructor
    · exact id
    · rintro t u _ _ twin ⟨ns, inner, rfl, rfl⟩
      exact twin.makeDirectory_both inner
    · rintro t u _ _ twin ⟨ns, inner, rfl, rfl⟩
      exact twin.isDirectory_congr inner
    · rintro t u _ _ f twin ⟨ns, inner, rfl, rfl⟩ fails missing
      -- The directories that are there already are not missing, so these are behind them.
      have more : ns ≠ [] := by
        rintro rfl
        rw [List.append_nil, twin.anchor.makeDirectory] at fails
        cases fails
        exact absurd missing (show SystemFault.alreadyThere ≠ SystemFault.noEntry by decide)
      exact ⟨ns.dropLast, fun n mem => inner n (List.dropLast_subset ns mem), Path.parent_append more,
        Path.parent_append more⟩
  exact behind.makeWithin levels twin ⟨ns, inner, rfl, rfl⟩

theorem write_both (content : Bytes) : Both SameNumber (Twin base root lead name name' S S')
    (t.write base ⟨root, lead ++ [name] ++ ns⟩ content) (u.write base ⟨root, lead ++ [name'] ++ ns⟩ content) := by
  obtain ⟨finds, leads⟩ := twin.finds inner
  unfold write
  rw [finds]
  cases found : t.locate base true ⟨root, lead ++ [name] ++ ns⟩ with
  | error n => exact .error rfl
  | ok p =>
    obtain rfl := leads p found
    simp only [bind, Except.bind, Except.map, writeAt, ← twin.agree ns]
    cases here : t.get? (S ++ ns) with
    | none => exact .ok (twin.put (by simp [here]) Entry.file_ne_link)
    | some e =>
      cases e with
      | directory => exact .error rfl
      | link target => exact .error rfl
      | file old x =>
        refine .ok (twin.put (fun e' there => ⟨old, x, ?_⟩) Entry.file_ne_link)
        rw [here] at there
        exact (Option.some.inj there).symm

end Twin

end Files

namespace Session

open Files

variable {host : Host} {w v w' : World} {root name name' : String} {lead : List String} {S S' : Place}
  {ns : List String}

/-- Two worlds in whose files the paths with one name or the other lead to directories with the same inside. -/
def TwinWorlds (host : Host) (root : String) (lead : List String) (name name' : String) (S S' : Place)
    (w v : World) : Prop :=
  Twin host.cwd root lead name name' S S' w.files v.files

variable (plain : '\x00' ∉ name'.toList)

include plain in
theorem hasNul_moved (here : Path.hasNul ⟨root, lead ++ [name] ++ ns⟩ = false) :
    Path.hasNul ⟨root, lead ++ [name'] ++ ns⟩ = false := by
  simp only [Path.hasNul, List.any_append, List.any_cons, List.any_nil, Bool.or_false, Bool.or_eq_false_iff] at here ⊢
  exact ⟨⟨here.1.1, by simpa using plain⟩, here.2⟩

variable (twin : TwinWorlds host root lead name name' S S' w v) (inner : ∀ n ∈ ns, IsInner n)

include plain twin inner

theorem twin_makeDirectories
    (run : (makeDirectories ⟨root, lead ++ [name] ++ ns⟩).runOn host w = (.ok (), w')) :
    ∃ v', (makeDirectories ⟨root, lead ++ [name'] ++ ns⟩).runOn host v = (.ok (), v') ∧
      TwinWorlds host root lead name name' S S' w' v' := by
  cases here : Path.hasNul ⟨root, lead ++ [name] ++ ns⟩ with
  | true =>
    rw [makeDirectories, runOn_bind_of_error (runOn_demand_of_nul here)] at run
    cases run
  | false =>
    rw [runOn_makeDirectories here] at run
    rw [runOn_makeDirectories (hasNul_moved plain here)]
    have count : ∀ last : String, Path.parts ⟨root, lead ++ [last] ++ ns⟩ = lead ++ [last] ++ ns := fun _ => rfl
    have levels : (lead ++ [name'] ++ ns).length = (lead ++ [name] ++ ns).length := by simp
    have both := Twin.makeWithin_both twin inner ((lead ++ [name] ++ ns).length + 1)
    unfold Files.makeDirectories at run ⊢
    rw [count] at run ⊢
    rw [levels]
    generalize w.files.makeWithin host.cwd _ _ = r at run both
    generalize v.files.makeWithin host.cwd _ _ = r' at both ⊢
    obtain ⟨t, fault⟩ := r
    obtain ⟨u, fault'⟩ := r'
    obtain ⟨faults, after⟩ := both
    cases faults with
    | some _ => cases run
    | none =>
      cases run
      exact ⟨_, rfl, after⟩

theorem twin_writeFile (more : ns ≠ []) {content : Bytes}
    (run : (writeFile ⟨root, lead ++ [name] ++ ns⟩ content).runOn host w = (.ok (), w')) :
    ∃ v', (writeFile ⟨root, lead ++ [name'] ++ ns⟩ content).runOn host v = (.ok (), v') ∧
      TwinWorlds host root lead name name' S S' w' v' := by
  have innerAbove : ∀ n ∈ ns.dropLast, IsInner n := fun n hn => inner n (List.dropLast_subset ns hn)
  rw [writeFile, Path.parent_append more] at run ⊢
  obtain ⟨⟨⟩, w₁, made, rest⟩ := runOn_bind_eq_ok_iff.1 run
  obtain ⟨v₁, made', twin₁⟩ := twin_makeDirectories plain twin innerAbove made
  rw [runOn_bind_of_ok made']
  cases here : Path.hasNul ⟨root, lead ++ [name] ++ ns⟩ with
  | true =>
    rw [runOn_bind_of_error (runOn_demand_of_nul here)] at rest
    cases rest
  | false =>
    rw [runOn_bind_of_ok (runOn_demand_of_plain here), runOn_alter] at rest
    rw [runOn_bind_of_ok (runOn_demand_of_plain (hasNul_moved plain here)), runOn_alter]
    have both := Twin.write_both twin₁ inner content
    generalize w₁.files.write host.cwd _ content = r at rest both
    generalize v₁.files.write host.cwd _ content = r' at both ⊢
    cases both with
    | error _ => cases rest
    | ok after =>
      cases rest
      exact ⟨_, rfl, after⟩

theorem twin_readFile {content : Bytes}
    (run : (readFile ⟨root, lead ++ [name] ++ ns⟩).runOn host w = (.ok content, w')) :
    (readFile ⟨root, lead ++ [name'] ++ ns⟩).runOn host v = (.ok content, v) := by
  obtain ⟨here, read, -⟩ := runOn_readFile_eq_ok_iff.1 run
  exact runOn_readFile_eq_ok_iff.2 ⟨hasNul_moved plain here, Twin.read_eq_ok twin inner read, rfl⟩

theorem twin_isFile (clean : '\x00' ∉ name.toList) {b : Bool}
    (run : (isFile ⟨root, lead ++ [name] ++ ns⟩).runOn host w = (.ok b, w')) :
    (isFile ⟨root, lead ++ [name'] ++ ns⟩).runOn host v = (.ok b, v) := by
  unfold isFile at run ⊢
  cases here : Path.hasNul ⟨root, lead ++ [name] ++ ns⟩ with
  | true =>
    have there : Path.hasNul ⟨root, lead ++ [name'] ++ ns⟩ = true := by
      by_contra other
      rw [hasNul_moved clean (Bool.eq_false_iff.2 other)] at here
      cases here
    rw [here, if_pos rfl] at run
    cases run
    rw [there, if_pos rfl]
    rfl
  | false =>
    rw [here, if_neg Bool.false_ne_true, runOn_inspect] at run
    rw [hasNul_moved plain here, if_neg Bool.false_ne_true, runOn_inspect]
    cases found : w.files.isFile host.cwd ⟨root, lead ++ [name] ++ ns⟩ with
    | error f =>
      rw [found] at run
      cases run
    | ok b' =>
      rw [found] at run
      cases run
      rw [Twin.isFile_eq_ok twin inner found]

end Session

end Regen
