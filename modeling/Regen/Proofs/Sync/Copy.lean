import Regen.Proofs.Files.Walk
import Regen.Proofs.Session
import Regen.Sync.Reconcile

/-!
# Copying one staged file

Copying a staged file makes the directories around its target and then writes the target
(`runOn_copyFile_cases`). A target that matches its source is left as it is when it is copied again
(`runOn_copyFile_of_matched`).
-/

namespace Regen

namespace Files

variable {t u : Files} {base p : Place}

theorem hasNul_of_find? (sound : t.Sound) {q : Path} (found : t.find? base q = some (p, .directory)) :
    q.hasNul = false := by
  obtain ⟨located, directory⟩ := find?_eq_some_iff.1 found
  unfold locate at located
  split at located
  · cases located
  · simpa [Path.hasNul] using walkThrough_plain sound directory located

/-- A target that holds what its source holds: the paths lead to files with the same bytes, and the
directory around the target is there. -/
structure Matched (t : Files) (base : Place) (source target : Path) (s d : Place) (content : Bytes) :
    Prop where
  plainSource : source.hasNul = false
  plainTarget : target.hasNul = false
  reads : t.locate base true source = .ok s ∧ ∃ x, t.get? s = some (.file content x)
  holds : t.locate base true target = .ok d ∧ ∃ x, t.get? d = some (.file content x)
  parent : t.isDirectory base target.parent = true

theorem isDirectory_kept (ways : Ways t u) {q : Path} (there : t.isDirectory base q = true) :
    u.isDirectory base q = true := by
  obtain ⟨p, found, directory⟩ := isDirectory_iff.1 there
  have stays := ways.directory p directory
  exact isDirectory_iff.2 ⟨p, locate_kept ways (by simp [stays]) id found, stays⟩

/-- Targets go on matching while nothing is changed that they need. -/
theorem Matched.mono {source target : Path} {s d : Place} {content : Bytes}
    (matched : Matched t base source target s d content) (sound : t.Sound) (sound' : u.Sound)
    (stay : ∀ q, t.get? q = some .directory → u.get? q = some .directory)
    (kept : ∀ q, q = s ∨ q = d → ∀ e, t.get? q = some e → u.get? q = some e) :
    Matched u base source target s d content := by
  obtain ⟨plainSource, plainTarget, ⟨foundSource, x, old⟩, ⟨foundTarget, y, new⟩, parent⟩ := matched
  exact ⟨plainSource, plainTarget, ⟨locate_mono sound sound' stay foundSource, x, kept s (.inl rfl) _ old⟩,
    ⟨locate_mono sound sound' stay foundTarget, y, kept d (.inr rfl) _ new⟩,
    isDirectory_kept ⟨stay, fun q target link => absurd link (sound.not_link q target)⟩ parent⟩

end Files

theorem Path.hasNul_parent {p : Path} (plain : p.hasNul = false) : p.parent.hasNul = false := by
  simp only [hasNul, List.any_eq_false] at plain ⊢
  exact fun name mem => plain name (List.dropLast_subset _ mem)

namespace Session

open Files

variable {host : Host} {w : World} {source target : Path} {s d : Place} {content : Bytes}

theorem runOn_readFile (plain : source.hasNul = false) (read : w.files.read host.cwd source = .ok content) :
    (readFile source).runOn host w = (.ok content, w) := by
  rw [readFile, runOn_bind_of_ok (runOn_demand_of_plain plain), runOn_inspect, read]

/-- A matching target is copied without a change. -/
theorem runOn_copyFile_of_matched (matched : Matched w.files host.cwd source target s d content) :
    (copyFile source target).runOn host w = (.ok (), w) := by
  obtain ⟨x, old⟩ := matched.reads.2
  obtain ⟨y, new⟩ := matched.holds.2
  have read := runOn_readFile matched.plainSource (read_of_there matched.reads.1 old)
  have made : (makeDirectories target.parent).runOn host w = (.ok (), w) := by
    rw [runOn_makeDirectories (Path.hasNul_parent matched.plainTarget),
      makeDirectories_of_isDirectory matched.parent]
    rfl
  rw [copyFile, runOn_bind_of_ok read, writeFile, runOn_bind_of_ok made,
    runOn_bind_of_ok (runOn_demand_of_plain matched.plainTarget), runOn_alter,
    write_of_there matched.holds.1 new]

end Session

namespace Files

/-- The tree `v` is the tree `t` with a target written: directories on the way to it came first. -/
structure Wrote (t v : Files) (goal : Place) (content : Bytes) : Prop where
  steps : ∃ u x, Paved goal.dropLast t u ∧ u.get? goal.dropLast = some .directory ∧
    (∀ e, u.get? goal = some e → ∃ old y, e = .file old y) ∧ v = u.put goal (.file content x)
  inner : goal ≠ []

namespace Wrote

variable {v : Files} {goal : Place} {content : Bytes}

theorem holds (wrote : Wrote t v goal content) : ∃ x, v.get? goal = some (.file content x) := by
  obtain ⟨u, x, -, -, -, rfl⟩ := wrote.steps
  exact ⟨x, by rw [get?_put wrote.inner, if_pos rfl]⟩

theorem kept (wrote : Wrote t v goal content) {q : Place} (other : q ≠ goal) {e : Entry}
    (there : t.get? q = some e) : v.get? q = some e := by
  obtain ⟨u, x, paved, -, -, rfl⟩ := wrote.steps
  rw [get?_put wrote.inner, if_neg other, paved.kept there]

theorem ways (wrote : Wrote t v goal content) : Ways t v := by
  obtain ⟨u, x, paved, -, leaf, rfl⟩ := wrote.steps
  exact paved.ways.trans (ways_put_file leaf)

theorem made (wrote : Wrote t v goal content) {q : Place} {e : Entry} (fresh : t.get? q = none)
    (there : v.get? q = some e) : q = goal ∨ e = .directory ∧ q <+: goal.dropLast := by
  obtain ⟨u, x, paved, -, -, rfl⟩ := wrote.steps
  rw [get?_put wrote.inner] at there
  split at there
  · next here => exact .inl here
  · exact .inr (paved.made fresh there)

theorem sound (wrote : Wrote t v goal content) (sound : t.Sound) (names : ∀ n ∈ goal, IsName n) :
    v.Sound := by
  obtain ⟨u, x, paved, parent, leaf, rfl⟩ := wrote.steps
  have above : ∀ n ∈ goal.dropLast, IsName n := fun n hn => names n (List.dropLast_subset goal hn)
  refine (paved.sound above sound).put wrote.inner names parent (fun directory => ?_) Entry.file_ne_link
  obtain ⟨old, y, file⟩ := leaf _ directory
  cases file

/-- A walk elsewhere finds what it found. -/
theorem namesBelow (wrote : Wrote t v goal content) (sound : t.Sound) (names : ∀ n ∈ goal, IsName n)
    {root : Place} (apart : ¬ root <+: goal) (endings : Option (List String)) :
    v.namesBelow root endings = t.namesBelow root endings := by
  have sound' := wrote.sound sound names
  obtain ⟨u, x, paved, -, -, rfl⟩ := wrote.steps
  have above : ∀ n ∈ goal.dropLast, IsName n := fun n hn => names n (List.dropLast_subset goal hn)
  rw [namesBelow_put (paved.sound above sound) sound' apart]
  exact paved.namesBelow sound above fun below => apart (below.trans (List.dropLast_prefix goal))

end Wrote

section Written

variable {v : Files} {root : String} {lead ns : List String} {L : Place} {content : Bytes}

/-- A target is written into the tree that has the directories on the way to it. -/
theorem wrote_of_write (anchor : Anchor t base root lead L) (clear : Clear t L) (inner : ∀ n ∈ ns, IsInner n)
    (more : ns ≠ []) (paved : Paved (L ++ ns.dropLast) t u)
    (written : u.write base ⟨root, lead ++ ns⟩ content = .ok v) :
    Wrote t v (L ++ ns) content ∧ v.locate base true ⟨root, lead ++ ns⟩ = .ok (L ++ ns) ∧ Ways u v := by
  have above : (L ++ ns).dropLast = L ++ ns.dropLast := List.dropLast_append_of_ne_nil more
  obtain ⟨p, x, found, leaf, rfl⟩ := write_eq_ok written
  obtain ⟨rfl, parent⟩ := (anchor.kept paved.ways).locate (paved.clear clear) inner more found
  have way : Paved (L ++ ns).dropLast t u := above ▸ paved
  have wrote : Wrote t (u.put (L ++ ns) (.file content x)) (L ++ ns) content :=
    ⟨⟨u, x, way, parent, leaf, rfl⟩, by simp [more]⟩
  have ways : Ways u (u.put (L ++ ns) (.file content x)) := ways_put_file leaf
  have file := get?_put (t := u) wrote.inner (.file content x) (L ++ ns)
  rw [if_pos rfl] at file
  exact ⟨wrote, locate_kept ways (by simp [file]) id found, ways⟩

end Written

end Files

namespace Session

open Files

variable {host : Host} {w : World} {source : Path} {s L : Place} {root : String} {lead ns : List String}
  {content : Bytes}

theorem runOn_readFile_cases {x : Bool} (old : w.files.get? s = some (.file content x))
    (leads : ∀ p, w.files.locate host.cwd true source = .ok p → p = s) :
    (∃ e, (readFile source).runOn host w = (.error e, w)) ∨
      source.hasNul = false ∧ w.files.locate host.cwd true source = .ok s ∧
        (readFile source).runOn host w = (.ok content, w) := by
  cases plain : source.hasNul with
  | true => exact .inl ⟨_, by rw [readFile, runOn_bind_of_error (runOn_demand_of_nul plain)]⟩
  | false =>
    cases found : w.files.locate host.cwd true source with
    | error n =>
      refine .inl ⟨.system ⟨n, source.toString⟩, ?_⟩
      rw [readFile, runOn_bind_of_ok (runOn_demand_of_plain plain), runOn_inspect, Files.read, found]
      rfl
    | ok p =>
      obtain rfl := leads p found
      exact .inr ⟨rfl, rfl, runOn_readFile plain (read_of_there found old)⟩

/-- The names of a path without NUL that lead downwards are those of files. -/
theorem isName_of_plain (inner : ∀ n ∈ ns, IsInner n) (plain : Path.hasNul ⟨root, lead ++ ns⟩ = false) :
    ∀ n ∈ ns, IsName n := by
  have free : ∀ n ∈ ns, '\x00' ∉ n.toList := by
    simp only [Path.hasNul, List.any_append, Bool.or_eq_false_iff] at plain
    simpa using plain.2
  exact fun n mem => (inner n mem).isName (free n mem)

/-- Making a directory behind another one: what was made of the way to it stays when it fails. -/
theorem runOn_makeDirectories_cases (anchor : Anchor w.files host.cwd root lead L)
    (clear : Clear w.files L) (inner : ∀ n ∈ ns, IsInner n) :
    ∃ u, Paved (L ++ ns) w.files u ∧ (w.files.Sound → u.Sound) ∧
      ((∃ e, (makeDirectories ⟨root, lead ++ ns⟩).runOn host w = (.error e, { w with files := u })) ∨
        (makeDirectories ⟨root, lead ++ ns⟩).runOn host w = (.ok (), { w with files := u }) ∧
          u.isDirectory host.cwd ⟨root, lead ++ ns⟩ = true) := by
  cases plain : Path.hasNul ⟨root, lead ++ ns⟩ with
  | true =>
    refine ⟨w.files, .refl _, id, .inl ⟨.outOfRange, ?_⟩⟩
    rw [makeDirectories, runOn_bind_of_error (runOn_demand_of_nul plain)]
  | false =>
    have way := makesWay_makeDirectories anchor clear inner
    have run : (makeDirectories ⟨root, lead ++ ns⟩).runOn host w = _ := runOn_makeDirectories plain
    generalize w.files.makeDirectories host.cwd ⟨root, lead ++ ns⟩ = r at way run
    obtain ⟨u, fault⟩ := r
    have sound : w.files.Sound → u.Sound := fun sound =>
      way.paved.sound (anchor.names sound (isName_of_plain inner plain)) sound
    cases fault with
    | some f => exact ⟨u, way.paved, sound, .inl ⟨.system f, run⟩⟩
    | none => exact ⟨u, way.paved, sound, .inr ⟨run, way.reached rfl⟩⟩

/-- Writing a file behind a directory: it fails, and then only directories on the way to it are new, or it
is written. -/
theorem runOn_writeFile_cases (anchor : Anchor w.files host.cwd root lead L) (clear : Clear w.files L)
    (inner : ∀ n ∈ ns, IsInner n) (more : ns ≠ []) (content : Bytes) :
    (∃ e u, (writeFile ⟨root, lead ++ ns⟩ content).runOn host w = (.error e, { w with files := u }) ∧
      Paved (L ++ ns).dropLast w.files u ∧ (w.files.Sound → u.Sound)) ∨
    ∃ v, (writeFile ⟨root, lead ++ ns⟩ content).runOn host w = (.ok (), { w with files := v }) ∧
      Wrote w.files v (L ++ ns) content ∧ (w.files.Sound → v.Sound) ∧
      Path.hasNul ⟨root, lead ++ ns⟩ = false ∧ v.locate host.cwd true ⟨root, lead ++ ns⟩ = .ok (L ++ ns) ∧
      v.isDirectory host.cwd (Path.parent ⟨root, lead ++ ns⟩) = true := by
  have innerAbove : ∀ n ∈ ns.dropLast, IsInner n := fun n hn => inner n (List.dropLast_subset ns hn)
  rw [writeFile, Path.parent_append more, List.dropLast_append_of_ne_nil more]
  obtain ⟨u, paved, sound, ⟨e, fails⟩ | ⟨made, directory⟩⟩ :=
    runOn_makeDirectories_cases anchor clear innerAbove
  · exact .inl ⟨e, u, by rw [runOn_bind_of_error fails], paved, sound⟩
  rw [runOn_bind_of_ok made]
  cases plain : Path.hasNul ⟨root, lead ++ ns⟩ with
  | true => exact .inl ⟨_, u, by rw [runOn_bind_of_error (runOn_demand_of_nul plain)], paved, sound⟩
  | false =>
    rw [runOn_bind_of_ok (runOn_demand_of_plain plain), runOn_alter]
    cases written : u.write host.cwd ⟨root, lead ++ ns⟩ content with
    | error f => exact .inl ⟨.system f, u, rfl, paved, sound⟩
    | ok v =>
      obtain ⟨wrote, found, ways⟩ := wrote_of_write anchor clear inner more paved written
      have names := isName_of_plain inner plain
      exact .inr ⟨v, rfl, wrote, fun sound => wrote.sound sound (anchor.names sound names), rfl, found,
        isDirectory_kept ways directory⟩

/-- Copying a staged file: it fails, and then only directories on the way to the target are new, or the
target is written and matches. -/
theorem runOn_copyFile_cases (anchor : Anchor w.files host.cwd root lead L) (sound : w.files.Sound)
    (inner : ∀ n ∈ ns, IsInner n) (more : ns ≠ []) {x : Bool}
    (old : w.files.get? s = some (.file content x))
    (leads : ∀ p, w.files.locate host.cwd true source = .ok p → p = s) (other : s ≠ L ++ ns) :
    (∃ e u, (copyFile source ⟨root, lead ++ ns⟩).runOn host w = (.error e, { w with files := u }) ∧
      Paved (L ++ ns).dropLast w.files u) ∨
    ∃ v, (copyFile source ⟨root, lead ++ ns⟩).runOn host w = (.ok (), { w with files := v }) ∧
      Wrote w.files v (L ++ ns) content ∧ v.Sound ∧
      Matched v host.cwd source ⟨root, lead ++ ns⟩ s (L ++ ns) content := by
  rcases runOn_readFile_cases old leads with ⟨e, fails⟩ | ⟨plainSource, foundSource, read⟩
  · exact .inl ⟨e, w.files, by rw [copyFile, runOn_bind_of_error fails], .refl _⟩
  rw [copyFile, runOn_bind_of_ok read]
  rcases runOn_writeFile_cases anchor (sound.clear L) inner more content with
    ⟨e, u, fails, paved, -⟩ | ⟨v, done, wrote, sound', plainTarget, found, directory⟩
  · exact .inl ⟨e, u, fails, paved⟩
  · have sound' := sound' sound
    have foundSource' := locate_mono sound sound' wrote.ways.directory foundSource
    exact .inr ⟨v, done, wrote, sound', plainSource, plainTarget,
      ⟨foundSource', x, wrote.kept other old⟩, ⟨found, wrote.holds⟩, directory⟩

end Session

end Regen
