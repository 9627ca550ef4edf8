import Regen.Proofs.Sync.Compare
import Regen.Proofs.Sync.Copy

/-!
# Staged files over a destination

A pass that applies writes the staged files over the destination, one after the other, and changes nothing
else (`Overlay`). What it has written matches, so a second pass changes nothing and a dry one finds no
difference (`reconcile_apply`).
-/

namespace Regen.Sync

open Files

/-- The path leads to the place `D`, the last names of it perhaps through directories that are missing. -/
def Leads (t : Files) (base : Place) (q : Path) (D : Place) : Prop :=
  ∃ lead tail L, q.parts = lead ++ tail ∧ t.find? base ⟨q.root, lead⟩ = some (L, .directory) ∧
    (∀ n ∈ tail, IsName n) ∧ D = L ++ tail

/-- A tree of files and directories with a staging directory at `S`, whose files belong below `D`. -/
structure Site (t : Files) (base : Place) (destination staging : Path) (D S : Place) : Prop where
  sound : t.Sound
  staged : t.find? base staging = some (S, .directory)
  leads : Leads t base destination D

/-- The tree `u` is the tree `t` with the staged files `done` written over the destination. Directories
are made around the files `touched` only. -/
structure Overlay (t u : Files) (D S : Place) (done touched : List (List String)) : Prop where
  copied : ∀ n ∈ done, ∀ content x, t.get? (S ++ n) = some (.file content x) →
    ∃ y, u.get? (D ++ n) = some (.file content y)
  kept : ∀ p, (∀ n ∈ done, p ≠ D ++ n) → ∀ e, t.get? p = some e → u.get? p = some e
  made : ∀ p, t.get? p = none → ∀ e, u.get? p = some e →
    (∃ n ∈ done, p = D ++ n) ∨ e = .directory ∧ ∃ n ∈ touched, p <+: (D ++ n).dropLast

/-- The line that a pass emits before it writes a file. -/
def mark (names : List String) : Event := .emitted s!"# {nameText names}\n"

namespace Overlay

variable {t u v : Files} {D S : Place} {done : List (List String)} {n : List String}

theorem refl (t : Files) (D S : Place) (touched : List (List String)) : Overlay t t D S [] touched where
  copied := nofun
  kept := fun _ _ _ there => there
  made := by
    intro p fresh e there
    rw [fresh] at there
    cases there

/-- Directories on the way to one more file. -/
theorem paved (overlay : Overlay t u D S done done) (paved : Paved (D ++ n).dropLast u v) :
    Overlay t v D S done (done ++ [n]) where
  copied := by
    intro m mem content x staged
    obtain ⟨y, there⟩ := overlay.copied m mem content x staged
    exact ⟨y, paved.kept there⟩
  kept := fun p other e there => paved.kept (overlay.kept p other e there)
  made := by
    intro p fresh e there
    cases before : u.get? p with
    | none =>
      obtain ⟨rfl, way⟩ := paved.made before there
      exact .inr ⟨rfl, n, by simp, way⟩
    | some e' =>
      rw [paved.kept before] at there
      cases there
      rcases overlay.made p fresh e before with target | ⟨rfl, m, mem, way⟩
      · exact .inl target
      · exact .inr ⟨rfl, m, by simp [mem], way⟩

/-- One more file. -/
theorem wrote (overlay : Overlay t u D S done done) {content : Bytes}
    (wrote : Wrote u v (D ++ n) content) (fresh : n ∉ done)
    (staged : ∃ x, t.get? (S ++ n) = some (.file content x)) :
    Overlay t v D S (done ++ [n]) (done ++ [n]) where
  copied := by
    intro m mem bytes x there
    rcases List.mem_append.1 mem with before | last
    · obtain ⟨y, holds⟩ := overlay.copied m before bytes x there
      refine ⟨y, wrote.kept ?_ holds⟩
      intro same
      exact fresh (List.append_cancel_left same ▸ before)
    · obtain rfl := List.mem_singleton.1 last
      obtain ⟨y, file⟩ := staged
      rw [file] at there
      cases there
      exact wrote.holds
  kept := by
    intro p other e there
    have before := overlay.kept p (fun m mem => other m (by simp [mem])) e there
    exact wrote.kept (other n (by simp)) before
  made := by
    intro p none e there
    cases before : u.get? p with
    | none =>
      rcases wrote.made before there with target | ⟨rfl, way⟩
      · exact .inl ⟨n, by simp, target⟩
      · exact .inr ⟨rfl, n, by simp, way⟩
    | some e' =>
      by_cases target : p = D ++ n
      · exact .inl ⟨n, by simp, target⟩
      rw [wrote.kept target before] at there
      cases there
      rcases overlay.made p none e before with ⟨m, mem, target⟩ | ⟨rfl, m, mem, way⟩
      · exact .inl ⟨m, by simp [mem], target⟩
      · exact .inr ⟨rfl, m, by simp [mem], way⟩

end Overlay

/-! ### A pass that applies -/

/-- How far a pass has come: the files `done` have been written and match, and a walk still finds what it
found before the pass. -/
structure Progress (t u : Files) (base : Place) (destination staging : Path) (D S : Place)
    (endings : Option (List String)) (done : List (List String)) : Prop where
  sound : u.Sound
  overlay : Overlay t u D S done done
  stay : ∀ q, t.get? q = some .directory → u.get? q = some .directory
  listed : u.namesBelow S endings = t.namesBelow S endings
  matched : ∀ n ∈ done, ∃ content,
    Matched u base (sourceOf staging n) (targetOf destination n) (S ++ n) (D ++ n) content

section Apply

variable {t : Files} {host : Host} {destination staging : Path} {D S : Place}
  {endings : Option (List String)} {done : List (List String)} {w : World}

theorem Progress.start (site : Site t host.cwd destination staging D S) :
    Progress t t host.cwd destination staging D S endings [] where
  sound := site.sound
  overlay := .refl t D S []
  stay := fun _ there => there
  listed := rfl
  matched := nofun

/-- One file more is written, or the pass ends at it. -/
theorem Progress.copy (site : Site t host.cwd destination staging D S)
    (progress : Progress t w.files host.cwd destination staging D S endings done) {n : List String}
    (fresh : n ∉ done) (below : FileBelow t S endings n) (apart : ∀ m ∈ done ++ [n], ¬ S <+: D ++ m) :
    (∃ e u, (Session.copyFile (sourceOf staging n) (targetOf destination n)).runOn host w =
        (.error e, { w with files := u }) ∧ Overlay t u D S done (done ++ [n]) ∧
        ∀ q, t.get? q = some .directory → u.get? q = some .directory) ∨
      ∃ v, (Session.copyFile (sourceOf staging n) (targetOf destination n)).runOn host w =
        (.ok (), { w with files := v }) ∧
        Progress t v host.cwd destination staging D S endings (done ++ [n]) := by
  obtain ⟨lead, tail, L, parts, found, tailNames, rfl⟩ := site.leads
  obtain ⟨content, x, staged⟩ := below.file
  have names := site.sound.isName staged
  have namesBelow : ∀ m ∈ n, IsName m := fun m mem => names m (by simp [mem])
  have namesTarget : ∀ m ∈ tail ++ n, IsName m := fun m mem =>
    (List.mem_append.1 mem).elim (tailNames m) (namesBelow m)
  have clear : ∀ m ∈ done ++ [n], ∀ rest, S ++ rest ≠ L ++ tail ++ m := fun m mem rest same =>
    apart m mem ⟨rest, same⟩
  have old : w.files.get? (S ++ n) = some (.file content x) :=
    progress.overlay.kept _ (fun m mem => clear m (by simp [mem]) n) _ staged
  obtain ⟨foundLead, directoryLead⟩ := find?_eq_some_iff.1 found
  obtain ⟨foundStaging, directoryStaging⟩ := find?_eq_some_iff.1 site.staged
  have anchor : Anchor w.files host.cwd destination.root lead L :=
    Anchor.mono ⟨foundLead, directoryLead⟩ site.sound progress.sound progress.stay
  have anchorStaging : Anchor w.files host.cwd staging.root staging.parts S :=
    Anchor.mono ⟨foundStaging, directoryStaging⟩ site.sound progress.sound progress.stay
  have target : targetOf destination n = ⟨destination.root, lead ++ (tail ++ n)⟩ := by
    rw [targetOf, parts, List.append_assoc]
  have other : S ++ n ≠ L ++ (tail ++ n) := by
    rw [← List.append_assoc]
    exact clear n (by simp) n
  have outcome := Session.runOn_copyFile_cases anchor progress.sound
    (fun m mem => (namesTarget m mem).inner) (by simp [below.inner]) old
    (fun p located => (anchorStaging.locate (progress.sound.clear S) (fun m mem => (namesBelow m mem).inner)
      below.inner located).1) other
  rw [target]
  rw [← List.append_assoc L] at outcome
  rcases outcome with ⟨e, u, run, paved⟩ | ⟨v, run, wrote, sound, matched⟩
  · exact .inl ⟨e, u, run, progress.overlay.paved paved, fun q there => paved.kept (progress.stay q there)⟩
  refine .inr ⟨v, run, sound, progress.overlay.wrote wrote fresh ⟨x, staged⟩,
    fun q there => wrote.ways.directory q (progress.stay q there), ?_, ?_⟩
  · have all : ∀ m ∈ L ++ tail ++ n, IsName m := by
      rw [List.append_assoc]
      exact anchor.names progress.sound namesTarget
    rw [wrote.namesBelow progress.sound all (apart n (by simp)), progress.listed]
  · intro m mem
    rcases List.mem_append.1 mem with before | last
    · obtain ⟨bytes, kept⟩ := progress.matched m before
      refine ⟨bytes, kept.mono progress.sound sound wrote.ways.directory ?_⟩
      rintro q (rfl | rfl) e there
      · exact wrote.kept (clear n (by simp) m) there
      · refine wrote.kept (fun same => ?_) there
        exact fresh (List.append_cancel_left same ▸ before)
    · obtain rfl := List.mem_singleton.1 last
      exact ⟨content, target ▸ matched⟩

theorem runOn_reconcileFile_apply {r : Report} (mode : r.mode = .apply) (n : List String) :
    (reconcileFile destination staging r n).runOn host w =
      match (Session.copyFile (sourceOf staging n) (targetOf destination n)).runOn host (w.noted [mark n]) with
      | (.ok (), w') => (.ok { r with applied := r.applied ++ [nameText n] }, w')
      | (.error e, w') => (.error e, w') := by
  have emitted : (Session.emit s!"# {nameText n}\n").runOn host w = (.ok (), w.noted [mark n]) := rfl
  rw [reconcileFile_apply mode, Session.runOn_bind_of_ok emitted, Session.runOn_bind]
  rcases (Session.copyFile (sourceOf staging n) (targetOf destination n)).runOn host (w.noted [mark n])
    with ⟨_ | _, w'⟩ <;> rfl

/-- The files of a walk are written in its order, up to the first that cannot be. -/
theorem runOn_foldlM_apply (site : Site t host.cwd destination staging D S) (todo : List (List String))
    {r : Report} (mode : r.mode = .apply)
    (progress : Progress t w.files host.cwd destination staging D S endings done)
    (distinct : (done ++ todo).Nodup) (below : ∀ n ∈ todo, FileBelow t S endings n)
    (apart : ∀ n ∈ done ++ todo, ¬ S <+: D ++ n) :
    (∃ v, (todo.foldlM (reconcileFile destination staging) r).runOn host w =
        (.ok { r with applied := r.applied ++ todo.map nameText },
          { files := v, journal := w.journal ++ todo.map mark }) ∧
        Progress t v host.cwd destination staging D S endings (done ++ todo)) ∨
      ∃ e w' before n after, todo = before ++ n :: after ∧
        (todo.foldlM (reconcileFile destination staging) r).runOn host w = (.error e, w') ∧
        Overlay t w'.files D S (done ++ before) (done ++ before ++ [n]) ∧
        ∀ q, t.get? q = some .directory → w'.files.get? q = some .directory := by
  induction todo generalizing done w r with
  | nil => exact .inl ⟨w.files, by simp, by simpa using progress⟩
  | cons n todo ih =>
    have whole : done ++ n :: todo = done ++ [n] ++ todo := by simp
    rw [whole] at distinct apart
    have fresh : n ∉ done := fun mem =>
      (List.nodup_append.1 (List.nodup_append.1 distinct).1).2.2 n mem n (by simp) rfl
    have here : (reconcileFile destination staging r n).runOn host w = _ := runOn_reconcileFile_apply mode n
    rw [List.foldlM_cons]
    rcases progress.copy (w := w.noted [mark n]) site fresh (below n (by simp))
      (fun m mem => apart m (by simp at mem ⊢; tauto)) with ⟨e, u, run, overlay, stay⟩ | ⟨v, run, further⟩
    · rw [run] at here
      refine .inr ⟨e, _, [], n, todo, rfl, Session.runOn_bind_of_error here _, ?_, stay⟩
      simpa using overlay
    · rw [run] at here
      rw [Session.runOn_bind_of_ok here]
      have rest := ih (w := { files := v, journal := w.journal ++ [mark n] })
        (r := { r with applied := r.applied ++ [nameText n] }) mode further distinct
        (fun m mem => below m (by simp [mem])) apart
      rcases rest with ⟨v', run', final⟩ | ⟨e, w', before, m, after, rfl, run', overlay, stay⟩
      · refine .inl ⟨v', run'.trans ?_, whole ▸ final⟩
        simp
      · exact .inr ⟨e, w', n :: before, m, after, rfl, run', by simpa using overlay, stay⟩

end Apply

/-! ### Passes over files that match -/

section Matched

variable {host : Host} {w : World} {destination staging : Path} {D S : Place} {names : List (List String)}

/-- All the files match. -/
def AllMatched (t : Files) (base : Place) (destination staging : Path) (D S : Place)
    (names : List (List String)) : Prop :=
  ∀ n ∈ names, ∃ content,
    Matched t base (sourceOf staging n) (targetOf destination n) (S ++ n) (D ++ n) content

theorem runOn_foldlM_apply_of_matched {r : Report} (mode : r.mode = .apply)
    (matched : AllMatched w.files host.cwd destination staging D S names) :
    (names.foldlM (reconcileFile destination staging) r).runOn host w =
      (.ok { r with applied := r.applied ++ names.map nameText }, w.noted (names.map mark)) := by
  induction names generalizing r w with
  | nil => simp
  | cons n names ih =>
    obtain ⟨content, here⟩ := matched n (by simp)
    have copied : (reconcileFile destination staging r n).runOn host w = _ :=
      runOn_reconcileFile_apply mode n
    have unchanged : (Session.copyFile (sourceOf staging n) (targetOf destination n)).runOn host
        (w.noted [mark n]) = (.ok (), w.noted [mark n]) := Session.runOn_copyFile_of_matched here
    rw [unchanged] at copied
    have rest := ih (w := w.noted [mark n]) (r := { r with applied := r.applied ++ [nameText n] }) mode
      fun m mem => matched m (by simp [mem])
    rw [List.foldlM_cons, Session.runOn_bind_of_ok copied, rest]
    simp

theorem reads_of_matched {n : List String} {content : Bytes}
    (matched : Matched w.files host.cwd (sourceOf staging n) (targetOf destination n) (S ++ n) (D ++ n)
      content) :
    Reads w.files host.cwd destination staging n content content := by
  obtain ⟨x, staged⟩ := matched.reads.2
  obtain ⟨y, target⟩ := matched.holds.2
  have old := read_of_there matched.holds.1 target
  exact ⟨matched.plainTarget, by rw [readOrEmpty, old], matched.plainSource,
    read_of_there matched.reads.1 staged⟩

theorem runOn_foldlM_diff_of_matched {r : Report} (mode : r.mode = .diff)
    (matched : AllMatched w.files host.cwd destination staging D S names) :
    (names.foldlM (reconcileFile destination staging) r).runOn host w =
      (.ok { r with unchanged := r.unchanged ++ names.map nameText }, w) := by
  refine runOn_foldlM_diff_of_same mode fun n mem => ?_
  obtain ⟨content, here⟩ := matched n mem
  exact ⟨content, reads_of_matched here⟩

end Matched

/-! ### The whole pass -/

section Whole

variable {host : Host} {w : World} {destination staging : Path} {D S : Place}

theorem runOn_reconcile {mode : Mode} {endings : List String} (plain : staging.hasNul = false) :
    (reconcile destination staging mode endings).runOn host w =
      ((w.files.walkNames host.cwd staging (some endings)).foldlM (reconcileFile destination staging)
        (.empty mode)).runOn host w := by
  have listed : (Session.walkNames staging (some endings)).runOn host w =
      (.ok (w.files.walkNames host.cwd staging (some endings)), w) := by
    rw [Session.walkNames, Session.runOn_bind_of_ok (Session.runOn_demand_of_plain plain), Session.runOn_look]
  rw [reconcile, Session.runOn_bind_of_ok listed]

theorem plain_of_reconcile {mode : Mode} {endings : List String} {r : Report} {w' : World}
    (run : (reconcile destination staging mode endings).runOn host w = (.ok r, w')) : staging.hasNul = false := by
  rw [Bool.eq_false_iff]
  intro nul
  rw [reconcile, Session.walkNames, Session.runOn_bind, Session.runOn_bind,
    Session.runOn_demand_of_nul nul] at run
  cases run

/-- A pass that applies writes all files of the walk, or it fails and those before one of them are written.
There may be no directory to walk. -/
theorem runOn_reconcile_apply_cases {root : String} {lead below : List String} (sound : w.files.Sound)
    (arrives : w.files.find? host.cwd destination = some (D, .directory))
    (anchor : Anchor w.files host.cwd root lead S) (inner : ∀ n ∈ below, IsInner n) {endings : List String}
    {names : List (List String)}
    (listed : w.files.walkNames host.cwd ⟨root, lead ++ below⟩ (some endings) = names)
    (apart : ∀ n ∈ names, ¬ S ++ below <+: D ++ n) :
    (∃ u, (reconcile destination ⟨root, lead ++ below⟩ .apply endings).runOn host w =
        (.ok ⟨.apply, names.map nameText, [], []⟩, ⟨u, w.journal ++ names.map mark⟩) ∧
      Progress w.files u host.cwd destination ⟨root, lead ++ below⟩ D (S ++ below) (some endings) names) ∨
    ∃ e w' done next, (reconcile destination ⟨root, lead ++ below⟩ .apply endings).runOn host w =
        (.error e, w') ∧
      next.length ≤ 1 ∧ done ++ next <+: names ∧
      Overlay w.files w'.files D (S ++ below) done (done ++ next) ∧
      ∀ q, w.files.get? q = some .directory → w'.files.get? q = some .directory := by
  cases plain : Path.hasNul ⟨root, lead ++ below⟩ with
  | true =>
    refine .inr ⟨.outOfRange, w, [], [], ?_, Nat.zero_le 1, List.nil_prefix, .refl _ _ _ _, fun _ => id⟩
    rw [reconcile, Session.walkNames, Session.runOn_bind, Session.runOn_bind,
      Session.runOn_demand_of_nul plain]
  | false =>
  rw [runOn_reconcile plain, listed]
  by_cases found : w.files.find? host.cwd ⟨root, lead ++ below⟩ = some (S ++ below, .directory)
  · have site : Site w.files host.cwd destination ⟨root, lead ++ below⟩ D (S ++ below) :=
      ⟨sound, found, destination.parts, [], D, (List.append_nil _).symm, arrives,
        List.forall_mem_nil _, (List.append_nil _).symm⟩
    have distinct : (w.files.walkNames host.cwd ⟨root, lead ++ below⟩ (some endings)).Nodup :=
      nodup_walkNames sound found
    have files : ∀ n ∈ w.files.walkNames host.cwd ⟨root, lead ++ below⟩ (some endings),
        FileBelow w.files (S ++ below) (some endings) n := fun n => (mem_walkNames_iff sound found).1
    rw [listed] at distinct files
    rcases runOn_foldlM_apply (r := .empty .apply) site names rfl (Progress.start site) distinct files apart with
      ⟨u, run, progress⟩ | ⟨e, w', done, n, rest, rfl, run, overlay, stay⟩
    · exact .inl ⟨u, run, progress⟩
    · exact .inr ⟨e, w', done, [n], run, Nat.le_refl 1, ⟨rest, by simp⟩, overlay, stay⟩
  · have nothing : names = [] := by
      rw [← listed, walkNames]
      split
      · next p directory =>
        obtain ⟨rfl, -⟩ := (anchor.find?_directory_iff sound inner).1 directory
        exact absurd directory found
      · rfl
    subst nothing
    exact .inl ⟨w.files, by simp [Report.empty], sound, .refl _ _ _ _, fun _ => id, rfl, List.forall_mem_nil _⟩

/-- What holds when a pass that applies has come back: the staged files are over the destination, another
pass reports the same and changes no file, and a dry one finds no difference and emits nothing. -/
structure Applied (host : Host) (t u : Files) (destination staging : Path) (D S : Place)
    (endings : List String) (names : List (List String)) : Prop where
  overlay : Overlay t u D S names names
  again : ∀ v : World, v.files = u →
    (reconcile destination staging .apply endings).runOn host v =
      (.ok ⟨.apply, names.map nameText, [], []⟩, v.noted (names.map mark))
  clean : ∀ v : World, v.files = u →
    (reconcile destination staging .diff endings).runOn host v =
      (.ok ⟨.diff, [], [], names.map nameText⟩, v)

theorem applied_of_progress {t u : Files} {endings : List String}
    (site : Site t host.cwd destination staging D S)
    (progress : Progress t u host.cwd destination staging D S (some endings)
      (t.walkNames host.cwd staging (some endings))) :
    Applied host t u destination staging D S endings (t.walkNames host.cwd staging (some endings)) := by
  have plain := hasNul_of_find? site.sound site.staged
  obtain ⟨located, directory⟩ := find?_eq_some_iff.1 site.staged
  have located' := locate_mono site.sound progress.sound progress.stay located
  have found : u.find? host.cwd staging = some (S, .directory) :=
    find?_eq_some_iff.2 ⟨located', progress.stay S directory⟩
  have same : u.walkNames host.cwd staging (some endings) = t.walkNames host.cwd staging (some endings) := by
    rw [walkNames_eq found, walkNames_eq site.staged, progress.listed]
  constructor
  · exact progress.overlay
  · rintro v rfl
    rw [runOn_reconcile plain, same, runOn_foldlM_apply_of_matched rfl progress.matched]
    rfl
  · rintro v rfl
    rw [runOn_reconcile plain, same, runOn_foldlM_diff_of_matched rfl progress.matched]
    rfl

end Whole

/-! ### A repository with three staged files to write, one of them as it is there -/

namespace Sample

def tree : Files :=
  ⟨[(["repo"], .directory), (["repo", "NOTICE"], .file [1] false), (["repo", "a"], .directory),
    (["repo", "a", "a.go"], .file [] false), (["repo", "c.go"], .file [4] false), (["stage"], .directory),
    (["stage", "a"], .directory), (["stage", "a", "a.go"], .file [2] false),
    (["stage", "a", "a.txt"], .file [9] false), (["stage", "b.go"], .file [3] false),
    (["stage", "c.go"], .file [4] false)]⟩

def host : Host := ⟨[], [], "sync", fun _ => none, fun _ t => (.unstarted 0, t), fun _ n => n, fun _ => false⟩

def destination : Path := ⟨"/", ["repo"]⟩

def staging : Path := ⟨"/", ["stage"]⟩

theorem sound : tree.Sound := by decide

theorem site : Site tree host.cwd destination staging ["repo"] ["stage"] where
  sound := sound
  staged := by decide
  leads := ⟨["repo"], [], ["repo"], rfl, by decide, nofun, rfl⟩

end Sample

/-- How a pass that applies ends: with all staged files written, in the order of the walk, or at one that
cannot be written, with those before it written. -/
inductive Applies (host : Host) (w : World) (destination staging : Path) (D S : Place)
    (endings : List String) : Except Failure Report × World → Prop
  | all {w' : World} :
      Applied host w.files w'.files destination staging D S endings
        (w.files.walkNames host.cwd staging (some endings)) →
      Applies host w destination staging D S endings
        (.ok ⟨.apply, (w.files.walkNames host.cwd staging (some endings)).map nameText, [], []⟩, w')
  | upTo {e : Failure} {w' : World} {done rest : List (List String)} {n : List String} :
      w.files.walkNames host.cwd staging (some endings) = done ++ n :: rest →
      Overlay w.files w'.files D S done (done ++ [n]) →
      Applies host w destination staging D S endings (.error e, w')

/-- A pass that applies writes the staged files over the destination and nothing else, as far as it comes.
The staged files are those below the staging directory with one of the endings. -/
theorem reconcile_apply {host : Host} {w : World} {destination staging : Path} {D S : Place}
    (site : Site w.files host.cwd destination staging D S) (endings : List String)
    (apart : ∀ n ∈ w.files.walkNames host.cwd staging (some endings), ¬ S <+: D ++ n) :
    (∀ n, n ∈ w.files.walkNames host.cwd staging (some endings) ↔
      FileBelow w.files S (some endings) n) ∧
    Applies host w destination staging D S endings
      ((reconcile destination staging .apply endings).runOn host w) := by
  have plain := hasNul_of_find? site.sound site.staged
  have listed : ∀ n, n ∈ w.files.walkNames host.cwd staging (some endings) ↔
      FileBelow w.files S (some endings) n := fun n => mem_walkNames_iff site.sound site.staged
  refine ⟨listed, ?_⟩
  rw [runOn_reconcile plain]
  have outcome := runOn_foldlM_apply (r := .empty .apply) site
    (w.files.walkNames host.cwd staging (some endings)) rfl (Progress.start site)
    (nodup_walkNames site.sound site.staged) (fun n mem => (listed n).1 mem) apart
  rcases outcome with ⟨v, run, progress⟩ | ⟨e, w', done, n, rest, cut, run, overlay, -⟩
  · rw [run]
    exact .all (applied_of_progress site progress)
  · rw [run]
    exact .upTo cut overlay

theorem reconcile_apply_sample :
    let w : World := ⟨Sample.tree, []⟩
    let names := w.files.walkNames [] Sample.staging (some [".go"])
    (∀ n, n ∈ names ↔ FileBelow w.files ["stage"] (some [".go"]) n) ∧
    ∃ w', (reconcile Sample.destination Sample.staging .apply [".go"]).runOn Sample.host w =
        (.ok ⟨.apply, ["a/a.go", "b.go", "c.go"], [], []⟩, w') ∧
      Applied Sample.host w.files w'.files Sample.destination Sample.staging ["repo"] ["stage"] [".go"] names := by
  intro w names
  obtain ⟨listed, applies⟩ := @reconcile_apply Sample.host w _ _ _ _ Sample.site [".go"] fun n _ => by simp
  have ran : ((reconcile Sample.destination Sample.staging .apply [".go"]).runOn Sample.host w).1 =
      .ok ⟨.apply, ["a/a.go", "b.go", "c.go"], [], []⟩ := by decide +kernel
  refine ⟨listed, _, Prod.ext ran rfl, ?_⟩
  generalize (reconcile Sample.destination Sample.staging .apply [".go"]).runOn Sample.host w = outcome at ran applies
  cases applies with
  | all applied => exact applied
  | upTo => cases ran

end Regen.Sync
