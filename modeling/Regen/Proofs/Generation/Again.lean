import Regen.Proofs.Generation.Twins
import Regen.Proofs.Sync.Compare

/-!
# Dry runs after runs that applied

A dry run in the tree that a run left which applied generates the same again, into staging directories of other
names, and finds it all in place (`run_apply_then_diff`). Nothing that the first run wrote is read when generating: it
keeps the description files as they are and adds none (`Completes.descriptions`). Where a staged file is lost in the
staging directory of its own name, or no name for a staging directory is free, it does not
(`run_apply_then_diff_loses`).
-/

namespace Regen

/-- The report of a dry pass that finds all in place that another one wrote. -/
def Sync.Report.settled (r : Report) : Report := ⟨.diff, [], [], r.applied⟩

namespace Generation

open Files Session

/-- What is written over a tree leaves its description files as they are when none of them is written. -/
theorem sameDescriptions_of_laid {t v u : Files} {D L : Place} {names touched : List (List String)}
    (laid : Laid t v u D L names touched)
    (plain : ∀ n ∈ names, n ≠ [] ∧ hasEnding (some descriptionEndings) (n.getLast?.getD "") = false) :
    SameDescriptions t u := by
  intro p ending content x
  have other : ∀ n ∈ names, p ≠ D ++ n := by
    rintro n mem rfl
    obtain ⟨more, plain⟩ := plain n mem
    rw [List.getLast?_append, Option.or_of_isSome (by simpa using more), plain] at ending
    cases ending
  constructor
  · exact laid.kept p other _
  · intro file
    -- What is new is a file that was written, which is none of these, or a directory.
    cases there : t.get? p with
    | some e => rw [← laid.kept p other e there, file]
    | none =>
      rcases laid.made p there _ file with ⟨n, mem, here⟩ | ⟨directory, -⟩
      · exact absurd here (other n mem)
      · cases directory

section Pass

variable {α : Type} {host : Host} {s : Settings} {generate : Path → Session α} {text : String} {D : Place}
  {w v w' : World} {k : Nat} {u : Files} {a : α} {names : List (List String)}

/-- No description file is staged. -/
def Undescribed (host : Host) (s : Settings) (generate : Path → Session α) (w : World) : Prop :=
  ∀ k a v, (stage s generate).runOn host w = (.ok (Staging.pathOf s.repoRoot k, a), v) →
    v.files.walkNames host.cwd (Staging.pathOf s.repoRoot k) (some descriptionEndings) = []

/-- Whether description files are staged shows when a pass is run. -/
theorem undescribed_of_run (none : ∀ r ∈ ((stage s generate).runOn host w).1.toOption,
    ((stage s generate).runOn host w).2.files.walkNames host.cwd r.1 (some descriptionEndings) = []) :
    Undescribed host s generate w := by
  intro k a v run
  rw [run] at none
  exact none (Staging.pathOf s.repoRoot k, a) rfl

theorem Stages.not_described (stages : Stages host s generate D w k u v a) (undescribed : Undescribed host s generate w) :
    ¬ Described (stagedAt D k) v.files := by
  rintro ⟨ns, content, x, there, ending⟩
  have staged : (stage s generate).runOn host w = (.ok (Staging.pathOf s.repoRoot k, a), v) := by
    rw [runOn_stage stages.make, stages.run]
  have more : ns ≠ [] := by
    rintro rfl
    rw [List.append_nil, stages.staged.directory] at there
    cases there
  have listed : ns ∈ v.files.walkNames host.cwd
      ⟨s.repoRoot.root, s.repoRoot.parts ++ [Staging.candidate k] ++ []⟩ (some descriptionEndings) :=
    (stages.staged.mem_walkNames_iff stages.sound (by simp)).2
      ⟨.inl rfl, more, ⟨content, x, by rwa [List.append_nil]⟩, ending⟩
  rw [List.append_nil] at listed
  exact absurd (undescribed k a v staged ▸ listed) List.not_mem_nil

/-- A tree that has all that a pass left, with the files that it wrote as they are. -/
structure Later (host : Host) (s : Settings) (D : Place) (names : List (List String)) (t u : Files) : Prop where
  repository : Repository s host D u
  descriptions : SameDescriptions t u
  kept : ∀ n ∈ names, ∀ e, t.get? (D ++ n) = some e → u.get? (D ++ n) = some e

theorem Later.same {t u : Files} (later : Later host s D names t u) (same : Same u v) (sound : v.files.Sound) :
    Later host s D names t v.files where
  repository := later.repository.mono sound fun q there => by rwa [same q]
  descriptions := later.descriptions.trans fun p _ content x => by rw [same p]
  kept := fun n mem e there => by rw [same, later.kept n mem e there]

theorem Completes.later (completes : Completes host s generate text D w k u v a names w') :
    Later host s D names w'.files w'.files :=
  ⟨completes.repository, fun _ _ _ _ => Iff.rfl, fun _ _ _ => id⟩

theorem Completes.below (completes : Completes host s generate text D w k u v a names w')
    (down : Path.Downward text) {n : List String} (mem : n ∈ names) :
    FileBelow v.files (stagedAt D k ++ (Path.ofString text).parts) (some s.config.syncSuffixes) n := by
  rw [completes.names_eq, stagedNames, join_pathOf s k down] at mem
  exact ((completes.staged.mem_walkNames_iff completes.sound down.isInner).1 mem).2

theorem Completes.descriptions (completes : Completes host s generate text D w k u v a names w')
    (down : Path.Downward text) (clean : ¬ Described (stagedAt D k) v.files) :
    SameDescriptions w.files w'.files := by
  refine sameDescriptions_of_laid completes.laid fun n mem => ?_
  have below := completes.below down mem
  refine ⟨below.inner, Bool.eq_false_iff.2 fun ending => clean ?_⟩
  obtain ⟨content, x, file⟩ := below.file
  refine ⟨(Path.ofString text).parts ++ n, content, x, by rwa [← List.append_assoc], ?_⟩
  rwa [List.getLast?_append, Option.or_of_isSome (by simpa using below.inner)]

/-- What was possible from one staging directory is so from another one. -/
theorem Possible.moved {below n : List String} (possible : Possible s k below n) (k' : Nat) : Possible s k' below n where
  plainTarget := possible.plainTarget
  fitsTarget := possible.fitsTarget
  plainSource := hasNul_moved (Staging.isName_candidate k').nul possible.plainSource
  fitsSource := Staging.fits_behind possible.fitsSource k'

/-- Where a pass could make its staging directory, another one can, when a name is drawn that is free. -/
theorem Stages.make_again (stages : Stages host s generate D w k u v a) (repository : Repository s host D w.files)
    {w₀ : World} (repository₀ : Repository s host D w₀.files) (draws : Staging.Draws host D w₀) :
    ∃ k' u', (Staging.make s.repoRoot).runOn host w₀ =
        (.ok (Staging.pathOf s.repoRoot k'), { w₀ with files := u' }) ∧
      w₀.files.makeDirectory host.cwd (Staging.pathOf s.repoRoot k') = .ok u' := by
  have plain : s.repoRoot.hasNul = false := by
    by_contra nul
    have fails : (Staging.make s.repoRoot).runOn host w = _ := Staging.runOn_make_of_nul (by simpa using nul)
    cases stages.make.symm.trans fails
  have fits := (repository.anchor.makeDirectory_last_eq_ok (Staging.isName_candidate k).inner stages.entered).1
  exact Staging.runOn_make_of_draws plain repository₀.anchor (Staging.fits_pathOf fits) draws

section Again

variable (completes : Completes host s generate text D w k u v a names w')
  (repository : Repository s host D w.files) (descriptions : SameDescriptions w.files w'.files) {w₀ : World}
  (later : Later host s D names w'.files w₀.files) {k' : Nat} {u' : Files}
  (entered : w₀.files.makeDirectory host.cwd (Staging.pathOf s.repoRoot k') = .ok u')

include completes repository descriptions later entered

theorem Completes.sides : Sides host s D k k' u u' := by
  obtain ⟨free, made, opened⟩ :=
    Staging.opened_of_made entered later.repository.sound.isClosed later.repository.anchor
  have root : ∀ {t : Files} {m : Nat}, Repository s host D t → t.get? (stagedAt D m) = none →
      Anchor (t.put (stagedAt D m) .directory) host.cwd s.repoRoot.root s.repoRoot.parts D := fun repository free =>
    repository.anchor.kept (.of_kept fun _ _ there => get?_put_of_free free there _)
  have added : ∀ {t : Files} {m : Nat}, t.get? (stagedAt D m) = none →
      SameDescriptions t (t.put (stagedAt D m) .directory) := by
    intro t m free p ending content x
    rw [get?_put (ne_nil_of_none free)]
    split
    · next here => exact iff_of_false (by simp [here, free]) nofun
    · rfl
  refine ⟨completes.opened, opened, ?_, ?_, ?_⟩
  · rw [completes.made]
    exact root repository completes.free
  · rw [made]
    exact root later.repository free
  · rw [completes.made, made]
    exact (added completes.free).symm.trans (descriptions.trans (later.descriptions.trans (added free)))

theorem Completes.twins : Twins s D k k' u u' w.journal w₀.journal { w with files := u }
    { w₀ with files := u' } := by
  have sides := completes.sides repository descriptions later entered
  obtain ⟨free, made, -⟩ :=
    Staging.opened_of_made entered later.repository.sound.isClosed later.repository.anchor
  have sound : u.Sound := completes.made ▸ repository.sound_put completes.free
  have sound' : u'.Sound := made ▸ later.repository.sound_put free
  refine ⟨sides.opened.held, sides.opened'.held, sound, sound', fun ns => ?_, [], [], ?_⟩
  · by_cases here : ns = []
    · rw [here, List.append_nil, List.append_nil, sides.opened.anchor.directory, sides.opened'.anchor.directory]
    · rw [sides.opened.empty _ (List.prefix_append _ ns) (by simpa using here),
        sides.opened'.empty _ (List.prefix_append _ ns) (by simpa using here)]
  · simp

variable {v₀ : World} (down : Path.Downward text) (twins : Twins s D k k' u u' w.journal w₀.journal v v₀)

include down twins

theorem Completes.stagedNames_again : stagedNames host s text k' v₀ = names := by
  have sides := completes.sides repository descriptions later entered
  rw [completes.names_eq, stagedNames, stagedNames, join_pathOf s k down, join_pathOf s k' down]
  have reaches : ∀ m m', Reaches s.repoRoot.root (s.repoRoot.parts ++ [Staging.candidate m]) (Path.ofString text).parts →
      Reaches s.repoRoot.root (s.repoRoot.parts ++ [Staging.candidate m']) (Path.ofString text).parts :=
    fun m m' => Or.imp_right fun fits => Staging.fits_behind fits m'
  have staged : Anchor v.files host.cwd s.repoRoot.root (s.repoRoot.parts ++ [Staging.candidate k]) (stagedAt D k) :=
    twins.held.anchor sides.opened
  have staged' : Anchor v₀.files host.cwd s.repoRoot.root (s.repoRoot.parts ++ [Staging.candidate k'])
      (stagedAt D k') := twins.held'.anchor sides.opened'
  refine (staged.walkNames_congr staged' twins.sound twins.sound' down.isInner ⟨reaches k k', reaches k' k⟩
    fun n => ?_).symm
  have agree : v.files.get? (stagedAt D k ++ (Path.ofString text).parts ++ n) =
      v₀.files.get? (stagedAt D k' ++ (Path.ofString text).parts ++ n) := by
    simpa only [List.append_assoc] using twins.agree ((Path.ofString text).parts ++ n)
  constructor
  · rintro ⟨more, file, ending⟩
    exact ⟨more, agree ▸ file, ending⟩
  · rintro ⟨more, file, ending⟩
    exact ⟨more, agree.symm ▸ file, ending⟩

/-- What is staged again is what the first pass wrote. -/
theorem Completes.reads_again {n : List String} (mem : n ∈ names) :
    ∃ content, Sync.Reads v₀.files host.cwd s.repoRoot ((Staging.pathOf s.repoRoot k').join text) n
      content content := by
  have sides := completes.sides repository descriptions later entered
  obtain ⟨free, made, -⟩ :=
    Staging.opened_of_made entered later.repository.sound.isClosed later.repository.anchor
  have below := completes.below down mem
  obtain ⟨content, x, file⟩ := below.file
  obtain ⟨y, copied⟩ := completes.laid.copied n mem content x file
  have target := later.kept n mem _ copied
  have inner : ∀ m ∈ (Path.ofString text).parts ++ n, IsInner m := by
    intro m inside
    exact (completes.sound.isName file m (by simpa [or_assoc] using .inr (List.mem_append.1 inside))).inner
  -- The target stands in the tree, so it is not inside the new staging directory.
  have old : v₀.files.get? (D ++ n) = some (.file content y) := by
    rw [twins.held'.outside sides.opened' made (later.repository.sound.isClosed.outside free target), target]
  have new : v₀.files.get? (stagedAt D k' ++ ((Path.ofString text).parts ++ n)) = some (.file content x) := by
    rw [← twins.agree, ← List.append_assoc, file]
  obtain ⟨plainTarget, fitsTarget, plainSource, fitsSource⟩ := (completes.possible n mem).moved k'
  have closed := twins.sound'.isClosed
  have foundTarget : v₀.files.locate host.cwd true ⟨s.repoRoot.root, s.repoRoot.parts ++ n⟩ = _ :=
    (sides.root'.kept (twins.held'.ways sides.opened')).locate_there closed
      (fun m inside => inner m (by simp [inside])) below.inner old Entry.file_ne_link
  have foundSource : v₀.files.locate host.cwd true _ = _ :=
    (twins.held'.anchor sides.opened').locate_there closed inner (by simp [below.inner]) new Entry.file_ne_link
  have source : Sync.sourceOf ((Staging.pathOf s.repoRoot k').join text) n =
      ⟨s.repoRoot.root, s.repoRoot.parts ++ [Staging.candidate k'] ++ ((Path.ofString text).parts ++ n)⟩ := by
    simp [Sync.sourceOf, join_pathOf s k' down]
  rw [if_pos fitsTarget] at foundTarget
  refine ⟨content, plainTarget, ?_, source ▸ plainSource, ?_⟩
  · rw [Files.readOrEmpty, Sync.targetOf, read_of_there foundTarget old]
  · rw [source]
    rw [Staging.pathOf, if_pos fitsSource] at foundSource
    exact read_of_there foundSource new

end Again

/-- One pass does again what another one does, into a staging directory of another name. -/
def DoesAgain (host : Host) (s : Settings) (D : Place) (generate : Path → Session α) : Prop :=
  ∀ {k k' : Nat} {t t' : Files} {j j' : List Event}, Sides host s D k k' t t' →
    Simulates host (Tainted t (stagedAt D k)) (Twins s D k k' t t' j j') (generate (Staging.pathOf s.repoRoot k))
      (generate (Staging.pathOf s.repoRoot k'))

/-- A dry pass in a later tree has the same result, makes the same calls but for the name of the staging directory
and finds all in place. -/
theorem Completes.pass_again (completes : Completes host s generate text D w k u v a names w')
    (repository : Repository s host D w.files) (down : Path.Downward text) (again : DoesAgain host s D generate)
    (clean : ¬ Described (stagedAt D k) v.files) {w₀ : World} (later : Later host s D names w'.files w₀.files)
    (draws : Staging.Draws host D w₀) :
    ∃ es es' w₁, v.journal = w.journal ++ es ∧ (∀ e ∈ es, isEmitted e = false) ∧
      (pass { s with syncMode := .diff } generate text).runOn host w₀ =
        (.ok (a, ⟨.diff, [], [], names.map Sync.nameText⟩), w₁) ∧
      Same w₀.files w₁ ∧ w₁.files.Sound ∧ w₁.journal = w₀.journal ++ es' ∧ List.Forall₂ (Redone s) es es' := by
  have descriptions := completes.descriptions down clean
  obtain ⟨k', u', make, entered⟩ := completes.make_again repository later.repository draws
  obtain ⟨free, made, -⟩ :=
    Staging.opened_of_made entered later.repository.sound.isClosed later.repository.anchor
  have sides := completes.sides repository descriptions later entered
  obtain ⟨v₀, run, after⟩ := (again sides).step (completes.twins repository descriptions later entered)
    completes.run fun tainted => clean tainted.described
  -- The same is staged now in `v₀` as in `v`, and the targets hold it already.
  have whole := runOn_pass_of_generated (s := { s with syncMode := .diff }) text make run
  have plain : ((Staging.pathOf s.repoRoot k').join text).hasNul = false := by
    have plain := completes.plain
    rw [join_pathOf s k down] at plain
    rw [join_pathOf s k' down]
    exact hasNul_moved (Staging.isName_candidate k').nul plain
  have reconciled : (Sync.reconcile s.repoRoot ((Staging.pathOf s.repoRoot k').join text) .diff
      s.config.syncSuffixes).runOn host v₀ = (.ok ⟨.diff, [], [], names.map Sync.nameText⟩, v₀) := by
    have listed := completes.stagedNames_again repository descriptions later entered down after
    rw [stagedNames] at listed
    rw [Sync.runOn_reconcile plain, listed]
    exact Sync.runOn_foldlM_diff_of_same rfl
      fun n mem => completes.reads_again repository descriptions later entered down after mem
  rw [reconciled] at whole
  obtain ⟨es, es', journal, journal', moved, quiet⟩ := after.journal
  have files : (Staging.removed host (Staging.pathOf s.repoRoot k') v₀).files = v₀.files.cut (stagedAt D k') :=
    Staging.removed_files_of_stop (after.held'.stop sides.opened')
  refine ⟨es, es', _, journal, quiet, whole, ?_, ?_, journal', moved⟩
  · intro p
    rw [files]
    exact after.held'.get?_cut sides.opened' free later.repository.sound.isClosed made p
  · rw [files]
    exact after.sound'.cut sides.opened'.inner

end Pass

/-! ### Whole runs -/

/-- What a dry run comes to that finds all in place that another one wrote. -/
def Outcome.settled (o : Outcome) : Outcome :=
  ⟨o.jobs, o.localReport.map (·.settled), o.remote, o.remoteReport.map (·.settled)⟩

theorem Outcome.isClean_settled (o : Outcome) : o.settled.isClean = true := by
  obtain ⟨jobs, _ | r, remote, _ | r'⟩ := o <;> rfl

section Runs

variable {α : Type} {host : Host} {s : Settings} {generate : Path → Session α} {text : String} {D : Place}
  {w v w₁ w' : World} {k : Nat} {u t : Files} {a : α} {names : List (List String)} {wanted : Bool}

/-- A dry pass repeats in the tree `t` what a pass did from `w` to `w'` that applied, but emits nothing. It draws a
name of its own for its staging directory. If the one was not asked for, neither is the other. -/
def Repeats (host : Host) (s : Settings) (D : Place) (dry : Session (α × Sync.Report)) (wanted : Bool) (w w' : World)
    (x : Option (α × Sync.Report)) (t : Files) : Prop :=
  ∀ w₀, Same t w₀ → w₀.files.Sound → (wanted = true → Staging.Draws host D w₀) → ∃ w₁ added again,
    (asked wanted dry).runOn host w₀ = (.ok (x.map fun y => (y.1, y.2.settled)), w₁) ∧
      Same t w₁ ∧ w₁.files.Sound ∧ w'.journal = w.journal ++ added ∧ w₁.journal = w₀.journal ++ again ∧
      List.Forall₂ (Redone s) (added.filter (!isEmitted ·)) again

theorem repeats_none (dry : Session (α × Sync.Report)) (w : World) (t : Files) :
    Repeats host s D dry false w w none t := fun w₀ same sound _ =>
  ⟨w₀, [], [], rfl, same, sound, (List.append_nil _).symm, (List.append_nil _).symm, .nil⟩

theorem Completes.repeats (completes : Completes host s generate text D w k u v a names w')
    (repository : Repository s host D w.files) (down : Path.Downward text) (again : DoesAgain host s D generate)
    (undescribed : Undescribed host s generate w) (later : Later host s D names w'.files t) :
    Repeats host s D (pass { s with syncMode := .diff } generate text) true w w'
      (some (a, ⟨.apply, names.map Sync.nameText, [], []⟩)) t := by
  intro w₀ same sound draws
  obtain ⟨es, es', w₁, journal, quiet, run, same', sound', journal', moved⟩ :=
    completes.pass_again repository down again (completes.not_described undescribed) (later.same same sound) (draws rfl)
  refine ⟨w₁, es ++ names.map Sync.mark, es', runOn_asked_eq_ok_iff.2 (.inr ⟨rfl, _, rfl, run⟩),
    fun p => (same' p).trans (same p), sound', by rw [completes.journal, journal, List.append_assoc], journal', ?_⟩
  have told : (names.map Sync.mark).filter (!isEmitted ·) = [] := by
    simp [List.filter_eq_nil_iff, Sync.mark, isEmitted]
  have kept : es.filter (!isEmitted ·) = es := List.filter_eq_self.2 fun e mem => by simp [quiet e mem]
  rwa [List.filter_append, told, kept, List.append_nil]

/-- A pass that comes back has completed, unless it was not asked for. -/
theorem asked_cases (apply : s.syncMode = .apply) (repository : Repository s host D w.files)
    (generates : Generates host s generate) (down : Path.Downward text)
    (fresh : wanted = true → Fresh host s generate text w) {x : Option (α × Sync.Report)}
    (run : (asked wanted (pass s generate text)).runOn host w = (.ok x, w')) :
    (wanted = false ∧ x = none ∧ w' = w) ∨
      wanted = true ∧ ∃ k u v a names, x = some (a, ⟨.apply, names.map Sync.nameText, [], []⟩) ∧
        Completes host s generate text D w k u v a names w' := by
  rcases runOn_asked_eq_ok_iff.1 run with unwanted | ⟨yes, y, rfl, came⟩
  · exact .inl unwanted
  rcases pass_cases apply repository generates down (fresh yes) with
    ⟨e, v, fails, -⟩ | ⟨k, u, v, a, names, v', run', -, completes⟩
  · cases came.symm.trans fails
  · cases came.symm.trans run'
    exact .inr ⟨yes, k, u, v, a, names, rfl, completes⟩

/-- The files of a first pass stay through a second one that writes others. -/
theorem Completes.later_of_completes {β : Type} {generate' : Path → Session β} {text' : String} {k' : Nat}
    {u' : Files} {v' : World} {b : β} {names' : List (List String)}
    (completes' : Completes host s generate' text' D w₁ k' u' v' b names' w') (down' : Path.Downward text')
    (undescribed' : Undescribed host s generate' w₁) (apart : ∀ n ∈ names, n ∉ names') :
    Later host s D names w₁.files w'.files where
  repository := completes'.repository
  descriptions := completes'.descriptions down' (completes'.not_described undescribed')
  kept := by
    intro n mem e there
    refine completes'.laid.kept _ (fun n' mem' here => ?_) e there
    exact apart n mem (List.append_cancel_left here ▸ mem')

/-- Each pass of a run that applied would be repeated in the tree that the run left. -/
theorem repeats_passes {inside outside : Bool} {x : Option (List JobResult × Sync.Report)}
    {y : Option (RemoteResult × Sync.Report)} (apply : s.syncMode = .apply) (steady : Steady s host)
    (inward : Inward s.config) (modulePath : Path.Downward s.modulePath) (repository : Repository s host D w.files)
    (fresh : inside = true → Fresh host s (generateLocal s (compilerOf s)) "" w)
    (fresh' : outside = true → Fresh host s (generateRemote s (compilerOf s)) s.modulePath w₁)
    (undescribed : inside = true → Undescribed host s (generateLocal s (compilerOf s)) w)
    (undescribed' : outside = true → Undescribed host s (generateRemote s (compilerOf s)) w₁)
    (first : (asked inside (localPass s)).runOn host w = (.ok x, w₁))
    (second : (asked outside (remotePass s)).runOn host w₁ = (.ok y, w'))
    (apart : ∀ jobs r a r', x = some (jobs, r) → y = some (a, r') → ∀ p ∈ r.applied, p ∉ r'.applied) :
    Repeats host s D (localPass { s with syncMode := .diff }) inside w w₁ x w'.files ∧
      Repeats host s D (remotePass { s with syncMode := .diff }) outside w₁ w' y w'.files ∧ w'.files.Sound := by
  have regular := steady.toRegular
  have again : DoesAgain host s D (generateLocal s (compilerOf s)) :=
    fun sides => simulates_generateLocal sides steady inward
  have again' : DoesAgain host s D (generateRemote s (compilerOf s)) :=
    fun sides => simulates_generateRemote sides steady inward
  rw [localPass_eq] at first ⊢
  rw [remotePass_eq] at second ⊢
  have once := asked_cases apply repository (generates_local regular inward.downward) downward_empty fresh first
  have repository₁ : Repository s host D w₁.files := by
    rcases once with ⟨-, -, rfl⟩ | ⟨-, k, u, v, jobs, names, -, completes⟩
    · exact repository
    · exact completes.repository
  have twice := asked_cases apply repository₁ (generates_remote regular inward.downward) modulePath fresh' second
  rcases once with ⟨rfl, rfl, rfl⟩ | ⟨rfl, k, u, v, jobs, names, rfl, completes⟩ <;>
  rcases twice with ⟨rfl, rfl, rfl⟩ | ⟨rfl, k', u', v', r, names', rfl, completes'⟩
  · exact ⟨repeats_none _ _ _, repeats_none _ _ _, repository.sound⟩
  · exact ⟨repeats_none _ _ _,
      completes'.repeats repository modulePath again' (undescribed' rfl) completes'.later, completes'.repository.sound⟩
  · exact ⟨completes.repeats repository downward_empty again (undescribed rfl) completes.later, repeats_none _ _ _,
      completes.repository.sound⟩
  · have apart : ∀ n ∈ names, n ∉ names' := fun n mem mem' =>
      apart jobs _ r _ rfl rfl _ (List.mem_map_of_mem mem) (List.mem_map_of_mem mem')
    have later := completes'.later_of_completes modulePath (undescribed' rfl) apart
    exact ⟨completes.repeats repository downward_empty again (undescribed rfl) later,
      completes'.repeats completes.repository modulePath again' (undescribed' rfl) completes'.later,
      completes'.repository.sound⟩

/-- A dry run in the tree that a run left which applied comes back with the same results, makes the same calls but for
the names of its staging directories, and emits nothing. It finds all that the run wrote unchanged, and nothing
else. -/
theorem run_apply_then_diff {inside outside : Bool} {o : Outcome} (apply : s.syncMode = .apply)
    (steady : Steady s host) (inward : Inward s.config) (modulePath : Path.Downward s.modulePath)
    (repository : Repository s host D w.files)
    (fresh : inside = true → Fresh host s (generateLocal s (compilerOf s)) "" w)
    (fresh' : outside = true → Fresh host s (generateRemote s (compilerOf s)) s.modulePath
      ((asked inside (localPass s)).runOn host w).2)
    (undescribed : inside = true → Undescribed host s (generateLocal s (compilerOf s)) w)
    (undescribed' : outside = true → Undescribed host s (generateRemote s (compilerOf s))
      ((asked inside (localPass s)).runOn host w).2)
    (ran : (run s inside outside).runOn host w = (.ok o, w'))
    (apart : ∀ r ∈ o.localReport, ∀ r' ∈ o.remoteReport, ∀ p ∈ r.applied, p ∉ r'.applied)
    (same : v.files = w'.files) (draws : inside = true → Staging.Draws host D v)
    (draws' : outside = true → Staging.Draws host D
      ((asked inside (localPass { s with syncMode := .diff })).runOn host v).2) :
    ∃ v' added again, (run { s with syncMode := .diff } inside outside).runOn host v = (.ok o.settled, v') ∧
      o.settled.isClean = true ∧ w'.journal = w.journal ++ added ∧ v'.journal = v.journal ++ again ∧
      List.Forall₂ (Redone s) (added.filter (!isEmitted ·)) again ∧ ∀ e ∈ again, isEmitted e = false := by
  rw [run_eq, runOn_bind_eq_ok_iff] at ran
  obtain ⟨x, w₁, first, ran⟩ := ran
  obtain ⟨y, w₂, second, last⟩ := runOn_bind_eq_ok_iff.1 ran
  cases last
  rw [first] at fresh' undescribed'
  obtain ⟨once, twice, sound⟩ := repeats_passes apply steady inward modulePath repository fresh fresh' undescribed
    undescribed' first second (by rintro jobs r a r' rfl rfl; exact apart r rfl r' rfl)
  obtain ⟨v₁, added, again, run₁, same₁, sound₁, journal, journal₁, moved⟩ :=
    once v (fun p => by rw [same]) (same ▸ sound) draws
  rw [run₁] at draws'
  obtain ⟨v₂, added', again', run₂, -, -, journal', journal₂, moved'⟩ := twice v₁ same₁ sound₁ draws'
  have related : List.Forall₂ (Redone s) ((added ++ added').filter (!isEmitted ·)) (again ++ again') := by
    rw [List.filter_append]
    exact List.rel_append moved moved'
  refine ⟨v₂, added ++ added', again ++ again', ?_, Outcome.isClean_settled _, ?_, ?_, related, ?_⟩
  · rw [run_eq, runOn_bind_of_ok run₁, runOn_bind_of_ok run₂]
    cases x <;> cases y <;> rfl
  · rw [journal', journal, List.append_assoc]
  · rw [journal₂, journal₁, List.append_assoc]
  · exact not_isEmitted_of_redone related fun e mem => by simpa using (List.mem_filter.1 mem).2

end Runs

namespace Sample

/-- A call for another directory has the other name in the one argument. -/
theorem Line.renamed {l : Line} {mode : Sync.Mode} {options : String} {k k' : Nat} {call call' : Call}
    (renamed : Renamed (settings mode) options k k' call call') (line : call.argv = l.words (Staging.candidate k)) :
    call'.argv = l.words (Staging.candidate k') := by
  obtain ⟨front, back, argv, argv'⟩ := renamed.argv
  have whole : front ++ outWord options (Staging.candidate k) :: back =
      l.front ++ outWord l.options (Staging.candidate k) :: [l.back] := argv.symm.trans line
  have told : outWord options (Staging.candidate k) ∈ l.words (Staging.candidate k) := by
    rw [Line.words, ← whole]
    simp
  have same : options = l.options := by
    rw [Line.words, List.mem_append, List.mem_cons] at told
    rcases told with inside | here | inside
    · exact absurd (List.mem_append_left _ inside) (l.outWord_notMem _ _)
    · exact (outWord_inj here rfl).1
    · exact absurd (List.mem_append_right _ inside) (l.outWord_notMem _ _)
  subst same
  obtain ⟨rfl, -, rfl⟩ := (List.append_cons_inj_of_notMem
    (fun mem => l.outWord_notMem _ _ (List.mem_append_left _ mem))
    (fun mem => l.outWord_notMem _ _ (List.mem_append_right _ mem))).1 whole.symm
  exact argv'

theorem nameIn_words (l : Line) (k : Nat) : nameIn (l.words (Staging.candidate k)) = Staging.candidate k := by
  have last : (l.words (Staging.candidate k)).dropLast.getLast?.getD "" = outWord l.options (Staging.candidate k) := by
    simp [Line.words, List.dropLast_append_of_ne_nil]
  unfold nameIn
  simp only [last, toList_outWord]
  rw [List.length_append, length_candidate, Nat.add_sub_cancel, List.drop_left, String.ofList_toList]

/-- The calls at which the compiler ends well are those for the job's description file and for the target. -/
theorem line_of_ended {text options : String} {k : Nat} {call : Call} {u : Files} {out err : Bytes}
    (mem : outWord options (Staging.candidate k) ∈ call.argv)
    (ended : ((hostWriting text).run call u).1 = .ended 0 out err) :
    call.argv = localLine.words (Staging.candidate k) ∨ call.argv = remoteLine.words (Staging.candidate k) := by
  by_cases inside : call.argv = localLine.words (nameIn call.argv)
  · rw [(Line.name_of_mem inside mem).2] at inside
    exact .inl inside
  by_cases outside : call.argv = remoteLine.words (nameIn call.argv)
  · rw [(Line.name_of_mem outside mem).2] at outside
    exact .inr outside
  by_cases formats : call.argv = ["gofmt"]
  · rw [formats, List.mem_singleton] at mem
    have letters := congrArg String.toList mem
    rw [toList_outWord] at letters
    simp at letters
  · simp only [hostWriting, if_neg formats, if_neg inside, if_neg outside] at ended
    cases ended

theorem run_local (text : String) {k : Nat} {call : Call} (line : call.argv = localLine.words (Staging.candidate k))
    (u : Files) : (hostWriting text).run call u = writing (Staging.candidate k) text [1] u := by
  simp only [hostWriting, line, nameIn_words]
  rw [if_neg (by simp [Line.words, localLine]), if_pos trivial]

theorem run_remote (text : String) {k : Nat} {call : Call} (line : call.argv = remoteLine.words (Staging.candidate k))
    (u : Files) : (hostWriting text).run call u = writing (Staging.candidate k) "m/y.pb.go" [2] u := by
  simp only [hostWriting, line, nameIn_words]
  rw [if_neg (by simp [Line.words, remoteLine]), if_neg (by simp [Line.words, localLine, remoteLine]),
    if_pos trivial]

/-- Writing goes alike in two staging directories with the same inside. -/
theorem writing_both {t t' u u' : Files} {S S' : Place} {k k' : Nat}
    (opened : Opened t bare.cwd (stagingOf (Staging.candidate k)) S) (held : Held t S u)
    (opened' : Opened t' bare.cwd (stagingOf (Staging.candidate k')) S') (held' : Held t' S' u')
    (agree : AgreeIn S S' u u') {text : String} (down : Path.Downward text) (more : (Path.ofString text).parts ≠ [])
    {content out err : Bytes} (ended : (writing (Staging.candidate k) text content u).1 = .ended 0 out err) :
    (writing (Staging.candidate k') text content u').1 = .ended 0 [] [] ∧
      AgreeIn S S' (writing (Staging.candidate k) text content u).2
        (writing (Staging.candidate k') text content u').2 := by
  have twin : TwinWorlds bare "/" ["repo"] (Staging.candidate k) (Staging.candidate k') S S' ⟨u, []⟩ ⟨u', []⟩ :=
    ⟨held.anchor opened, held'.anchor opened', held.clear, agree,
      (Staging.utf8ByteSize_candidate k).trans (Staging.utf8ByteSize_candidate k').symm⟩
  unfold writing at ended ⊢
  rw [down.join, down.join]
  rw [down.join] at ended
  cases run : (writeFile ⟨(stagingOf (Staging.candidate k)).root,
      (stagingOf (Staging.candidate k)).parts ++ (Path.ofString text).parts⟩ content).runOn bare ⟨u, []⟩ with
  | mk r w =>
  rw [run] at ended
  cases r with
  | error e =>
    cases ended
  | ok _ =>
    obtain ⟨w', run', after⟩ := twin_writeFile (Staging.isName_candidate k').nul twin down.isInner more run
    have run' : (writeFile ⟨(stagingOf (Staging.candidate k')).root,
      (stagingOf (Staging.candidate k')).parts ++ (Path.ofString text).parts⟩ content).runOn bare ⟨u', []⟩ = _ := run'
    rw [run']
    exact ⟨rfl, after.agree⟩

theorem steady (mode : Sync.Mode) {text : String} (down : Path.Downward text)
    (more : (Path.ofString text).parts ≠ []) : Steady (settings mode) (hostWriting text) where
  toRegular := regular mode down
  compiles := by
    intro call call' options k k' t t' u u' S S' out err renamed opened held _ opened' held' _ agree _ ended
    obtain ⟨front, back, argv, -⟩ := renamed.argv
    have mem : s!"--go_out={options}:{Staging.pathOf (settings mode).repoRoot k}" ∈ call.argv := by simp [argv]
    rcases line_of_ended mem ended with line | line
    · rw [run_local text line] at ended ⊢
      rw [run_local text (Line.renamed renamed line)]
      obtain ⟨ended', agree'⟩ := writing_both opened held opened' held' agree down more ended
      exact ⟨⟨[], [], ended'⟩, agree'⟩
    · rw [run_remote text line] at ended ⊢
      rw [run_remote text (Line.renamed renamed line)]
      obtain ⟨ended', agree'⟩ := writing_both opened held opened' held' agree downward_remote (by decide) ended
      exact ⟨⟨[], [], ended'⟩, agree'⟩
  adds := by
    intro call options k t u S mem opened held sound
    rcases runs_of_mem down (u := u) mem with same | ⟨below, content, down, wrote⟩
    · rw [same]
      exact .refl u
    · rw [wrote]
      exact (worked_writing opened held down content).files
  formats := by
    rintro f source t u ⟨⟩
    rfl

theorem inward : Inward config := ⟨by decide, by decide +kernel, by decide +kernel⟩

/-- What a run of both passes that applies comes to. -/
def outcome : Outcome :=
  ⟨[⟨"testdata", ["testdata/x.proto"], [], ["."], some "testdata/gen_test.go"⟩],
    some ⟨.apply, ["testdata/gen_test.go", "testdata/x.pb.go"], [], []⟩, some ⟨["y.proto"], ["m/z.pb.go"]⟩,
    some ⟨.apply, ["y.pb.go", "z.pb.go"], [], []⟩⟩

/-- A compiler that writes `tmpaaaaaaaa/x.pb.go` into whatever directory it is told to, while the first name that is
drawn for a staging directory is `tmpaaaaaaaa`. -/
def losing : Host := hostWriting "tmpaaaaaaaa/x.pb.go"

theorem downward_losing : Path.Downward "tmpaaaaaaaa/x.pb.go" := by decide

/-- A compiler that writes a file into a directory whose name is the only one that is drawn from then on. -/
def stuck : Host := { hostWriting "tmpaaaaaaab/x.pb.go" with draw := fun w _ => if w.journal = [] then 0 else 1 }

theorem steady_stuck (mode : Sync.Mode) : Steady (settings mode) stuck :=
  have steady : Steady (settings mode) (hostWriting "tmpaaaaaaab/x.pb.go") := steady mode (by decide) (by decide)
  ⟨⟨steady.compiler, steady.formatter⟩, steady.compiles, steady.adds, steady.formats⟩

/-- The world after a run of the first pass that applies. -/
def stuckAt : World := ((run (settings .apply) true false).runOn stuck ⟨tree, []⟩).2

/-- The run left the one directory whose name is drawn from then on. -/
theorem stuckAt_holds : stuckAt.journal ≠ [] ∧
    stuckAt.files.get? (["repo"] ++ [Staging.candidate 1]) = some .directory ∧
      stuckAt.files.find? stuck.cwd (settings .diff).repoRoot = some (["repo"], .directory) := by
  decide +kernel

theorem run_stuck : ((run (settings .diff) true false).runOn stuck stuckAt).1 = .error Staging.noFreeName := by
  obtain ⟨later, taken, there⟩ := stuckAt_holds
  have fits : ∀ m, Fits (Staging.pathOf (settings .diff).repoRoot m) [Staging.candidate m] :=
    fun m => Staging.fits_pathOf (k := 0) (by decide +kernel) m
  have draws : ¬ Staging.Draws stuck ["repo"] stuckAt := by
    rintro ⟨n, -, free⟩
    have drawn : stuck.draw stuckAt n = 1 := if_neg later
    rw [drawn, taken] at free
    cases free
  have make : (Staging.make (settings .diff).repoRoot).runOn stuck stuckAt = (.error Staging.noFreeName, stuckAt) :=
    Staging.runOn_make_of_taken (by decide) ⟨(find?_eq_some_iff.1 there).1, (find?_eq_some_iff.1 there).2⟩ fits draws
  have first : (asked true (localPass (settings .diff))).runOn stuck stuckAt = (.error Staging.noFreeName, stuckAt) := by
    rw [localPass_eq, asked, if_pos rfl, map_eq_pure_bind, pass,
      runOn_bind_of_error (Staging.runOn_within_of_error _ make)]
  rw [run_eq, runOn_bind_of_error first]

/-- The world after a run of both passes that applies. -/
def applied (host : Host) : World := ((run (settings .apply) true true).runOn host ⟨tree, []⟩).2

end Sample

theorem run_apply_then_diff_sample :
    ((run (Sample.settings .apply) true true).runOn Sample.host ⟨Sample.tree, []⟩).1 = .ok Sample.outcome ∧
      ((Staging.make ⟨"/", ["repo"]⟩).runOn Sample.host ⟨Sample.tree, []⟩).1.toOption ≠
        ((Staging.make ⟨"/", ["repo"]⟩).runOn Sample.host (Sample.applied Sample.host)).1.toOption ∧
      ∃ v' added again, (run (Sample.settings .diff) true true).runOn Sample.host (Sample.applied Sample.host) =
          (.ok Sample.outcome.settled, v') ∧ Sample.outcome.settled.isClean = true ∧
        (Sample.applied Sample.host).journal = [] ++ added ∧
        v'.journal = (Sample.applied Sample.host).journal ++ again ∧
        List.Forall₂ (Redone (Sample.settings .apply)) (added.filter (!isEmitted ·)) again ∧
        ∀ e ∈ again, isEmitted e = false := by
  have ran : ((run (Sample.settings .apply) true true).runOn Sample.host ⟨Sample.tree, []⟩).1 = .ok Sample.outcome := by
    decide +kernel
  have fresh : Fresh Sample.host (Sample.settings .apply)
      (generateRemote (Sample.settings .apply) (compilerOf (Sample.settings .apply))) "m"
      ((asked true (localPass (Sample.settings .apply))).runOn Sample.host ⟨Sample.tree, []⟩).2 := by
    rw [runOn_asked_snd]
    exact Sample.fresh_remote
  have undescribed : Undescribed Sample.host (Sample.settings .apply)
      (generateLocal (Sample.settings .apply) (compilerOf (Sample.settings .apply))) ⟨Sample.tree, []⟩ :=
    undescribed_of_run (by decide +kernel)
  have undescribed' : Undescribed Sample.host (Sample.settings .apply)
      (generateRemote (Sample.settings .apply) (compilerOf (Sample.settings .apply)))
      ((asked true (localPass (Sample.settings .apply))).runOn Sample.host ⟨Sample.tree, []⟩).2 := by
    rw [runOn_asked_snd]
    exact undescribed_of_run (by decide +kernel)
  have whole : (run (Sample.settings .apply) true true).runOn Sample.host ⟨Sample.tree, []⟩ =
      (.ok Sample.outcome, Sample.applied Sample.host) := Prod.ext ran rfl
  have draws : Staging.Draws Sample.host ["repo"] (Sample.applied Sample.host) :=
    ⟨0, by decide, by decide +kernel⟩
  have draws' : Staging.Draws Sample.host ["repo"]
      ((asked true (localPass (Sample.settings .diff))).runOn Sample.host (Sample.applied Sample.host)).2 :=
    ⟨0, by decide, by decide +kernel⟩
  refine ⟨ran, by decide +kernel, ?_⟩
  exact run_apply_then_diff (s := Sample.settings .apply) rfl (Sample.steady .apply Sample.downward_local (by decide))
    Sample.inward (by decide +kernel) (Sample.repository .apply _) (fun _ => Sample.fresh_local) (fun _ => fresh)
    (fun _ => undescribed) (fun _ => undescribed') whole (by decide) rfl (fun _ => draws) (fun _ => draws')

/-- Where a staged file is lost in the staging directory, a dry run finds that it differs. Where no name is free for a
staging directory, it fails. -/
theorem run_apply_then_diff_loses :
    Inward Sample.config ∧ Path.Downward "m" ∧
      (Steady (Sample.settings .apply) Sample.losing ∧
        Repository (Sample.settings .apply) Sample.losing ["repo"] Sample.tree ∧
        Undescribed Sample.losing (Sample.settings .apply)
          (generateLocal (Sample.settings .apply) (compilerOf (Sample.settings .apply))) ⟨Sample.tree, []⟩ ∧
        Undescribed Sample.losing (Sample.settings .apply)
          (generateRemote (Sample.settings .apply) (compilerOf (Sample.settings .apply)))
          ((localPass (Sample.settings .apply)).runOn Sample.losing ⟨Sample.tree, []⟩).2 ∧
        ((run (Sample.settings .apply) true true).runOn Sample.losing ⟨Sample.tree, []⟩).1.toOption.map
            (fun o => o.reports.map (·.applied)) =
          some [["testdata/gen_test.go", "tmpaaaaaaaa/x.pb.go"], ["y.pb.go", "z.pb.go"]] ∧
        ((run (Sample.settings .diff) true true).runOn Sample.losing (Sample.applied Sample.losing)).1.toOption.map
            (fun o => o.reports.map (·.differing)) = some [["tmpaaaaaaaa/x.pb.go"], []]) ∧
      Steady (Sample.settings .apply) Sample.stuck ∧
        Repository (Sample.settings .apply) Sample.stuck ["repo"] Sample.tree ∧
        Fresh Sample.stuck (Sample.settings .apply)
          (generateLocal (Sample.settings .apply) (compilerOf (Sample.settings .apply))) "" ⟨Sample.tree, []⟩ ∧
        Undescribed Sample.stuck (Sample.settings .apply)
          (generateLocal (Sample.settings .apply) (compilerOf (Sample.settings .apply))) ⟨Sample.tree, []⟩ ∧
        ((run (Sample.settings .apply) true false).runOn Sample.stuck ⟨Sample.tree, []⟩).1.toOption.map
            (fun o => o.reports.map (·.applied)) = some [["testdata/gen_test.go", "tmpaaaaaaab/x.pb.go"]] ∧
        ((run (Sample.settings .diff) true false).runOn Sample.stuck Sample.stuckAt).1 =
          .error Staging.noFreeName :=
  ⟨Sample.inward, by decide,
    ⟨Sample.steady .apply Sample.downward_losing (by decide), Sample.repository .apply _,
      undescribed_of_run (by decide +kernel), undescribed_of_run (by decide +kernel), by decide +kernel,
      by decide +kernel⟩,
    Sample.steady_stuck .apply, ⟨Sample.sound, (Sample.repository .apply "").root⟩, fresh_of_run (by decide +kernel),
    undescribed_of_run (by decide +kernel), by decide +kernel, Sample.run_stuck⟩

end Generation
end Regen
