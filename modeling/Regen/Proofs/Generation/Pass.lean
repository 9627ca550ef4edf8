import Regen.Proofs.Generation.Dry
import Regen.Proofs.Sync.Overlay

/-!
# Passes that apply

A pass generates into a staging directory and then writes what is staged over the repository. What it leaves
is the repository with the staged files over it (`Laid`), as far as it came: nothing of them when generating
failed, those before a file that could not be written, or all of them (`passEnds`). The staging directory is
gone in every case.
-/

namespace Regen

namespace Files

variable {t u v : Files} {base D L S : Place} {staging : Path}

theorem Sound.cut (sound : t.Sound) (inner : S ≠ []) : (t.cut S).Sound where
  distinct := sound.distinct.sublist (List.filter_sublist.map _)
  unlinked := fun e mem => sound.unlinked e (List.mem_of_mem_filter mem)
  rooted := fun e mem => sound.rooted e (List.mem_of_mem_filter mem)
  named := fun e mem => sound.named e (List.mem_of_mem_filter mem)
  closed := by
    intro e mem
    have outside : ¬ S <+: e.1 := fun below => by
      simpa [List.isPrefixOf_iff_prefix.2 below] using (List.mem_filter.1 mem).2
    rw [get?_cut inner, if_neg, sound.closed e (List.mem_of_mem_filter mem)]
    exact fun below => outside (below.trans (List.dropLast_prefix _))

/-- The tree `u` is the tree `t` with the files `done` written below `D` as they stand below `L` in the tree
`v`. Directories are made around the files `touched` only. -/
structure Laid (t v u : Files) (D L : Place) (done touched : List (List String)) : Prop where
  copied : ∀ n ∈ done, ∀ content x, v.get? (L ++ n) = some (.file content x) →
    ∃ y, u.get? (D ++ n) = some (.file content y)
  kept : ∀ p, (∀ n ∈ done, p ≠ D ++ n) → ∀ e, t.get? p = some e → u.get? p = some e
  made : ∀ p, t.get? p = none → ∀ e, u.get? p = some e →
    (∃ n ∈ done, p = D ++ n) ∨ e = .directory ∧ ∃ n ∈ touched, p <+: (D ++ n).dropLast

/-- A name leads to a place outside a directory unless it is the directory's name. -/
theorem not_prefix_of_head {name : String} {n : List String} (other : n.head? ≠ some name) :
    ¬ D ++ [name] <+: D ++ n := by
  rw [List.prefix_append_right_inj]
  rintro ⟨rest, rfl⟩
  exact other rfl

/-- What is written over a repository from a staging directory inside it, which is then taken away. -/
theorem Laid.of_overlay {name : String} {below : List String} {done touched : List (List String)} {t₁ : Files}
    (closed : t.Closed) (free : t.get? (D ++ [name]) = none) (made : t₁ = t.put (D ++ [name]) .directory)
    (opened : Opened t₁ base staging (D ++ [name])) (held : Held t₁ (D ++ [name]) v)
    (overlay : Sync.Overlay v u D (D ++ [name] ++ below) done touched)
    (fresh : ∀ n ∈ done, n.head? ≠ some name) :
    Laid t v (u.cut (D ++ [name])) D (D ++ [name] ++ below) done touched := by
  -- What is taken away was not there before, nor is it a target.
  have outside : ∀ {p e}, t.get? p = some e → ¬ D ++ [name] <+: p := closed.outside free
  constructor
  · intro n mem content x staged
    obtain ⟨y, copied⟩ := overlay.copied n mem content x staged
    refine ⟨y, ?_⟩
    rw [get?_cut opened.inner, if_neg (not_prefix_of_head (fresh n mem)), copied]
  · intro p other e there
    rw [get?_cut opened.inner, if_neg (outside there), overlay.kept p other e]
    rw [held.outside opened made (outside there), there]
  · intro p fresh e there
    rw [get?_cut opened.inner] at there
    split at there
    · cases there
    · next apart => exact overlay.made p (by rw [held.outside opened made apart, fresh]) e there

end Files

namespace Generation

open Files Session

variable {α : Type} {host : Host} {s : Settings} {generate : Path → Session α} {text : String} {D : Place}
  {w : World}

/-- A pass generates into a staging directory and reconciles what lies below a path in it. -/
def pass (s : Settings) (generate : Path → Session α) (text : String) : Session (α × Sync.Report) :=
  Staging.within s.repoRoot fun staging => do
    let a ← generate staging
    return (a, ← Sync.reconcile s.repoRoot (staging.join text) s.syncMode s.config.syncSuffixes)

theorem localPass_eq (s : Settings) : localPass s = pass s (generateLocal s (compilerOf s)) "" := by
  have whole : ∀ staging : Path, staging.join "" = staging := fun staging => by
    rw [Path.Downward.join (by decide)]
    exact congrArg _ (List.append_nil _)
  simp only [localPass, pass, whole]

theorem remotePass_eq (s : Settings) : remotePass s = pass s (generateRemote s (compilerOf s)) s.modulePath :=
  rfl

/-- The first part of a pass: a staging directory is made and generated into. -/
def stage (s : Settings) (generate : Path → Session α) : Session (Path × α) := do
  let staging ← Staging.make s.repoRoot
  return (staging, ← generate staging)

/-- Where the directory of staging candidate `k` stands when the repository is at `D`. -/
def stagedAt (D : Place) (k : Nat) : Place := D ++ [Staging.candidate k]

/-- A tree of files and directories in which the repository is the directory at `D`. -/
structure Repository (s : Settings) (host : Host) (D : Place) (t : Files) : Prop where
  sound : t.Sound
  root : t.find? host.cwd s.repoRoot = some (D, .directory)

/-- Generating works inside its staging directory, whether it fails or not, and makes no links. -/
def Generates (host : Host) (s : Settings) (generate : Path → Session α) : Prop :=
  ∀ k t S, Opened t host.cwd (Staging.pathOf s.repoRoot k) S →
    (generate (Staging.pathOf s.repoRoot k)).Keeps host fun w => Held t S w.files ∧ w.files.Sound

/-- The files that are staged for reconciliation, in order. -/
def stagedNames (host : Host) (s : Settings) (text : String) (k : Nat) (v : World) : List (List String) :=
  v.files.walkNames host.cwd ((Staging.pathOf s.repoRoot k).join text) (some s.config.syncSuffixes)

/-- No path that is staged starts with the name of the staging directory, which is drawn at random. -/
def Fresh (host : Host) (s : Settings) (generate : Path → Session α) (text : String) (w : World) : Prop :=
  ∀ k a v, (stage s generate).runOn host w = (.ok (Staging.pathOf s.repoRoot k, a), v) →
    ∀ n ∈ stagedNames host s text k v, n.head? ≠ some (Staging.candidate k)

/-- Whether paths are fresh shows when a pass is run. -/
theorem fresh_of_run (heads : ∀ r ∈ ((stage s generate).runOn host w).1.toOption,
    ∀ n ∈ ((stage s generate).runOn host w).2.files.walkNames host.cwd (r.1.join text)
      (some s.config.syncSuffixes), n.head? ≠ r.1.parts.getLast?) : Fresh host s generate text w := by
  intro k a v run n mem
  rw [run] at heads
  have other := heads (Staging.pathOf s.repoRoot k, a) rfl n mem
  rwa [Staging.pathOf, List.getLast?_concat] at other

theorem join_pathOf (s : Settings) (k : Nat) (down : Path.Downward text) : (Staging.pathOf s.repoRoot k).join text =
    ⟨s.repoRoot.root, s.repoRoot.parts ++ [Staging.candidate k] ++ (Path.ofString text).parts⟩ := down.join _

theorem runOn_stage {k : Nat} {u : Files}
    (made : (Staging.make s.repoRoot).runOn host w = (.ok (Staging.pathOf s.repoRoot k), { w with files := u })) :
    (stage s generate).runOn host w =
      match (generate (Staging.pathOf s.repoRoot k)).runOn host { w with files := u } with
      | (.ok a, v) => (.ok (Staging.pathOf s.repoRoot k, a), v)
      | (.error e, v) => (.error e, v) := by
  rw [stage, runOn_bind_of_ok made, runOn_bind]
  rfl

theorem Repository.anchor {t : Files} (repository : Repository s host D t) :
    Anchor t host.cwd s.repoRoot.root s.repoRoot.parts D :=
  ⟨(find?_eq_some_iff.1 repository.root).1, (find?_eq_some_iff.1 repository.root).2⟩

theorem Repository.mono {t u : Files} (repository : Repository s host D t) (sound : u.Sound)
    (stay : ∀ q, t.get? q = some .directory → u.get? q = some .directory) : Repository s host D u :=
  ⟨sound, find?_eq_some_iff.2 (by
    have anchor := repository.anchor.mono repository.sound sound stay
    exact ⟨anchor.found, anchor.directory⟩)⟩

/-- The paths of a staged file and of its target hold no NUL and are not too long. -/
structure Possible (s : Settings) (k : Nat) (below : List String) (n : List String) : Prop where
  plainTarget : Path.hasNul ⟨s.repoRoot.root, s.repoRoot.parts ++ n⟩ = false
  fitsTarget : Fits ⟨s.repoRoot.root, s.repoRoot.parts ++ n⟩ n
  plainSource : Path.hasNul ⟨s.repoRoot.root, s.repoRoot.parts ++ [Staging.candidate k] ++ (below ++ n)⟩ = false
  fitsSource :
    Fits ⟨s.repoRoot.root, s.repoRoot.parts ++ [Staging.candidate k] ++ (below ++ n)⟩ (below ++ n)

/-- What is known when generating has come back. -/
structure Generated (host : Host) (s : Settings) (D : Place) (w : World) (k : Nat) (u : Files) (v : World) :
    Prop where
  free : w.files.get? (stagedAt D k) = none
  made : u = w.files.put (stagedAt D k) .directory
  opened : Opened u host.cwd (Staging.pathOf s.repoRoot k) (stagedAt D k)
  held : Held u (stagedAt D k) v.files
  sound : v.files.Sound

/-- A pass comes back from generating. It began in the tree `u`, to which its staging directory had been added,
and generated up to the world `v`. -/
structure Stages (host : Host) (s : Settings) (generate : Path → Session α) (D : Place) (w : World) (k : Nat)
    (u : Files) (v : World) (a : α) : Prop extends Generated host s D w k u v where
  make : (Staging.make s.repoRoot).runOn host w = (.ok (Staging.pathOf s.repoRoot k), { w with files := u })
  entered : w.files.makeDirectory host.cwd (Staging.pathOf s.repoRoot k) = .ok u
  run : (generate (Staging.pathOf s.repoRoot k)).runOn host { w with files := u } = (.ok a, v)

/-- What a pass that applies does when it comes back: it wrote the files `names`, all that were staged. -/
structure Completes (host : Host) (s : Settings) (generate : Path → Session α) (text : String) (D : Place)
    (w : World) (k : Nat) (u : Files) (v : World) (a : α) (names : List (List String)) (w' : World) :
    Prop extends Stages host s generate D w k u v a where
  plain : ((Staging.pathOf s.repoRoot k).join text).hasNul = false
  names_eq : names = stagedNames host s text k v
  possible : ∀ n ∈ names, Possible s k (Path.ofString text).parts n
  laid : Laid w.files v.files w'.files D (stagedAt D k ++ (Path.ofString text).parts) names names
  gone : w'.files.get? (stagedAt D k) = none
  journal : w'.journal = v.journal ++ names.map Sync.mark
  repository : Repository s host D w'.files

section Cases

variable {k : Nat} {u : Files} {v : World} {a : α}

namespace Generated

variable (repository : Repository s host D w.files) (generated : Generated host s D w k u v)

include generated

theorem staged :
    Anchor v.files host.cwd s.repoRoot.root (s.repoRoot.parts ++ [Staging.candidate k]) (stagedAt D k) :=
  generated.held.anchor generated.opened

theorem stay {q : Place} (there : w.files.get? q = some .directory) : v.files.get? q = some .directory := by
  refine generated.held.kept generated.opened ?_
  rw [generated.made]
  exact get?_put_of_free generated.free there _

include repository in
theorem arrives : v.files.find? host.cwd s.repoRoot = some (D, .directory) :=
  (repository.mono generated.sound fun _ => generated.stay).root

/-- Taking the staging directory away after a reconciliation. -/
theorem removed (w' : World) (stay : ∀ q, v.files.get? q = some .directory → w'.files.get? q = some .directory) :
    (Staging.removed host (Staging.pathOf s.repoRoot k) w').files = w'.files.cut (stagedAt D k) := by
  have directory := stay _ generated.staged.directory
  refine Staging.removed_files_of_stop (locate_kept ⟨stay, ?_⟩ (by simp [directory]) id
    (generated.held.stop generated.opened))
  exact fun q target link => absurd link (generated.sound.not_link q target)

end Generated

/-- The tree with a staging directory in the repository. -/
theorem Repository.sound_put {t : Files} (repository : Repository s host D t)
    (free : t.get? (stagedAt D k) = none) :
    (t.put (stagedAt D k) .directory).Sound := by
  have parent : t.get? (stagedAt D k).dropLast = some .directory := by
    rw [stagedAt, List.dropLast_concat]
    exact repository.anchor.directory
  have names : ∀ n ∈ stagedAt D k, IsName n := by
    intro n mem
    rcases List.mem_append.1 mem with above | last
    · exact repository.sound.isName repository.anchor.directory n above
    · rw [List.mem_singleton.1 last]
      exact Staging.isName_candidate k
  exact repository.sound.put (ne_nil_of_none free) names parent (by simp [free]) Entry.directory_ne_link

theorem generated_of_make (repository : Repository s host D w.files) (generates : Generates host s generate)
    {r : Except Failure α} (entered : w.files.makeDirectory host.cwd (Staging.pathOf s.repoRoot k) = .ok u)
    (run : (generate (Staging.pathOf s.repoRoot k)).runOn host { w with files := u } = (r, v)) :
    Generated host s D w k u v := by
  obtain ⟨free, made, opened⟩ := Staging.opened_of_made entered repository.sound.isClosed repository.anchor
  have sound : u.Sound := made ▸ repository.sound_put free
  have kept := keeps_iff.1 (generates k u _ opened) { w with files := u } ⟨opened.held, sound⟩
  rw [run] at kept
  exact ⟨free, made, opened, kept.1, kept.2⟩

/-- What a pass does when generating has come back. -/
theorem runOn_pass_of_generated (text : String)
    (made : (Staging.make s.repoRoot).runOn host w = (.ok (Staging.pathOf s.repoRoot k), { w with files := u }))
    (run : (generate (Staging.pathOf s.repoRoot k)).runOn host { w with files := u } = (.ok a, v)) :
    (pass s generate text).runOn host w =
      match (Sync.reconcile s.repoRoot ((Staging.pathOf s.repoRoot k).join text) s.syncMode
          s.config.syncSuffixes).runOn host v with
      | (.ok r, v') => (.ok (a, r), Staging.removed host (Staging.pathOf s.repoRoot k) v')
      | (.error e, v') => (.error e, Staging.removed host (Staging.pathOf s.repoRoot k) v') := by
  rw [pass, Staging.runOn_within _ made, runOn_bind_of_ok run, runOn_bind]
  rcases (Sync.reconcile s.repoRoot ((Staging.pathOf s.repoRoot k).join text) s.syncMode
    s.config.syncSuffixes).runOn host v with ⟨_ | _, v'⟩ <;> rfl

/-- A file that has been written from a staging directory could be. -/
theorem possible_of_matched {t : Files} {below n : List String} {content : Bytes} (sound : t.Sound)
    (arrives : Anchor t host.cwd s.repoRoot.root s.repoRoot.parts D)
    (staged : Anchor t host.cwd s.repoRoot.root (s.repoRoot.parts ++ [Staging.candidate k]) (stagedAt D k))
    (inner : ∀ m ∈ below ++ n, IsInner m) (more : n ≠ [])
    (matched : Matched t host.cwd
      (Sync.sourceOf ⟨s.repoRoot.root, s.repoRoot.parts ++ [Staging.candidate k] ++ below⟩ n)
      (Sync.targetOf s.repoRoot n) (stagedAt D k ++ below ++ n) (D ++ n) content) : Possible s k below n := by
  obtain ⟨plainSource, plainTarget, ⟨foundSource, x, old⟩, ⟨foundTarget, y, new⟩, -⟩ := matched
  have source : Sync.sourceOf ⟨s.repoRoot.root, s.repoRoot.parts ++ [Staging.candidate k] ++ below⟩ n =
      ⟨s.repoRoot.root, s.repoRoot.parts ++ [Staging.candidate k] ++ (below ++ n)⟩ := by simp [Sync.sourceOf]
  rw [source] at foundSource plainSource
  rw [List.append_assoc] at old
  have below' : below ++ n ≠ [] := by simp [more]
  rw [staged.locate_there sound.isClosed inner below' old Entry.file_ne_link] at foundSource
  rw [Sync.targetOf, arrives.locate_there sound.isClosed (fun m mem => inner m (by simp [mem])) more new
    Entry.file_ne_link] at foundTarget
  refine ⟨plainTarget, ?_, plainSource, ?_⟩
  · by_contra long
    rw [if_neg long] at foundTarget
    cases foundTarget
  · by_contra long
    rw [if_neg long] at foundSource
    cases foundSource

section Stages

variable (repository : Repository s host D w.files) (stages : Stages host s generate D w k u v a)

include repository stages

/-- The repository is still there when the staging directory has been taken away. -/
theorem Stages.repository_cut {t : Files} (sound : t.Sound)
    (stay : ∀ q, v.files.get? q = some .directory → t.get? q = some .directory) :
    Repository s host D (t.cut (stagedAt D k)) := by
  refine repository.mono (sound.cut stages.opened.inner) fun q there => ?_
  rw [get?_cut stages.opened.inner, if_neg (repository.sound.isClosed.outside stages.free there)]
  exact stay q (stages.stay there)

variable (down : Path.Downward text)

include down

/-- All that has been written could be. -/
theorem Stages.possible {t : Files} (progress : Sync.Progress v.files t host.cwd s.repoRoot
      ⟨s.repoRoot.root, s.repoRoot.parts ++ [Staging.candidate k] ++ (Path.ofString text).parts⟩ D
      (stagedAt D k ++ (Path.ofString text).parts) (some s.config.syncSuffixes) (stagedNames host s text k v)) :
    ∀ n ∈ stagedNames host s text k v, Possible s k (Path.ofString text).parts n := by
  intro n mem
  obtain ⟨content, matched⟩ := progress.matched n mem
  rw [stagedNames, join_pathOf s k down] at mem
  obtain ⟨-, below⟩ := (stages.staged.mem_walkNames_iff stages.sound down.isInner).1 mem
  obtain ⟨content', x, there⟩ := below.file
  have names := stages.sound.isName there
  have root := repository.anchor.mono repository.sound stages.sound fun _ => stages.stay
  exact possible_of_matched progress.sound (root.mono stages.sound progress.sound progress.stay)
    (stages.staged.mono stages.sound progress.sound progress.stay)
    (fun m inside => (names m (by simpa [or_assoc] using .inr (List.mem_append.1 inside))).inner)
    below.inner matched

end Stages

variable (apply : s.syncMode = .apply) (repository : Repository s host D w.files)
  (down : Path.Downward text)

include apply repository down

/-- What a pass that applies does once generating has come back: it writes all that is staged, or only the
files before one that cannot be written. -/
theorem pass_cases_of_stages (stages : Stages host s generate D w k u v a)
    (fresh : ∀ n ∈ stagedNames host s text k v, n.head? ≠ some (Staging.candidate k)) :
    (∃ e w' done next, (pass s generate text).runOn host w = (.error e, w') ∧ next.length ≤ 1 ∧
      done ++ next <+: stagedNames host s text k v ∧
      Laid w.files v.files w'.files D (stagedAt D k ++ (Path.ofString text).parts) done (done ++ next) ∧
      w'.files.get? (stagedAt D k) = none) ∨
    ∃ w', (pass s generate text).runOn host w =
        (.ok (a, ⟨.apply, (stagedNames host s text k v).map Sync.nameText, [], []⟩), w') ∧
      Completes host s generate text D w k u v a (stagedNames host s text k v) w' := by
  have whole := runOn_pass_of_generated text stages.make stages.run
  rw [apply, join_pathOf s k down] at whole
  have listed : v.files.walkNames host.cwd
      ⟨s.repoRoot.root, s.repoRoot.parts ++ [Staging.candidate k] ++ (Path.ofString text).parts⟩
      (some s.config.syncSuffixes) = stagedNames host s text k v := by
    rw [stagedNames, join_pathOf s k down]
  have apart : ∀ n ∈ stagedNames host s text k v, ¬ stagedAt D k ++ (Path.ofString text).parts <+: D ++ n :=
    fun n mem below => not_prefix_of_head (fresh n mem) ((List.prefix_append _ _).trans below)
  have outcome := Sync.runOn_reconcile_apply_cases stages.sound (stages.arrives repository)
    stages.staged down.isInner listed apart
  have gone : ∀ t : Files, (t.cut (stagedAt D k)).get? (stagedAt D k) = none := fun t => by
    rw [get?_cut stages.opened.inner, if_pos (List.prefix_refl _)]
  rcases outcome with ⟨t, run', progress⟩ | ⟨e, w', done, next, run', short, before, overlay, stay⟩
  · rw [run'] at whole
    have files := stages.removed ⟨t, v.journal ++ (stagedNames host s text k v).map Sync.mark⟩
      progress.stay
    have plain := join_pathOf s k down ▸ Sync.plain_of_reconcile run'
    refine .inr ⟨_, whole, stages, plain, rfl, stages.possible repository down progress, ?_, ?_, rfl, ?_⟩
    · rw [files]
      exact .of_overlay repository.sound.isClosed stages.free stages.made stages.opened stages.held
        progress.overlay fresh
    · rw [files]
      exact gone t
    · rw [files]
      exact stages.repository_cut repository progress.sound progress.stay
  · rw [run'] at whole
    refine .inl ⟨e, _, done, next, whole, short, before, ?_, ?_⟩
    · rw [stages.removed _ stay]
      exact .of_overlay repository.sound.isClosed stages.free stages.made stages.opened stages.held
        overlay fun n mem => fresh n (before.subset (by simp [mem]))
    · rw [stages.removed _ stay]
      exact gone _

end Cases

/-! ### How a pass ends -/

/-- What has been staged when generating has come back: the files below a place, with the endings of those
that are reconciled. They are found unless their path is too long. -/
structure Staged (host : Host) (s : Settings) (generate : Path → Session α) (text : String) (D : Place)
    (w : World) (k : Nat) (a : α) (v : World) (names : List (List String)) : Prop where
  run : (stage s generate).runOn host w = (.ok (Staging.pathOf s.repoRoot k, a), v)
  names_eq : names = stagedNames host s text k v
  listed : ∀ n, n ∈ names ↔
    Reaches s.repoRoot.root (s.repoRoot.parts ++ [Staging.candidate k]) (Path.ofString text).parts ∧
      FileBelow v.files (stagedAt D k ++ (Path.ofString text).parts) (some s.config.syncSuffixes) n

/-- How a pass that applies ends: generating fails and leaves everything as it was; or a staged file cannot be
written, and those before it are written; or all are. The staging directory is gone. -/
inductive PassEnds (host : Host) (s : Settings) (generate : Path → Session α) (text : String) (D : Place)
    (w : World) : Except Failure (α × Sync.Report) × World → Prop
  | generating {e : Failure} {w' : World} : ((stage s generate).runOn host w).1 = .error e →
      Same w.files w' → PassEnds host s generate text D w (.error e, w')
  | reconciling {e : Failure} {k : Nat} {a : α} {v w' : World} {names done next : List (List String)} :
      Staged host s generate text D w k a v names → next.length ≤ 1 → done ++ next <+: names →
      Laid w.files v.files w'.files D (stagedAt D k ++ (Path.ofString text).parts) done (done ++ next) →
      w'.files.get? (stagedAt D k) = none → PassEnds host s generate text D w (.error e, w')
  | complete {k : Nat} {a : α} {v w' : World} {names : List (List String)} :
      Staged host s generate text D w k a v names →
      Laid w.files v.files w'.files D (stagedAt D k ++ (Path.ofString text).parts) names names →
      w'.files.get? (stagedAt D k) = none →
      PassEnds host s generate text D w (.ok (a, ⟨.apply, names.map Sync.nameText, [], []⟩), w')

section Ends

variable (apply : s.syncMode = .apply) (repository : Repository s host D w.files)
  (generates : Generates host s generate) (down : Path.Downward text) (fresh : Fresh host s generate text w)

include apply repository generates down fresh

/-- A pass ends in one of three ways; what it does when it comes back is said in full. -/
theorem pass_cases :
    (∃ e w', (pass s generate text).runOn host w = (.error e, w') ∧
      PassEnds host s generate text D w (.error e, w')) ∨
    ∃ k u v a names w', (pass s generate text).runOn host w =
        (.ok (a, ⟨.apply, names.map Sync.nameText, [], []⟩), w') ∧
      Staged host s generate text D w k a v names ∧ Completes host s generate text D w k u v a names w' := by
  rcases Staging.runOn_make_cases host w s.repoRoot with ⟨e, fails⟩ | ⟨k, u, made, entered⟩
  · have none : (pass s generate text).runOn host w = (.error e, w) := by
      rw [pass, Staging.within, runOn_bind_of_error fails]
    have failed : ((stage s generate).runOn host w).1 = .error e := by rw [stage, runOn_bind_of_error fails]
    exact .inl ⟨e, w, none, .generating failed fun _ => rfl⟩
  have staging : (stage s generate).runOn host w = _ := runOn_stage made
  cases run : (generate (Staging.pathOf s.repoRoot k)).runOn host { w with files := u } with
  | mk r v =>
  have generated := generated_of_make repository generates entered run
  rw [run] at staging
  cases r with
  | error e =>
    have files := generated.removed v fun _ => id
    refine .inl ⟨e, Staging.removed host (Staging.pathOf s.repoRoot k) v, ?_, .generating (by rw [staging]) ?_⟩
    · rw [pass, Staging.runOn_within _ made, runOn_bind_of_error run]
    · intro p
      rw [files]
      exact generated.held.get?_cut generated.opened generated.free repository.sound.isClosed generated.made p
  | ok a =>
    have staged : Staged host s generate text D w k a v (stagedNames host s text k v) := by
      refine ⟨staging, rfl, fun n => ?_⟩
      rw [stagedNames, join_pathOf s k down]
      exact generated.staged.mem_walkNames_iff generated.sound down.isInner
    have stages : Stages host s generate D w k u v a := ⟨generated, made, entered, run⟩
    rcases pass_cases_of_stages apply repository down stages (fresh k a v staging) with
      ⟨e, w', done, next, whole, short, before, laid, gone⟩ | ⟨w', whole, completes⟩
    · exact .inl ⟨e, w', whole, .reconciling staged short before laid gone⟩
    · exact .inr ⟨k, u, v, a, _, w', whole, staged, completes⟩

theorem passEnds : PassEnds host s generate text D w ((pass s generate text).runOn host w) := by
  rcases pass_cases apply repository generates down fresh with
    ⟨e, w', run, ends⟩ | ⟨k, u, v, a, names, w', run, staged, completes⟩
  · rw [run]
    exact ends
  · rw [run]
    exact .complete staged completes.laid completes.gone

end Ends

end Generation
end Regen
