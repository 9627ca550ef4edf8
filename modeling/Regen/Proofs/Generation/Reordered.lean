import Regen.Proofs.Files.Equivalent
import Regen.Proofs.Files.Output
import Regen.Proofs.Generation.Dry

/-!
# Targets in another order

A compiler that is a function of its calls writes for each of them the same files in every tree (`Output`), and
different calls write different files (`Separate`). What calls leave then depends on which they are and not on
their order (`equivalent_afterAll`), and nothing that a pass does after the targets tells equivalent trees apart.
So a pass over the targets comes to one outcome in all orders of them (`remotePass_perm`).
-/

namespace Regen

namespace Tool

open Files

variable {host : Host} {output : Call → Place → Option Bytes} {calls : List Call} {t u : Files} {w : World}

/-- The trees that come about in a tree by any of the calls, made in any order and as often as may be. -/
inductive Reached (host : Host) (calls : List Call) (t : Files) : Files → Prop
  | start : Reached host calls t t
  | call {u : Files} {call : Call} : Reached host calls t u → call ∈ calls →
      Reached host calls t (host.start call u).2

/-- Wherever calls come to in a tree each of them can be made and ends well, and what it writes is told by the call alone: files,
for different calls different ones. -/
structure Separate (host : Host) (output : Call → Place → Option Bytes) (calls : List Call) (t : Files) : Prop where
  keyed : ∀ u, Reached host calls t u → u.Keyed
  closed : ∀ u, Reached host calls t u → u.Closed
  succeeds : ∀ u, Reached host calls t u → ∀ call ∈ calls, ∃ out err, (host.start call u).1 = some (.ended 0 out err)
  writes : ∀ u, Reached host calls t u → ∀ call ∈ calls, Output (output call) u (host.start call u).2
  apart : ∀ call ∈ calls, ∀ call' ∈ calls, ∀ p a b, output call p = some a → output call' p = some b → call = call'

/-- All that calls write. -/
def outputAll (output : Call → Place → Option Bytes) (calls : List Call) (p : Place) : Option Bytes :=
  calls.findSome? fun call => output call p

namespace Separate

variable (separate : Separate host output calls t)

include separate

/-- Calls, one after the other, write all that each of them writes. -/
theorem writes_all {made : List Call} (known : made ⊆ calls) (reached : Reached host calls t w.files) :
    Reached host calls t (afterAll host w made).files ∧
      Output (outputAll output made) w.files (afterAll host w made).files := by
  induction made generalizing w with
  | nil => exact ⟨reached, .refl _⟩
  | cons call made ih =>
    obtain ⟨here, known⟩ := List.cons_subset.1 known
    obtain ⟨after, rest⟩ := ih (w := Tool.after host call w) known (.call reached here)
    have all : outputAll output (call :: made) = fun p => (output call p).or (outputAll output made p) := by
      funext p
      rw [outputAll, List.findSome?_cons]
      cases output call p <;> rfl
    refine ⟨after, all ▸ (separate.writes _ reached call here).trans rest fun p a b first second => ?_⟩
    obtain ⟨call', mem, second⟩ := List.exists_of_findSome?_eq_some second
    obtain rfl := separate.apart call here call' (known mem) p a b first second
    rw [first] at second
    exact Option.some.inj second

/-- What calls write does not depend on their order. -/
theorem outputAll_perm {made made' : List Call} (known : made ⊆ calls) (perm : made.Perm made') (p : Place) :
    outputAll output made p = outputAll output made' p := by
  refine findSome?_eq_of_perm perm fun call mem call' mem' a b wrote wrote' => ?_
  obtain rfl := separate.apart call (known mem) call' (known mem') p a b wrote wrote'
  exact Option.some.inj (wrote.symm.trans wrote')

/-- Calls leave equivalent trees in all orders. -/
theorem equivalent_afterAll {made made' : List Call} (known : made ⊆ calls) (perm : made.Perm made')
    (start : w.files = t) : Equivalent (afterAll host w made).files (afterAll host w made').files := by
  have reached : Reached host calls t w.files := start ▸ .start
  obtain ⟨after, output⟩ := separate.writes_all known reached
  obtain ⟨after', output'⟩ := separate.writes_all (fun call mem => known (perm.mem_iff.2 mem)) reached
  rw [← funext (separate.outputAll_perm known perm)] at output'
  exact ⟨output.unique output' (separate.closed _ after) (separate.closed _ after'), separate.keyed _ after,
    separate.keyed _ after'⟩

end Separate

end Tool

namespace Generation

open Files Session Tool

section Orders

variable {host : Host} {s : Settings} {output : Call → Place → Option Bytes} {compiler : Compiler} {staging : Path}
  {targets targets' : List Target} {w : World}

/-! ### Worlds that differ in what was noted before -/

/-- Two worlds with equivalent files. The same has been noted in both since their journals were `j` and `j'`. -/
structure Level (j j' : List Event) (w w' : World) : Prop where
  files : Equivalent w.files w'.files
  journal : ∃ es, w.journal = j ++ es ∧ w'.journal = j' ++ es

section Level

variable {j j' : List Event}

theorem follows_level : Follows (Level j j') :=
  ⟨fun _ _ level => level.files, fun _ _ _ _ level equivalent => ⟨equivalent, level.journal⟩⟩

theorem alike_note_level (e : Event) : (note e).Alike host (Level j j') := by
  refine .note fun w w' level => ⟨level.files, ?_⟩
  obtain ⟨es, first, second⟩ := level.journal
  exact ⟨es ++ [e], by rw [World.noted_journal, first, List.append_assoc],
    by rw [World.noted_journal, second, List.append_assoc]⟩

theorem alike_relocateAll_level : (relocateAll s staging).Alike host (Level j j') :=
  .foldlM (fun _ _ _ => alike_relocate (follows_level.isFile _) (follows_level.copyFile _ _)
    fun _ => alike_note_level _) _

theorem alike_reconcile_level (destination : Path) (mode : Sync.Mode) (endings : List String) :
    (Sync.reconcile destination staging mode endings).Alike host (Level j j') :=
  .bind (follows_level.walkNames _ _) fun _ => .foldlM (fun _ _ _ => Sync.alike_reconcileFile
    (fun _ => alike_note_level _) follows_level.readFile follows_level.readOrEmpty follows_level.copyFile) _

end Level

/-! ### Two orders of the targets -/

/-- The settings with other targets. -/
def retarget (s : Settings) (targets : List Target) : Settings :=
  { s with config := { s.config with targets := targets } }

/-- The call by which a target is compiled. -/
def targetCall (host : Host) (s : Settings) (compiler : Compiler) (root staging : Path) (target : Target) : Call :=
  compiler.call host.env "go" (remoteArguments s root staging target)

/-- The calls by which targets are compiled; there are none without a source root. -/
def targetCalls (host : Host) (s : Settings) (compiler : Compiler) (staging : Path) (targets : List Target) :
    List Call :=
  match s.protoRoot with
  | none => []
  | some root => targets.map (targetCall host s compiler root staging)

/-- Two runs from a world, which go through targets in two orders, come to one outcome, which each of them tells
with the targets in its own order. They leave equivalent trees, and but for the calls that compile the targets
they note the same. -/
structure SameOutcome {α β : Type} (tell : List Target → β → α) (targets targets' : List Target) (w : World)
    (r r' : Except Failure α × World) : Prop where
  result : ∃ outcome : Except Failure β, r.1 = outcome.map (tell targets) ∧ r'.1 = outcome.map (tell targets')
  files : Equivalent r.2.files r'.2.files
  journal : ∃ (calls calls' : List Call) (es : List Event), calls.Perm calls' ∧
    r.2.journal = w.journal ++ calls.map .ran ++ es ∧ r'.2.journal = w.journal ++ calls'.map .ran ++ es
  emitted : r.2.journal.filter isEmitted = r'.2.journal.filter isEmitted

section SameOutcome

variable {α β : Type} {tell : List Target → β → α}

/-- A run that ends before any target is compiled. -/
theorem sameOutcome_of_error {e : Failure} (keyed : w.files.Keyed) :
    SameOutcome tell targets targets' w (.error e, w) (.error e, w) where
  result := ⟨.error e, rfl, rfl⟩
  files := .refl keyed
  journal := ⟨[], [], [], .nil, by simp, by simp⟩
  emitted := rfl

theorem sameOutcome_of_level {calls calls' : List Call} (perm : calls.Perm calls') {outcome : Except Failure β}
    {v v' : World} (level : Level (w.journal ++ calls.map .ran) (w.journal ++ calls'.map .ran) v v') :
    SameOutcome tell targets targets' w (outcome.map (tell targets), v) (outcome.map (tell targets'), v') where
  result := ⟨outcome, rfl, rfl⟩
  files := level.files
  journal := by
    obtain ⟨es, first, second⟩ := level.journal
    exact ⟨calls, calls', es, perm, first, second⟩
  emitted := by
    obtain ⟨es, first, second⟩ := level.journal
    have quiet : ∀ l : List Call, (l.map Event.ran).filter isEmitted = [] := fun l => by
      simp [List.filter_eq_nil_iff, isEmitted]
    simp only [first, second, List.filter_append, quiet]

theorem SameOutcome.removed {v : World} (same : v.journal = w.journal) {r r' : Except Failure α × World}
    (outcome : SameOutcome tell targets targets' v r r') (p : Path) :
    SameOutcome tell targets targets' w (r.1, Staging.removed host p r.2) (r'.1, Staging.removed host p r'.2) where
  result := outcome.result
  files := outcome.files.removeAll
  journal := same ▸ outcome.journal
  emitted := outcome.emitted

/-- Compiles targets. -/
def compileAll (s : Settings) (compiler : Compiler) (root staging : Path) (targets : List Target) : Session Unit :=
  targets.forM fun target => compiler.compile "go" (remoteArguments s root staging target)

theorem runOn_compileAll {root : Path} {calls : List Call} {t : Files} (separate : Separate host output calls t)
    (known : targets.map (targetCall host s compiler root staging) ⊆ calls)
    (reached : Reached host calls t w.files) : (compileAll s compiler root staging targets).runOn host w =
      (.ok (), afterAll host w (targets.map (targetCall host s compiler root staging))) := by
  induction targets generalizing w with
  | nil => rfl
  | cons target targets ih =>
    obtain ⟨here, known⟩ := List.cons_subset.1 known
    obtain ⟨out, err, ended⟩ := separate.succeeds _ reached _ here
    have steps : compileAll s compiler root staging (target :: targets) =
        (compiler.compile "go" (remoteArguments s root staging target) >>= fun _ =>
          compileAll s compiler root staging targets) := rfl
    rw [steps, runOn_bind_of_ok (runOn_compile ended), ih known (.call reached here)]
    rfl

/-- What is done after the targets have been compiled does not tell their orders apart. -/
theorem sameOutcome_compileAll {root : Path} {rest : Session β} (alike : ∀ j j', rest.Alike host (Level j j'))
    (perm : targets.Perm targets')
    (separate : Separate host output (targets.map (targetCall host s compiler root staging)) w.files) :
    SameOutcome tell targets targets' w
      ((compileAll s compiler root staging targets >>= fun _ => tell targets <$> rest).runOn host w)
      ((compileAll s compiler root staging targets' >>= fun _ => tell targets' <$> rest).runOn host w) := by
  have calls := perm.map (targetCall host s compiler root staging)
  have ran := runOn_compileAll separate (List.Subset.refl _) .start
  have ran' := runOn_compileAll separate calls.symm.subset .start
  rw [runOn_bind_of_ok ran, runOn_bind_of_ok ran', runOn_map, runOn_map]
  have level : Level (w.journal ++ (targets.map (targetCall host s compiler root staging)).map .ran)
      (w.journal ++ (targets'.map (targetCall host s compiler root staging)).map .ran)
      (afterAll host w (targets.map (targetCall host s compiler root staging)))
      (afterAll host w (targets'.map (targetCall host s compiler root staging))) :=
    ⟨separate.equivalent_afterAll (List.Subset.refl _) calls rfl, [], by simp [journal_afterAll],
      by simp [journal_afterAll]⟩
  obtain ⟨same, after⟩ := alike _ _ _ _ level
  rw [← same]
  exact sameOutcome_of_level calls after

end SameOutcome

/-- What is told about targets that were compiled and then relocated. -/
def tellRemote (targets : List Target) (relocated : List String) : RemoteResult :=
  ⟨targets.map (·.path), relocated⟩

/-- What is told about a whole pass. -/
def tellPass (targets : List Target) (outcome : List String × Sync.Report) : RemoteResult × Sync.Report :=
  (tellRemote targets outcome.1, outcome.2)

theorem generateRemote_of_root {root : Path} (known : s.protoRoot = some root) (targets : List Target) :
    generateRemote (retarget s targets) compiler staging =
      compileAll s compiler root staging targets >>= fun _ => tellRemote targets <$> relocateAll s staging := by
  unfold generateRemote
  simp only [retarget, known, map_eq_pure_bind]
  rfl

theorem generateRemote_of_none (none : s.protoRoot = none) (targets : List Target) :
    generateRemote (retarget s targets) compiler staging = throw (.config .noSourceRootForRemote) := by
  unfold generateRemote
  simp only [retarget, none]

/-- The staging directory and what was relocated in it are the same for all orders of the targets. -/
theorem sameOutcome_generateRemote (perm : targets.Perm targets')
    (separate : Separate host output (targetCalls host s compiler staging targets) w.files) :
    SameOutcome tellRemote targets targets' w
      ((generateRemote (retarget s targets) compiler staging).runOn host w)
      ((generateRemote (retarget s targets') compiler staging).runOn host w) := by
  cases known : s.protoRoot with
  | none =>
    rw [generateRemote_of_none known, generateRemote_of_none known, runOn_throw]
    exact sameOutcome_of_error (separate.keyed _ .start)
  | some root =>
    rw [targetCalls, known] at separate
    rw [generateRemote_of_root known, generateRemote_of_root known]
    exact sameOutcome_compileAll (fun _ _ => alike_relocateAll_level) perm separate

/-- What a pass does in its staging directory. -/
def remoteWork (s : Settings) (staging : Path) : Session (RemoteResult × Sync.Report) := do
  let r ← generateRemote s (compilerOf s) staging
  return (r, ← Sync.reconcile s.repoRoot (staging.join s.modulePath) s.syncMode s.config.syncSuffixes)

theorem sameOutcome_remoteWork (perm : targets.Perm targets')
    (separate : Separate host output (targetCalls host s (compilerOf s) staging targets) w.files) :
    SameOutcome tellPass targets targets' w ((remoteWork (retarget s targets) staging).runOn host w)
      ((remoteWork (retarget s targets') staging).runOn host w) := by
  cases known : s.protoRoot with
  | none =>
    have fails : ∀ targets, (remoteWork (retarget s targets) staging).runOn host w =
        (.error (.config .noSourceRootForRemote), w) := fun targets => by
      have first : generateRemote (retarget s targets) (compilerOf (retarget s targets)) staging =
          throw (.config .noSourceRootForRemote) := generateRemote_of_none known targets
      rw [remoteWork, first, runOn_bind_of_error (runOn_throw _)]
    rw [fails, fails]
    exact sameOutcome_of_error (separate.keyed _ .start)
  | some root =>
    rw [targetCalls, known] at separate
    have steps : ∀ targets, remoteWork (retarget s targets) staging =
        compileAll s (compilerOf s) root staging targets >>= fun _ => tellPass targets <$> (do
          let relocated ← relocateAll s staging
          return (relocated, ← Sync.reconcile s.repoRoot (staging.join s.modulePath) s.syncMode
            s.config.syncSuffixes)) := fun targets => by
      have first : generateRemote (retarget s targets) (compilerOf (retarget s targets)) staging =
          compileAll s (compilerOf s) root staging targets >>= fun _ =>
            tellRemote targets <$> relocateAll s staging := generateRemote_of_root known targets
      rw [remoteWork, first]
      simp only [map_eq_pure_bind, bind_assoc, pure_bind]
      rfl
    rw [steps, steps]
    exact sameOutcome_compileAll (fun _ _ => alike_relocateAll_level.bind fun _ =>
      (alike_reconcile_level _ _ _).bind fun _ => .pure _) perm separate

/-- The order of the targets does not matter to a compiler that is a function of its calls, succeeds on all targets
and writes different files for different ones. Generating in a staging directory leaves the same there and
relocates the same, or fails alike; and a whole pass reports the same, emits the same and leaves the same. -/
theorem remotePass_perm (perm : s.config.targets.Perm targets) (host : Host)
    (output : Call → Place → Option Bytes) :
    (∀ compiler staging w, Separate host output (targetCalls host s compiler staging s.config.targets) w.files →
      SameOutcome tellRemote s.config.targets targets w ((generateRemote s compiler staging).runOn host w)
        ((generateRemote (retarget s targets) compiler staging).runOn host w)) ∧
    ∀ w, w.files.Keyed →
      (∀ staging v, (Staging.make s.repoRoot).runOn host w = (.ok staging, v) →
        Separate host output (targetCalls host s (compilerOf s) staging s.config.targets) v.files) →
      SameOutcome tellPass s.config.targets targets w ((remotePass s).runOn host w)
        ((remotePass (retarget s targets)).runOn host w) := by
  refine ⟨fun compiler staging w separate => sameOutcome_generateRemote perm separate, fun w keyed separate => ?_⟩
  have whole : remotePass s = Staging.within s.repoRoot (remoteWork s) := rfl
  have whole' : remotePass (retarget s targets) = Staging.within s.repoRoot (remoteWork (retarget s targets)) := rfl
  rw [whole, whole']
  rcases Staging.runOn_make_cases host w s.repoRoot with ⟨e, fails⟩ | ⟨k, u, made, -⟩
  · rw [Staging.within, Staging.within, runOn_bind_of_error fails, runOn_bind_of_error fails]
    exact sameOutcome_of_error keyed
  · rw [Staging.runOn_within _ made, Staging.runOn_within _ made]
    have outcome := sameOutcome_remoteWork perm (separate _ _ made)
    exact outcome.removed (w := w) (v := { w with files := u }) rfl _

end Orders

/-! ### A repository with two targets -/

namespace Swap

def targets : List Target := [⟨"", "x.proto"⟩, ⟨"", "y.proto"⟩]

def settings : Settings := retarget (Sample.settings .apply) targets

def root : Path := ⟨"/", ["pb"]⟩

/-- The staging directory of the name that is drawn. -/
def staging : Path := Staging.pathOf ⟨"/", ["repo"]⟩ 0

def call (path : String) : Call :=
  targetCall Sample.bare settings (compilerOf settings) root staging ⟨"", path⟩

/-- The file that the compiler writes at a call, with its content. -/
def file? (c : Call) : Option (String × Bytes) :=
  if c = call "x.proto" then some ("x.pb.go", [1])
  else if c = call "y.proto" then some ("y.pb.go", [2])
  else none

/-- Where files are written in the staging directory. -/
def directory : Place := ["repo", Staging.candidate 0, "m"]

def output (c : Call) (p : Place) : Option Bytes :=
  (file? c).bind fun f => if p = directory ++ [f.1] then some f.2 else none

/-- The tree with a file written, and with the directory around it. -/
def laid (f : String × Bytes) (t : Files) : Files :=
  (t.put directory .directory).put (directory ++ [f.1]) (.file f.2 false)

def host : Host :=
  { Sample.bare with
    run := fun c t =>
      match file? c with
      | some f => (.ended 0 [] [], laid f t)
      | none => (.unstarted 2, t) }

/-- The tree in which the staging directory has been made. -/
def start : Files := Sample.tree.put ["repo", Staging.candidate 0] .directory

/-- The trees that come about there. -/
def trees : List Files :=
  let x := laid ("x.pb.go", [1])
  let y := laid ("y.pb.go", [2])
  [start, x start, y start, y (x start), x (y start)]

def calls : List Call := targetCalls host settings (compilerOf settings) staging targets

theorem file_of_known {c : Call} (known : c ∈ calls) : ∃ f, file? c = some f := by
  have each : ∀ c ∈ calls, (file? c).isSome = true := by decide
  exact Option.isSome_iff_exists.1 (each c known)

theorem start_of_file {c : Call} {f : String × Bytes} (known : c ∈ calls) (writes : file? c = some f) (u : Files) :
    host.start c u = (some (.ended 0 [] []), laid f u) := by
  have fit : ∀ c ∈ calls, c.isUnfit = false := by decide +kernel
  rw [Host.start_of_fit (fit c known)]
  simp only [host, writes]

theorem mem_trees {u : Files} (reached : Reached host calls start u) : u ∈ trees := by
  have onward : ∀ u ∈ trees, ∀ c ∈ calls, (host.start c u).2.entries ∈ trees.map (·.entries) := by decide
  induction reached with
  | start => exact List.mem_cons_self
  | call _ known ih =>
    obtain ⟨⟨entries⟩, mem, rfl⟩ := List.mem_map.1 (onward _ ih _ known)
    exact mem

theorem output_laid {u : Files} {f : String × Bytes} (around : ∀ e ∈ u.get? directory, e = .directory)
    (plain : u.executableAt (directory ++ [f.1]) = false) :
    Output (fun p => if p = directory ++ [f.1] then some f.2 else none) u (laid f u) := by
  have inner : directory ≠ [] := List.cons_ne_nil _ _
  have inner' : directory ++ [f.1] ≠ [] := by simp
  constructor
  · intro p content wrote
    obtain ⟨rfl, rfl⟩ : p = directory ++ [f.1] ∧ f.2 = content := by simpa using wrote
    rw [laid, get?_put inner', if_pos rfl, plain]
  · intro p none e there
    have other : p ≠ directory ++ [f.1] := by simpa using none
    rw [laid, get?_put inner', if_neg other, get?_put inner]
    split
    · next here =>
      subst here
      rw [around e there]
    · exact there
  · intro p none free e there
    have other : p ≠ directory ++ [f.1] := by simpa using none
    rw [laid, get?_put inner', if_neg other, get?_put inner] at there
    split at there
    · next here =>
      subst here
      cases there
      exact ⟨rfl, directory ++ [f.1], f.2, if_pos rfl, List.prefix_append _ _⟩
    · rw [free] at there
      cases there

theorem output_of_file {c : Call} {f : String × Bytes} (writes : file? c = some f) :
    output c = fun p => if p = directory ++ [f.1] then some f.2 else none := by
  funext p
  rw [output, writes, Option.bind_some]

theorem separate : Separate host output calls start where
  keyed u reached := by
    have all : ∀ u ∈ trees, (u.entries.map (·.1)).Nodup ∧ ∀ e ∈ u.entries, e.1 ≠ [] := by decide
    exact ⟨(all u (mem_trees reached)).1, (all u (mem_trees reached)).2⟩
  closed u reached := by
    have all : ∀ u ∈ trees, ∀ e ∈ u.entries, u.get? e.1.dropLast = some .directory := by decide
    exact closed_of_entries (all u (mem_trees reached))
  succeeds u _ c known := by
    obtain ⟨f, writes⟩ := file_of_known known
    exact ⟨[], [], by rw [start_of_file known writes]⟩
  writes u reached c known := by
    have all : ∀ u ∈ trees, (∀ e ∈ u.get? directory, e = .directory) ∧
        ∀ c ∈ calls, ∀ f ∈ file? c, u.executableAt (directory ++ [f.1]) = false := by decide +kernel
    obtain ⟨f, writes⟩ := file_of_known known
    obtain ⟨around, plain⟩ := all u (mem_trees reached)
    rw [start_of_file known writes, output_of_file writes]
    exact output_laid around (plain c known f writes)
  apart := by
    intro c known c' known' p a b first second
    have names : ∀ c ∈ calls, ∀ c' ∈ calls, (file? c).map (·.1) = (file? c').map (·.1) → c = c' := by
      decide +kernel
    obtain ⟨f, writes⟩ := file_of_known known
    obtain ⟨f', writes'⟩ := file_of_known known'
    rw [output_of_file writes] at first
    rw [output_of_file writes'] at second
    obtain ⟨rfl, -⟩ : p = directory ++ [f.1] ∧ f.2 = a := by simpa using first
    obtain ⟨same, -⟩ : f.1 = f'.1 ∧ f'.2 = b := by simpa using second
    exact names c known c' known' (by simp [writes, writes', same])

/-- Every staging directory that is made in the repository is this one. -/
theorem separate_of_made {made : Path} {v : World}
    (make : (Staging.make settings.repoRoot).runOn host ⟨Sample.tree, []⟩ = (.ok made, v)) :
    Separate host output (targetCalls host settings (compilerOf settings) made targets) v.files := by
  have here : ((Staging.make settings.repoRoot).runOn host ⟨Sample.tree, []⟩).1.toOption = some staging := by
    decide +kernel
  have files : ((Staging.make settings.repoRoot).runOn host ⟨Sample.tree, []⟩).2.files.entries = start.entries := by
    decide
  rw [make] at here files
  obtain rfl : made = staging := Option.some.inj here
  have same : v.files = start := congrArg Files.mk files
  exact same ▸ separate

end Swap

theorem remotePass_perm_sample :
    let other := retarget Swap.settings Swap.targets.reverse
    let w : World := ⟨Sample.tree, []⟩
    SameOutcome tellRemote Swap.targets Swap.targets.reverse ⟨Swap.start, []⟩
        ((generateRemote Swap.settings (compilerOf Swap.settings) Swap.staging).runOn Swap.host ⟨Swap.start, []⟩)
        ((generateRemote other (compilerOf Swap.settings) Swap.staging).runOn Swap.host ⟨Swap.start, []⟩) ∧
      SameOutcome tellPass Swap.targets Swap.targets.reverse w ((remotePass Swap.settings).runOn Swap.host w)
        ((remotePass other).runOn Swap.host w) ∧
      ((remotePass Swap.settings).runOn Swap.host w).1 = .ok (⟨["x.proto", "y.proto"], ["m/z.pb.go"]⟩,
        ⟨.apply, ["x.pb.go", "y.pb.go", "z.pb.go"], [], []⟩) := by
  have perm : Swap.settings.config.targets.Perm Swap.targets.reverse := (List.reverse_perm _).symm
  have both := remotePass_perm perm Swap.host Swap.output
  have pass := both.2 ⟨Sample.tree, []⟩ Sample.sound.keyed fun _ _ => Swap.separate_of_made
  exact ⟨both.1 _ _ _ Swap.separate, pass, by decide +kernel⟩

end Generation
end Regen
