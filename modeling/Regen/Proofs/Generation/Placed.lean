import Regen.Proofs.Files.Copies
import Regen.Proofs.Generation.Steps

/-!
# The place of a checkout

A job is done for two checkouts in different places. When its directory holds the same in both, the same files
are taken in the same order, each of them is compiled with the same options, left out or taken for frozen, and the
text of the import file is the same (`generateJob_placed`). One thing looks at the place: the pattern of frozen
trees is searched in the whole path of a file. It has to decide alike in both places, and where the way to a
checkout looks like a frozen tree it does not (`generateJob_misplaced`).
-/

namespace Regen.Generation

open Session Files

/-- A checkout in its place: where it is, what compiles its files and where that stages them. -/
structure Placement where
  host : Host
  world : World
  settings : Settings
  compiler : Tool.Compiler
  staging : Path

/-- The end of a job: a failure, or its result with the import file that was written, if there is one. -/
def conclude (staging : Path) (job : Job) (r : JobResult) : Except Failure (Option String) → Session JobResult
  | .error e => throw e
  | .ok none => return { r with importFile := none }
  | .ok (some text) => do
    let name := Path.joinText job.path importFileName
    writeFile (staging.join name) (Text.bytes text)
    return { r with importFile := some name }

/-- The path in the repository of a file that is given by its names below the job's directory. -/
def fileOf (job : Job) (names : List String) : String := Path.toString ⟨"", (Path.ofString job.path).parts ++ names⟩

section

variable (job : Job) (frozen : List String → Bool)

/-- The file is not frozen, and the job does not leave it out. -/
def chosen (names : List String) : Bool := !frozen names && !job.exclude.contains (fileOf job names)

/-- The files that are compiled. -/
def compiled (walked : List (List String)) : List String := (walked.filter (chosen job frozen)).map (fileOf job)

/-- The job after further files: those that are chosen are compiled, the others skipped, and the directories of all
that are not frozen are noted. -/
def JobResult.after (r : JobResult) (walked : List (List String)) : JobResult :=
  { r with
    generated := r.generated ++ compiled job frozen walked
    skipped := r.skipped ++ (walked.filter fun names => !chosen job frozen names).map (fileOf job)
    packages := ((walked.filter fun names => !frozen names).map packageOf).foldl addPackage r.packages }

/-- What a job does with its files. -/
def planned (walked : List (List String)) : JobResult :=
  JobResult.after job frozen ⟨job.path, [], [], [], none⟩ walked

end

namespace Placement

variable (p : Placement) (job : Job)

def run : Except Failure JobResult × World :=
  (generateJob p.settings p.compiler p.staging job).runOn p.host p.world

def directory : Path := p.settings.repoRoot.join job.path

/-- The path of a file that is given by its names below the job's directory. -/
def source (names : List String) : Path := ⟨(p.directory job).root, (p.directory job).parts ++ names⟩

def frozen (names : List String) : Bool := p.settings.config.isLegacy (p.source job names).toString

/-- The names of the description files of a job. A directory that cannot be asked for has none. -/
def walked : List (List String) :=
  if (p.directory job).hasNul then []
  else p.world.files.walkNames p.host.cwd (p.directory job) (some descriptionEndings)

/-- The directories in which the compiler searches. -/
def searched : List String :=
  ((p.settings.protoRoot.toList.map fun q => q.join "src") ++ [p.settings.repoRoot]).map fun q => s!"-I{q}"

/-- The call that compiles a file with the given options. -/
def call (file options : String) : Call :=
  p.compiler.call p.host.env job.backends (p.searched ++ [s!"--go_out={options}:{p.staging}", file])

/-- The compiler can be called for each file of the job that is compiled, and succeeds. -/
def Compiles : Prop :=
  ∀ file ∈ (planned job (p.frozen job) (p.walked job)).generated, ∀ w,
    Tool.EndsWell p.host w (p.call job file (optionsOf p.settings.config job file))

/-- The calls that compile files, each with its options. -/
def calls (options : String → String) (files : List String) : List Call :=
  files.map fun file => p.call job file (options file)

theorem calls_append (options : String → String) (files more : List String) :
    p.calls job options (files ++ more) = p.calls job options files ++ p.calls job options more := List.map_append

/-- The job came to its end: of its files, `r.generated` were compiled one after the other, each with its options.
Then the calls `last` were made, and what is left is the import file. -/
def Ends (options : String → String) (r : JobResult) (last : List Call) (text : Except Failure (Option String)) :
    Prop :=
  p.run job = (conclude p.staging job r text).runOn p.host
    (Tool.afterAll p.host p.world (p.calls job options r.generated ++ last))

end Placement

section

variable {p : Placement} {job : Job}

theorem localArguments_eq (file : String) : localArguments p.settings job p.staging file =
    p.searched ++ [s!"--go_out={optionsOf p.settings.config job file}:{p.staging}", file] := rfl

/-- A file of a job is named by its path in the repository. -/
theorem below?_source (relative : (Path.ofString job.path).isAbsolute = false) (names : List String) :
    (p.source job names).below? p.settings.repoRoot = some ⟨"", (Path.ofString job.path).parts ++ names⟩ := by
  have directory : p.directory job = ⟨p.settings.repoRoot.root,
      p.settings.repoRoot.parts ++ (Path.ofString job.path).parts⟩ := by
    rw [Placement.directory, Path.join, Path.append, relative]
    rfl
  have below : p.settings.repoRoot.parts.isPrefixOf
      (p.settings.repoRoot.parts ++ ((Path.ofString job.path).parts ++ names)) = true :=
    List.isPrefixOf_iff_prefix.2 (List.prefix_append _ _)
  simp only [Placement.source, directory, Path.below?, Path.partsBelow?, List.append_assoc, below, and_self, if_true,
    Option.map_some, List.drop_left]

theorem compiled_cons (frozen : List String → Bool) (names : List String) (walked : List (List String)) :
    compiled job frozen (names :: walked) = compiled job frozen [names] ++ compiled job frozen walked := by
  rw [compiled, compiled, compiled, ← List.map_append, ← List.filter_append, List.singleton_append]

theorem after_cons (frozen : List String → Bool) (r : JobResult) (names : List String)
    (walked : List (List String)) :
    JobResult.after job frozen (.after job frozen r [names]) walked = .after job frozen r (names :: walked) := by
  have split : names :: walked = [names] ++ walked := rfl
  simp only [JobResult.after, compiled, split, List.filter_append, List.map_append, List.foldl_append,
    List.append_assoc]

theorem after_singleton (frozen : List String → Bool) (r : JobResult) (names : List String) :
    JobResult.after job frozen r [names] =
      let packages := addPackage r.packages (packageOf names)
      if frozen names then { r with skipped := r.skipped ++ [fileOf job names] }
      else if job.exclude.contains (fileOf job names) then
        { r with packages := packages, skipped := r.skipped ++ [fileOf job names] }
      else { r with packages := packages, generated := r.generated ++ [fileOf job names] } := by
  have pick : chosen job frozen names = (!frozen names && !job.exclude.contains (fileOf job names)) := rfl
  simp only [JobResult.after, compiled, List.filter_cons, List.filter_nil, pick]
  cases frozen names with
  | true => simp
  | false => cases job.exclude.contains (fileOf job names) <;> simp

/-- A file is frozen, left out or compiled. -/
theorem generateFile_eq (relative : (Path.ofString job.path).isAbsolute = false) (r : JobResult)
    (names : List String) : generateFile p.settings p.compiler job p.staging r names =
      if chosen job (p.frozen job) names then do
        p.compiler.compile job.backends (localArguments p.settings job p.staging (fileOf job names))
        return .after job (p.frozen job) r [names]
      else return .after job (p.frozen job) r [names] := by
  have below := below?_source (p := p) relative names
  rw [Placement.source, Placement.directory] at below
  have file : Path.toString ⟨"", (Path.ofString job.path).parts ++ names⟩ = fileOf job names := rfl
  have legacy : p.settings.config.isLegacy (Path.toString ⟨(p.settings.repoRoot.join job.path).root,
      (p.settings.repoRoot.join job.path).parts ++ names⟩) = p.frozen job names := rfl
  unfold generateFile
  dsimp only
  rw [below]
  dsimp only
  rw [legacy, file, after_singleton, chosen]
  cases p.frozen job names with
  | true => rfl
  | false => cases job.exclude.contains (fileOf job names) <;> rfl

theorem compiled_singleton {frozen : List String → Bool} {names : List String} (taken : chosen job frozen names = true) :
    compiled job frozen [names] = [fileOf job names] := by
  rw [compiled, List.filter_cons_of_pos taken]
  rfl

/-- One file: when it is chosen it is compiled with its options. -/
theorem runOn_generateFile (relative : (Path.ofString job.path).isAbsolute = false) (r : JobResult)
    (names : List String) (w : World) (succeed : Tool.Succeed p.host w
      (p.calls job (optionsOf p.settings.config job) (compiled job (p.frozen job) [names]))) :
    (generateFile p.settings p.compiler job p.staging r names).runOn p.host w =
      (.ok (.after job (p.frozen job) r [names]), Tool.afterAll p.host w
        (p.calls job (optionsOf p.settings.config job) (compiled job (p.frozen job) [names]))) := by
  rw [generateFile_eq relative]
  cases taken : chosen job (p.frozen job) names with
  | false =>
    have nothing : compiled job (p.frozen job) [names] = [] := by
      rw [compiled, List.filter_cons_of_neg (by simp [taken])]
      rfl
    rw [nothing]
    rfl
  | true =>
    have one := compiled_singleton taken
    rw [one] at succeed
    obtain ⟨out, err, ended⟩ := (Tool.succeed_singleton _).1 succeed
    rw [if_pos rfl, one, localArguments_eq]
    exact runOn_bind_of_ok (Tool.runOn_compile ended) _

/-- All files, one after the other. -/
theorem runOn_foldlM_generateFile (relative : (Path.ofString job.path).isAbsolute = false)
    (walked : List (List String)) (r : JobResult) (w : World) (succeed : Tool.Succeed p.host w
      (p.calls job (optionsOf p.settings.config job) (compiled job (p.frozen job) walked))) :
    (walked.foldlM (generateFile p.settings p.compiler job p.staging) r).runOn p.host w =
      (.ok (.after job (p.frozen job) r walked), Tool.afterAll p.host w
        (p.calls job (optionsOf p.settings.config job) (compiled job (p.frozen job) walked))) := by
  induction walked generalizing r w with
  | nil => simp [JobResult.after, compiled, Placement.calls, Tool.afterAll]
  | cons names walked ih =>
    rw [compiled_cons, Placement.calls_append, Tool.succeed_append] at succeed
    rw [List.foldlM_cons, runOn_bind_of_ok (runOn_generateFile relative r names w succeed.1), ih _ _ succeed.2,
      after_cons, compiled_cons _ names walked, Placement.calls_append, Tool.afterAll_append]

/-- The walk that a job starts with. -/
theorem runOn_walk (p : Placement) (job : Job) :
    (walkNames (p.settings.repoRoot.join job.path) (some descriptionEndings)).runOn p.host p.world =
      (if (p.directory job).hasNul then .error .outOfRange else .ok (p.walked job), p.world) := by
  rw [runOn_walkNames, Placement.walked, ← Placement.directory]
  cases (p.directory job).hasNul <;> rfl

/-- A job whose directory cannot be asked for ends at once. -/
theorem ends_of_nul (options : String → String) (nul : (p.directory job).hasNul = true) :
    p.Ends job options (planned job (p.frozen job) (p.walked job)) [] (.error .outOfRange) := by
  have walk := runOn_walk p job
  rw [if_pos nul] at walk
  rw [Placement.Ends, Placement.run, generateJob, runOn_bind_of_error walk, Placement.walked, if_pos nul]
  rfl

theorem run_eq_bind (plain : (p.directory job).hasNul = false) :
    p.run job = Session.runOn (do
      let r ← (p.walked job).foldlM (generateFile p.settings p.compiler job p.staging) ⟨job.path, [], [], [], none⟩
      if job.isTestdata then
        return { r with importFile := some (← writeImportFile p.settings job r.packages p.staging) }
      return r) p.host p.world := by
  have walk := runOn_walk p job
  rw [if_neg (Bool.eq_false_iff.1 plain)] at walk
  rw [Placement.run, generateJob, runOn_bind_of_ok walk]

/-- A job whose directory can be walked and whose files all compile is left with the import file. -/
theorem run_of_succeed (relative : (Path.ofString job.path).isAbsolute = false)
    (plain : (p.directory job).hasNul = false) {r : JobResult}
    (plan : planned job (p.frozen job) (p.walked job) = r)
    (succeed : Tool.Succeed p.host p.world (p.calls job (optionsOf p.settings.config job) r.generated)) :
    p.run job = Session.runOn (if job.isTestdata then
        (do return { r with importFile := some (← writeImportFile p.settings job r.packages p.staging) })
      else return r) p.host
        (Tool.afterAll p.host p.world (p.calls job (optionsOf p.settings.config job) r.generated)) := by
  subst plan
  rw [run_eq_bind plain, runOn_bind_of_ok (runOn_foldlM_generateFile relative (p.walked job) _ p.world succeed)]
  rfl

theorem Placement.Compiles.succeed (compiles : p.Compiles job) {files : List String}
    (among : files ⊆ (planned job (p.frozen job) (p.walked job)).generated) (w : World) :
    Tool.Succeed p.host w (p.calls job (optionsOf p.settings.config job) files) := by
  induction files generalizing w with
  | nil => trivial
  | cons file files ih =>
    obtain ⟨here, rest⟩ := List.cons_subset.1 among
    exact ⟨compiles file here w, ih rest _⟩

/-- A job whose directory can be walked compiles its files, and the import file is left. -/
theorem run_of_plain (relative : (Path.ofString job.path).isAbsolute = false) (compiles : p.Compiles job)
    (plain : (p.directory job).hasNul = false) {r : JobResult}
    (plan : planned job (p.frozen job) (p.walked job) = r) :
    p.run job = Session.runOn (if job.isTestdata then
        (do return { r with importFile := some (← writeImportFile p.settings job r.packages p.staging) })
      else return r) p.host
        (Tool.afterAll p.host p.world (p.calls job (optionsOf p.settings.config job) r.generated)) :=
  run_of_succeed relative plain plan (compiles.succeed (plan ▸ List.Subset.refl _) p.world)

/-- The text of the import file of a job. -/
def importText (s : Settings) (job : Job) (packages : List String) : String :=
  ImportFile.render s.config.preambleText (importPaths s.modulePath job packages)

/-- The import file, once the formatter gave its text or failed. -/
theorem runOn_importFile {s : Settings} {staging : Path} {host : Host} {r : JobResult} {w v : World}
    {x : Except Failure String}
    (formatted : (Tool.format s.config.formatter (importText s job r.packages)).runOn host w = (x, v)) :
    Session.runOn (do return { r with importFile := some (← writeImportFile s job r.packages staging) }) host w =
      (conclude staging job r (x.map some)).runOn host v := by
  rw [importText] at formatted
  simp only [writeImportFile, bind_assoc]
  cases x with
  | error e => exact runOn_bind_of_error formatted _
  | ok text =>
    rw [runOn_bind_of_ok formatted]
    simp only [pure_bind]
    rfl

end

/-! ### Two placements -/

section

/-- Two placements of one checkout, as far as a job sees it: its directory holds the same in both, and both run the
same configuration with formatters that answer alike. -/
structure Placement.Matches (p q : Placement) (job : Job) : Prop where
  config : p.settings.config = q.settings.config
  modulePath : p.settings.modulePath = q.settings.modulePath
  keyed : p.world.files.Keyed
  keyed_other : q.world.files.Keyed
  plain : p.settings.repoRoot.hasNul = false
  plain_other : q.settings.repoRoot.hasNul = false
  corresponds : Corresponds p.world.files q.world.files p.host.cwd q.host.cwd (p.directory job) (q.directory job)
  formats : ∀ f, p.settings.config.formatter = some f → ∀ source t t',
    (p.host.run (Tool.formatCall f source) t).1 = (q.host.run (Tool.formatCall f source) t').1

variable {p q : Placement} {job : Job}

theorem hasNul_directory (relative : (Path.ofString job.path).isAbsolute = false)
    (plain : p.settings.repoRoot.hasNul = false) : (p.directory job).hasNul = (Path.ofString job.path).hasNul := by
  rw [Placement.directory, Path.join, Path.append, relative]
  simp only [Path.hasNul] at plain ⊢
  simp only [Bool.false_eq_true, if_false, List.any_append, plain, Bool.false_or]

theorem Placement.Matches.walked (matched : p.Matches q job)
    (relative : (Path.ofString job.path).isAbsolute = false) : p.walked job = q.walked job := by
  rw [Placement.walked, Placement.walked, hasNul_directory relative matched.plain,
    hasNul_directory relative matched.plain_other, matched.corresponds.walkNames matched.keyed matched.keyed_other]

theorem planned_congr {frozen frozen' : List String → Bool} {walked : List (List String)}
    (same : ∀ names ∈ walked, frozen names = frozen' names) :
    planned job frozen walked = planned job frozen' walked := by
  have chosen : ∀ names ∈ walked, chosen job frozen names = chosen job frozen' names := fun names mem => by
    rw [Generation.chosen, Generation.chosen, same names mem]
  rw [planned, planned, JobResult.after, JobResult.after, compiled, compiled, List.filter_congr chosen,
    List.filter_congr fun names mem => congrArg not (chosen names mem),
    List.filter_congr fun names mem => congrArg not (same names mem)]

/-- **The place of a checkout.** A job does the same in both placements of a checkout: it compiles the same files in
the same order with the same options, leaves the same out, notes the same packages and writes the same import file.
The pattern of frozen trees has to decide alike on the two paths of each file. -/
theorem generateJob_placed (matched : p.Matches q job) (relative : (Path.ofString job.path).isAbsolute = false)
    (compiles : p.Compiles job) (compiles' : q.Compiles job)
    (frozen : ∀ names ∈ p.walked job, p.frozen job names = q.frozen job names) :
    ∃ last text, p.Ends job (optionsOf p.settings.config job) (planned job (p.frozen job) (p.walked job)) last text ∧
      q.Ends job (optionsOf p.settings.config job) (planned job (p.frozen job) (p.walked job)) last text := by
  have directory := hasNul_directory relative matched.plain
  have directory' := hasNul_directory relative matched.plain_other
  have plan : planned job (q.frozen job) (q.walked job) = planned job (p.frozen job) (p.walked job) := by
    rw [← matched.walked relative]
    exact (planned_congr frozen).symm
  cases nul : (Path.ofString job.path).hasNul with
  | true => exact ⟨_, _, ends_of_nul _ (directory.trans nul), plan ▸ ends_of_nul _ (directory'.trans nul)⟩
  | false =>
    have run := run_of_plain relative compiles (directory.trans nul) rfl
    have run' := run_of_plain relative compiles' (directory'.trans nul) plan
    rw [← matched.config] at run'
    have unset : (planned job (p.frozen job) (p.walked job)).importFile = none := rfl
    generalize planned job (p.frozen job) (p.walked job) = r at run run' unset ⊢
    cases testdata : job.isTestdata with
    | false =>
      have kept : { r with importFile := none } = r := by rw [← unset]
      refine ⟨[], .ok none, ?_, ?_⟩
      · rw [Placement.Ends, run, testdata, List.append_nil, conclude, kept]
        rfl
      · rw [Placement.Ends, run', testdata, List.append_nil, conclude, kept]
        rfl
    | true =>
      obtain ⟨x, last, formatted, formatted'⟩ := Tool.runOn_format_both
        (fun f named => matched.formats f named (importText p.settings job r.packages))
        (Tool.afterAll p.host p.world (p.calls job (optionsOf p.settings.config job) r.generated))
        (Tool.afterAll q.host q.world (q.calls job (optionsOf p.settings.config job) r.generated))
      have same : importText p.settings job r.packages = importText q.settings job r.packages := by
        rw [importText, importText, matched.config, matched.modulePath]
      rw [same] at formatted'
      nth_rewrite 1 [matched.config] at formatted'
      refine ⟨last, x.map some, ?_, ?_⟩
      · rw [Placement.Ends, run, testdata, if_pos rfl, runOn_importFile formatted, Tool.afterAll_append]
      · rw [Placement.Ends, run', testdata, if_pos rfl, runOn_importFile formatted', Tool.afterAll_append]

end

namespace Placement.Sample

/-- A file that is annotated, one that the job leaves out, one in a directory of its own and one in a frozen tree. -/
def tree : Files :=
  ⟨[(["testdata"], .directory), (["testdata", "a.proto"], .file [1] false), (["testdata", "b.proto"], .file [2] false),
    (["testdata", "c"], .directory), (["testdata", "c", "c.proto"], .file [3] false),
    (["testdata", "legacy"], .directory), (["testdata", "legacy", "proto2_20190101_0123abcd"], .directory),
    (["testdata", "legacy", "proto2_20190101_0123abcd", "d.proto"], .file [4] false)]⟩

def job : Job := ⟨"testdata", false, ["testdata/a.proto"], ["testdata/b.proto"]⟩

/-- A host on which the compiler has nothing to complain about and the formatter nothing to change. -/
def host : Host := ⟨[], [], "gen", fun _ => none, fun call t => (.ended 0 (call.input.getD []) [], t), fun _ n => n, fun _ => false⟩

def settings (L : Place) : Settings :=
  ⟨.batch, .diff, ⟨"/", L⟩, "m", none, "gen", [], none, { Config.default with jobs := [job] }⟩

/-- The checkout at a place. -/
def placement (L : Place) : Placement :=
  ⟨host, ⟨tree.placed L, []⟩, settings L, compilerOf (settings L), Staging.pathOf ⟨"/", L⟩ 0⟩

/-- The way to this place looks like a frozen tree. -/
def frozenPlace : Place := ["legacy", "proto2_20160225_2fc053c5"]

theorem sound : tree.Sound := by decide

/-- A place whose names lead there. -/
def Ordinary (L : Place) : Prop :=
  (∀ n ∈ L, n ≠ "." ∧ n ≠ ".." ∧ '\x00' ∉ n.toList) ∧ Fits ⟨"/", L⟩ L ∧ Fits ⟨"/", L ++ ["testdata"]⟩ ["testdata"]

instance (L : Place) : Decidable (Ordinary L) := inferInstanceAs (Decidable (_ ∧ _ ∧ _))

theorem Ordinary.named {L : Place} (ordinary : Ordinary L) : ∀ n ∈ L, IsName n :=
  fun n mem => ⟨(ordinary.1 n mem).1, (ordinary.1 n mem).2.1, (ordinary.1 n mem).2.2⟩

theorem Ordinary.plain {L : Place} (ordinary : Ordinary L) : Path.hasNul ⟨"/", L⟩ = false := by
  simpa [Path.hasNul] using fun n mem => (ordinary.1 n mem).2.2

theorem matched {L M : Place} (here : Ordinary L) (there : Ordinary M) :
    (placement L).Matches (placement M) job where
  config := rfl
  modulePath := rfl
  keyed := (sound.placed here.named).keyed
  keyed_other := (sound.placed there.named).keyed
  plain := here.plain
  plain_other := there.plain
  corresponds := corresponds_placed sound here.named there.named (.inr here.2.1) (.inr there.2.1)
    (fun n mem => List.mem_singleton.1 mem ▸ ⟨by decide, by decide⟩) ⟨fun _ => .inr there.2.2, fun _ => .inr here.2.2⟩
  formats _ _ _ _ _ := rfl

theorem compiles {L : Place}
    (fit : ∀ file ∈ (planned job ((placement L).frozen job) ((placement L).walked job)).generated,
      ((placement L).call job file (optionsOf (settings L).config job file)).isUnfit = false) :
    (placement L).Compiles job :=
  fun file mem _ => ⟨[], [], Host.start_fst_eq_some_iff.2 ⟨fit file mem, rfl⟩⟩

end Placement.Sample

section

open Placement.Sample

theorem generateJob_placed_sample :
    ((placement ["repo"]).run job).1.toOption.map (fun r => (r.generated, r.skipped, r.importFile)) =
      some (["testdata/a.proto", "testdata/c/c.proto"],
        ["testdata/b.proto", "testdata/legacy/proto2_20190101_0123abcd/d.proto"], some "testdata/gen_test.go") ∧
    ∃ last text, (placement ["repo"]).Ends job (optionsOf (settings ["repo"]).config job)
        (planned job ((placement ["repo"]).frozen job) ((placement ["repo"]).walked job)) last text ∧
      (placement ["home", "dev"]).Ends job (optionsOf (settings ["repo"]).config job)
        (planned job ((placement ["repo"]).frozen job) ((placement ["repo"]).walked job)) last text :=
  ⟨by decide +kernel, generateJob_placed (matched (by decide) (by decide))
    (by decide) (compiles (by decide +kernel)) (compiles (by decide +kernel)) (by decide +kernel)⟩

/-- The pattern of frozen trees is searched in the way to the checkout too. -/
theorem generateJob_misplaced : (placement ["repo"]).Matches (placement frozenPlace) job ∧
    (placement ["repo"]).Compiles job ∧ (placement frozenPlace).Compiles job ∧
    ((placement ["repo"]).run job).1.toOption.map (fun r => (r.generated, r.packages)) =
      some (["testdata/a.proto", "testdata/c/c.proto"], [".", "c"]) ∧
    ((placement frozenPlace).run job).1.toOption.map (fun r => (r.generated, r.packages)) = some ([], []) :=
  ⟨matched (by decide) (by decide), compiles (by decide +kernel), compiles (by decide +kernel), by decide +kernel,
    by decide +kernel⟩

end

end Regen.Generation
