import Mathlib.Data.List.Nodup
import Regen.Proofs.Generation.Placed
import Regen.Proofs.Settings

/-!
# The files that a job compiles

A job compiles the files below its directory that are neither frozen nor left out, each of them once and in the order
of the walk, and it notes the directories of those that are not frozen (`generateJob_chosen`). When the compiler fails
on a file it has been run for the chosen files up to that one, and nothing else is done.
-/

namespace Regen

theorem Path.intercalate_append_inj {front names more : List String} (some : names ≠ []) (some' : more ≠ [])
    (same : "/".intercalate (front ++ names) = "/".intercalate (front ++ more)) :
    "/".intercalate names = "/".intercalate more := by
  by_cases none : front = []
  · rwa [none, List.nil_append, List.nil_append] at same
  · rw [String.intercalate_append_of_ne_nil none some, String.intercalate_append_of_ne_nil none some'] at same
    exact (String.append_right_inj _).1 same

namespace Generation

open Session Files

/-! ### Packages -/

theorem mem_addPackage {packages : List String} {d e : String} :
    d ∈ addPackage packages e ↔ d ∈ packages ∨ d = e := by
  unfold addPackage
  split
  · next there =>
    have there : e ∈ packages := by simpa using there
    constructor
    · exact .inl
    · rintro (mem | rfl)
      · exact mem
      · exact there
  · simp

theorem nodup_addPackage {packages : List String} (distinct : packages.Nodup) (e : String) :
    (addPackage packages e).Nodup := by
  unfold addPackage
  split
  · exact distinct
  · next fresh =>
    have fresh : e ∉ packages := by simpa using fresh
    exact List.nodup_append_comm.1 (List.nodup_cons.2 ⟨fresh, distinct⟩)

theorem mem_foldl_addPackage {packages more : List String} {d : String} :
    d ∈ more.foldl addPackage packages ↔ d ∈ packages ∨ d ∈ more := by
  induction more generalizing packages with
  | nil => simp
  | cons e more ih => rw [List.foldl_cons, ih, mem_addPackage, List.mem_cons, or_assoc]

theorem nodup_foldl_addPackage {packages : List String} (distinct : packages.Nodup) (more : List String) :
    (more.foldl addPackage packages).Nodup := by
  induction more generalizing packages with
  | nil => exact distinct
  | cons e more ih => exact ih (nodup_addPackage distinct e)

/-! ### What a job walks -/

section

variable {p : Placement} {job : Job} {names : List String}

theorem walked_of_plain (plain : (p.directory job).hasNul = false) :
    p.walked job = p.world.files.walkNames p.host.cwd (p.directory job) (some descriptionEndings) :=
  if_neg (Bool.eq_false_iff.1 plain)

theorem listed_of_mem_walked (keyed : p.world.files.Keyed) (mem : names ∈ p.walked job) :
    ∃ S, Listed p.world.files S (some descriptionEndings) names := by
  rw [Placement.walked] at mem
  split at mem
  · cases mem
  · exact keyed.listed_of_mem_walkNames mem

theorem nodup_walked (keyed : p.world.files.Keyed) : (p.walked job).Nodup := by
  rw [Placement.walked]
  split
  · exact List.nodup_nil
  · exact keyed.nodup_walkNames

/-- Files of a job are told apart by their paths in the repository. -/
theorem fileOf_inj (keyed : p.world.files.Keyed) (ordinary : p.world.files.Ordinary) {more : List String}
    (mem : names ∈ p.walked job) (mem' : more ∈ p.walked job) (same : fileOf job names = fileOf job more) :
    names = more := by
  obtain ⟨S, listed⟩ := listed_of_mem_walked keyed mem
  obtain ⟨S', listed'⟩ := listed_of_mem_walked keyed mem'
  obtain ⟨e, there, -⟩ := listed.file
  obtain ⟨e', there', -⟩ := listed'.file
  have isName : ∀ n ∈ names, IsEntryName n := fun n inside => ordinary.named _ e there n (by simp [inside])
  have isName' : ∀ n ∈ more, IsEntryName n := fun n inside => ordinary.named _ e' there' n (by simp [inside])
  have texts : "/".intercalate ((Path.ofString job.path).parts ++ names) =
      "/".intercalate ((Path.ofString job.path).parts ++ more) := by
    simpa [fileOf, Path.toString, listed.inner, listed'.inner] using same
  -- No name of an entry holds a slash, so the names are read back from the text that they make.
  have read := congrArg (fun text => Path.namesOf text.toList) (Path.intercalate_append_inj listed.inner listed'.inner texts)
  rwa [Path.namesOf_intercalate fun n inside => (isName n inside).isSegment,
    Path.namesOf_intercalate fun n inside => (isName' n inside).isSegment] at read

/-! ### The compiler's calls -/

/-- A file on which the compiler fails. -/
theorem runOn_generateFile_of_fails (relative : (Path.ofString job.path).isAbsolute = false) (r : JobResult)
    (taken : chosen job (p.frozen job) names = true) {w : World}
    (fails : ¬ Tool.EndsWell p.host w
      (p.call job (fileOf job names) (optionsOf p.settings.config job (fileOf job names)))) :
    ∃ e, Tool.FailsWith (p.call job (fileOf job names) (optionsOf p.settings.config job (fileOf job names))) e ∧
      (generateFile p.settings p.compiler job p.staging r names).runOn p.host w = (.error e, Tool.after p.host
        (p.call job (fileOf job names) (optionsOf p.settings.config job (fileOf job names))) w) := by
  obtain ⟨e, how, run⟩ := Tool.runOn_compile_of_fails fails
  refine ⟨e, how, ?_⟩
  rw [generateFile_eq relative, if_pos taken, localArguments_eq]
  exact runOn_bind_of_error run _

/-- The walk up to a file that is compiled. -/
theorem exists_of_compiled {frozen : List String → Bool} {walked : List (List String)} {front rest : List String}
    {file : String} (parted : compiled job frozen walked = front ++ file :: rest) :
    ∃ before names after, walked = before ++ names :: after ∧ compiled job frozen before = front ∧
      chosen job frozen names = true ∧ fileOf job names = file := by
  obtain ⟨kept, others, filtered, rfl, behind⟩ := List.map_eq_append_iff.1 parted
  obtain ⟨names, tail, rfl, rfl, -⟩ := List.map_eq_cons_iff.1 behind
  obtain ⟨before, onward, rfl, rfl, opens⟩ := List.filter_eq_append_iff.1 filtered
  obtain ⟨passed, after, rfl, none, taken, -⟩ := List.filter_eq_cons_iff.1 opens
  refine ⟨before ++ passed, names, after, by simp, ?_, taken, rfl⟩
  have nothing : passed.filter (chosen job frozen) = [] := List.filter_eq_nil_iff.2 none
  rw [compiled, List.filter_append, nothing, List.append_nil]

/-- The compiler fails on a file: it has been run for the files up to that one, and that is all that happened. -/
theorem run_of_fails (relative : (Path.ofString job.path).isAbsolute = false) {front rest : List String} {file : String}
    (parted : compiled job (p.frozen job) (p.walked job) = front ++ file :: rest)
    (succeed : Tool.Succeed p.host p.world (p.calls job (optionsOf p.settings.config job) front))
    (fails : ¬ Tool.EndsWell p.host (Tool.afterAll p.host p.world (p.calls job (optionsOf p.settings.config job) front))
      (p.call job file (optionsOf p.settings.config job file))) :
    ∃ e, Tool.FailsWith (p.call job file (optionsOf p.settings.config job file)) e ∧ p.run job = (.error e,
      Tool.afterAll p.host p.world (p.calls job (optionsOf p.settings.config job) (front ++ [file]))) := by
  have plain : (p.directory job).hasNul = false := by
    by_contra nul
    rw [Placement.walked, if_pos (by simpa using nul)] at parted
    simp [compiled] at parted
  obtain ⟨before, names, after, walk, rfl, taken, rfl⟩ := exists_of_compiled parted
  have ran := runOn_foldlM_generateFile relative before ⟨job.path, [], [], [], none⟩ p.world succeed
  obtain ⟨e, how, failed⟩ := runOn_generateFile_of_fails relative
    (.after job (p.frozen job) ⟨job.path, [], [], [], none⟩ before) taken fails
  refine ⟨e, how, ?_⟩
  -- The files behind the failing one are not looked at.
  have folded : ((p.walked job).foldlM (generateFile p.settings p.compiler job p.staging)
      ⟨job.path, [], [], [], none⟩).runOn p.host p.world = (.error e, Tool.afterAll p.host p.world
        (p.calls job (optionsOf p.settings.config job) (compiled job (p.frozen job) before ++ [fileOf job names]))) := by
    rw [walk, List.foldlM_append, runOn_bind_of_ok ran, List.foldlM_cons, runOn_bind_of_error failed,
      Placement.calls_append, Tool.afterAll_append]
    rfl
  rw [run_eq_bind plain, runOn_bind_of_error folded]

/-- A job that comes to its end could ask for its directory. -/
theorem plain_of_run {r : JobResult} {w : World} (run : p.run job = (.ok r, w)) : (p.directory job).hasNul = false := by
  refine Bool.eq_false_iff.2 fun nul => ?_
  have ends := ends_of_nul (optionsOf p.settings.config job) nul
  rw [Placement.Ends, run] at ends
  cases ends

/-- A job that comes to its end has had all its files compiled. -/
theorem succeed_of_run (relative : (Path.ofString job.path).isAbsolute = false) {r : JobResult} {w : World}
    (run : p.run job = (.ok r, w)) : Tool.Succeed p.host p.world
      (p.calls job (optionsOf p.settings.config job) (compiled job (p.frozen job) (p.walked job))) := by
  refine (Tool.succeed_or_fails _ p.world).resolve_right ?_
  rintro ⟨front, call, rest, parted, succeed, fails⟩
  obtain ⟨files, others, compiled, rfl, behind⟩ := List.map_eq_append_iff.1 parted
  obtain ⟨file, more, rfl, rfl, -⟩ := List.map_eq_cons_iff.1 behind
  obtain ⟨e, -, failed⟩ := run_of_fails relative compiled succeed fails
  rw [run] at failed
  cases failed

/-- Writing a file is not noted. -/
theorem journal_writeFile (path : Path) (content : Bytes) (w : World) :
    ((writeFile path content).runOn p.host w).2.journal = w.journal :=
  keeps_iff.1 (keeps_writeFile_of_files (I := fun v => v.journal = w.journal) (fun _ _ same => same) path content) w rfl

/-- What is left of a job when its files have been compiled. -/
theorem conclude_of_ok {r r' : JobResult} {x : Except Failure (Option String)} {w w' : World}
    (run : (conclude p.staging job r x).runOn p.host w = (.ok r', w')) :
    w'.journal = w.journal ∧ ∃ file, r' = { r with importFile := file } := by
  cases x with
  | error e => cases run
  | ok text =>
    cases text with
    | none =>
      cases run
      exact ⟨rfl, none, rfl⟩
    | some text =>
      obtain ⟨_, v, wrote, ended⟩ := runOn_bind_eq_ok_iff.1 run
      have kept := journal_writeFile (p := p) (p.staging.join (Path.joinText job.path importFileName)) (Text.bytes text) w
      rw [wrote] at kept
      cases ended
      exact ⟨kept, _, rfl⟩

/-! ### What a job has done -/

/-- The calls of a job that comes to its end: those that compile its files, and that which formats the import file. -/
def Placement.jobCalls (p : Placement) (job : Job) (r : JobResult) : List Call :=
  p.calls job (optionsOf p.settings.config job) r.generated ++
    (if job.isTestdata then Tool.formatCalls p.settings.config.formatter (importText p.settings job r.packages) else [])

/-- A job that comes to its end has done what was planned, with these calls. -/
theorem run_of_ok (relative : (Path.ofString job.path).isAbsolute = false) {r : JobResult} {w : World}
    (run : p.run job = (.ok r, w)) :
    (∃ file, r = { planned job (p.frozen job) (p.walked job) with importFile := file }) ∧
      w.journal = p.world.journal ++ (p.jobCalls job r).map .ran := by
  have succeed : Tool.Succeed p.host p.world (p.calls job (optionsOf p.settings.config job)
      (planned job (p.frozen job) (p.walked job)).generated) := succeed_of_run relative run
  rw [run_of_succeed relative (plain_of_run run) rfl succeed] at run
  have unset : (planned job (p.frozen job) (p.walked job)).importFile = none := rfl
  generalize planned job (p.frozen job) (p.walked job) = plan at run unset ⊢
  unfold Placement.jobCalls
  cases testdata : job.isTestdata with
  | false =>
    rw [testdata] at run
    cases run
    exact ⟨⟨none, by rw [← unset]⟩, by rw [Tool.journal_afterAll, if_neg Bool.false_ne_true, List.append_nil]⟩
  | true =>
    rw [testdata, if_pos rfl] at run
    obtain ⟨x, formatted⟩ := Tool.runOn_format_calls p.settings.config.formatter (importText p.settings job plan.packages)
      (Tool.afterAll p.host p.world (p.calls job (optionsOf p.settings.config job) plan.generated))
    rw [runOn_importFile formatted, ← Tool.afterAll_append] at run
    obtain ⟨journal, file, rfl⟩ := conclude_of_ok run
    exact ⟨⟨file, rfl⟩, by rw [journal, Tool.journal_afterAll, if_pos rfl]⟩

/-- What a job that came to its end did with its files. -/
structure Placement.Finished (p : Placement) (job : Job) (r : JobResult) (w : World) : Prop where
  generated : r.generated = ((p.walked job).filter (chosen job (p.frozen job))).map (fileOf job)
  skipped : r.skipped = ((p.walked job).filter fun names => !chosen job (p.frozen job) names).map (fileOf job)
  /-- Each file of the walk is compiled or skipped once, and none is both. -/
  parted : (r.generated ++ r.skipped).Perm ((p.walked job).map (fileOf job))
  distinct : ((p.walked job).map (fileOf job)).Nodup
  disjoint : r.generated.Disjoint r.skipped
  compiled : ∀ names ∈ p.walked job,
    (fileOf job names ∈ r.generated ↔ p.frozen job names = false ∧ fileOf job names ∉ job.exclude)
  packages : r.packages.Nodup ∧
    ∀ d, d ∈ r.packages ↔ ∃ names ∈ p.walked job, p.frozen job names = false ∧ packageOf names = d
  /-- The compiler ended well each time. -/
  succeed : Tool.Succeed p.host p.world (p.calls job (optionsOf p.settings.config job) r.generated)
  /-- The compiler was called for each file that is compiled, in order, and then the formatter at most. -/
  calls : w.journal = p.world.journal ++ (p.jobCalls job r).map .ran
  /-- The walk names the description files below the job's directory, in order. -/
  walk : ∀ S, p.world.files.find? p.host.cwd (p.directory job) = some (S, .directory) →
    (∀ names, names ∈ p.walked job ↔ Listed p.world.files S (some descriptionEndings) names) ∧
      (p.walked job).Pairwise (namesLe · ·)
  absent : p.world.files.isDirectory p.host.cwd (p.directory job) = false → p.walked job = []

/-- What the compiler is told when it is called for a file. -/
structure Placement.Told (p : Placement) (job : Job) (file options : String) : Prop where
  last : (p.call job file options).argv.getLast? = some file
  output : s!"--go_out={options}:{p.staging}" ∈ (p.call job file options).argv
  backends : ∃ env, (p.call job file options).env = some env ∧ env.value Tool.pluginEnv = job.backends

theorem told (p : Placement) (job : Job) (file options : String) : p.Told job file options where
  last := by
    have argv : (p.call job file options).argv = p.compiler.command :: ("--plugin=protoc-gen-go=" ++ p.compiler.generator) ::
        p.searched ++ [s!"--go_out={options}:{p.staging}"] ++ [file] := by
      simp [Placement.call, Tool.Compiler.call, Tool.Compiler.argv]
    rw [argv, List.getLast?_concat]
  output := by simp [Placement.call, Tool.Compiler.call, Tool.Compiler.argv]
  backends := ⟨_, rfl, Settings.value_childEnv_plugin p.compiler p.host.env job.backends⟩

theorem chosen_iff {frozen : List String → Bool} :
    chosen job frozen names = true ↔ frozen names = false ∧ fileOf job names ∉ job.exclude := by
  simp [chosen]

/-- A job that comes to its end has done with its files what was planned for them. -/
theorem finished_of_run (relative : (Path.ofString job.path).isAbsolute = false) (keyed : p.world.files.Keyed)
    (ordinary : p.world.files.Ordinary) {r : JobResult} {w : World} (run : p.run job = (.ok r, w)) :
    p.Finished job r w := by
  have inj : ∀ names ∈ p.walked job, ∀ more ∈ p.walked job, fileOf job names = fileOf job more → names = more :=
    fun names mem more mem' => fileOf_inj keyed ordinary mem mem'
  obtain ⟨⟨file, rfl⟩, calls⟩ := run_of_ok relative run
  have generated : (planned job (p.frozen job) (p.walked job)).generated =
      ((p.walked job).filter (chosen job (p.frozen job))).map (fileOf job) := rfl
  have skipped : (planned job (p.frozen job) (p.walked job)).skipped =
      ((p.walked job).filter fun names => !chosen job (p.frozen job) names).map (fileOf job) := rfl
  have parted : ((planned job (p.frozen job) (p.walked job)).generated ++
      (planned job (p.frozen job) (p.walked job)).skipped).Perm ((p.walked job).map (fileOf job)) := by
    rw [generated, skipped, ← List.map_append]
    exact (List.filter_append_perm _ _).map _
  have distinct : ((p.walked job).map (fileOf job)).Nodup := (nodup_walked keyed).map_on inj
  constructor
  case generated => exact generated
  case skipped => exact skipped
  case parted => exact parted
  case distinct => exact distinct
  case disjoint => exact (List.nodup_append'.1 (parted.nodup_iff.2 distinct)).2.2
  case compiled =>
    intro names mem
    rw [generated, ← chosen_iff, List.mem_map]
    constructor
    · rintro ⟨more, mem', same⟩
      obtain ⟨walked, taken⟩ := List.mem_filter.1 mem'
      rwa [inj more walked names mem same] at taken
    · exact fun taken => ⟨names, List.mem_filter.2 ⟨mem, taken⟩, rfl⟩
  case packages =>
    refine ⟨nodup_foldl_addPackage List.nodup_nil _, fun d => ?_⟩
    simp [planned, JobResult.after, mem_foldl_addPackage, and_assoc]
  case succeed => exact succeed_of_run relative run
  case calls => exact calls
  case walk =>
    intro S found
    rw [walked_of_plain (plain_of_run run)]
    exact ⟨fun names => keyed.mem_walkNames found, pairwise_walkNames ..⟩
  case absent =>
    intro absent
    rw [walked_of_plain (plain_of_run run), walkNames_of_not_directory absent]

/-- **The files of a job.** A job that comes to its end has compiled the files below its directory that are neither
frozen nor left out, each once and in the order of the walk, and has skipped the others; it notes the directories of
those that are not frozen. When the compiler fails on a file it has been called for the chosen files up to that one,
and what it left of the files is all that changed: no import file is written. -/
theorem generateJob_chosen (relative : (Path.ofString job.path).isAbsolute = false) (keyed : p.world.files.Keyed)
    (ordinary : p.world.files.Ordinary) :
    (∀ r w, p.run job = (.ok r, w) → p.Finished job r w) ∧
    (∀ front file rest, compiled job (p.frozen job) (p.walked job) = front ++ file :: rest →
      Tool.Succeed p.host p.world (p.calls job (optionsOf p.settings.config job) front) →
      ¬ Tool.EndsWell p.host
        (Tool.afterAll p.host p.world (p.calls job (optionsOf p.settings.config job) front))
        (p.call job file (optionsOf p.settings.config job file)) →
      ∃ (e : Failure) (w : World), Tool.FailsWith (p.call job file (optionsOf p.settings.config job file)) e ∧
        p.run job = (.error e, w) ∧
        w = Tool.afterAll p.host p.world (p.calls job (optionsOf p.settings.config job) (front ++ [file])) ∧
        w.journal = p.world.journal ++
          (p.calls job (optionsOf p.settings.config job) (front ++ [file])).map .ran) ∧
    ∀ file options, p.Told job file options := by
  refine ⟨fun r w run => finished_of_run relative keyed ordinary run, ?_, told p job⟩
  intro front file rest parted succeed fails
  obtain ⟨e, how, run⟩ := run_of_fails relative parted succeed fails
  exact ⟨e, _, how, run, rfl, Tool.journal_afterAll _ _⟩

end

namespace Placement.Sample

/-- A host on which the compiler fails on one file. -/
def failingHost : Host :=
  { host with run := fun call t =>
      (if call.argv.getLast? = some "testdata/c/c.proto" then .ended 1 [] [] else .ended 0 [] [], t) }

/-- The checkout on a host on which the compiler fails. -/
def failing : Placement := { placement ["repo"] with host := failingHost }

/-- What the job does in the repository. -/
def result : JobResult where
  path := "testdata"
  generated := ["testdata/a.proto", "testdata/c/c.proto"]
  skipped := ["testdata/b.proto", "testdata/legacy/proto2_20190101_0123abcd/d.proto"]
  packages := [".", "c"]
  importFile := some "testdata/gen_test.go"

theorem keyed : (placement ["repo"]).world.files.Keyed := by
  have here : Sample.Ordinary ["repo"] := by decide
  exact (sound.placed here.named).keyed

theorem ordinary : (placement ["repo"]).world.files.Ordinary := .of_entries (by decide +kernel) (by decide +kernel)

end Placement.Sample

open Placement.Sample in
theorem generateJob_chosen_sample :
    (∃ w, (placement ["repo"]).run job = (.ok result, w) ∧ (placement ["repo"]).Finished job result w) ∧
    ∃ (fault : ToolFault) (w : World), failing.run job = (.error (.tool fault), w) ∧
      w.journal = (failing.calls job (optionsOf failing.settings.config job)
        ["testdata/a.proto", "testdata/c/c.proto"]).map .ran := by
  have relative : (Path.ofString job.path).isAbsolute = false := by decide
  constructor
  · have ran : ((placement ["repo"]).run job).1 = .ok result := by decide +kernel
    have run : (placement ["repo"]).run job = (.ok result, ((placement ["repo"]).run job).2) := Prod.ext ran rfl
    exact ⟨_, run, (generateJob_chosen relative keyed ordinary).1 _ _ run⟩
  · have parted : compiled job (failing.frozen job) (failing.walked job) =
        ["testdata/a.proto"] ++ "testdata/c/c.proto" :: [] := by decide +kernel
    have succeed : Tool.Succeed failing.host failing.world
        (failing.calls job (optionsOf failing.settings.config job) ["testdata/a.proto"]) :=
      ⟨⟨[], [], Host.start_fst_eq_some_iff.2 ⟨by decide +kernel, rfl⟩⟩, trivial⟩
    obtain ⟨e, w, how, run, -, journal⟩ :=
      (generateJob_chosen (p := failing) relative keyed ordinary).2.1 _ _ _ parted succeed (by
        rintro ⟨out, err, ended⟩
        cases (Host.start_fst_eq_some_iff.1 ended).2)
    cases how with
    | unfit unfit =>
      have fit : (failing.call job "testdata/c/c.proto"
        (optionsOf failing.settings.config job "testdata/c/c.proto")).isUnfit = false := by decide +kernel
      rw [fit] at unfit
      cases unfit
    | tool fault => exact ⟨fault, w, run, journal⟩

end Generation
end Regen
