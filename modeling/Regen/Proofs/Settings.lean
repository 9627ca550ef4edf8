import Regen.Generation.Run
import Regen.Proofs.Files.Change
import Regen.Proofs.Files.Resolve
import Regen.Proofs.Session
import Regen.Settings.Resolve

/-!
# A batch process and its generators

A batch process tells the processes that the compiler starts for it what to generate. It does so by variables of
their environment, and they read them in another directory (`ofEnvironment_ofOptions`). A variable that the batch
process does not set reaches them as it stands, so a configuration file that only the environment names is read
by them alone (`ofEnvironment_strays`).
-/

namespace Regen

open Files

/-! ### Loading a configuration -/

namespace Files

variable {t : Files} {base p : Place} {path : Path} {content : Bytes} {x : Bool}

theorem isFile_of_there (found : t.locate base true path = .ok p) (there : t.get? p = some (.file content x)) :
    t.isFile base path = .ok true := by
  simp only [isFile, found, there]

end Files

namespace Config

variable {host : Host} {w w' : World} {path path' : Path} {c : Config}

theorem ofYaml_path {name name' text : String} (read : ofYaml name text = .ok c) : ofYaml name' text = .ok c := by
  unfold ofYaml at read ⊢
  cases document : Yaml.document text with
  | error f =>
    rw [document] at read
    cases f <;> cases read
  | ok d =>
    rw [document] at read
    cases d with
    | null => exact read
    | table es =>
      simp only at read ⊢
      split at read
      · cases read
      · exact read
    | _ => cases read

/-- What a file holds does not depend on the path by which it is read. -/
theorem ofBytes_path {name name' : String} {content : Bytes} (read : ofBytes name content = .ok c) :
    ofBytes name' content = .ok c := by
  unfold ofBytes at read ⊢
  split at read
  · cases read
  · exact ofYaml_path read

/-- A configuration is loaded from a file that is there, can be read and holds one. -/
theorem runOn_ofFile_eq_ok_iff : (ofFile path).runOn host w = (.ok c, w') ↔
    path.hasNul = false ∧ w.files.isFile host.cwd path = .ok true ∧
      (∃ content, w.files.read host.cwd path = .ok content ∧ ofBytes path.toString content = .ok c) ∧ w' = w := by
  rw [ofFile, Session.runOn_bind, Session.isFile]
  cases nul : path.hasNul with
  | true => simp [Session.runOn_bind]
  | false =>
    rw [if_neg Bool.false_ne_true, Session.runOn_inspect]
    generalize w.files.isFile host.cwd path = found
    rcases found with e | _ | _
    · simp
    · simp [Session.runOn_bind]
    · simp only [Bool.not_true, Bool.false_eq_true, if_false, Session.runOn_bind, Session.runOn_tryCatch,
        Session.readFile, Session.runOn_inspect, Session.runOn_demand_of_plain nul]
      cases w.files.read host.cwd path with
      | error e => simp
      | ok content => simp [eq_comm]

/-- A configuration that was loaded from a path text is loaded from the resolved path too, whatever the current
directory is. -/
theorem runOn_ofFile_resolved {text : String} {q : Place} (ordinary : w.files.Ordinary)
    (loaded : (ofFile (Path.ofString text)).runOn host w = (.ok c, w'))
    (resolved : w.files.resolve host.cwd (Path.ofString text) = some q)
    (short : (Session.pathOf q).toString.utf8ByteSize < pathBytesLimit) (host' : Host) :
    Path.ofString (Session.pathOf q).toString = Session.pathOf q ∧
      (ofFile (Session.pathOf q)).runOn host' w = (.ok c, w) := by
  obtain ⟨-, -, ⟨content, read, holds⟩, -⟩ := runOn_ofFile_eq_ok_iff.1 loaded
  obtain ⟨p, found, file⟩ := read_eq_ok read
  obtain rfl : p = q := by
    rw [resolve_of_locate (fun dot => Path.ne_dot_of_mem_namesOf dot rfl) found] at resolved
    exact Option.some.inj resolved
  obtain ⟨x, there⟩ := content?_eq_some_iff.1 file
  have names := ordinary.named _ _ there
  have leads := ordinary.locate_pathOf there short host'.cwd
  have plain : (Session.pathOf p).hasNul = false := by
    simpa [Path.hasNul, Session.pathOf] using fun n mem => (names n mem).nul
  exact ⟨Path.ofString_pathOf names, runOn_ofFile_eq_ok_iff.2
    ⟨plain, isFile_of_there leads there, ⟨content, read_of_there leads there, ofBytes_path holds⟩, rfl⟩⟩

end Config

namespace Session

theorem runOn_resolve_eq_ok_iff {host : Host} {w w' : World} {path p : Path} :
    (resolve path).runOn host w = (.ok p, w') ↔
      path.hasNul = false ∧ (∃ q, w.files.resolve host.cwd path = some q ∧ p = pathOf q) ∧ w' = w := by
  rw [resolve, runOn_bind, runOn_demand]
  cases path.hasNul with
  | true => simp
  | false =>
    simp only [Bool.false_eq_true, if_false, runOn_bind, runOn_look]
    cases w.files.resolve host.cwd path with
    | none => simp
    | some q => simp [eq_comm]

end Session

namespace Settings

section

variable {host : Host} {w w' : World} {o : Options} {s : Settings}

/-- What was told, or else what is found out. -/
def orElse {α : Type} (told : Option α) (discovered : Session α) : Session α :=
  match told with
  | some a => pure a
  | none => discovered

theorem ofOptions_eq (o : Options) : ofOptions o = match told o.protoRoot with
    | none => throw (.config .noSourceRoot)
    | some protoRoot => do
      let config ← Config.load o.configPath
      let config ← Session.ofExcept (withOverrides config o.overrides)
      let root ← Session.resolve (← orElse o.repoRoot Tool.repositoryRoot)
      let modulePath ← orElse (told o.modulePath) (Tool.modulePath root)
      let protoRoot ← Session.resolve (Path.ofString protoRoot)
      let executable ← orElse (told o.pluginExecutable) (do defaultExecutable (← read).program)
      let configPath ← o.configPath.mapM Session.resolve
      return ⟨.batch, if o.execute then .apply else .diff, root, modulePath, some protoRoot, executable, [],
        configPath, config⟩ := by
  unfold ofOptions
  cases told o.protoRoot with
  | none => rfl
  | some protoRoot =>
    cases o.repoRoot <;> cases told o.modulePath <;> cases told o.pluginExecutable <;>
      simp only [orElse, pure_bind, bind_assoc]

/-- What the settings of a batch process take from its options. -/
theorem runOn_ofOptions (run : (ofOptions o).runOn host w = (.ok s, w')) :
    ∃ loaded v v', (Config.load o.configPath).runOn host w = (.ok loaded, v) ∧
      withOverrides loaded o.overrides = .ok s.config ∧
      (o.configPath.mapM Session.resolve).runOn host v' = (.ok s.configPath, w') := by
  rw [ofOptions_eq] at run
  split at run
  · cases run
  · simp only [Session.runOn_bind_eq_ok_iff, Session.runOn_ofExcept, Session.runOn_pure, Prod.mk.injEq,
      Except.ok.injEq] at run
    obtain ⟨loaded, v, load, config, _, ⟨layered, rfl⟩, run⟩ := run
    obtain ⟨_, _, -, _, _, -, _, _, -, _, _, -, _, _, -, run⟩ := run
    obtain ⟨configPath, v', resolved, rfl, rfl⟩ := run
    exact ⟨loaded, v, _, load, layered, resolved⟩

/-! ### The variables of a generator's environment -/

theorem value_put (env : Env) (k k' v : String) :
    Env.value (Assoc.put env k v) k' = if k' = k then v else env.value k' := by
  rw [Env.value, Assoc.get?_put]
  split <;> rfl

section

variable (c : Tool.Compiler) (env : Env) (backends : String)

theorem value_childEnv_plugin : Env.value (c.childEnv env backends) Tool.pluginEnv = backends := by
  unfold Tool.Compiler.childEnv
  cases c.config <;> by_cases none : c.modulePath = "" <;>
    simp [none, value_put, Tool.pluginEnv, Tool.modulePathEnv, Tool.configEnv]

theorem value_childEnv_modulePath (known : c.modulePath ≠ "") :
    Env.value (c.childEnv env backends) Tool.modulePathEnv = c.modulePath := by
  unfold Tool.Compiler.childEnv
  cases c.config <;> simp [known, value_put, Tool.modulePathEnv, Tool.configEnv]

/-- A compiler without a configuration file leaves the variable as it is. -/
theorem value_childEnv_config : Env.value (c.childEnv env backends) Tool.configEnv =
    c.config.elim (env.value Tool.configEnv) Path.toString := by
  unfold Tool.Compiler.childEnv
  cases c.config <;> by_cases none : c.modulePath = "" <;>
    simp [none, value_put, Tool.pluginEnv, Tool.modulePathEnv, Tool.configEnv]

end

theorem runOn_ofEnvironment {child : Host} {v : World} {configPath : Option Path} {c : Config}
    (known : child.env.value Tool.modulePathEnv ≠ "")
    (named : (told (some (child.env.value Tool.configEnv))).map Path.ofString = configPath)
    (load : (Config.load configPath).runOn child v = (.ok c, v)) :
    ofEnvironment.runOn child v = (.ok ⟨.plugin, .diff, Session.pathOf child.cwd,
      child.env.value Tool.modulePathEnv, none, "", (runMode child.env).2, configPath, c⟩, v) := by
  have module : told (some (child.env.value Tool.modulePathEnv)) = some (child.env.value Tool.modulePathEnv) := by
    simp [told, Option.filter, known]
  have host : (read : Session Host).runOn child v = (.ok child, v) := rfl
  have root : Session.currentDirectory.runOn child v = (.ok (Session.pathOf child.cwd), v) := rfl
  rw [ofEnvironment, Session.runOn_bind_of_ok host]
  simp only [named, module]
  rw [Session.runOn_bind_of_ok root]
  simp only [pure_bind]
  rw [Session.runOn_bind_of_ok load]
  rfl

/-- The host and the world of a generator that was started by a batch process with the settings `s`, which left
the world `w`: the environment is the one that the batch process made, and the file of the configuration is as it
was. -/
structure Started (host : Host) (w : World) (s : Settings) (job : Job) (child : Host) (v : World) : Prop where
  env : child.env = (Generation.compilerOf s).childEnv host.env job.backends
  same : ∀ p ∈ s.configPath, v.files.isFile child.cwd p = w.files.isFile child.cwd p ∧
    v.files.read child.cwd p = w.files.read child.cwd p

/-- A generator finds the path of the configuration that the batch process loaded, and loads it again. -/
theorem Started.finds {text : Option String} {job : Job} {child : Host} {v v₁ v₂ : World} {loaded : Config}
    (started : Started host w' s job child v) (named : o.configPath = text.map Path.ofString)
    (load : (Config.load o.configPath).runOn host w = (.ok loaded, v₁))
    (resolved : (o.configPath.mapM Session.resolve).runOn host v₂ = (.ok s.configPath, w'))
    (own : o.configPath = none → host.env.value Tool.configEnv = "") (ordinary : w.files.Ordinary)
    (still : w'.files = w.files) (short : ∀ p ∈ s.configPath, p.toString.utf8ByteSize < pathBytesLimit) :
    (told (some (child.env.value Tool.configEnv))).map Path.ofString = s.configPath ∧
      (Config.load s.configPath).runOn child v = (.ok loaded, v) ∧
      (s.configPath = none ↔ o.configPath = none) ∧ v₁ = w := by
  have value : child.env.value Tool.configEnv =
      s.configPath.elim (host.env.value Tool.configEnv) Path.toString := by
    rw [started.env, value_childEnv_config]
    rfl
  cases text with
  | none =>
    rw [named] at load resolved own ⊢
    have none : s.configPath = none := (Except.ok.inj (congrArg Prod.fst resolved)).symm
    rw [none, Option.elim_none, own rfl] at value
    rw [none, value]
    cases load
    exact ⟨rfl, rfl, by simp, rfl⟩
  | some text =>
    rw [named, Option.map_some] at load resolved ⊢
    rw [Option.mapM_some, map_eq_pure_bind, Session.runOn_bind_eq_ok_iff] at resolved
    obtain ⟨p, _, resolved, made⟩ := resolved
    obtain ⟨-, ⟨q, found, rfl⟩, rfl⟩ := Session.runOn_resolve_eq_ok_iff.1 resolved
    obtain ⟨path, rfl⟩ := Prod.mk.inj made
    have path : s.configPath = some (Session.pathOf q) := (Except.ok.inj path).symm
    rw [still] at found
    have fits := short _ path
    obtain ⟨read, again⟩ := Config.runOn_ofFile_resolved ordinary load found fits child
    obtain ⟨plain, there, ⟨content, holds, valid⟩, -⟩ := Config.runOn_ofFile_eq_ok_iff.1 again
    obtain ⟨sameFile, sameContent⟩ := started.same _ path
    rw [still] at sameFile sameContent
    rw [path, Option.elim_some] at value
    have told : told (some (Session.pathOf q).toString) = some (Session.pathOf q).toString := by
      simp [Settings.told, Option.filter, Session.pathOf, Path.toString]
    rw [path, value, told, Option.map_some, read]
    refine ⟨rfl, ?_, by simp, (Config.runOn_ofFile_eq_ok_iff.1 load).2.2.2⟩
    exact Config.runOn_ofFile_eq_ok_iff.2
      ⟨plain, sameFile.trans there, ⟨content, sameContent.trans holds, valid⟩, rfl⟩

/-- What the settings of a generator take from those of the batch process. -/
structure Takes (parent child : Settings) (job : Job) (loaded : Config) : Prop where
  mode : child.mode = .plugin
  backends : child.pluginBackends = namesOf job.backends
  modulePath : child.modulePath = parent.modulePath
  configPath : child.configPath = parent.configPath
  config : child.config = loaded

/-- A generator serves what the batch process asks of it, with the tables that the batch process loaded, unless
the batch process has the packaged ones and the environment names others. -/
theorem ofEnvironment_ofOptions {text : Option String} (named : o.configPath = text.map Path.ofString)
    (run : (ofOptions o).runOn host w = (.ok s, w')) (known : s.modulePath ≠ "")
    (own : o.configPath = none → host.env.value Tool.configEnv = "") (ordinary : w.files.Ordinary)
    (still : w'.files = w.files) (short : ∀ p ∈ s.configPath, p.toString.utf8ByteSize < pathBytesLimit) {job : Job}
    {child : Host} {v : World} (started : Started host w' s job child v) :
    ∃ loaded served, (Config.load o.configPath).runOn host w = (.ok loaded, w) ∧
      withOverrides loaded o.overrides = .ok s.config ∧ ofEnvironment.runOn child v = (.ok served, v) ∧
      Takes s served job loaded ∧ (served.configPath = none ↔ o.configPath = none) := by
  obtain ⟨loaded, v₁, v₂, load, layered, resolved⟩ := runOn_ofOptions run
  have backends : child.env.value Tool.pluginEnv = job.backends := by
    rw [started.env, value_childEnv_plugin]
  have module : child.env.value Tool.modulePathEnv = s.modulePath := by
    rw [started.env, value_childEnv_modulePath _ _ _ known]
    rfl
  have serves : (runMode child.env).2 = namesOf job.backends := by
    have some : job.backends ≠ "" := by
      rw [Job.backends]
      cases job.grpc <;> decide
    simp only [runMode, backends, if_neg some]
  obtain ⟨path, again, packaged, rfl⟩ := started.finds named load resolved own ordinary still short
  exact ⟨loaded, _, load, layered, runOn_ofEnvironment (by rwa [module]) path again,
    ⟨rfl, serves, module, rfl, rfl⟩, packaged⟩

end

namespace Sample

/-- A configuration behind a link, and another one that only the environment names. -/
def world : World where
  files := ⟨[(["conf"], .directory), (["conf", "gen.yml"], .file [] false), (["link"], .link "conf/"),
    (["other.yml"], .file [] false), (["repo"], .directory)]⟩
  journal := []

def host : Host :=
  ⟨[(Tool.configEnv, "/other.yml")], ["repo"], "regen", fun _ => none, fun _ t => (.unstarted 0, t), fun _ n => n, fun _ => false⟩

/-- The options of a run that needs no tool to find out about the repository. -/
def options (configPath : Option Path) : Options :=
  ⟨false, some "/protos", configPath, [], some (Path.ofString "."), some "example.com/m", some "/bin/regen"⟩

def settings (configPath : Option Path) (config : Config) : Settings :=
  ⟨.batch, .diff, ⟨"/", ["repo"]⟩, "example.com/m", some ⟨"/", ["protos"]⟩, "/bin/regen", [], configPath, config⟩

def job : Job := ⟨"testdata", true, [], []⟩

/-- A generator that the compiler starts in another directory. -/
def child (s : Settings) : Host :=
  { host with env := (Generation.compilerOf s).childEnv host.env job.backends, cwd := ["conf"] }

theorem started (s : Settings) : Started host world s job (child s) world := ⟨rfl, fun _ _ => ⟨rfl, rfl⟩⟩

theorem ordinary : world.files.Ordinary := .of_entries (by decide) (by decide)

/-- A result that is computed in a world that stays. -/
theorem runOn_eq_ok {α : Type} {m : Session α} {host : Host} {a : α} (result : (m.runOn host world).1.toOption = some a)
    (files : (m.runOn host world).2.files.entries = world.files.entries)
    (journal : (m.runOn host world).2.journal = []) : m.runOn host world = (.ok a, world) := by
  generalize m.runOn host world = r at result files journal
  obtain ⟨_ | b, ⟨⟨entries⟩, events⟩⟩ := r
  · cases result
  · cases result
    cases files
    cases journal
    rfl

theorem run_linked : (ofOptions (options (some (Path.ofString "../link/gen.yml")))).runOn host world =
    (.ok (settings (some ⟨"/", ["conf", "gen.yml"]⟩) .default), world) :=
  runOn_eq_ok (by decide +kernel) (by decide +kernel) (by decide +kernel)

theorem run_packaged : (ofOptions (options none)).runOn host world = (.ok (settings none .packaged), world) :=
  runOn_eq_ok (by decide +kernel) (by decide) (by decide)

theorem serve_stray : ofEnvironment.runOn (child (settings none .packaged)) world =
    (.ok ⟨.plugin, .diff, ⟨"/", ["conf"]⟩, "example.com/m", none, "", ["go", "grpc"], some ⟨"/", ["other.yml"]⟩,
      .default⟩, world) :=
  runOn_eq_ok (by decide) (by decide +kernel) (by decide +kernel)

end Sample

/-- The configuration that the parent reads through a link is the one that a generator in another directory
reads, whatever the environment of the parent named. -/
theorem ofEnvironment_ofOptions_sample :
    ∃ loaded served, (Config.load (some (Path.ofString "../link/gen.yml"))).runOn Sample.host Sample.world =
        (.ok loaded, Sample.world) ∧
      withOverrides loaded [] = .ok .default ∧
      ofEnvironment.runOn (Sample.child (Sample.settings (some ⟨"/", ["conf", "gen.yml"]⟩) .default)) Sample.world =
        (.ok served, Sample.world) ∧
      Takes (Sample.settings (some ⟨"/", ["conf", "gen.yml"]⟩) .default) served Sample.job loaded ∧
      (served.configPath = none ↔ some (Path.ofString "../link/gen.yml") = none) :=
  ofEnvironment_ofOptions (show _ = (some "../link/gen.yml").map Path.ofString from rfl) Sample.run_linked (by decide)
    nofun Sample.ordinary rfl (by rintro _ ⟨⟩; decide) (Sample.started _)

/-- The parent has the packaged tables, and its generators read those that the environment of the parent named. -/
theorem ofEnvironment_strays : ∃ s served, (ofOptions (Sample.options none)).runOn Sample.host Sample.world =
      (.ok s, Sample.world) ∧ ofEnvironment.runOn (Sample.child s) Sample.world = (.ok served, Sample.world) ∧
      s.configPath = none ∧ served.configPath = some ⟨"/", ["other.yml"]⟩ ∧ served.config ≠ s.config :=
  ⟨_, _, Sample.run_packaged, Sample.serve_stray, rfl, rfl, by decide⟩

end Settings

end Regen
