import Regen.Config.Load
import Regen.Settings.Basic
import Regen.Tool

/-!
# Settings from options and from the environment

A batch run gets its settings from the command line and, where that says nothing, from the
repository around the current directory. A process that serves as a generator gets them from
its environment.
-/

namespace Regen.Settings

/-- The variable that holds the source root. -/
def protoRootEnv : String := "PROTOBUF_ROOT"

/-- The name under which this program is installed. -/
def programName : String := "generate-protos"

/-- The names between commas, without the blanks around them and without empty ones. -/
def namesOf (s : String) : List String :=
  ((s.toList.splitOn ',').map fun name => Text.trim (String.ofList name)).filter (· ≠ "")

/-- The role of a process in an environment and the generators that it serves. -/
def runMode (env : Env) : RunMode × List String :=
  let value := env.value Tool.pluginEnv
  if value = "" then (.batch, []) else (.plugin, namesOf value)

/-- What the compiler starts to reach this program: the program as it was started, when that is
    an executable file, or else the installed one. -/
def defaultExecutable (started : String) : Session String := do
  let host ← read
  let text := Path.normalized (Path.joinText (Session.pathOf host.cwd).toString started)
  let path := Path.ofString text
  if !path.hasNul && (← Session.look fun t base => t.isExecutable base path) then return text
  match host.locate programName with
  | some installed => return installed
  | none => throw (.config (.notExecutable text))

/-- What a batch run is told. A text that is empty counts as not told. -/
structure Options where
  execute : Bool
  protoRoot : Option String
  configPath : Option Path
  overrides : List String
  repoRoot : Option Path
  modulePath : Option String
  pluginExecutable : Option String
  deriving DecidableEq

/-- A text that is there and not empty. -/
def told (s : Option String) : Option String := s.filter (· ≠ "")

/-- The configuration with the overrides of the command line layered over it. -/
def withOverrides (config : Config) (items : List String) : Except Failure Config := do
  let extra ← Overrides.parseItems items
  return { config with overrides := config.overrides.merged extra }

/-- The settings of a batch run. -/
def ofOptions (o : Options) : Session Settings := do
  match told o.protoRoot with
  | none => throw (.config .noSourceRoot)
  | some protoRoot =>
    let config ← Config.load o.configPath
    let config ← Session.ofExcept (withOverrides config o.overrides)
    let root ← match o.repoRoot with
      | some p => pure p
      | none => Tool.repositoryRoot
    let root ← Session.resolve root
    let modulePath ← match told o.modulePath with
      | some m => pure m
      | none => Tool.modulePath root
    let protoRoot ← Session.resolve (Path.ofString protoRoot)
    let executable ← match told o.pluginExecutable with
      | some e => pure e
      | none => defaultExecutable (← read).program
    let configPath ← o.configPath.mapM Session.resolve
    return {
      mode := .batch
      syncMode := if o.execute then .apply else .diff
      repoRoot := root
      modulePath := modulePath
      protoRoot := some protoRoot
      pluginExecutable := executable
      pluginBackends := []
      configPath := configPath
      config := config }

/-- The settings of a process that the compiler started as its generator. -/
def ofEnvironment : Session Settings := do
  let env := (← read).env
  let configPath := (told (some (env.value Tool.configEnv))).map Path.ofString
  let root ← Session.currentDirectory
  let modulePath ← match told (some (env.value Tool.modulePathEnv)) with
    | some m => pure m
    | none => Tool.modulePath root
  let config ← Config.load configPath
  return {
    mode := .plugin
    syncMode := .diff
    repoRoot := root
    modulePath := modulePath
    protoRoot := none
    pluginExecutable := ""
    pluginBackends := (runMode env).2
    configPath := configPath
    config := config }

end Regen.Settings
