import Regen.Config.Basic
import Regen.Path
import Regen.Sync.Report

/-!
# Settings of a run

All that a run needs to know, fixed at its start: what the process is, where the repository and
the description files outside it are, and the configuration.
-/

namespace Regen

/-- The role of a process. -/
inductive RunMode where
  /-- It drives the compiler over all configured files. -/
  | batch
  /-- The compiler started it as a generator. -/
  | plugin
  deriving DecidableEq

def RunMode.name : RunMode → String
  | batch => "batch"
  | plugin => "plugin"

structure Settings where
  mode : RunMode
  syncMode : Sync.Mode
  repoRoot : Path
  modulePath : String
  protoRoot : Option Path
  /-- What the compiler starts as its generator. -/
  pluginExecutable : String
  /-- The generators that a process serves in plugin mode. -/
  pluginBackends : List String
  /-- The file that the configuration came from, when it is not the packaged one. -/
  configPath : Option Path
  config : Config
  deriving DecidableEq

end Regen
