import Regen.Generation.Local
import Regen.Generation.Remote
import Regen.Staging
import Regen.Sync.Reconcile

/-!
# Whole runs

A run has two passes, one over the files of the repository and one over those outside. Each
generates into a staging directory of its own and then reconciles it with the repository. What
fails in a pass ends the run.
-/

namespace Regen.Generation

/-- What a run did. A pass that was not asked for has no report. -/
structure Outcome where
  jobs : List JobResult
  localReport : Option Sync.Report
  remote : Option RemoteResult
  remoteReport : Option Sync.Report
  deriving DecidableEq

namespace Outcome

def reports (o : Outcome) : List Sync.Report := o.localReport.toList ++ o.remoteReport.toList

/-- No staged file differs from the repository. -/
def isClean (o : Outcome) : Bool := o.reports.all Sync.Report.isClean

/-- The count of files that differ. -/
def differing (o : Outcome) : Nat := o.reports.foldl (fun n r => n + r.differing.length) 0

end Outcome

/-- The compiler for the given settings, which starts this program as its generator. -/
def compilerOf (s : Settings) : Tool.Compiler :=
  ⟨"protoc", s.pluginExecutable, s.modulePath, s.configPath, some s.repoRoot.toString⟩

/-- The pass over the files of the repository. -/
def localPass (s : Settings) : Session (List JobResult × Sync.Report) :=
  Staging.within s.repoRoot fun staging => do
    let jobs ← generateLocal s (compilerOf s) staging
    return (jobs, ← Sync.reconcile s.repoRoot staging s.syncMode s.config.syncSuffixes)

/-- The pass over the files outside. Output is laid out by import path, and only what lies below
    the module path is reconciled. -/
def remotePass (s : Settings) : Session (RemoteResult × Sync.Report) :=
  Staging.within s.repoRoot fun staging => do
    let r ← generateRemote s (compilerOf s) staging
    return (r, ← Sync.reconcile s.repoRoot (staging.join s.modulePath) s.syncMode
      s.config.syncSuffixes)

/-- Runs the passes that are asked for. -/
def run (s : Settings) (inside outside : Bool) : Session Outcome := do
  let first ← if inside then some <$> localPass s else pure none
  let second ← if outside then some <$> remotePass s else pure none
  return ⟨(first.map (·.1)).getD [], first.map (·.2), second.map (·.1), second.map (·.2)⟩

end Regen.Generation
