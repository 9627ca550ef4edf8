import Regen.Generation.Run
import Regen.Json

/-!
# Summaries of runs

What a run did, as a value that is printed for other programs.
-/

namespace Regen

def Sync.Report.summary (r : Sync.Report) : Json :=
  .object [("mode", .text r.mode.name), ("applied", .ofTexts r.applied),
    ("differing", .ofTexts r.differing), ("unchanged", .ofTexts r.unchanged)]

namespace Generation

def JobResult.summary (r : JobResult) : Json :=
  .object [("path", .text r.path), ("generated", .ofTexts r.generated),
    ("skipped", .ofTexts r.skipped), ("import_file", .ofText? r.importFile)]

def reportSummary : Option Sync.Report → Json
  | none => .null
  | some r => r.summary

def Outcome.summary (o : Outcome) : Json :=
  .object [
    ("local", .object [("jobs", .list (o.jobs.map JobResult.summary)),
      ("sync", reportSummary o.localReport)]),
    ("remote", .object [("generated", .ofTexts ((o.remote.map (·.generated)).getD [])),
      ("relocated", .ofTexts ((o.remote.map (·.relocated)).getD [])),
      ("sync", reportSummary o.remoteReport)])]

end Generation
end Regen
