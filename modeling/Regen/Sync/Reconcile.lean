import Regen.Diff.Unified
import Regen.Session
import Regen.Sync.Report

/-!
# Reconciling a staging directory with a destination

Every staged file with one of the endings belongs at the same relative path below the
destination. A dry pass tells the differences; the other one names each path and then writes
it. A path that cannot be reconciled ends the pass there.
-/

namespace Regen.Sync

/-- Reconciles the staged file with the given names below both directories. -/
def reconcileFile (destination staging : Path) (r : Report) (names : List String) :
    Session Report := do
  let name := "/".intercalate names
  let source : Path := ⟨staging.root, staging.parts ++ names⟩
  let target : Path := ⟨destination.root, destination.parts ++ names⟩
  match r.mode with
  | .apply =>
    Session.emit s!"# {name}\n"
    Session.copyFile source target
    return { r with applied := r.applied ++ [name] }
  | .diff =>
    let old ← Session.readOrEmpty target
    let new ← Session.readFile source
    let text := Diff.unified old new ("a/" ++ name) ("b/" ++ name)
    if text = "" then return { r with unchanged := r.unchanged ++ [name] }
    else
      Session.emit text
      return { r with differing := r.differing ++ [name] }

/-- Reconciles all staged files that have one of the endings. -/
def reconcile (destination staging : Path) (mode : Mode) (endings : List String) :
    Session Report := do
  let files ← Session.walkNames staging (some endings)
  files.foldlM (reconcileFile destination staging) (.empty mode)

end Regen.Sync
