/-!
# Reports of a reconciliation

What one pass over a staging directory did, or what it would do: the paths that it wrote, those
that differ and those that were the same already, each as seen from the staging directory.
-/

namespace Regen.Sync

/-- How staged files are reconciled with the repository. -/
inductive Mode where
  /-- Differences are told and nothing is written. -/
  | diff
  /-- Staged files are written over those of the repository. -/
  | apply
  deriving DecidableEq

namespace Mode

def name : Mode → String
  | diff => "diff"
  | apply => "apply"

def ofName? (s : String) : Option Mode := [diff, apply].find? fun m => m.name == s

end Mode

structure Report where
  mode : Mode
  applied : List String
  differing : List String
  unchanged : List String
  deriving DecidableEq

namespace Report

def empty (mode : Mode) : Report := ⟨mode, [], [], []⟩

def total (r : Report) : Nat := r.applied.length + r.differing.length + r.unchanged.length

/-- Nothing differs. -/
def isClean (r : Report) : Bool := r.differing.isEmpty

end Report
end Regen.Sync
