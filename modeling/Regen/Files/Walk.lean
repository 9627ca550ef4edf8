import Regen.Files.Basic

/-!
# The files below a directory

All files below a directory, links to files and broken links among them; links to directories
are not entered. The files are in the order of their names compared one by one, so the files of
a directory `a` come before a file `a.go` beside it.
-/

namespace Regen.Files

/-- Lists of names, the first difference deciding by code points. -/
def namesLe : List String → List String → Bool
  | [], _ => true
  | _ :: _, [] => false
  | a :: as, b :: bs => if a = b then namesLe as bs else decide (a < b)

/-- The name ends with one of the endings; without endings every name does. -/
def hasEnding (endings : Option (List String)) (name : String) : Bool :=
  match endings with
  | none => true
  | some es => es.any fun e => name.endsWith e

/-- What stands at a place counts as a file. -/
def countsAsFile (t : Files) (at_ : Place) : Entry → Bool
  | .file _ _ => true
  | .directory => false
  | .link _ => !t.isDirectory [] ⟨"/", at_⟩

/-- The names below the place `root` of the files with one of the endings. -/
def namesBelow (t : Files) (root : Place) (endings : Option (List String)) : List (List String) :=
  t.entries.filterMap fun (at_, e) =>
    if root.isPrefixOf at_ ∧ root.length < at_.length ∧ t.countsAsFile at_ e ∧
        hasEnding endings (at_.getLast?.getD "") then
      some (at_.drop root.length)
    else none

/-- The names of the files below a directory, in order; none when there is no directory. -/
def walkNames (t : Files) (base : Place) (root : Path) (endings : Option (List String)) :
    List (List String) :=
  match t.find? base root with
  | some (at_, .directory) => Sorting.sort namesLe (t.namesBelow at_ endings)
  | _ => []

end Regen.Files
