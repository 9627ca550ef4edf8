import Regen.Assoc
import Regen.Failure
import Regen.Sorting

/-!
# Import path overrides

A table from description files to the import paths that their packages get in place of the
ones they ask for. On the command line an override is written `PATH=IMPORT`; to a generator the
table goes as options `M<path>=<import>` in the order of the paths.
-/

namespace Regen

structure Overrides where
  entries : List (String × String)
  deriving DecidableEq

namespace Overrides

def empty : Overrides := ⟨[]⟩

def get? (t : Overrides) (path : String) : Option String := Assoc.get? t.entries path

/-- The table with further entries layered over it. -/
def merged (t : Overrides) (extra : List (String × String)) : Overrides :=
  ⟨Assoc.putAll t.entries extra⟩

/-- The entries in the order of their paths. -/
def sorted (t : Overrides) : List (String × String) :=
  Sorting.sort (fun a b => decide (a.1 ≤ b.1)) t.entries

def option (path importPath : String) : String := "M" ++ path ++ "=" ++ importPath

/-- The options of the table, separated by commas. -/
def optionText (t : Overrides) : String :=
  ",".intercalate (t.sorted.map fun e => option e.1 e.2)

/-- The two sides of the first `=` without the blanks around them. -/
def parseItem (item : String) : Except Failure (String × String) :=
  let cs := item.toList
  let path := Text.trim (String.ofList (cs.takeWhile (· ≠ '=')))
  let importPath := Text.trim (String.ofList ((cs.dropWhile (· ≠ '=')).drop 1))
  if path = "" ∨ importPath = "" then .error (.config (.badOverride item))
  else .ok (path, importPath)

/-- The overrides of the command line; a later one replaces an earlier one for the same path. -/
def parseItems (items : List String) : Except Failure (List (String × String)) :=
  items.foldlM (fun t item => do
    let (path, importPath) ← parseItem item
    return Assoc.put t path importPath) []

end Overrides
end Regen
