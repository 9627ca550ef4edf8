import Regen.Sorting

/-!
# Files that import packages

A test file that does nothing but import packages, so that a build of the tests builds them.
-/

namespace Regen.ImportFile

def line (importPath : String) : String := "\t_ \"" ++ importPath ++ "\""

/-- The source text that imports the given packages, in order of their paths. -/
def render (preamble : String) (importPaths : List String) : String :=
  preamble ++ "\n".intercalate
    (["package main", "", "import ("] ++ (Sorting.texts importPaths).map line ++ [")"]) ++ "\n"

end Regen.ImportFile
