import Regen.Config.Overrides
import Regen.Pattern.Reader

/-!
# Configuration of a run

The tables that drive a run: the directories of the repository to regenerate, the description
files from outside, the files to copy after generation, the generators and the header of
generated files.
-/

namespace Regen

/-- A directory of description files in the repository. -/
structure Job where
  path : String
  /-- The service generator runs as well. -/
  grpc : Bool
  /-- Files that get annotations, by their path in the repository. -/
  annotate : List String
  /-- Files that are left out, by their path in the repository. -/
  exclude : List String
  deriving DecidableEq

/-- A description file outside the repository. -/
structure Target where
  /-- The search path below the source root. -/
  searchPath : String
  path : String
  deriving DecidableEq

/-- A staged file to copy over another one. -/
structure Relocation where
  source : String
  destination : String
  /-- A source that is not there is passed over. -/
  optional : Bool
  deriving DecidableEq

structure Config where
  preamble : List String
  overrides : Overrides
  jobs : List Job
  targets : List Target
  relocations : List Relocation
  plugins : List (String × String)
  fieldTablePackage : String
  fieldTableDir : String
  legacyPattern : String
  syncSuffixes : List String
  formatter : Option String
  deriving DecidableEq

namespace Job

/-- The generators that run for the job. -/
def backends (j : Job) : String := if j.grpc then "go,grpc" else "go"

/-- The last part of the path. -/
def lastPart (path : String) : String :=
  let cs := path.toList.reverse.dropWhile (· = '/')
  String.ofList (cs.takeWhile (· ≠ '/')).reverse

/-- A test data directory, which a build of the repository passes over. -/
def isTestdata (j : Job) : Bool := lastPart j.path == "testdata"

end Job

namespace Config

/-- What stands where a configuration says nothing. -/
def default : Config where
  preamble := []
  overrides := .empty
  jobs := []
  targets := []
  relocations := []
  plugins := [("go", "protoc-gen-go"), ("grpc", "protoc-gen-go-grpc")]
  fieldTablePackage := "google.protobuf"
  fieldTableDir := "internal/fieldnum"
  legacyPattern := "legacy/proto[23]_[0-9]\x7b8\x7d_[0-9a-f]\x7b8\x7d/"
  syncSuffixes := [".go", ".meta"]
  formatter := some "gofmt"

/-- The header of generated files, each line ended. -/
def preambleText (c : Config) : String := String.join (c.preamble.map (· ++ "\n"))

/-- The path belongs to a frozen tree that is not regenerated. -/
def isLegacy (c : Config) (path : String) : Bool :=
  match Pattern.read? c.legacyPattern with
  | some p => p.occursIn path
  | none => false

end Config
end Regen
