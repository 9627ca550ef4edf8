import Regen.Generation.ImportFile
import Regen.Settings.Basic
import Regen.Tool

/-!
# Generation from the files of the repository

Each job names a directory. Every description file below it is compiled on its own into the
staging directory, unless it belongs to a frozen tree or the job leaves it out. A job for a test
data directory ends with a test file that imports all packages of the job.
-/

namespace Regen.Generation

/-- What a job did. All files are named by their paths in the repository. -/
structure JobResult where
  path : String
  generated : List String
  /-- Frozen files and files that the job leaves out. -/
  skipped : List String
  /-- The directories, as seen from the job's, that hold files which are not frozen. -/
  packages : List String
  /-- The file with the imports, when there is one. -/
  importFile : Option String
  deriving DecidableEq

def descriptionEndings : List String := [".proto"]

def importFileName : String := "gen_test.go"

/-- The generator options for one file of a job. -/
def optionsOf (config : Config) (job : Job) (file : String) : String :=
  let overrides := config.overrides.optionText
  "paths=source_relative" ++ (if overrides = "" then "" else "," ++ overrides) ++
    (if job.annotate.contains file then ",annotate_code" else "")

/-- The directory of a file given by its names, as seen from where the names start. -/
def packageOf (names : List String) : String :=
  if names.dropLast = [] then "." else "/".intercalate names.dropLast

/-- Notes a package unless it is there already. -/
def addPackage (packages : List String) (p : String) : List String :=
  if packages.contains p then packages else packages ++ [p]

/-- The compiler's arguments for one file of a job. -/
def localArguments (s : Settings) (job : Job) (staging : Path) (file : String) : List String :=
  let outside := (s.protoRoot.toList.map fun p => p.join "src")
  let options := optionsOf s.config job file
  (outside ++ [s.repoRoot]).map (fun p => s!"-I{p}") ++ [s!"--go_out={options}:{staging}", file]

/-- Takes one file of a job, which has the given names below the job's directory. -/
def generateFile (s : Settings) (compiler : Tool.Compiler) (job : Job) (staging : Path)
    (r : JobResult) (names : List String) : Session JobResult := do
  let directory := s.repoRoot.join job.path
  let source : Path := ⟨directory.root, directory.parts ++ names⟩
  match source.below? s.repoRoot with
  | none => throw .outOfRange
  | some below =>
    let file := below.toString
    if s.config.isLegacy source.toString then return { r with skipped := r.skipped ++ [file] }
    let r := { r with packages := addPackage r.packages (packageOf names) }
    if job.exclude.contains file then return { r with skipped := r.skipped ++ [file] }
    compiler.compile job.backends (localArguments s job staging file)
    return { r with generated := r.generated ++ [file] }

/-- The import paths of packages of a job. -/
def importPaths (modulePath : String) (job : Job) (packages : List String) : List String :=
  (packages.map fun p =>
    Path.normalized (Path.joinText (Path.joinText modulePath job.path) p)).eraseDups

/-- Writes the file that imports the packages of a job; the result is its path as seen from the
    staging directory. -/
def writeImportFile (s : Settings) (job : Job) (packages : List String) (staging : Path) :
    Session String := do
  let source := ImportFile.render s.config.preambleText (importPaths s.modulePath job packages)
  let source ← Tool.format s.config.formatter source
  let name := Path.joinText job.path importFileName
  Session.writeFile (staging.join name) (Text.bytes source)
  return name

/-- Does one job. -/
def generateJob (s : Settings) (compiler : Tool.Compiler) (staging : Path) (job : Job) :
    Session JobResult := do
  let files ← Session.walkNames (s.repoRoot.join job.path) (some descriptionEndings)
  let r ← files.foldlM (generateFile s compiler job staging) ⟨job.path, [], [], [], none⟩
  if job.isTestdata then
    return { r with importFile := some (← writeImportFile s job r.packages staging) }
  return r

/-- Does all jobs, in order, into one staging directory. -/
def generateLocal (s : Settings) (compiler : Tool.Compiler) (staging : Path) :
    Session (List JobResult) :=
  s.config.jobs.mapM (generateJob s compiler staging)

end Regen.Generation
