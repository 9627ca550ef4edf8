import Mathlib.Data.Prod.Basic
import Regen.Proofs.Files.Output
import Regen.Proofs.Generation.Chosen
import Regen.Proofs.Path.Normalized
import Regen.Proofs.Sorting
import Regen.Proofs.Text.Lines
import Regen.Proofs.Text.Utf8

/-!
# The file that imports the packages of a job

A job for a test data directory writes a file that imports each directory of the job with a description file that is
not frozen, once and in ascending order (`generateJob_imports`). The import path of a directory is normalised, so the
job's own path may be written with more slashes and dots than it needs; no two directories have the same import path.
-/

namespace Regen.Generation

open Session Files

section

variable {p : Placement} {job : Job} {d : List String}

/-! ### Directories and their import paths -/

/-- The names lead from the job's directory to one that holds a description file which is not frozen. -/
def Placement.Describes (p : Placement) (job : Job) (d : List String) : Prop :=
  ∃ S name, p.world.files.find? p.host.cwd (p.directory job) = some (S, .directory) ∧
    Listed p.world.files S (some descriptionEndings) (d ++ [name]) ∧ p.frozen job (d ++ [name]) = false

/-- The import path of a directory of the job. -/
def Placement.importPath (p : Placement) (job : Job) (d : List String) : String :=
  Path.normalized (Path.joinText (Path.joinText p.settings.modulePath job.path) ("/".intercalate d))

/-- The directories of the walk are those with description files. -/
theorem describes_iff (keyed : p.world.files.Keyed) (plain : (p.directory job).hasNul = false) :
    p.Describes job d ↔ ∃ names ∈ p.walked job, p.frozen job names = false ∧ names.dropLast = d := by
  rw [walked_of_plain plain]
  constructor
  · rintro ⟨S, name, found, listed, thawed⟩
    exact ⟨d ++ [name], (keyed.mem_walkNames found).2 listed, thawed, List.dropLast_concat⟩
  · rintro ⟨names, mem, thawed, rfl⟩
    cases directory : p.world.files.isDirectory p.host.cwd (p.directory job) with
    | false =>
      rw [walkNames_of_not_directory directory] at mem
      cases mem
    | true =>
      obtain ⟨S, found⟩ := isDirectory_iff.1 directory
      have found := find?_eq_some_iff.2 found
      have listed := (keyed.mem_walkNames found).1 mem
      refine ⟨S, names.getLast listed.inner, found, ?_⟩
      rw [List.dropLast_append_getLast]
      exact ⟨listed, thawed⟩

theorem isEntryName_of_describes (ordinary : p.world.files.Ordinary) (describes : p.Describes job d) :
    ∀ n ∈ d, IsEntryName n := by
  obtain ⟨S, name, -, listed, -⟩ := describes
  obtain ⟨e, there, -⟩ := listed.file
  exact fun n mem => ordinary.named _ e there n (by simp [mem])

/-- The import path of a package is that of the directory that it stands for. -/
theorem normalized_packageOf (names : List String) :
    Path.normalized (Path.joinText (Path.joinText p.settings.modulePath job.path) (packageOf names)) =
      p.importPath job names.dropLast := by
  rw [packageOf, Placement.importPath]
  split
  · next none =>
    rw [none]
    refine Path.normalized_congr ?_
    rw [Path.ofString_joinText (b := ".") (by decide), Path.ofString_joinText_intercalate (List.forall_mem_nil _)]
    rfl
  · rfl

theorem importPath_nil : p.importPath job [] = Path.normalized (Path.joinText p.settings.modulePath job.path) := by
  refine Path.normalized_congr ?_
  rw [Path.ofString_joinText_intercalate (List.forall_mem_nil _), List.append_nil]

/-- No two directories have the same import path. -/
theorem importPath_inj (ordinary : p.world.files.Ordinary) {d' : List String} (describes : p.Describes job d)
    (describes' : p.Describes job d') (same : p.importPath job d = p.importPath job d') : d = d' :=
  Path.normalized_joinText_inj (isEntryName_of_describes ordinary describes)
    (isEntryName_of_describes ordinary describes') same

/-- An import path is one line when what it is made of is. -/
theorem feed_not_mem_importPath (down : Path.Downward job.path) (ordinary : p.world.files.Ordinary)
    (describes : p.Describes job d) (module : '\n' ∉ p.settings.modulePath.toList) (path : '\n' ∉ job.path.toList)
    (names : ∀ n ∈ d, '\n' ∉ n.toList) : '\n' ∉ (p.importPath job d).toList := by
  refine Path.not_mem_normalized (by decide) (by decide) ?_
  rw [Path.ofString_joinText_intercalate fun n mem => (isEntryName_of_describes ordinary describes n mem).isSegment,
    Path.ofString_joinText down.head?]
  intro name mem feed
  simp only [List.mem_append] at mem
  rcases mem with (mem | mem) | mem
  · exact module (Path.mem_of_mem_namesOf mem feed)
  · exact path (Path.mem_of_mem_namesOf mem feed)
  · exact names name mem feed

/-- The import paths of the packages of a job that came to its end. -/
theorem mem_importPaths {r : JobResult} {w : World} (finished : p.Finished job r w) (keyed : p.world.files.Keyed)
    (plain : (p.directory job).hasNul = false) {q : String} :
    q ∈ importPaths p.settings.modulePath job r.packages ↔ ∃ d, p.Describes job d ∧ q = p.importPath job d := by
  simp only [importPaths, List.mem_eraseDups, List.mem_map, finished.packages.2]
  constructor
  · rintro ⟨_, ⟨names, mem, thawed, rfl⟩, rfl⟩
    exact ⟨names.dropLast, (describes_iff keyed plain).2 ⟨names, mem, thawed, rfl⟩, normalized_packageOf names⟩
  · rintro ⟨d, describes, path⟩
    obtain ⟨names, mem, thawed, rfl⟩ := (describes_iff keyed plain).1 describes
    rw [path]
    exact ⟨packageOf names, ⟨names, mem, thawed, rfl⟩, normalized_packageOf names⟩

/-! ### The text of the file -/

/-- The lines behind the preamble. -/
def importLines (paths : List String) : List String :=
  ["package main", "", "import ("] ++ paths.map ImportFile.line ++ [")"]

theorem toList_join_lines (ls : List String) :
    (String.join (ls.map (· ++ "\n"))).toList = (ls.map fun l => l.toList ++ ['\n']).flatten := by
  simp [String.toList_join, List.flatMap_def, Function.comp_def]

theorem render_eq (preamble : String) (paths : List String) : ImportFile.render preamble paths =
    preamble ++ String.join ((importLines (Sorting.texts paths)).map (· ++ "\n")) := by
  have some : importLines (Sorting.texts paths) ≠ [] := nofun
  rw [ImportFile.render, String.append_assoc]
  exact congrArg _ (String.toList_inj.1 ((Text.toList_unlines some).trans (toList_join_lines _).symm))

theorem ended_preambleText (c : Config) : Text.Ended c.preambleText.toList := by
  rw [Config.preambleText, String.toList_join]
  rcases List.eq_nil_or_concat c.preamble with none | ⟨front, last, lines⟩
  · rw [none]
    exact .inl rfl
  · rw [lines]
    exact .inr (by simp)

theorem feedLines_importLines {c : Config} {paths : List String} (whole : ∀ q ∈ paths, '\n' ∉ q.toList) :
    Text.feedLines (c.preambleText ++ String.join ((importLines paths).map (· ++ "\n"))).toList =
      Text.feedLines c.preambleText.toList ++ (importLines paths).map fun line => line.toList ++ ['\n'] := by
  have lines : ∀ line ∈ importLines paths, '\n' ∉ line.toList := by
    intro line mem
    simp only [importLines, List.mem_append, List.mem_map] at mem
    rcases mem with (mem | ⟨q, mem, rfl⟩) | mem
    · revert line
      decide
    · simpa [ImportFile.line] using whole q mem
    · rw [List.mem_singleton.1 mem]
      decide
  rw [String.toList_append, Text.feedLines_append (ended_preambleText c), toList_join_lines, Text.feedLines_flatten]
  intro l mem
  obtain ⟨line, inside, rfl⟩ := List.mem_map.1 mem
  exact ⟨line.toList, lines line inside, rfl⟩

/-- What the import file of a job holds: the preamble and a line for each of the paths. -/
structure Placement.Imports (p : Placement) (job : Job) (text : String) (paths : List String) : Prop where
  layout : text = p.settings.config.preambleText ++ String.join ((importLines paths).map (· ++ "\n"))
  ascending : paths.Pairwise (· < ·)
  /-- The paths are those of the directories that hold description files which are not frozen. -/
  described : ∀ q, q ∈ paths ↔ ∃ d, p.Describes job d ∧ q = p.importPath job d
  /-- Each directory has a path of its own. -/
  apart : ∀ d d', p.Describes job d → p.Describes job d' → p.importPath job d = p.importPath job d' → d = d'
  root : p.importPath job [] = Path.normalized (Path.joinText p.settings.modulePath job.path)
  /-- Without line breaks in its paths the file has these lines. -/
  lines : '\n' ∉ p.settings.modulePath.toList → '\n' ∉ job.path.toList →
    (∀ d, p.Describes job d → ∀ n ∈ d, '\n' ∉ n.toList) →
    Text.feedLines text.toList = Text.feedLines p.settings.config.preambleText.toList ++
      (importLines paths).map fun line => line.toList ++ ['\n']

theorem imports_render (down : Path.Downward job.path) (keyed : p.world.files.Keyed)
    (ordinary : p.world.files.Ordinary) {r : JobResult} {w : World} (finished : p.Finished job r w)
    (plain : (p.directory job).hasNul = false) : p.Imports job (importText p.settings job r.packages)
      (Sorting.texts (importPaths p.settings.modulePath job r.packages)) := by
  have described : ∀ q, q ∈ Sorting.texts (importPaths p.settings.modulePath job r.packages) ↔
      ∃ d, p.Describes job d ∧ q = p.importPath job d := fun q =>
    Sorting.mem_texts.trans (mem_importPaths finished keyed plain)
  constructor
  case layout => exact render_eq _ _
  case ascending => exact Sorting.pairwise_texts (Sorting.nodup_eraseDups _)
  case described => exact described
  case apart => exact fun d d' => importPath_inj ordinary
  case root => exact importPath_nil
  case lines =>
    intro module path names
    rw [importText, render_eq]
    refine feedLines_importLines fun q mem => ?_
    obtain ⟨d, describes, same⟩ := (described q).1 mem
    rw [same]
    exact feed_not_mem_importPath down ordinary describes module path (names d describes)

/-! ### A job that comes to its end -/

/-- Without a formatter the text stays as it was made. -/
theorem runOn_format_of_none {host : Host} {formatter : Option String} (none : ∀ f ∈ formatter, f = "")
    (source : String) (w : World) : (Tool.format formatter source).runOn host w = (.ok source, w) := by
  cases formatter with
  | none => rfl
  | some f => rw [none f rfl]; rfl

/-- **The import file of a job.** A job for a test data directory that comes to its end without a formatter has
written a file that imports each directory with a description file which is not frozen, in ascending order and each
once. -/
theorem generateJob_imports (testdata : job.isTestdata = true)
    (unformatted : ∀ f ∈ p.settings.config.formatter, f = "") (down : Path.Downward job.path)
    (keyed : p.world.files.Keyed) (ordinary : p.world.files.Ordinary) {r : JobResult} {w : World}
    (run : p.run job = (.ok r, w)) :
    ∃ text paths, r.importFile = some (Path.joinText job.path importFileName) ∧
      w.files.read p.host.cwd (p.staging.join (Path.joinText job.path importFileName)) = .ok (Text.bytes text) ∧
      p.Imports job text paths := by
  have plain := plain_of_run run
  have finished := finished_of_run down.relative keyed ordinary run
  have imports := imports_render down keyed ordinary finished plain
  obtain ⟨⟨file, rfl⟩, -⟩ := run_of_ok down.relative run
  rw [run_of_succeed down.relative plain rfl finished.succeed, if_pos testdata,
    runOn_importFile (runOn_format_of_none unformatted _ _)] at run
  obtain ⟨_, v, wrote, ended⟩ := runOn_bind_eq_ok_iff.1 run
  have read := read_of_runOn_writeFile wrote
  cases ended
  exact ⟨_, _, rfl, read, imports⟩

end

namespace Placement.Sample

/-- A job whose path is written with more than it needs. -/
def wordyJob : Job := { job with path := "./testdata//" }

/-- The checkout without a formatter. -/
def unformatted : Placement :=
  { placement ["repo"] with
    settings := { settings ["repo"] with config := { Config.default with jobs := [wordyJob], formatter := none } } }

def wordyResult : JobResult :=
  { result with path := "./testdata//", importFile := some "./testdata//gen_test.go" }

end Placement.Sample

open Placement.Sample in
theorem generateJob_imports_sample : ∃ r w paths, unformatted.run wordyJob = (.ok r, w) ∧
    unformatted.Imports wordyJob
      "package main\n\nimport (\n\t_ \"m/testdata\"\n\t_ \"m/testdata/c\"\n)\n" paths := by
  have ran : (unformatted.run wordyJob).1 = .ok wordyResult := by decide +kernel
  have run := Prod.fst_eq_iff.1 ran
  obtain ⟨text, paths, -, read, imports⟩ :=
    generateJob_imports (p := unformatted) (by decide) nofun (by decide) keyed Placement.Sample.ordinary run
  have written : (unformatted.run wordyJob).2.files.read unformatted.host.cwd
      (unformatted.staging.join (Path.joinText wordyJob.path importFileName)) = .ok (Text.bytes
        "package main\n\nimport (\n\t_ \"m/testdata\"\n\t_ \"m/testdata/c\"\n)\n") := by
    decide +kernel
  rw [written] at read
  have same := congrArg Text.decode? (Except.ok.inj read)
  rw [Text.decode?_bytes, Text.decode?_bytes] at same
  obtain rfl := Option.some.inj same
  exact ⟨_, _, paths, run, imports⟩

end Regen.Generation
