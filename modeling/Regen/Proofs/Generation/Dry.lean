import Regen.Proofs.Generation.Steps
import Regen.Proofs.Sync.Compare

/-!
# Dry runs

A dry run leaves everything in the repository as it was, whether it fails or not, as long as its tools write
where they are told to and the paths at which its configuration has files written lead downwards
(`get?_run_diff`). A path that leads upwards has a dry run write over a file of the repository
(`get?_run_diff_upwards`).
-/

namespace Regen.Generation

open Files Session

/-- What a host's tools leave as it is: the compiler, told to write to a staging directory, all that is
outside of it, and no links come into it; the formatter all files. -/
structure Confined (s : Settings) (host : Host) : Prop where
  compiler : ∀ (call : Call) (options : String) (k : Nat) (t u : Files) (S : Place),
    s!"--go_out={options}:{Staging.pathOf s.repoRoot k}" ∈ call.argv →
    Opened t host.cwd (Staging.pathOf s.repoRoot k) S → Held t S u → Held t S (host.run call u).2
  formatter : ∀ f source t, s.config.formatter = some f → (host.run (Tool.formatCall f source) t).2 = t

section Runs

variable {host : Host} {w : World} {s : Settings} {D : Place}

theorem mem_argv_local {compiler : Tool.Compiler} (job : Job) (staging : Path) (file : String) :
    s!"--go_out={optionsOf s.config job file}:{staging}" ∈
      compiler.argv (localArguments s job staging file) := by
  simp [Tool.Compiler.argv, localArguments]

theorem mem_argv_remote {compiler : Tool.Compiler} (root staging : Path) (target : Target) :
    s!"--go_out={s.config.overrides.optionText}:{staging}" ∈
      compiler.argv (remoteArguments s root staging target) := by
  simp [Tool.Compiler.argv, remoteArguments]

theorem invariant_held (t : Files) (S : Place) : Invariant t S fun w => Held t S w.files where
  held := fun _ held => held
  written := fun _ _ _ worked => worked.held
  warned := fun _ _ held => held

section Passes

variable {t : Files} {S : Place} {k : Nat} (confined : Confined s host) (down : Downward s.config)
  (opened : Opened t host.cwd (Staging.pathOf s.repoRoot k) S)

include confined down opened

theorem keeps_held_generateLocal :
    (generateLocal s (compilerOf s) (Staging.pathOf s.repoRoot k)).Keeps host fun w => Held t S w.files :=
  keeps_generateLocal opened (invariant_held t S) down
    (fun job _ file w held => Tool.files_after_of held
      (confined.compiler _ _ k t w.files S (mem_argv_local job _ file) opened held))
    fun f source w known held => by
      rw [Tool.after_eq_noted (confined.formatter f source _ known)]
      exact held

theorem keeps_held_generateRemote :
    (generateRemote s (compilerOf s) (Staging.pathOf s.repoRoot k)).Keeps host fun w => Held t S w.files :=
  keeps_generateRemote opened (invariant_held t S) down
    fun root _ target _ w held => Tool.files_after_of held
      (confined.compiler _ _ k t w.files S (mem_argv_remote root _ target) opened held)

end Passes

/-- Everywhere in the files of a world there is what there was in a tree. -/
def Same (t : Files) (w : World) : Prop := ∀ p, w.files.get? p = t.get? p

section Dry

variable {t : Files} (dry : s.syncMode = .diff) (confined : Confined s host) (down : Downward s.config)
  (closed : t.Closed) (root : t.find? host.cwd s.repoRoot = some (D, .directory))

include closed root in
theorem keeps_same_within {α : Type} (work : Path → Session α)
    (held : ∀ k t S, Opened t host.cwd (Staging.pathOf s.repoRoot k) S →
      (work (Staging.pathOf s.repoRoot k)).Keeps host fun w => Held t S w.files) :
    (Staging.within s.repoRoot work).Keeps host (Same t) := by
  rw [keeps_iff]
  intro w same p
  obtain ⟨found, directory⟩ := find?_eq_some_iff.1 root
  have anchor : Anchor t host.cwd s.repoRoot.root s.repoRoot.parts D := ⟨found, directory⟩
  have ways : Ways t w.files := .of_kept fun q e there => (same q).trans there
  have closed' : w.files.Closed := fun q e there => by
    rw [same] at there ⊢
    exact closed q e there
  have kept := Staging.get?_within work closed' (anchor.kept ways) (fun k S v opened =>
    keeps_iff.1 (held k v.files S opened) v opened.held) p
  rw [kept, same]

include dry confined down closed root

theorem keeps_same_localPass : (localPass s).Keeps host (Same t) :=
  keeps_same_within closed root _ fun _ _ _ opened =>
    .bind (keeps_held_generateLocal confined down opened) fun _ =>
      .bind (dry ▸ Sync.keeps_reconcile_diff (fun _ _ held => held) _) fun _ => .pure _

theorem keeps_same_remotePass : (remotePass s).Keeps host (Same t) :=
  keeps_same_within closed root _ fun _ _ _ opened =>
    .bind (keeps_held_generateRemote confined down opened) fun _ =>
      .bind (dry ▸ Sync.keeps_reconcile_diff (fun _ _ held => held) _) fun _ => .pure _

theorem keeps_same_run (inside outside : Bool) : (run s inside outside).Keeps host (Same t) := by
  rw [run_eq]
  exact .bind (alike_asked (keeps_same_localPass dry confined down closed root)) fun _ =>
    .bind (alike_asked (keeps_same_remotePass dry confined down closed root)) fun _ => .pure _

end Dry

/-- A dry run touches nothing, whether it fails or not. -/
theorem get?_run_diff (dry : s.syncMode = .diff) (confined : Confined s host) (down : Downward s.config)
    (closed : w.files.Closed) (root : w.files.find? host.cwd s.repoRoot = some (D, .directory))
    (inside outside : Bool) (p : Place) :
    ((run s inside outside).runOn host w).2.files.get? p = w.files.get? p :=
  keeps_iff.1 (keeps_same_run dry confined down closed root inside outside) w (fun _ => rfl) p

end Runs

/-! ### A repository with one job and one target -/

namespace Sample

def config : Config :=
  { Config.default with
    jobs := [⟨"testdata", false, [], []⟩]
    targets := [⟨"", "y.proto"⟩]
    relocations := [⟨"m/y.pb.go", "m/z.pb.go", false⟩] }

def settings (mode : Sync.Mode) : Settings :=
  ⟨.batch, mode, ⟨"/", ["repo"]⟩, "m", some ⟨"/", ["pb"]⟩, "gen", [], none, config⟩

/-- The staging directory of a name. -/
def stagingOf (name : String) : Path := ⟨"/", ["repo", name]⟩

/-- A host on which no tool can be started. -/
def bare : Host := ⟨[], [], "gen", fun _ => none, fun _ t => (.unstarted 2, t), fun _ n => n, fun _ => false⟩

/-- A file is written behind a staging directory, and the status tells whether it could be. -/
def writing (name text : String) (content : Bytes) (t : Files) : Regen.Outcome × Files :=
  let (r, w) := (writeFile ((stagingOf name).join text) content).runOn bare ⟨t, []⟩
  (.ended (if r.toOption.isSome then 0 else 1) [] [], w.files)

/-- The argument that tells the compiler to write to the staging directory of a name. -/
def outWord (options name : String) : String :=
  let directory := stagingOf name
  s!"--go_out={options}:{directory}"

/-- A command line that tells the compiler in its last argument but one where to write. -/
structure Line where
  front : List String
  options : String
  back : String
  plain : ∀ word ∈ front ++ [back], word.toList.take 3 ≠ ['-', '-', 'g']

def Line.words (l : Line) (name : String) : List String := l.front ++ outWord l.options name :: [l.back]

/-- The compiler is started like this for the job's description file. -/
def localLine : Line :=
  ⟨["protoc", "--plugin=protoc-gen-go=gen", "-I/pb/src", "-I/repo"], "paths=source_relative", "testdata/x.proto",
    by decide⟩

/-- The compiler is started like this for the target. -/
def remoteLine : Line := ⟨["protoc", "--plugin=protoc-gen-go=gen", "-I/pb"], "", "y.proto", by decide⟩

/-- The name of the staging directory at the end of the last argument but one: names have eleven characters. -/
def nameIn (argv : List String) : String :=
  let word := (argv.dropLast.getLast?.getD "").toList
  String.ofList (word.drop (word.length - 11))

/-- The compiler writes the file `text` for the job's description file and another one for the target, in whatever
directory it is told to. Names for such directories are drawn anew each time. -/
def hostWriting (text : String) : Host :=
  { bare with
    run := fun call t =>
      if call.argv = ["gofmt"] then (.ended 0 (call.input.getD []) [], t)
      else if call.argv = localLine.words (nameIn call.argv) then
        writing (nameIn call.argv) text [1] t
      else if call.argv = remoteLine.words (nameIn call.argv) then
        writing (nameIn call.argv) "m/y.pb.go" [2] t
      else (.unstarted 2, t)
    draw := fun w n => w.journal.length + n }

def host : Host := hostWriting "testdata/x.pb.go"

def tree : Files :=
  ⟨[(["repo"], .directory), (["repo", "testdata"], .directory),
    (["repo", "testdata", "x.proto"], .file [3] false)]⟩

theorem toList_outWord (options name : String) :
    (outWord options name).toList = "--go_out=".toList ++ options.toList ++ ":/repo/".toList ++ name.toList := by
  have path : (stagingOf name).toString = "/" ++ ("repo/" ++ name) := by simp [stagingOf, Path.toString]
  simp [outWord, toString, path]

theorem length_candidate (k : Nat) : (Staging.candidate k).toList.length = 11 := by
  simp [Staging.toList_candidate, Staging.length_letters]

theorem outWord_inj {options options' name name' : String} (same : outWord options name = outWord options' name')
    (length : name.toList.length = name'.toList.length) : options = options' ∧ name = name' := by
  have same := congrArg String.toList same
  rw [toList_outWord, toList_outWord] at same
  obtain ⟨front, names⟩ := List.append_inj' same length
  have options := List.append_cancel_left (List.append_cancel_right front)
  exact ⟨String.toList_injective options, String.toList_injective names⟩

/-- Only the one argument of a line names a directory to write to. -/
theorem Line.outWord_notMem (l : Line) (options name : String) : outWord options name ∉ l.front ++ [l.back] :=
  fun mem => l.plain _ mem (by simp [toList_outWord])

theorem Line.name_of_mem {l : Line} {argv : List String} {options : String} {k : Nat}
    (line : argv = l.words (nameIn argv)) (mem : outWord options (Staging.candidate k) ∈ argv) :
    options = l.options ∧ nameIn argv = Staging.candidate k := by
  have last : ∀ name, (l.words name).dropLast.getLast?.getD "" = outWord l.options name := fun name => by
    simp [Line.words, List.dropLast_append_of_ne_nil]
  have word : argv.dropLast.getLast?.getD "" = outWord l.options (nameIn argv) :=
    (congrArg (fun words => words.dropLast.getLast?.getD "") line).trans (last _)
  have length : (nameIn argv).toList.length = 11 := by
    have long : 11 ≤ (argv.dropLast.getLast?.getD "").toList.length := by
      rw [word, toList_outWord]
      simp only [List.length_append]
      have : "--go_out=".toList.length = 9 := rfl
      have : ":/repo/".toList.length = 7 := rfl
      omega
    rw [nameIn, String.toList_ofList, List.length_drop]
    omega
  rw [line, Line.words, List.mem_append, List.mem_cons] at mem
  have here : outWord options (Staging.candidate k) = outWord l.options (nameIn argv) := by
    rcases mem with front | here | back
    · exact absurd (List.mem_append_left _ front) (l.outWord_notMem _ _)
    · exact here
    · exact absurd (List.mem_append_right _ back) (l.outWord_notMem _ _)
  obtain ⟨same, names⟩ := outWord_inj here ((length_candidate k).trans length.symm)
  exact ⟨same, names.symm⟩

theorem worked_writing {t u : Files} {S : Place} {name text : String} (opened : Opened t bare.cwd (stagingOf name) S)
    (held : Held t S u) (down : Path.Downward text) (content : Bytes) :
    Worked t S ⟨u, []⟩ ⟨(writing name text content u).2, []⟩ := by
  have worked : Worked t S ⟨u, []⟩ ((writeFile ((stagingOf name).join text) content).runOn bare ⟨u, []⟩).2 := by
    rw [down.join]
    exact worked_writeFile opened held down.isInner content
  exact ⟨worked.held, worked.sound, worked.files, rfl⟩

theorem downward_remote : Path.Downward "m/y.pb.go" := by decide

/-- What the host's compiler leaves when it is told to write to a candidate's directory: it writes nothing, or one
file there. -/
theorem runs_of_mem {text : String} (down : Path.Downward text) {call : Call} {options : String} {k : Nat}
    {u : Files} (mem : outWord options (Staging.candidate k) ∈ call.argv) :
    ((hostWriting text).run call u).2 = u ∨ ∃ below content, Path.Downward below ∧
      ((hostWriting text).run call u).2 = (writing (Staging.candidate k) below content u).2 := by
  simp only [hostWriting]
  split
  · exact .inl rfl
  split
  · next line => exact .inr ⟨text, [1], down, by rw [(Line.name_of_mem line mem).2]⟩
  split
  · next line => exact .inr ⟨"m/y.pb.go", [2], downward_remote, by rw [(Line.name_of_mem line mem).2]⟩
  · exact .inl rfl

theorem confined (mode : Sync.Mode) {text : String} (down : Path.Downward text) :
    Confined (settings mode) (hostWriting text) where
  compiler := by
    intro call options k t u S mem opened held
    rcases runs_of_mem down (u := u) mem with same | ⟨below, content, down, wrote⟩
    · rwa [same]
    · rw [wrote]
      exact (worked_writing opened held down content).held
  formatter := by
    rintro f source t ⟨⟩
    rfl

theorem downward_local : Path.Downward "testdata/x.pb.go" := by decide

theorem sound : tree.Sound := by decide

theorem downward : Downward config := ⟨by decide, by decide⟩

/-- A configuration with a job whose directory is not in the repository. -/
def astray : Config := { Config.default with jobs := [⟨"../testdata", false, [], []⟩], formatter := none }

def keepsake : Files :=
  ⟨[(["repo"], .directory), (["repo", "testdata"], .directory),
    (["repo", "testdata", "gen_test.go"], .file [3] false)]⟩

end Sample

theorem get?_run_diff_sample :
    (run (Sample.settings .diff) true true |>.runOn Sample.host ⟨Sample.tree, []⟩).1.toOption.isSome ∧
    ∀ p, ((run (Sample.settings .diff) true true).runOn Sample.host ⟨Sample.tree, []⟩).2.files.get? p =
      Sample.tree.get? p :=
  ⟨by decide +kernel, get?_run_diff (D := ["repo"]) rfl (Sample.confined .diff Sample.downward_local) Sample.downward Sample.sound.isClosed
    (by decide) true true⟩

/-- A dry run for a job whose directory lies above the repository's writes over a file of the repository. The
tools are not even started. -/
theorem get?_run_diff_upwards :
    let s := { Sample.settings .diff with config := Sample.astray }
    let after := ((run s true true).runOn Sample.bare ⟨Sample.keepsake, []⟩).2
    after.journal = [] ∧ Sample.keepsake.get? ["repo", "testdata", "gen_test.go"] = some (.file [3] false) ∧
      after.files.get? ["repo", "testdata", "gen_test.go"] =
        some (.file (Text.bytes "package main\n\nimport (\n)\n") false) := by
  decide +kernel

end Regen.Generation
