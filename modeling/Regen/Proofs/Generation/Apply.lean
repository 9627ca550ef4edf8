import Regen.Proofs.Generation.Pass

/-!
# Runs that apply

A run of both passes that fails has done the passes in front of the one that failed and nothing of that one
but the files that it had written (`run_apply_ends`). A run that fails in its first pass has not run the
compiler for any target. A file that is staged under the name of the staging directory is lost
(`run_apply_loses`).
-/

namespace Regen.Generation

open Files Session

section Runs

/-- What a host's tools leave as it is: the compiler, told to write to a staging directory, all that is outside
of it, and a tree of files and directories stays one; the formatter all files. -/
structure Regular (s : Settings) (host : Host) : Prop where
  compiler : ∀ (call : Call) (options : String) (k : Nat) (t u : Files) (S : Place),
    s!"--go_out={options}:{Staging.pathOf s.repoRoot k}" ∈ call.argv →
    Opened t host.cwd (Staging.pathOf s.repoRoot k) S → Held t S u → u.Sound →
    Held t S (host.run call u).2 ∧ (host.run call u).2.Sound
  formatter : ∀ f source t, s.config.formatter = some f → (host.run (Tool.formatCall f source) t).2 = t

variable {host : Host} {w : World} {s : Settings} {D : Place}

theorem invariant_sound (t : Files) (S : Place) :
    Invariant t S fun w => Held t S w.files ∧ w.files.Sound where
  held := fun _ holds => holds.1
  written := fun _ _ holds worked => ⟨worked.held, worked.sound holds.2⟩
  warned := fun _ _ holds => holds

theorem generates_local (regular : Regular s host) (down : Downward s.config) :
    Generates host s (generateLocal s (compilerOf s)) := fun k t S opened =>
  keeps_generateLocal opened (invariant_sound t S) down
    (fun job _ file w holds => Tool.files_after_of (P := fun u => Held t S u ∧ u.Sound) holds
      (regular.compiler _ _ k t w.files S (mem_argv_local job _ file) opened holds.1 holds.2))
    fun f source w known holds => by
      rw [Tool.after_eq_noted (regular.formatter f source _ known)]
      exact holds

theorem generates_remote (regular : Regular s host) (down : Downward s.config) :
    Generates host s (generateRemote s (compilerOf s)) := fun k t S opened =>
  keeps_generateRemote opened (invariant_sound t S) down fun root _ target _ w holds =>
    Tool.files_after_of (P := fun u => Held t S u ∧ u.Sound) holds
      (regular.compiler _ _ k t w.files S (mem_argv_remote root _ target) opened holds.1 holds.2)

/-! ### No target is compiled in the first pass -/

/-- The call runs the compiler for a target. -/
def IsTarget (s : Settings) (call : Call) : Prop :=
  ∃ root staging target, s.protoRoot = some root ∧ target ∈ s.config.targets ∧
    call.argv = (compilerOf s).argv (remoteArguments s root staging target)

/-- All calls for targets were made already in a world before. -/
def NoTarget (s : Settings) (w v : World) : Prop :=
  ∀ call, .ran call ∈ v.journal → IsTarget s call → .ran call ∈ w.journal

theorem NoTarget.after {v : World} {call : Call} (none : NoTarget s w v) (other : ¬ IsTarget s call) :
    NoTarget s w (Tool.after host call v) := by
  intro call' mem target
  rcases List.mem_append.1 mem with before | last
  · exact none call' before target
  · cases List.mem_singleton.1 last
    exact absurd target other

theorem NoTarget.noted {v : World} {e : Event} (none : NoTarget s w v) (other : ∀ call, e ≠ .ran call) :
    NoTarget s w (v.noted [e]) := by
  intro call mem target
  rcases List.mem_append.1 mem with before | last
  · exact none call before target
  · exact absurd (List.mem_singleton.1 last).symm (other call)

/-- The compiler gets one word more for a file of a job than for a target. -/
theorem not_isTarget_local (job : Job) (staging : Path) (file : String) (env : Env) (backends : String) :
    ¬ IsTarget s ((compilerOf s).call env backends (localArguments s job staging file)) := by
  rintro ⟨root, staging', target, known, -, same⟩
  have length := congrArg List.length same
  simp [Tool.Compiler.call, Tool.Compiler.argv, localArguments, remoteArguments, known] at length

theorem not_isTarget_format (f source : String) : ¬ IsTarget s (Tool.formatCall f source) := by
  rintro ⟨root, staging, target, -, -, same⟩
  have length := congrArg List.length same
  simp [Tool.formatCall, Tool.Compiler.argv, remoteArguments] at length

theorem keeps_noTarget_localPass : (localPass s).Keeps host (NoTarget s w) := by
  have files : ∀ (v : World) t, NoTarget s w v → NoTarget s w { v with files := t } := fun _ _ none => none
  have generated : ∀ staging, (generateLocal s (compilerOf s) staging).Keeps host (NoTarget s w) :=
    fun staging => alike_generateLocal
      (fun _ _ => keeps_of_unchanged (runOn_walkNames_snd _ _))
      (fun job _ file => Tool.alike_compile (Tool.respects_of_keeps fun v none =>
        none.after (not_isTarget_local job staging file _ _)))
      (fun source => Tool.alike_format fun f _ => Tool.respects_of_keeps fun v none =>
        none.after (not_isTarget_format f source))
      fun job _ _ content => keeps_writeFile_of_files files _ content
  refine Staging.keeps_within files s.repoRoot _ fun staging => (generated staging).bind fun jobs => ?_
  exact .bind (Sync.keeps_reconcile (fun v text none => none.noted nofun) files _ _) fun _ => .pure _

/-! ### How a run ends -/

/-- How a run of both passes that applies ends: in the first pass, in the second one, or with both done. -/
inductive RunEnds (host : Host) (s : Settings) (D : Place) (w : World) : Except Failure Outcome × World → Prop
  | first {e : Failure} {w' : World} :
      PassEnds host s (generateLocal s (compilerOf s)) "" D w (.error e, w') → NoTarget s w w' →
      RunEnds host s D w (.error e, w')
  | second {jobs : List JobResult} {report : Sync.Report} {e : Failure} {w₁ w' : World} :
      PassEnds host s (generateLocal s (compilerOf s)) "" D w (.ok (jobs, report), w₁) →
      PassEnds host s (generateRemote s (compilerOf s)) s.modulePath D w₁ (.error e, w') →
      RunEnds host s D w (.error e, w')
  | both {jobs : List JobResult} {report report' : Sync.Report} {r : RemoteResult} {w₁ w' : World} :
      PassEnds host s (generateLocal s (compilerOf s)) "" D w (.ok (jobs, report), w₁) →
      PassEnds host s (generateRemote s (compilerOf s)) s.modulePath D w₁ (.ok (r, report'), w') →
      RunEnds host s D w (.ok ⟨jobs, some report, some r, some report'⟩, w')

theorem downward_empty : Path.Downward "" := by decide

/-- What a run that comes back has staged in its first pass stands in the repository. -/
theorem RunEnds.stands {r : Except Failure Outcome × World} (ends : RunEnds host s D w r)
    (came : r.1.toOption.isSome = true) {k : Nat} {jobs : List JobResult}
    (run : ((stage s (generateLocal s (compilerOf s))).runOn host w).1 = .ok (Staging.pathOf s.repoRoot k, jobs))
    {n : List String}
    (mem : n ∈ stagedNames host s "" k ((stage s (generateLocal s (compilerOf s))).runOn host w).2) :
    ∃ content x, r.2.files.get? (D ++ n) = some (.file content x) := by
  cases ends with
  | first _ _ => cases came
  | second _ _ => cases came
  | both first second =>
  cases first with
  | complete staged laid _ =>
  cases second with
  | @complete _ _ _ _ names' staged' laid' _ =>
  rw [staged.run] at run mem
  obtain ⟨same, -⟩ := Prod.mk.inj (Except.ok.inj run)
  rw [stagedNames, ← same] at mem
  have names := staged.names_eq
  rw [stagedNames] at names
  rw [← names] at mem
  obtain ⟨content, x, file⟩ := ((staged.listed n).1 mem).2.file
  obtain ⟨y, copied⟩ := laid.copied n mem content x file
  -- The second pass writes another file over it, or keeps it.
  by_cases written : ∃ n' ∈ names', D ++ n = D ++ n'
  · obtain ⟨n', mem', here⟩ := written
    obtain ⟨content', x', file'⟩ := ((staged'.listed n').1 mem').2.file
    obtain ⟨y', copied'⟩ := laid'.copied n' mem' content' x' file'
    exact ⟨content', y', here ▸ copied'⟩
  · exact ⟨content, y, laid'.kept _ (fun n' mem' here => written ⟨n', mem', here⟩) _ copied⟩

/-- A run of both passes that applies leaves the repository with the files of the passes that it completed. -/
theorem run_apply_ends (apply : s.syncMode = .apply) (regular : Regular s host) (down : Downward s.config)
    (modulePath : Path.Downward s.modulePath) (repository : Repository s host D w.files)
    (fresh : Fresh host s (generateLocal s (compilerOf s)) "" w)
    (fresh' : Fresh host s (generateRemote s (compilerOf s)) s.modulePath ((localPass s).runOn host w).2) :
    RunEnds host s D w ((run s true true).runOn host w) := by
  have keeps : (localPass s).Keeps host (NoTarget s w) := keeps_noTarget_localPass
  have quiet := keeps_iff.1 keeps w fun _ mem _ => mem
  rw [run_eq]
  rw [localPass_eq] at quiet fresh' ⊢
  rcases pass_cases apply repository (generates_local regular down) downward_empty fresh with
    ⟨e, w₁, run, ends⟩ | ⟨k, u, v, jobs, names, w₁, run, staged, completes⟩
  · rw [run] at quiet
    have failed : (asked true (pass s (generateLocal s (compilerOf s)) "")).runOn host w = (.error e, w₁) := by
      rw [asked, if_pos rfl, map_eq_pure_bind, runOn_bind_of_error run]
    rw [runOn_bind_of_error failed]
    exact .first ends quiet
  have ends := PassEnds.complete staged completes.laid completes.gone
  have first : (asked true (pass s (generateLocal s (compilerOf s)) "")).runOn host w =
      (.ok (some (jobs, ⟨.apply, names.map Sync.nameText, [], []⟩)), w₁) := by
    rw [asked, if_pos rfl, map_eq_pure_bind, runOn_bind_of_ok run]
    rfl
  rw [run] at fresh'
  rw [runOn_bind_of_ok first, remotePass_eq]
  have ends' := passEnds apply completes.repository (generates_remote regular down) modulePath fresh'
  cases run' : (pass s (generateRemote s (compilerOf s)) s.modulePath).runOn host w₁ with
  | mk result w' =>
  rw [run'] at ends'
  rw [runOn_bind, asked, if_pos rfl, map_eq_pure_bind, runOn_bind, run']
  cases result with
  | error e => exact .second ends ends'
  | ok r => exact .both ends ends'

end Runs

namespace Sample

theorem regular (mode : Sync.Mode) {text : String} (down : Path.Downward text) :
    Regular (settings mode) (hostWriting text) where
  compiler := by
    intro call options k t u S mem opened held sound
    rcases runs_of_mem down (u := u) mem with same | ⟨below, content, down, wrote⟩
    · rw [same]
      exact ⟨held, sound⟩
    · rw [wrote]
      have worked := worked_writing opened held down content
      exact ⟨worked.held, worked.sound sound⟩
  formatter := (confined mode down).formatter

theorem repository (mode : Sync.Mode) (text : String) : Repository (settings mode) (hostWriting text) ["repo"] tree :=
  ⟨sound, show tree.find? [] ⟨"/", ["repo"]⟩ = some (["repo"], .directory) by decide⟩

theorem fresh_local : Fresh host (settings .apply)
    (generateLocal (settings .apply) (compilerOf (settings .apply))) "" ⟨tree, []⟩ :=
  fresh_of_run (by decide +kernel)

theorem fresh_remote : Fresh host (settings .apply)
    (generateRemote (settings .apply) (compilerOf (settings .apply))) "m"
    ((localPass (settings .apply)).runOn host ⟨tree, []⟩).2 :=
  fresh_of_run (by decide +kernel)

end Sample

theorem run_apply_ends_sample :
    ((run (Sample.settings .apply) true true).runOn Sample.host ⟨Sample.tree, []⟩).1.toOption.map
        (fun o => o.reports.map (·.applied)) =
      some [["testdata/gen_test.go", "testdata/x.pb.go"], ["y.pb.go", "z.pb.go"]] ∧
    RunEnds Sample.host (Sample.settings .apply) ["repo"] ⟨Sample.tree, []⟩
      ((run (Sample.settings .apply) true true).runOn Sample.host ⟨Sample.tree, []⟩) :=
  ⟨by decide +kernel, run_apply_ends rfl (Sample.regular .apply Sample.downward_local) Sample.downward (by decide)
    (Sample.repository .apply _) Sample.fresh_local Sample.fresh_remote⟩

namespace Sample

/-- A job for one directory of the repository and one for all of it. -/
def wide : Config :=
  { Config.default with jobs := [⟨"a", false, [], []⟩, ⟨".", false, [], []⟩], formatter := none }

def wideSettings : Settings := { settings .apply with config := wide }

def described : Files :=
  ⟨[(["repo"], .directory), (["repo", "a"], .directory), (["repo", "a", "x.proto"], .file [3] false)]⟩

/-- The words with which the compiler is started for a description file. -/
def wordsFor (file name : String) : List String :=
  localLine.front ++ outWord localLine.options name :: [file]

/-- The compiler writes a description file for the one of the repository, and for this one a Go file that stands
beside it, in whatever directory it is told to. -/
def describing : Host :=
  { bare with
    run := fun call t =>
      let name := nameIn call.argv
      if call.argv = wordsFor "a/x.proto" name then writing name "y.proto" [1] t
      else if name.toList.head? = some 't' ∧ call.argv = wordsFor (Path.joinText name "y.proto") name then
        writing name (Path.joinText name "y.pb.go") [2] t
      else (.unstarted 2, t)
    draw := fun w n => w.journal.length + n }

theorem name_of_wordsFor {file options : String} {argv : List String} {k : Nat}
    (plain : file.toList.head? ≠ some '-') (words : argv = wordsFor file (nameIn argv))
    (mem : outWord options (Staging.candidate k) ∈ argv) : nameIn argv = Staging.candidate k := by
  have plain : file.toList.take 3 ≠ ['-', '-', 'g'] := fun same => plain (by
    have head := congrArg List.head? same
    rwa [List.head?_take, if_neg (by decide)] at head)
  let line : Line := ⟨localLine.front, localLine.options, file, by
    intro word mem
    rcases List.mem_append.1 mem with front | back
    · exact localLine.plain word (List.mem_append_left _ front)
    · rwa [List.mem_singleton.1 back]⟩
  exact (Line.name_of_mem (l := line) words mem).2

theorem downward_candidate (k : Nat) : Path.Downward (Staging.candidate k) where
  relative := by
    simp [Path.isAbsolute, Path.ofString, Path.rootOf_eq_empty_iff, Staging.toList_candidate]
  inner := fun dots => by
    have dot : '.' ∈ (Staging.candidate k).toList := Path.mem_of_mem_namesOf dots (by decide)
    rw [Staging.toList_candidate, List.mem_append] at dot
    rcases dot with front | letter
    · exact absurd front (by decide)
    · exact absurd (Staging.mem_alphabet letter) (by decide)

theorem regular_describing : Regular wideSettings describing where
  compiler := by
    intro call options k t u S mem opened held sound
    have wrote {text : String} {content : Bytes} (down : Path.Downward text) :
        Held t S (writing (Staging.candidate k) text content u).2 ∧
          (writing (Staging.candidate k) text content u).2.Sound :=
      have worked := worked_writing opened held down content
      ⟨worked.held, worked.sound sound⟩
    simp only [describing]
    split
    · next words =>
      rw [name_of_wordsFor (by decide) words mem]
      exact wrote (by decide)
    split
    · next told =>
      obtain ⟨head, words⟩ := told
      have plain : (Path.joinText (nameIn call.argv) "y.proto").toList.head? ≠ some '-' := by
        rw [Path.joinText, if_neg (by decide)]
        split <;> simp [head]
      rw [name_of_wordsFor plain words mem]
      exact wrote ((downward_candidate k).joinText (by decide))
    · exact ⟨held, sound⟩
  formatter := by
    rintro f source t ⟨⟩

theorem staged_describing : ((stage wideSettings (generateLocal wideSettings
      (compilerOf wideSettings))).runOn describing ⟨described, []⟩).1 =
    .ok (Staging.pathOf wideSettings.repoRoot 0,
      [⟨"a", ["a/x.proto"], [], ["."], none⟩,
        ⟨".", ["a/x.proto", "tmpaaaaaaaa/y.proto"], [], ["a", "tmpaaaaaaaa"], none⟩]) := by
  decide +kernel

end Sample

/-- A job that reaches the staging directory compiles a description file that is staged there. What comes of it is
written over the repository into the staging directory and is removed with it, although the run tells that it is
applied. -/
theorem run_apply_loses :
    Regular Sample.wideSettings Sample.describing ∧ Downward Sample.wide ∧ Path.Downward "m" ∧
      Repository Sample.wideSettings Sample.describing ["repo"] Sample.described ∧
      ((run Sample.wideSettings true true).runOn Sample.describing ⟨Sample.described, []⟩).1.toOption.map
          (fun o => o.reports.map (·.applied)) = some [["tmpaaaaaaaa/y.pb.go"], []] ∧
      ((run Sample.wideSettings true true).runOn Sample.describing ⟨Sample.described, []⟩).2.files.get?
        ["repo", "tmpaaaaaaaa", "y.pb.go"] = none ∧
      ¬ RunEnds Sample.describing Sample.wideSettings ["repo"] ⟨Sample.described, []⟩
        ((run Sample.wideSettings true true).runOn Sample.describing ⟨Sample.described, []⟩) := by
  have gone : ((run Sample.wideSettings true true).runOn Sample.describing ⟨Sample.described, []⟩).2.files.get?
      (["repo"] ++ ["tmpaaaaaaaa", "y.pb.go"]) = none := by decide +kernel
  refine ⟨Sample.regular_describing, ⟨by decide, by decide⟩, by decide,
    ⟨by decide, show Sample.described.find? [] ⟨"/", ["repo"]⟩ = some (["repo"], .directory) by decide⟩,
    by decide +kernel, gone, fun ends => ?_⟩
  obtain ⟨content, x, stands⟩ := ends.stands (n := ["tmpaaaaaaaa", "y.pb.go"]) (by decide +kernel)
    Sample.staged_describing (by decide +kernel)
  cases gone.symm.trans stands

end Regen.Generation
