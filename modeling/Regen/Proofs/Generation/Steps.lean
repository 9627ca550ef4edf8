import Regen.Generation.Run
import Regen.Proofs.Path
import Regen.Proofs.Staging
import Regen.Proofs.Tool

/-!
# The steps of a generation

All that a generation does: it walks the directory of each job, runs the compiler and the formatter, writes the
files of imports and copies relocated files. What relates these steps for two staging directories relates the
generations (`related_generateLocal`, `related_generateRemote`). Where the paths that a configuration names lead downwards, it
keeps every invariant of work inside the staging directory that its tools keep (`keeps_generateLocal`,
`keeps_generateRemote`).
-/

namespace Regen.Generation

open Session

variable {host : Host} {R : World → World → Prop} {s : Settings} {compiler : Tool.Compiler} {staging : Path}

section Related

variable {T : {α : Type} → Session α → Session α → Prop} {staging' : Path} (compatible : Compatible T)

include compatible

theorem related_generateFile {job : Job} {r : JobResult} {names : List String}
    (compiles : ∀ file, T (compiler.compile job.backends (localArguments s job staging file))
      (compiler.compile job.backends (localArguments s job staging' file))) :
    T (generateFile s compiler job staging r names) (generateFile s compiler job staging' r names) := by
  unfold generateFile
  dsimp only
  split
  · exact compatible.throw _
  · split
    · exact compatible.pure _
    split
    · exact compatible.pure _
    · exact compatible.bind (compiles _) fun _ => compatible.pure _

theorem related_writeImportFile {job : Job} {packages : List String}
    (formats : ∀ source, T (Tool.format s.config.formatter source) (Tool.format s.config.formatter source))
    (writes : ∀ content, T (writeFile (staging.join (Path.joinText job.path importFileName)) content)
      (writeFile (staging'.join (Path.joinText job.path importFileName)) content)) :
    T (writeImportFile s job packages staging) (writeImportFile s job packages staging') :=
  compatible.bind (formats _) fun _ => compatible.bind (writes _) fun _ => compatible.pure _

theorem related_generateJob {job : Job}
    (walks : T (walkNames (s.repoRoot.join job.path) (some descriptionEndings))
      (walkNames (s.repoRoot.join job.path) (some descriptionEndings)))
    (compiles : ∀ file, T (compiler.compile job.backends (localArguments s job staging file))
      (compiler.compile job.backends (localArguments s job staging' file)))
    (formats : ∀ source, T (Tool.format s.config.formatter source) (Tool.format s.config.formatter source))
    (writes : job.isTestdata = true → ∀ content,
      T (writeFile (staging.join (Path.joinText job.path importFileName)) content)
        (writeFile (staging'.join (Path.joinText job.path importFileName)) content)) :
    T (generateJob s compiler staging job) (generateJob s compiler staging' job) := by
  refine compatible.bind walks fun files => compatible.bind
    (compatible.foldlM (fun _ _ _ => related_generateFile compatible compiles) _) fun r => ?_
  split
  · next testdata =>
    exact compatible.bind (related_writeImportFile compatible formats (writes testdata)) fun _ => compatible.pure _
  · exact compatible.pure r

theorem related_generateLocal
    (walks : ∀ job ∈ s.config.jobs, T (walkNames (s.repoRoot.join job.path) (some descriptionEndings))
      (walkNames (s.repoRoot.join job.path) (some descriptionEndings)))
    (compiles : ∀ job ∈ s.config.jobs, ∀ file,
      T (compiler.compile job.backends (localArguments s job staging file))
        (compiler.compile job.backends (localArguments s job staging' file)))
    (formats : ∀ source, T (Tool.format s.config.formatter source) (Tool.format s.config.formatter source))
    (writes : ∀ job ∈ s.config.jobs, job.isTestdata = true → ∀ content,
      T (writeFile (staging.join (Path.joinText job.path importFileName)) content)
        (writeFile (staging'.join (Path.joinText job.path importFileName)) content)) :
    T (generateLocal s compiler staging) (generateLocal s compiler staging') :=
  compatible.mapM fun job mem =>
    related_generateJob compatible (walks job mem) (compiles job mem) formats (writes job mem)

theorem related_relocate {r : Relocation} {done : List String}
    (checks : T (isFile (staging.join r.source)) (isFile (staging'.join r.source)))
    (copies : T (copyFile (staging.join r.source) (staging.join r.destination))
      (copyFile (staging'.join r.source) (staging'.join r.destination)))
    (warns : ∀ text, T (warn text) (warn text)) : T (relocate staging done r) (relocate staging' done r) := by
  refine compatible.bind checks fun found => ?_
  split
  · exact compatible.bind copies fun _ => compatible.pure _
  split
  · exact compatible.bind (warns _) fun _ => compatible.pure _
  · exact compatible.throw _

theorem related_generateRemote
    (compiles : ∀ root, s.protoRoot = some root → ∀ t ∈ s.config.targets,
      T (compiler.compile "go" (remoteArguments s root staging t))
        (compiler.compile "go" (remoteArguments s root staging' t)))
    (checks : ∀ r ∈ s.config.relocations, T (isFile (staging.join r.source)) (isFile (staging'.join r.source)))
    (copies : ∀ r ∈ s.config.relocations, T (copyFile (staging.join r.source) (staging.join r.destination))
      (copyFile (staging'.join r.source) (staging'.join r.destination)))
    (warns : ∀ text, T (warn text) (warn text)) :
    T (generateRemote s compiler staging) (generateRemote s compiler staging') := by
  unfold generateRemote
  split
  · exact compatible.throw _
  · next root known =>
    refine compatible.bind (compatible.forM (compiles root known)) fun _ => compatible.bind
      (compatible.foldlM (fun done r mem => ?_) _) fun _ => compatible.pure _
    exact related_relocate compatible (checks r mem) (copies r mem) warns

end Related

theorem alike_generateLocal
    (walks : ∀ job ∈ s.config.jobs,
      (walkNames (s.repoRoot.join job.path) (some descriptionEndings)).Alike host R)
    (compiles : ∀ job ∈ s.config.jobs, ∀ file,
      (compiler.compile job.backends (localArguments s job staging file)).Alike host R)
    (formats : ∀ source, (Tool.format s.config.formatter source).Alike host R)
    (writes : ∀ job ∈ s.config.jobs, job.isTestdata = true → ∀ content,
      (writeFile (staging.join (Path.joinText job.path importFileName)) content).Alike host R) :
    (generateLocal s compiler staging).Alike host R :=
  (related_generateLocal (Alike.compatible host R) (fun job mem => ⟨rfl, walks job mem⟩)
    (fun job mem file => ⟨rfl, compiles job mem file⟩) (fun source => ⟨rfl, formats source⟩)
    fun job mem testdata content => ⟨rfl, writes job mem testdata content⟩).2

theorem alike_relocate {r : Relocation} {done : List String}
    (checks : (isFile (staging.join r.source)).Alike host R)
    (copies : (copyFile (staging.join r.source) (staging.join r.destination)).Alike host R)
    (warns : ∀ text, (warn text).Alike host R) : (relocate staging done r).Alike host R :=
  (related_relocate (Alike.compatible host R) ⟨rfl, checks⟩ ⟨rfl, copies⟩ fun text => ⟨rfl, warns text⟩).2

theorem alike_generateRemote
    (compiles : ∀ root, s.protoRoot = some root → ∀ t ∈ s.config.targets,
      (compiler.compile "go" (remoteArguments s root staging t)).Alike host R)
    (checks : ∀ r ∈ s.config.relocations, (isFile (staging.join r.source)).Alike host R)
    (copies : ∀ r ∈ s.config.relocations,
      (copyFile (staging.join r.source) (staging.join r.destination)).Alike host R)
    (warns : ∀ text, (warn text).Alike host R) : (generateRemote s compiler staging).Alike host R :=
  (related_generateRemote (Alike.compatible host R) (fun root known t mem => ⟨rfl, compiles root known t mem⟩)
    (fun r mem => ⟨rfl, checks r mem⟩) (fun r mem => ⟨rfl, copies r mem⟩) fun text => ⟨rfl, warns text⟩).2

/-! ### The passes of a run -/

/-- A pass, when it is asked for. -/
def asked {α : Type} (wanted : Bool) (pass : Session α) : Session (Option α) :=
  if wanted then some <$> pass else return none

theorem run_eq (s : Settings) (inside outside : Bool) :
    run s inside outside = (do
      let first ← asked inside (localPass s)
      let second ← asked outside (remotePass s)
      return ⟨(first.map (·.1)).getD [], first.map (·.2), second.map (·.1), second.map (·.2)⟩) := by
  cases inside <;> cases outside <;> rfl

/-- A pass that is asked for, or is not. -/
theorem runOn_asked_eq_ok_iff {α : Type} {wanted : Bool} {pass : Session α} {w v : World} {x : Option α} :
    (asked wanted pass).runOn host w = (.ok x, v) ↔
      (wanted = false ∧ x = none ∧ v = w) ∨
        wanted = true ∧ ∃ a, x = some a ∧ pass.runOn host w = (.ok a, v) := by
  cases wanted with
  | false =>
    have none : (asked false pass).runOn host w = (.ok none, w) := rfl
    simp [none, eq_comm]
  | true =>
    rw [asked, if_pos rfl, map_eq_pure_bind, runOn_bind_eq_ok_iff]
    simp [eq_comm, and_comm]

theorem runOn_asked_snd {α : Type} (pass : Session α) (w : World) :
    ((asked true pass).runOn host w).2 = (pass.runOn host w).2 := by
  rw [asked, if_pos rfl, runOn_map]

theorem alike_asked {α : Type} {wanted : Bool} {pass : Session α} (alike : pass.Alike host R) :
    (asked wanted pass).Alike host R := by
  unfold asked
  split
  · exact .map some alike
  · exact .pure none

/-! ### Work inside the staging directory -/

/-- The paths at which a configuration has files written lead downwards. -/
structure Downward (c : Config) : Prop where
  job : ∀ job ∈ c.jobs, job.isTestdata = true → Path.Downward job.path
  relocation : ∀ r ∈ c.relocations, Path.Downward r.destination

theorem downward_importFileName : Path.Downward importFileName := by decide

open Files

/-- An invariant of work inside the directory `S` of the tree `t`: it outlives what is written there. -/
structure Invariant (t : Files) (S : Place) (I : World → Prop) : Prop where
  held : ∀ w, I w → Held t S w.files
  written : ∀ w v, I w → Worked t S w v → I v
  warned : ∀ w text, I w → I (w.noted [.warned text])

section Work

variable {t : Files} {S : Place} {I : World → Prop} (opened : Opened t host.cwd staging S)
  (invariant : Invariant t S I)

include opened invariant

theorem keeps_writeFile {text : String} (down : Path.Downward text) (content : Bytes) :
    (writeFile (staging.join text) content).Keeps host I := by
  rw [keeps_iff]
  intro w holds
  rw [down.join]
  exact invariant.written w _ holds (worked_writeFile opened (invariant.held w holds) down.isInner content)

theorem keeps_copyFile {text : String} (down : Path.Downward text) (source : Path) :
    (copyFile source (staging.join text)).Keeps host I := by
  rw [keeps_iff]
  intro w holds
  rw [down.join]
  exact invariant.written w _ holds (worked_copyFile opened (invariant.held w holds) source down.isInner)

theorem keeps_generateLocal (down : Downward s.config)
    (compiles : ∀ job ∈ s.config.jobs, ∀ file w, I w →
      I (Tool.after host (compiler.call host.env job.backends (localArguments s job staging file)) w))
    (formats : ∀ f source w, s.config.formatter = some f → I w → I (Tool.after host (Tool.formatCall f source) w)) :
    (generateLocal s compiler staging).Keeps host I :=
  alike_generateLocal
    (fun _ _ => keeps_of_unchanged (runOn_walkNames_snd _ _))
    (fun job mem file => Tool.alike_compile (Tool.respects_of_keeps (compiles job mem file)))
    (fun source => Tool.alike_format fun f known =>
      Tool.respects_of_keeps fun w => formats f source w known)
    fun job mem testdata content =>
      keeps_writeFile opened invariant ((down.job job mem testdata).joinText downward_importFileName) content

theorem keeps_generateRemote (down : Downward s.config)
    (compiles : ∀ root, s.protoRoot = some root → ∀ target ∈ s.config.targets, ∀ w, I w →
      I (Tool.after host (compiler.call host.env "go" (remoteArguments s root staging target)) w)) :
    (generateRemote s compiler staging).Keeps host I :=
  alike_generateRemote
    (fun root known target mem =>
      Tool.alike_compile (Tool.respects_of_keeps (compiles root known target mem)))
    (fun _ _ => keeps_of_unchanged (runOn_isFile_snd _))
    (fun r mem => keeps_copyFile opened invariant (down.relocation r mem) _)
    fun text => keeps_iff.2 fun w holds => invariant.warned w text holds

end Work

end Regen.Generation
