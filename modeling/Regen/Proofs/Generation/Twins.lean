import Regen.Proofs.Files.Twin
import Regen.Proofs.Generation.Apply

/-!
# Generating the same twice

Staging directories of two names are opened in two trees with the same description files. Generating into the
second one then gives what generating into the first one gave, makes the same calls but for that name, and leaves the
same in the directory (`simulates_generateLocal`, `simulates_generateRemote`), when the tools depend on their calls,
on the description files and on what is in the directory, but not on its name, and no description file comes into
it.
-/

namespace Regen.Generation

open Files Session

/-! ### Calls that tell of a staging directory -/

/-- Two calls differ in the name of the staging directory alone, in the argument that tells the compiler to write
there. -/
structure Renamed (s : Settings) (options : String) (k m : Nat) (call call' : Call) : Prop where
  argv : ∃ front back, call.argv = front ++ s!"--go_out={options}:{Staging.pathOf s.repoRoot k}" :: back ∧
    call'.argv = front ++ s!"--go_out={options}:{Staging.pathOf s.repoRoot m}" :: back
  cwd : call'.cwd = call.cwd
  env : call'.env = call.env
  input : call'.input = call.input

/-- The same was done, but for the name of the staging directory in a call of the compiler. -/
inductive Redone (s : Settings) : Event → Event → Prop
  | same (e : Event) : Redone s e e
  | ran {options : String} {k k' : Nat} {call call' : Call} :
      Renamed s options k k' call call' → Redone s (.ran call) (.ran call')

theorem Redone.isEmitted_eq {s : Settings} {e e' : Event} (redone : Redone s e e') : isEmitted e' = isEmitted e := by
  cases redone <;> rfl

/-- What was not emitted is not emitted when it is done again. -/
theorem not_isEmitted_of_redone {s : Settings} {es es' : List Event} (redone : List.Forall₂ (Redone s) es es')
    (quiet : ∀ e ∈ es, isEmitted e = false) : ∀ e ∈ es', isEmitted e = false := by
  induction redone with
  | nil => exact quiet
  | cons here rest ih =>
    rw [List.forall_mem_cons] at quiet ⊢
    exact ⟨here.isEmitted_eq.trans quiet.1, ih quiet.2⟩

theorem holdsNul_append (a b : String) : holdsNul (a ++ b) = (holdsNul a || holdsNul b) := by
  simp [holdsNul, Bool.decide_or]

theorem holdsNul_candidate (k : Nat) : holdsNul (Staging.candidate k) = false := by
  simpa [holdsNul] using (Staging.isName_candidate k).nul

/-- No name of a staging directory holds NUL. -/
theorem holdsNul_pathOf (parent : Path) (k k' : Nat) :
    holdsNul (Staging.pathOf parent k).toString = holdsNul (Staging.pathOf parent k').toString := by
  have ends : ∀ m, holdsNul (Staging.pathOf parent m).toString =
      holdsNul (parent.root ++ "/".intercalate (parent.parts ++ [""])) := by
    intro m
    rw [Staging.pathOf, Path.toString, if_neg (by simp), holdsNul_append, holdsNul_append]
    by_cases bare : parent.parts = []
    · simp [bare, holdsNul_candidate, show holdsNul "" = false from rfl]
    · simp only [String.intercalate_append_of_ne_nil bare (List.cons_ne_nil _ _), String.intercalate_singleton,
        holdsNul_append, holdsNul_candidate, show holdsNul "" = false from rfl]
  rw [ends, ends]

/-- Each call tells of its staging directory. -/
theorem Renamed.told {s : Settings} {options : String} {k m : Nat} {call call' : Call}
    (renamed : Renamed s options k m call call') :
    s!"--go_out={options}:{Staging.pathOf s.repoRoot k}" ∈ call.argv ∧
      s!"--go_out={options}:{Staging.pathOf s.repoRoot m}" ∈ call'.argv := by
  obtain ⟨front, back, argv, argv'⟩ := renamed.argv
  constructor
  · simp [argv]
  · simp [argv']

/-- If the one can be made, so can the other. -/
theorem Renamed.isUnfit_eq {s : Settings} {options : String} {k m : Nat} {call call' : Call}
    (renamed : Renamed s options k m call call') : call'.isUnfit = call.isUnfit := by
  obtain ⟨front, back, argv, argv'⟩ := renamed.argv
  have out : holdsNul s!"--go_out={options}:{Staging.pathOf s.repoRoot m}" =
      holdsNul s!"--go_out={options}:{Staging.pathOf s.repoRoot k}" := by
    have path : holdsNul (toString (Staging.pathOf s.repoRoot m)) =
        holdsNul (toString (Staging.pathOf s.repoRoot k)) := holdsNul_pathOf s.repoRoot m k
    simp only [holdsNul_append, path]
  rw [Call.isUnfit, Call.isUnfit, renamed.cwd, renamed.env, argv, argv', List.any_append, List.any_append,
    List.any_cons, List.any_cons, out]

theorem renamed_local (s : Settings) (env : Env) (job : Job) (file : String) (k k' : Nat) :
    Renamed s (optionsOf s.config job file) k k'
      ((compilerOf s).call env job.backends (localArguments s job (Staging.pathOf s.repoRoot k) file))
      ((compilerOf s).call env job.backends (localArguments s job (Staging.pathOf s.repoRoot k') file)) where
  argv := by
    refine ⟨(compilerOf s).argv
      ((s.protoRoot.toList.map fun p => p.join "src") ++ [s.repoRoot] |>.map fun p => s!"-I{p}"), [file], ?_, ?_⟩ <;>
    simp [Tool.Compiler.call, Tool.Compiler.argv, localArguments]
  cwd := rfl
  env := rfl
  input := rfl

theorem renamed_remote (s : Settings) (env : Env) (root : Path) (target : Target) (k k' : Nat) :
    Renamed s s.config.overrides.optionText k k'
      ((compilerOf s).call env "go" (remoteArguments s root (Staging.pathOf s.repoRoot k) target))
      ((compilerOf s).call env "go" (remoteArguments s root (Staging.pathOf s.repoRoot k') target)) where
  argv := by
    let directory := if target.searchPath = "" then root else root.join target.searchPath
    refine ⟨(compilerOf s).argv [s!"-I{directory}"], [target.path], ?_, ?_⟩ <;>
    simp [directory, Tool.Compiler.call, Tool.Compiler.argv, remoteArguments]
  cwd := rfl
  env := rfl
  input := rfl

/-! ### What generating depends on -/

/-- The same description files stand in two trees. -/
def SameDescriptions (t u : Files) : Prop :=
  ∀ p, hasEnding (some descriptionEndings) (p.getLast?.getD "") = true →
    ∀ content x, t.get? p = some (.file content x) ↔ u.get? p = some (.file content x)

theorem SameDescriptions.symm {t u : Files} (same : SameDescriptions t u) : SameDescriptions u t :=
  fun p ending content x => (same p ending content x).symm

theorem SameDescriptions.trans {t u v : Files} (first : SameDescriptions t u) (second : SameDescriptions u v) :
    SameDescriptions t v := fun p ending content x => (first p ending content x).trans (second p ending content x)

/-- The tools of a host depend on their calls alone, but for what the compiler finds in the description files and in
the staging directory, the name of which does not matter to it. The compiler writes files there and takes none
away. -/
structure Steady (s : Settings) (host : Host) : Prop extends Regular s host where
  compiles : ∀ {call call' : Call} {options : String} {k k' : Nat} {t t' u u' : Files} {S S' : Place} {out err : Bytes},
    Renamed s options k k' call call' →
    Opened t host.cwd (Staging.pathOf s.repoRoot k) S → Held t S u → u.Sound →
    Opened t' host.cwd (Staging.pathOf s.repoRoot k') S' → Held t' S' u' → u'.Sound →
    AgreeIn S S' u u' → SameDescriptions u u' → (host.run call u).1 = .ended 0 out err →
    (∃ out' err', (host.run call' u').1 = .ended 0 out' err') ∧
      AgreeIn S S' (host.run call u).2 (host.run call' u').2
  adds : ∀ (call : Call) (options : String) (k : Nat) (t u : Files) (S : Place),
    s!"--go_out={options}:{Staging.pathOf s.repoRoot k}" ∈ call.argv →
    Opened t host.cwd (Staging.pathOf s.repoRoot k) S → Held t S u → u.Sound → FilesStay u (host.run call u).2
  formats : ∀ f source t u, s.config.formatter = some f →
    (host.run (Tool.formatCall f source) t).1 = (host.run (Tool.formatCall f source) u).1

/-- The paths that a configuration names lead downwards. -/
structure Inward (c : Config) : Prop where
  job : ∀ job ∈ c.jobs, Path.Downward job.path
  source : ∀ r ∈ c.relocations, Path.Downward r.source
  destination : ∀ r ∈ c.relocations, Path.Downward r.destination

theorem Inward.downward {c : Config} (inward : Inward c) : Downward c :=
  ⟨fun job mem _ => inward.job job mem, inward.destination⟩

/-! ### Description files in a staging directory -/

/-- A description file stands in a directory. -/
def Described (S : Place) (t : Files) : Prop := ∃ ns content x, t.get? (S ++ ns) = some (.file content x) ∧
  hasEnding (some descriptionEndings) (ns.getLast?.getD "") = true

theorem Described.mono {S : Place} {t u : Files} (stay : FilesStay t u) (described : Described S t) : Described S u := by
  obtain ⟨ns, content, x, there, ending⟩ := described
  obtain ⟨content', x', stays⟩ := stay _ content x there
  exact ⟨ns, content', x', stays, ending⟩

/-- Work inside a directory into which no description file comes keeps these files as they are. -/
theorem sameDescriptions_of_held {t u : Files} {base S : Place} {staging : Path} (opened : Opened t base staging S)
    (held : Held t S u) (clean : ¬ Described S u) : SameDescriptions t u := by
  intro p ending content x
  by_cases inside : S <+: p ∧ p ≠ S
  · obtain ⟨⟨ns, rfl⟩, other⟩ := inside
    have more : ns ≠ [] := by
      rintro rfl
      exact other (List.append_nil S)
    rw [List.getLast?_append, Option.or_of_isSome (by simpa using more)] at ending
    rw [opened.empty _ (List.prefix_append S ns) other]
    exact iff_of_false nofun fun there => clean ⟨ns, content, x, there, ending⟩
  · rw [held.off p fun below => not_not.1 fun other => inside ⟨below, other⟩]

/-- Work was done inside the staging directory, and a description file came into it. -/
structure Tainted (t : Files) (S : Place) (w : World) : Prop where
  held : Held t S w.files
  sound : w.files.Sound
  described : Described S w.files

theorem invariant_tainted (t : Files) (S : Place) : Invariant t S (Tainted t S) where
  held _ tainted := tainted.held
  written _ _ tainted worked := ⟨worked.held, worked.sound tainted.sound, tainted.described.mono worked.files⟩
  warned _ _ tainted := ⟨tainted.held, tainted.sound, tainted.described⟩

section Twins

variable {host : Host} {s : Settings} {D : Place} {k k' : Nat} {t t' : Files} {j j' : List Event}

/-- Two trees with the same description files, in each of which a staging directory has been opened in the
repository. -/
structure Sides (host : Host) (s : Settings) (D : Place) (k k' : Nat) (t t' : Files) : Prop where
  opened : Opened t host.cwd (Staging.pathOf s.repoRoot k) (stagedAt D k)
  opened' : Opened t' host.cwd (Staging.pathOf s.repoRoot k') (stagedAt D k')
  root : Anchor t host.cwd s.repoRoot.root s.repoRoot.parts D
  root' : Anchor t' host.cwd s.repoRoot.root s.repoRoot.parts D
  descriptions : SameDescriptions t t'

/-- Two worlds in which the same has been done inside the staging directories since they were opened. The journals
were `j` and `j'` then; nothing has been emitted. -/
structure Twins (s : Settings) (D : Place) (k k' : Nat) (t t' : Files) (j j' : List Event) (w v : World) : Prop where
  held : Held t (stagedAt D k) w.files
  held' : Held t' (stagedAt D k') v.files
  sound : w.files.Sound
  sound' : v.files.Sound
  agree : AgreeIn (stagedAt D k) (stagedAt D k') w.files v.files
  journal : ∃ es es', w.journal = j ++ es ∧ v.journal = j' ++ es' ∧ List.Forall₂ (Redone s) es es' ∧
    ∀ e ∈ es, isEmitted e = false

namespace Twins

variable (sides : Sides host s D k k' t t') {w v w' v' : World}

include sides

theorem twinWorlds (twins : Twins s D k k' t t' j j' w v) : TwinWorlds host s.repoRoot.root s.repoRoot.parts
    (Staging.candidate k) (Staging.candidate k') (stagedAt D k) (stagedAt D k') w v :=
  ⟨twins.held.anchor sides.opened, twins.held'.anchor sides.opened', twins.held.clear, twins.agree,
    (Staging.utf8ByteSize_candidate k).trans (Staging.utf8ByteSize_candidate k').symm⟩

theorem descriptions (twins : Twins s D k k' t t' j j' w v) (clean : ¬ Tainted t (stagedAt D k) w) :
    SameDescriptions w.files v.files := by
  have clean : ¬ Described (stagedAt D k) w.files := fun described => clean ⟨twins.held, twins.sound, described⟩
  have clean' : ¬ Described (stagedAt D k') v.files := by
    rintro ⟨ns, content, x, there, ending⟩
    exact clean ⟨ns, content, x, (twins.agree ns).trans there, ending⟩
  exact (sameDescriptions_of_held sides.opened twins.held clean).symm.trans
    (sides.descriptions.trans (sameDescriptions_of_held sides.opened' twins.held' clean'))

omit sides in
theorem noted (twins : Twins s D k k' t t' j j' w v) {e e' : Event} (redone : Redone s e e')
    (quiet : isEmitted e = false) : Twins s D k k' t t' j j' (w.noted [e]) (v.noted [e']) := by
  obtain ⟨es, es', first, second, related, none⟩ := twins.journal
  refine ⟨twins.held, twins.held', twins.sound, twins.sound', twins.agree, es ++ [e], es' ++ [e'], ?_, ?_, ?_, ?_⟩
  · rw [World.noted_journal, first, List.append_assoc]
  · rw [World.noted_journal, second, List.append_assoc]
  · exact List.rel_append related (.cons redone .nil)
  · intro e' mem
    rcases List.mem_append.1 mem with before | last
    · exact none e' before
    · rwa [List.mem_singleton.1 last]

omit sides in
/-- The same has been written into the staging directory in both. -/
theorem worked (twins : Twins s D k k' t t' j j' w v) (first : Worked t (stagedAt D k) w w')
    (second : Worked t' (stagedAt D k') v v')
    (after : AgreeIn (stagedAt D k) (stagedAt D k') w'.files v'.files) : Twins s D k k' t t' j j' w' v' := by
  refine ⟨first.held, second.held, first.sound twins.sound, second.sound twins.sound', after, ?_⟩
  rw [first.journal, second.journal]
  exact twins.journal

end Twins

variable (sides : Sides host s D k k' t t')

include sides

theorem simulates_walkNames {path : String} (down : Path.Downward path) :
    Simulates host (Tainted t (stagedAt D k)) (Twins s D k k' t t' j j')
      (walkNames (s.repoRoot.join path) (some descriptionEndings))
      (walkNames (s.repoRoot.join path) (some descriptionEndings)) := by
  refine .seen (runOn_walkNames_snd _ _) fun {w v} a twins clean run => ?_
  have descriptions := twins.descriptions sides clean
  have same : w.files.walkNames host.cwd (s.repoRoot.join path) (some descriptionEndings) =
      v.files.walkNames host.cwd (s.repoRoot.join path) (some descriptionEndings) := by
    rw [down.join]
    refine Anchor.walkNames_congr (sides.root.kept (twins.held.ways sides.opened))
      (sides.root'.kept (twins.held'.ways sides.opened')) twins.sound twins.sound' down.isInner Iff.rfl fun names => ?_
    have last : names ≠ [] → (D ++ (Path.ofString path).parts ++ names).getLast? = names.getLast? := fun more => by
      rw [List.getLast?_append, Option.or_of_isSome (by simpa using more)]
    constructor
    · rintro ⟨more, ⟨content, x, file⟩, ending⟩
      exact ⟨more, ⟨content, x, (descriptions _ (by rwa [last more]) _ _).1 file⟩, ending⟩
    · rintro ⟨more, ⟨content, x, file⟩, ending⟩
      exact ⟨more, ⟨content, x, (descriptions _ (by rwa [last more]) _ _).2 file⟩, ending⟩
  rw [runOn_walkNames] at run ⊢
  rw [← same]
  simp only [Prod.mk.injEq, and_true] at run ⊢
  exact run

theorem simulates_writeFile {text : String} (down : Path.Downward text) (content : Bytes) :
    Simulates host (Tainted t (stagedAt D k)) (Twins s D k k' t t' j j')
      (writeFile ((Staging.pathOf s.repoRoot k).join text) content)
      (writeFile ((Staging.pathOf s.repoRoot k').join text) content) where
  keeps := keeps_writeFile sides.opened (invariant_tainted t _) down content
  step := by
    intro w v w' _ twins run _
    rw [down.join] at run ⊢
    have first := worked_writeFile sides.opened twins.held down.isInner content
    have second := worked_writeFile sides.opened' twins.held' down.isInner content
    by_cases more : (Path.ofString text).parts = []
    · rw [more, List.append_nil] at run
      have fails :=
        runOn_writeFile_directory (twins.held.parent sides.opened) (twins.held.anchor sides.opened) content
      cases run.symm.trans fails
    · obtain ⟨v', run', after⟩ :=
        twin_writeFile (Staging.isName_candidate k').nul (twins.twinWorlds sides) down.isInner more run
      refine ⟨v', run', ?_⟩
      rw [run] at first
      have run' : (writeFile ⟨(Staging.pathOf s.repoRoot k').root, (Staging.pathOf s.repoRoot k').parts ++ _⟩
        content).runOn host v = _ := run'
      rw [run'] at second
      exact twins.worked first second after.agree

theorem simulates_copyFile {source text : String} (downSource : Path.Downward source) (down : Path.Downward text) :
    Simulates host (Tainted t (stagedAt D k)) (Twins s D k k' t t' j j')
      (copyFile ((Staging.pathOf s.repoRoot k).join source) ((Staging.pathOf s.repoRoot k).join text))
      (copyFile ((Staging.pathOf s.repoRoot k').join source) ((Staging.pathOf s.repoRoot k').join text)) := by
  refine .bind (.seen (runOn_readFile_snd _) fun {w v} a twins _ run => ?_) fun content =>
    simulates_writeFile sides down content
  rw [downSource.join] at run ⊢
  exact twin_readFile (Staging.isName_candidate k').nul (twins.twinWorlds sides) downSource.isInner run

theorem simulates_isFile {source : String} (down : Path.Downward source) :
    Simulates host (Tainted t (stagedAt D k)) (Twins s D k k' t t' j j')
      (isFile ((Staging.pathOf s.repoRoot k).join source)) (isFile ((Staging.pathOf s.repoRoot k').join source)) := by
  refine .seen (runOn_isFile_snd _) fun {w v} a twins _ run => ?_
  rw [down.join] at run ⊢
  exact twin_isFile (Staging.isName_candidate k').nul (twins.twinWorlds sides) down.isInner
    (Staging.isName_candidate k).nul run

variable (steady : Steady s host)

include steady

theorem tainted_after {call : Call} {options : String} {w : World}
    (told : s!"--go_out={options}:{Staging.pathOf s.repoRoot k}" ∈ call.argv)
    (tainted : Tainted t (stagedAt D k) w) : Tainted t (stagedAt D k) (Tool.after host call w) := by
  obtain ⟨held, sound⟩ := steady.compiler call options k t w.files _ told sides.opened tainted.held tainted.sound
  have stay := steady.adds call options k t w.files _ told sides.opened tainted.held tainted.sound
  have after := Tool.files_after_of (P := fun u => Tainted t (stagedAt D k) ⟨u, w.journal⟩) tainted
    ⟨held, sound, tainted.described.mono stay⟩
  exact ⟨after.held, after.sound, after.described⟩

theorem simulates_compile {compiler : Tool.Compiler} {backends options : String} {args args' : List String}
    (renamed : Renamed s options k k' (compiler.call host.env backends args) (compiler.call host.env backends args')) :
    Simulates host (Tainted t (stagedAt D k)) (Twins s D k k' t t' j j') (compiler.compile backends args)
      (compiler.compile backends args') := by
  obtain ⟨told, told'⟩ := renamed.told
  have keeps : (compiler.compile backends args).Keeps host (Tainted t (stagedAt D k)) :=
    Tool.alike_compile (Tool.respects_of_keeps fun w => tainted_after sides steady told)
  refine ⟨keeps, fun {w v w' _} twins run clean => ?_⟩
  have clean : ¬ Tainted t (stagedAt D k) w := fun tainted => clean <| by
    have kept := keeps_iff.1 keeps w tainted
    rwa [run] at kept
  by_cases well : Tool.EndsWell host w (compiler.call host.env backends args)
  · obtain ⟨out, err, ended⟩ := well
    obtain ⟨fit, ran⟩ := Host.start_fst_eq_some_iff.1 ended
    have fit' : (compiler.call host.env backends args').isUnfit = false := renamed.isUnfit_eq.trans fit
    obtain ⟨⟨out', err', ran'⟩, agree⟩ := steady.compiles renamed sides.opened twins.held twins.sound sides.opened'
      twins.held' twins.sound' twins.agree (twins.descriptions sides clean) ran
    obtain ⟨held, sound⟩ := steady.compiler _ options k t w.files _ told sides.opened twins.held twins.sound
    obtain ⟨held', sound'⟩ := steady.compiler _ options k' t' v.files _ told' sides.opened' twins.held' twins.sound'
    cases run.symm.trans (Tool.runOn_compile ended)
    refine ⟨_, Tool.runOn_compile (Host.start_fst_eq_some_iff.2 ⟨fit', ran'⟩), ?_⟩
    have noted := twins.noted (.ran renamed) rfl
    rw [Tool.after, Tool.after, Host.start_of_fit fit, Host.start_of_fit fit']
    exact ⟨held, held', sound, sound', agree, noted.journal⟩
  · obtain ⟨e, -, fails⟩ := Tool.runOn_compile_of_fails well
    cases run.symm.trans fails

omit sides in
theorem simulates_format (source : String) : Simulates host (Tainted t (stagedAt D k)) (Twins s D k k' t t' j j')
    (Tool.format s.config.formatter source) (Tool.format s.config.formatter source) := by
  have noted : ∀ f w, s.config.formatter = some f →
      Tool.after host (Tool.formatCall f source) w = w.noted [.ran (Tool.formatCall f source)] :=
    fun f w known => Tool.after_eq_noted (steady.formatter f source _ known)
  refine .of_alike (Tool.alike_format fun f known => Tool.respects_of_keeps fun w tainted => ?_)
    (Tool.alike_format fun f known w v twins => ⟨Host.start_fst_congr (steady.formats f source _ _ known), ?_⟩)
  · rw [noted f w known]
    exact ⟨tainted.held, tainted.sound, tainted.described⟩
  · rw [noted f w known, noted f v known]
    exact twins.noted (.same _) rfl

variable (inward : Inward s.config)

include inward

theorem simulates_generateLocal : Simulates host (Tainted t (stagedAt D k)) (Twins s D k k' t t' j j')
    (generateLocal s (compilerOf s) (Staging.pathOf s.repoRoot k))
    (generateLocal s (compilerOf s) (Staging.pathOf s.repoRoot k')) :=
  related_generateLocal (Simulates.compatible host _ _)
    (fun job mem => simulates_walkNames sides (inward.job job mem))
    (fun job _ file => simulates_compile sides steady (renamed_local s host.env job file k k'))
    (fun source => simulates_format steady source)
    fun job mem _ content =>
      simulates_writeFile sides ((inward.job job mem).joinText downward_importFileName) content

theorem simulates_generateRemote : Simulates host (Tainted t (stagedAt D k)) (Twins s D k k' t t' j j')
    (generateRemote s (compilerOf s) (Staging.pathOf s.repoRoot k))
    (generateRemote s (compilerOf s) (Staging.pathOf s.repoRoot k')) :=
  related_generateRemote (Simulates.compatible host _ _)
    (fun root _ target _ => simulates_compile sides steady (renamed_remote s host.env root target k k'))
    (fun r mem => simulates_isFile sides (inward.source r mem))
    (fun r mem => simulates_copyFile sides (inward.source r mem) (inward.destination r mem))
    fun text => .of_alike (keeps_iff.2 fun w tainted => (invariant_tainted t _).warned w text tainted)
      (.note fun _ _ twins => twins.noted (.same _) rfl)

end Twins

end Regen.Generation
