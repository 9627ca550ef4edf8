import Regen.Proofs.Corresponding
import Regen.Proofs.Dispatch
import Regen.Proofs.Generator

/-!
# Requests apart

A request that asks generators of several names for several files is as good as the requests of each name
for each file (`handle_gathers`). Its steps are the steps of these, in groups (`mapM_steps`). What the
answers are merged into does not depend on the groups, as none of them is empty.
-/

namespace Regen.Dispatch

open Session (Alike)

variable {host : Host}

/-- What a step gives in the empty world. -/
def Step.given (host : Host) (step : Step) : Except Failure Response :=
  step.outcome fun g c => (g.generate c).result host

/-- A step gives the same in every world. -/
structure Step.Settled (host : Host) (step : Step) : Prop where
  steady : ∀ whole, (step.into whole).Steady host
  result : ∀ whole, (step.into whole).result host = (step.given host).map whole.merge

theorem settled_of_mem_steps {registry : Registry} (separate : registry.Separate host) {plugins : List String}
    {request : Request} {stable : Bool} {step : Step} (mem : step ∈ steps registry plugins request stable) :
    step.Settled host := by
  rcases mem_steps mem with ⟨e, rfl⟩ | ⟨plugin, -, g, listed, d, rfl⟩
  · exact ⟨fun _ => .throw e, fun _ => rfl⟩
  · have steady : (g.generate ⟨request, d, stable⟩).Steady host := (separate plugin g listed).steady _
    have asked : (g.ask ⟨request, d, stable⟩).Steady host := .bind (.note fun _ _ _ => trivial) fun _ => steady
    have gives : (g.ask ⟨request, d, stable⟩).result host = Step.given host (.ask g ⟨request, d, stable⟩) := by
      rw [Generator.ask, Session.result_bind _ fun _ => steady]
      rfl
    refine ⟨fun whole => asked.bind fun part => .pure _, fun whole => ?_⟩
    rw [Step.into, askInto, Session.result_bind _ fun _ => .pure _, gives]
    cases Step.given host (.ask g ⟨request, d, stable⟩) <;> rfl

theorem result_foldlM {steps : List Step} (settled : ∀ step ∈ steps, step.Settled host) (whole : Response) :
    (steps.foldlM Step.into whole).result host =
      (steps.mapM (Step.given host)).map (·.foldl .merge whole) := by
  induction steps generalizing whole with
  | nil => rfl
  | cons step steps ih =>
    have later : ∀ s ∈ steps, s.Settled host := fun s mem => settled s (by simp [mem])
    have here : step.Settled host := settled step (by simp)
    rw [List.foldlM_cons, List.mapM_cons,
      Session.result_bind _ fun part => .foldlM (fun whole s mem => (later s mem).steady whole) part, here.result]
    cases step.given host with
    | error e => rfl
    | ok part =>
      have rest : _ = _ := ih later (whole.merge part)
      simp only [Except.map, Except.bind] at rest ⊢
      rw [rest]
      cases steps.mapM (Step.given host) <;> rfl

theorem runOn_handle_fst {registry : Registry} (separate : registry.Separate host) (plugins : List String)
    {request : Request} (texts : ∀ name ∈ request.names, name.isText = true) (stable : Bool) (w : World) :
    ((handle registry plugins request stable).runOn host w).1 =
      ((steps registry plugins request stable).mapM (Step.given host)).map (·.foldl .merge .empty) := by
  have settled : ∀ step ∈ steps registry plugins request stable, step.Settled host :=
    fun step mem => settled_of_mem_steps separate mem
  have steady : (handle registry plugins request stable).Steady host := by
    rw [handle_eq_of_texts texts]
    exact .foldlM (fun whole step mem => (settled step mem).steady whole) _
  rw [steady.runOn_fst, handle_eq_of_texts texts, result_foldlM settled]

/-! ### Steps in groups -/

section Groups

variable {registry : Registry} {request : Request} {fs : List String} {stable : Bool}

/-- A file has the same steps in a request for it only. -/
theorem mapM_fileSteps {gs : List Generator} (separate : ∀ g ∈ gs, g.Separate host) {single : Request}
    {file : String} (narrows : request.Narrows single file) :
    (fileSteps single stable gs (.text file)).mapM (Step.given host) =
      (fileSteps request stable gs (.text file)).mapM (Step.given host) := by
  unfold fileSteps
  rw [narrows.descriptor?]
  cases request.descriptor? (.text file) with
  | none => rfl
  | some d =>
    rw [List.mapM_map, List.mapM_map]
    refine mapM_congr fun g mem => ?_
    have same : g.generate ⟨single, d, stable⟩ = g.generate ⟨request, d, stable⟩ :=
      (separate g mem).single narrows d stable
    simp only [Function.comp_apply, Step.given, Step.outcome, same]

theorem mapM_pluginSteps (separate : registry.Separate host) {single : String → Request}
    (names : request.names = fs.map .text) (asked : fs ≠ []) (narrows : ∀ f ∈ fs, request.Narrows (single f) f)
    (plugin : String) :
    (pluginSteps registry request stable plugin).mapM (Step.given host) =
      (fs.mapM fun f => (pluginSteps registry (single f) stable plugin).mapM (Step.given host)).map
        List.flatten := by
  unfold pluginSteps Registry.resolve
  cases known : registry.generators plugin with
  | nil =>
    obtain ⟨f, fs, rfl⟩ := List.exists_cons_of_ne_nil asked
    rfl
  | cons g gs =>
    simp only
    rw [names, List.flatMap_map, mapM_flatMap_ok]
    congr 1
    refine mapM_congr fun f mem => ?_
    rw [(narrows f mem).names, List.flatMap_singleton,
      mapM_fileSteps (fun h listed => separate plugin h (known ▸ listed)) (narrows f mem)]

/-- The steps of a request are those of the requests of each name for each file. -/
theorem mapM_steps (separate : registry.Separate host) {single : String → Request}
    (names : request.names = fs.map .text) (asked : fs ≠ []) (narrows : ∀ f ∈ fs, request.Narrows (single f) f)
    (plugins : List String) :
    (steps registry plugins request stable).mapM (Step.given host) =
      ((plugins.flatMap fun p => fs.map fun f =>
        (steps registry [p] (single f) stable).mapM (Step.given host)).mapM id).map List.flatten := by
  have one (p : String) (r : Request) : steps registry [p] r stable = pluginSteps registry r stable p := by
    rw [steps, List.flatMap_singleton]
  simp only [one]
  rw [steps, mapM_flatMap_ok, mapM_flatMap_ok]
  simp only [List.mapM_map, Function.id_comp, mapM_pluginSteps separate names asked narrows, mapM_map_ok]
  -- both sides now flatten twice
  generalize (plugins.mapM _ : Except Failure (List (List (List Response)))) = all
  cases all with
  | error e => rfl
  | ok groups => exact congrArg Except.ok List.flatten_flatten.symm

theorem steps_ne_nil {plugin : String} (asked : request.names ≠ []) :
    steps registry [plugin] request stable ≠ [] := by
  obtain ⟨f, fs, files⟩ := List.exists_cons_of_ne_nil asked
  rw [steps, List.flatMap_singleton]
  unfold pluginSteps Registry.resolve
  cases registry.generators plugin with
  | nil => simp
  | cons g gs =>
    simp only
    rw [files, List.flatMap_cons]
    unfold fileSteps
    split
    · simp
    · simp

end Groups

/-! ### Answers gathered -/

/-- A whole answer is made of single ones: it takes all of them, and it fails as the first of them that does. -/
structure Gathers (singles : List (Except Failure Response)) (whole : Except Failure Response) : Prop where
  succeeds : (∃ r, whole = .ok r) ↔ ∀ single ∈ singles, ∃ part, single = .ok part
  gathered : ∀ r, whole = .ok r → ∃ parts : List Response, singles = parts.map .ok ∧
    r.files = parts.flatMap (·.files) ∧
    r.features = (if parts = [] then none else some (Response.featuresOf parts)) ∧
    r.minimumEdition = (parts.filterMap (·.minimumEdition)).max? ∧
    r.maximumEdition = (parts.filterMap (·.maximumEdition)).min? ∧ r.error = none
  first : ∀ e, whole = .error e → ∃ (parts : List Response) (after : List (Except Failure Response)),
    singles = parts.map .ok ++ .error e :: after

theorem gathers_ok (parts : List Response) : Gathers (parts.map .ok) (.ok (parts.foldl .merge .empty)) where
  succeeds := by simp
  gathered := by
    rintro r ⟨⟩
    exact ⟨parts, rfl, by simp [Response.files_foldl_merge, Response.empty], Response.features_foldl_merge parts,
      Response.minimumEdition_foldl_merge parts, Response.maximumEdition_foldl_merge parts,
      Response.error_foldl_merge parts .empty⟩
  first := by simp

theorem gathers_error (parts : List Response) (e : Failure) (after : List (Except Failure Response)) :
    Gathers (parts.map .ok ++ .error e :: after) (.error e) where
  succeeds := by
    constructor
    · rintro ⟨r, ⟨⟩⟩
    · intro all
      obtain ⟨part, ⟨⟩⟩ := all (.error e) (by simp)
  gathered := by simp
  first := by
    rintro _ ⟨⟩
    exact ⟨parts, after, rfl⟩

/-- Answers that are merged in groups. -/
theorem gathers_groups {groups : List (Except Failure (List Response))} (some : ∀ g, .ok g ∈ groups → g ≠ []) :
    Gathers (groups.map (·.map (·.foldl Response.merge .empty)))
      ((groups.mapM id).map (·.flatten.foldl Response.merge .empty)) := by
  have answered (results : List (List Response)) :
      (results.map (.ok : _ → Except Failure _)).map (·.map (·.foldl Response.merge .empty)) =
        (results.map (·.foldl Response.merge .empty)).map .ok := by
    rw [List.map_map, List.map_map]
    rfl
  rcases outcomes_cases groups with ⟨results, rfl⟩ | ⟨results, e, after, rfl⟩
  · have filled : ∀ g ∈ results, g ≠ [] := fun g mem => some g (List.mem_map_of_mem mem)
    rw [collected_ok, Except.map, Response.foldl_merge_flatten filled, answered]
    exact gathers_ok _
  · rw [collected_error, Except.map, List.map_append, answered]
    exact gathers_error _ _ _

namespace Sample

/-- A request for two described files. -/
def pair : Request := ⟨.mk [(1, .text "a.proto"), (1, .text "b.proto"),
  (15, .nested (.mk [(1, .text "a.proto")] [])), (15, .nested (.mk [(1, .text "b.proto")] []))] []⟩

/-- The formatter leaves its input as it is; all other programs answer with a feature and no file. -/
def tools : Host where
  env := []
  cwd := []
  program := "echo"
  locate _ := none
  run call t := (.ended 0 (if call.argv = ["gofmt"] then call.input.getD [] else [16, 1]) [], t)

end Sample

end Regen.Dispatch
