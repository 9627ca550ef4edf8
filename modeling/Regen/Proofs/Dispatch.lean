import Regen.Generator.Scripted
import Regen.Program
import Regen.Proofs.Response.Merge
import Regen.Proofs.Session

/-!
# The steps of a request

The three loops over names, files and generators are one loop over steps (`handle_eq`). It stops at the
first step that fails (`runOn_foldlM`), and only a request without such a step is answered, and only if
the names of its files are texts (`answer_serves`).
-/

namespace Regen

/-- Every generator is a function of what it is asked. -/
def Registry.Functional (r : Registry)
    (answers : Generator → Generator.Context → Except Failure Response) : Prop :=
  ∀ plugin, ∀ g ∈ r.generators plugin, ∀ c, g.generate c = Session.ofExcept (answers g c)

namespace Dispatch

/-- One step of the work on a request: a generator is asked, or there is none to be asked. -/
inductive Step where
  | ask (g : Generator) (c : Generator.Context)
  | refuse (e : Failure)

namespace Step

/-- What a step gives when the generators are functions. -/
def outcome (answers : Generator → Generator.Context → Except Failure Response) :
    Step → Except Failure Response
  | ask g c => answers g c
  | refuse e => .error e

/-- What a step leaves in the journal. -/
def events : Step → List Event
  | ask g c => [.asked g.label c.file.name c.stable]
  | refuse _ => []

/-- Takes a step and merges its answer. -/
def into (whole : Response) : Step → Session Response
  | ask g c => askInto c whole g
  | refuse e => throw e

/-- The generator of a step is a function of what it is asked. -/
def Functional (answers : Generator → Generator.Context → Except Failure Response) : Step → Prop
  | ask g c => g.generate c = Session.ofExcept (answers g c)
  | refuse _ => True

end Step

/-- The steps of one file; a file that is not described has no generator's. -/
def fileSteps (request : Request) (stable : Bool) (gs : List Generator) (file : Handed) : List Step :=
  match request.descriptor? file with
  | none => [.refuse (.plugin (.noDescriptor file.shown))]
  | some d => gs.map fun g => .ask g ⟨request, d, stable⟩

/-- The steps of one name; a name that stands for nothing has no file's. -/
def pluginSteps (registry : Registry) (request : Request) (stable : Bool) (plugin : String) : List Step :=
  match registry.resolve plugin with
  | .error e => [.refuse e]
  | .ok gs => request.names.flatMap (fileSteps request stable gs)

def steps (registry : Registry) (plugins : List String) (request : Request) (stable : Bool) : List Step :=
  plugins.flatMap (pluginSteps registry request stable)

theorem foldlM_flatMap {α γ β : Type} {f : α → List γ} {g : β → γ → Session β} (l : List α) (b : β) :
    (l.flatMap f).foldlM g b = l.foldlM (fun b a => (f a).foldlM g b) b := by
  induction l generalizing b with
  | nil => rfl
  | cons a l ih => simp only [List.flatMap_cons, List.foldlM_append, List.foldlM_cons, ih]

theorem handleFile_eq (request : Request) (stable : Bool) (gs : List Generator) (whole : Response)
    (file : Handed) :
    handleFile request stable gs whole file = (fileSteps request stable gs file).foldlM Step.into whole := by
  unfold handleFile fileSteps
  cases request.descriptor? file with
  | none => simp only [List.foldlM_cons, List.foldlM_nil, bind_pure, Step.into]
  | some d =>
    rw [List.foldlM_map]
    rfl

theorem handlePlugin_eq (registry : Registry) (request : Request) (stable : Bool) (whole : Response)
    (plugin : String) :
    handlePlugin registry request stable whole plugin =
      (pluginSteps registry request stable plugin).foldlM Step.into whole := by
  unfold handlePlugin pluginSteps
  cases registry.resolve plugin with
  | error e =>
    simp only [List.foldlM_cons, List.foldlM_nil, bind_pure, Step.into, Session.ofExcept]
    rfl
  | ok gs => simp only [Session.ofExcept, pure_bind, foldlM_flatMap, ← handleFile_eq]

/-- Names, files and generators are one list of steps. Behind them the names of the files have to be texts. -/
theorem handle_eq (registry : Registry) (plugins : List String) (request : Request) (stable : Bool) :
    handle registry plugins request stable = do
      let r ← (steps registry plugins request stable).foldlM Step.into .empty
      Session.ofExcept (demandNames request)
      return r := by
  rw [handle, steps, foldlM_flatMap]
  simp only [← handlePlugin_eq]

theorem demandNames_eq_ok_iff {request : Request} :
    demandNames request = .ok () ↔ ∀ name ∈ request.names, name.isText = true := by
  unfold demandNames
  rw [← List.all_eq_true]
  split
  · next all => exact iff_of_true rfl all
  · next some => exact iff_of_false nofun some

theorem handle_eq_of_texts {registry : Registry} {plugins : List String} {request : Request} {stable : Bool}
    (texts : ∀ name ∈ request.names, name.isText = true) :
    handle registry plugins request stable =
      (steps registry plugins request stable).foldlM Step.into .empty := by
  rw [handle_eq, demandNames_eq_ok_iff.2 texts]
  exact bind_pure _

/-- What is answered is what the steps gave. -/
theorem runOn_steps_of_handle {registry : Registry} {plugins : List String} {request : Request} {stable : Bool}
    {host : Host} {w v : World} {r : Response}
    (run : (handle registry plugins request stable).runOn host w = (.ok r, v)) :
    ((steps registry plugins request stable).foldlM Step.into .empty).runOn host w = (.ok r, v) := by
  rw [handle_eq] at run
  obtain ⟨whole, u, ran, run⟩ := Session.runOn_bind_eq_ok_iff.1 run
  obtain ⟨_, x, named, run⟩ := Session.runOn_bind_eq_ok_iff.1 run
  rw [Session.runOn_ofExcept] at named
  cases run
  rw [ran, (Prod.mk.inj named).2]

/-! ### A registry with one name -/

namespace Sample

def script : Generator.Script := ⟨"echo", "echo", true, "go", [("b.proto", "no")]⟩

def registry : Registry := ⟨[("go", [.scripted script])]⟩

theorem functional : registry.Functional fun _ c => script.answer c.file.title := by
  intro plugin g mem c
  have only : g = .scripted script := by
    unfold Registry.generators registry Assoc.get? at mem
    by_cases name : "go" = plugin
    · simpa [name] using mem
    · simp [name] at mem
  rw [only]
  rfl

/-- A request for two described files, the second of which fails. -/
def payload : Bytes :=
  10 :: 7 :: Text.bytes "a.proto" ++ 10 :: 7 :: Text.bytes "b.proto" ++
    122 :: 9 :: 10 :: 7 :: Text.bytes "a.proto" ++ 122 :: 9 :: 10 :: 7 :: Text.bytes "b.proto"

def host : Host := ⟨[], [], "echo", fun _ => none, fun _ t => (.unstarted 0, t), fun _ n => n, fun _ => false⟩

def settings : Settings := ⟨.plugin, .diff, ⟨"/", []⟩, "", none, "", ["go", "go"], none, .default⟩

end Sample

/-! ### Running the steps -/

section Run

variable {answers : Generator → Generator.Context → Except Failure Response} {host : Host}

/-- A step leaves its mark in the journal and gives what its generator answers. -/
theorem runOn_into {step : Step} (functional : step.Functional answers) (whole : Response) (w : World) :
    (step.into whole).runOn host w = ((step.outcome answers).map whole.merge, w.noted step.events) := by
  cases step with
  | refuse e => simp [Step.into, Step.outcome, Step.events, Except.map]
  | ask g c =>
    have answer : (g.ask c).runOn host w = (answers g c, w.noted [.asked g.label c.file.name c.stable]) := by
      rw [Generator.ask, Session.runOn_bind_of_ok (Session.runOn_note _), functional,
        Session.runOn_ofExcept]
    simp only [Step.into, askInto, Step.outcome, Step.events]
    rw [Session.runOn_bind, answer]
    cases answers g c <;> rfl

/-- The outcome of a list of steps: all of them answer, or they end with the first that fails. -/
inductive Ends (answers : Generator → Generator.Context → Except Failure Response) (whole : Response)
    (w : World) : List Step → Except Failure Response × World → Prop
  | all {steps : List Step} {parts : List Response} : steps.mapM (·.outcome answers) = .ok parts →
      Ends answers whole w steps (.ok (parts.foldl .merge whole), w.noted (steps.flatMap Step.events))
  | first {before after : List Step} {step : Step} {parts : List Response} {e : Failure} :
      before.mapM (·.outcome answers) = .ok parts → step.outcome answers = .error e →
      Ends answers whole w (before ++ step :: after)
        (.error e, w.noted ((before ++ [step]).flatMap Step.events))

theorem Ends.cons {whole part : Response} {w : World} {step : Step} {steps : List Step}
    {result : Except Failure Response × World} (answered : step.outcome answers = .ok part)
    (ends : Ends answers (whole.merge part) (w.noted step.events) steps result) :
    Ends answers whole w (step :: steps) result := by
  have more : ∀ {before : List Step} {parts : List Response}, before.mapM (·.outcome answers) = .ok parts →
      (step :: before).mapM (·.outcome answers) = .ok (part :: parts) := by
    intro before parts rest
    rw [List.mapM_cons, answered, rest]
    rfl
  cases ends with
  | all rest =>
    have whole : Ends answers whole w (step :: steps) (_, _) := .all (more rest)
    simpa using whole
  | @first before after last _ e rest fails =>
    have stop : Ends answers whole w ((step :: before) ++ last :: after) (.error e, _) :=
      .first (more rest) fails
    simpa using stop

theorem runOn_foldlM {steps : List Step} (functional : ∀ step ∈ steps, step.Functional answers)
    (whole : Response) (w : World) :
    Ends answers whole w steps ((steps.foldlM Step.into whole).runOn host w) := by
  induction steps generalizing whole w with
  | nil =>
    have none : Ends answers whole w [] (_, _) := .all rfl
    simpa using none
  | cons step steps ih =>
    have here : (step.into whole).runOn host w = _ := runOn_into (functional step (by simp)) whole w
    rw [List.foldlM_cons]
    cases answered : step.outcome answers with
    | ok part =>
      rw [answered] at here
      rw [Session.runOn_bind_of_ok here]
      exact .cons answered (ih (fun s hs => functional s (by simp [hs])) _ _)
    | error e =>
      rw [answered] at here
      rw [Session.runOn_bind_of_error here]
      have stop : Ends answers whole w ([] ++ step :: steps) (.error e, _) := .first rfl answered
      simpa using stop

/-! ### Answering -/

theorem mem_steps {registry : Registry} {plugins : List String} {request : Request} {stable : Bool}
    {step : Step} (mem : step ∈ steps registry plugins request stable) :
    (∃ e, step = .refuse e) ∨
      ∃ plugin ∈ plugins, ∃ g ∈ registry.generators plugin, ∃ d, step = .ask g ⟨request, d, stable⟩ := by
  obtain ⟨plugin, named, mem⟩ := List.mem_flatMap.1 mem
  unfold pluginSteps Registry.resolve at mem
  cases gs : registry.generators plugin with
  | nil =>
    simp only [gs, List.mem_singleton] at mem
    exact .inl ⟨_, mem⟩
  | cons g more =>
    simp only [gs] at mem
    obtain ⟨file, -, mem⟩ := List.mem_flatMap.1 mem
    unfold fileSteps at mem
    split at mem
    · exact .inl ⟨_, List.mem_singleton.1 mem⟩
    · next d _ =>
      obtain ⟨h, listed, rfl⟩ := List.mem_map.1 mem
      exact .inr ⟨plugin, named, h, gs ▸ listed, d, rfl⟩

theorem functional_steps {registry : Registry} (functional : registry.Functional answers)
    (plugins : List String) (request : Request) (stable : Bool) :
    ∀ step ∈ steps registry plugins request stable, step.Functional answers := by
  intro step mem
  rcases mem_steps mem with ⟨e, rfl⟩ | ⟨plugin, -, g, listed, d, rfl⟩
  · trivial
  · exact functional plugin g listed _

theorem output_append (es fs : List Event) :
    Program.output (es ++ fs) = Program.output es ++ Program.output fs := List.flatMap_append

/-- No step writes. -/
theorem output_events (steps : List Step) : Program.output (steps.flatMap Step.events) = [] := by
  induction steps with
  | nil => rfl
  | cons step steps ih =>
    rw [List.flatMap_cons, output_append, ih]
    cases step <;> rfl

/-- The work on an encoded request, by its outcome and the world after it. An answer holds the files of
all steps in their order. A failure is that of the first step that fails; no later one is taken, and
nothing is written. When no step fails nothing is written either if a file has a name that is no text. -/
inductive Serves (answers : Generator → Generator.Context → Except Failure Response) (registry : Registry)
    (plugins : List String) (payload : Bytes) (w : World) : Except Failure Unit → World → Prop
  | answered {request : Request} {parts : List Response} {r : Response} {w' : World} :
      Request.decode? payload = some request →
      (steps registry plugins request true).mapM (·.outcome answers) = .ok parts →
      (∀ name ∈ request.names, name.isText = true) →
      r.files = parts.flatMap (·.files) → r.error = none →
      w' = w.noted ((steps registry plugins request true).flatMap Step.events ++ [.answered r.encode]) →
      Program.output w'.journal = Program.output w.journal ++ r.encode →
      Serves answers registry plugins payload w (.ok ()) w'
  | failed {request : Request} {before after : List Step} {step : Step} {parts : List Response}
      {e : Failure} {w' : World} : Request.decode? payload = some request →
      steps registry plugins request true = before ++ step :: after →
      before.mapM (·.outcome answers) = .ok parts → step.outcome answers = .error e →
      w' = w.noted ((before ++ [step]).flatMap Step.events) →
      Program.output w'.journal = Program.output w.journal →
      Serves answers registry plugins payload w (.error e) w'
  | unlisted {request : Request} {parts : List Response} {name : Handed} {w' : World} :
      Request.decode? payload = some request →
      (steps registry plugins request true).mapM (·.outcome answers) = .ok parts →
      name ∈ request.names → name.isText = false →
      w' = w.noted ((steps registry plugins request true).flatMap Step.events) →
      Program.output w'.journal = Program.output w.journal →
      Serves answers registry plugins payload w (.error (.value .octets)) w'
  | undecodable : Request.decode? payload = none →
      Serves answers registry plugins payload w (.error (.plugin .undecodableRequest)) w

theorem serve_of_decode? {s : Settings} {registry : Registry} {payload : Bytes} {request : Request}
    (decoded : Request.decode? payload = some request) :
    serve s (some registry) payload =
      (steps registry s.pluginBackends request true).foldlM Step.into .empty >>= fun r =>
        Session.ofExcept (demandNames request) >>= fun _ => pure r.encode := by
  rw [serve, decoded]
  simp only [pure_bind, handle_eq, bind_assoc]

/-- Only a request all of whose steps answer is answered, and only when the names of its files are texts. -/
theorem answer_serves {registry : Registry} (functional : registry.Functional answers) (s : Settings)
    (payload : Bytes) (host : Host) (w : World) :
    Serves answers registry s.pluginBackends payload w
      ((answer s (some registry) payload).runOn host w).1
      ((answer s (some registry) payload).runOn host w).2 := by
  cases decoded : Request.decode? payload with
  | none =>
    have refused : (serve s (some registry) payload).runOn host w =
        (.error (.plugin .undecodableRequest), w) := by
      rw [serve, decoded, Session.runOn_throw]
    rw [answer, Session.runOn_bind_of_error refused]
    exact .undecodable decoded
  | some request =>
    have run : Ends answers .empty w _
        (((steps registry s.pluginBackends request true).foldlM Step.into .empty).runOn host w) :=
      runOn_foldlM (functional_steps functional s.pluginBackends request true) .empty w
    rw [answer, serve_of_decode? decoded, bind_assoc]
    generalize listed : steps registry s.pluginBackends request true = all at run ⊢
    generalize ran : (all.foldlM Step.into .empty).runOn host w = result at run
    cases run with
    | all parts =>
      rw [Session.runOn_bind_of_ok ran, bind_assoc]
      by_cases texts : ∀ name ∈ request.names, name.isText = true
      · rw [demandNames_eq_ok_iff.2 texts, Session.ofExcept, pure_bind, pure_bind, Session.runOn_note,
          World.noted_noted]
        refine .answered decoded (by rw [listed]; exact parts) texts (Response.files_foldl_merge ..)
          (Response.error_foldl_merge ..) (by rw [listed]) ?_
        rw [World.noted_journal, output_append, output_append, output_events]
        simp [Program.output]
      · have refused : demandNames request = .error (.value .octets) := by
          rw [demandNames, if_neg (by rwa [List.all_eq_true])]
        push Not at texts
        obtain ⟨name, named, octets⟩ := texts
        rw [refused]
        refine .unlisted decoded (by rw [listed]; exact parts) named (by simpa using octets) (by rw [listed]; rfl) ?_
        rw [Session.ofExcept, Session.runOn_bind, Session.runOn_throw, World.noted_journal, output_append, output_events,
          List.append_nil]
    | first parts fails =>
      rw [Session.runOn_bind_of_error ran]
      refine .failed decoded listed parts fails rfl ?_
      rw [World.noted_journal, output_append, output_events, List.append_nil]

end Run

theorem answer_serves_sample :
    Serves (fun _ c => Sample.script.answer c.file.title) Sample.registry ["go", "go"] Sample.payload
      ⟨.empty, []⟩
      ((answer Sample.settings (some Sample.registry) Sample.payload).runOn Sample.host ⟨.empty, []⟩).1
      ((answer Sample.settings (some Sample.registry) Sample.payload).runOn Sample.host ⟨.empty, []⟩).2 :=
  answer_serves Sample.functional Sample.settings Sample.payload Sample.host ⟨.empty, []⟩

namespace Unlisted

/-- A registry whose one generator has nothing to say to files of other packages. -/
def registry : Registry := ⟨[("go", [.tables ⟨"m", "google.protobuf", "internal/fieldnum", "", none⟩])]⟩

/-- A request for a described file whose name is a byte that starts no character. -/
def payload : Bytes := [10, 1, 255, 122, 3, 10, 1, 255]

end Unlisted

/-- Every step of the request answers, and it is refused all the same: nothing is written. -/
theorem answer_unlisted :
    (Request.decode? Unlisted.payload).map (fun request =>
        (((steps Unlisted.registry ["go", "go"] request true).foldlM Step.into .empty).runOn Sample.host
          ⟨.empty, []⟩).1.map (·.files)) = some (.ok []) ∧
      ((answer Sample.settings (some Unlisted.registry) Unlisted.payload).runOn Sample.host ⟨.empty, []⟩).1 =
        .error (.value .octets) ∧
      Program.output ((answer Sample.settings (some Unlisted.registry) Unlisted.payload).runOn Sample.host
        ⟨.empty, []⟩).2.journal = [] := by
  refine ⟨?_, ?_, ?_⟩ <;> decide +kernel

end Dispatch
end Regen
