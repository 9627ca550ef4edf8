import Regen.Proofs.Dispatch
import Regen.Proofs.FieldTable.Blocks
import Regen.Proofs.Generator
import Regen.Proofs.Quiet
import Regen.Proofs.Response.Handed
import Regen.Proofs.Settings

/-!
# How serving a request fails

Whatever the programs and the formatter do, a request is answered or fails as a failure of a generator, unless it
escapes that (`Escapes`): a described message has a field in a oneof that it does not have, the request lacks fields
that it has to have, a program or the formatter cannot be called, or octets stand where a text is needed, in the
request, in an answer or in what the formatter gives. Each of these is found by one function, and the loops over names,
files and generators only hand failures on (`quiet_handle`). A process that serves a request reports a generator's
failure, ends with status one and writes nothing (`servePlugin_ends`).
-/

namespace Regen

section

open Session (Quiet)

variable {host : Host}

/-! ### Tables -/

namespace FieldTable

theorem eq_error_of_bind {α β : Type} {x : Except Failure α} {f : α → Except Failure β} {e : Failure}
    (failed : x >>= f = .error e) : x = .error e ∨ ∃ a, x = .ok a ∧ f a = .error e := by
  cases x with
  | error e' =>
    cases failed
    exact .inl rfl
  | ok a => exact .inr ⟨a, rfl, failed⟩

theorem fieldNamesFrom_failing {oneofs : List String} {scope : Ident.NameScope} {seen : List Int}
    {fs : List FieldDescriptor} {e : Failure} (failed : Ident.fieldNamesFrom oneofs scope seen fs = .error e) :
    e = .noSuchElement := by
  induction fs generalizing scope seen with
  | nil => cases failed
  | cons f fs ih =>
    rw [Ident.fieldNamesFrom] at failed
    simp only [Ident.NameScope.unique] at failed
    split at failed
    · obtain later | ⟨_, -, ends⟩ := eq_error_of_bind failed
      · exact ih later
      · cases ends
    · split at failed
      · exact (Except.error.inj failed).symm
      · obtain later | ⟨_, -, ends⟩ := eq_error_of_bind failed
        · exact ih later
        · cases ends

mutual

theorem blocksOf_failing {package outer : String} {d : Descriptor} {e : Failure}
    (failed : blocksOf package outer d = .error e) : e = .noSuchElement := by
  cases d with
  | mk name fields nested oneofs =>
    rw [blocksOf] at failed
    obtain names | ⟨_, -, failed⟩ := eq_error_of_bind failed
    · exact fieldNamesFrom_failing names
    · obtain inner | ⟨_, -, ends⟩ := eq_error_of_bind failed
      · exact blocksOfList_failing inner
      · cases ends
termination_by sizeOf d

theorem blocksOfList_failing {package outer : String} {ds : List Descriptor} {e : Failure}
    (failed : blocksOfList package outer ds = .error e) : e = .noSuchElement := by
  cases ds with
  | nil => cases failed
  | cons d ds =>
    rw [blocksOfList] at failed
    obtain first | ⟨_, -, failed⟩ := eq_error_of_bind failed
    · exact blocksOf_failing first
    · obtain rest | ⟨_, -, ends⟩ := eq_error_of_bind failed
      · exact blocksOfList_failing rest
      · cases ends
termination_by sizeOf ds

end

/-- A file has a table unless one of its messages has a field in a oneof that it does not have. -/
theorem render_failing {file : FileDescriptor} {package preamble : String} {e : Failure}
    (failed : render file package preamble = .error e) :
    e = .noSuchElement ∧ ∃ m ∈ file.inOrder, ¬ m.2.OneofsDeclared := by
  obtain blocks | ⟨_, -, ends⟩ := eq_error_of_bind failed
  · refine ⟨blocksOfList_failing blocks, ?_⟩
    by_contra none
    have declared : ∀ m ∈ file.inOrder, m.2.OneofsDeclared := by
      intro m mem
      by_contra undeclared
      exact none ⟨m, mem, undeclared⟩
    obtain ⟨bs, found, -⟩ := blocks_inOrder declared
    rw [found] at blocks
    cases blocks
  · cases ends

end FieldTable

/-! ### Complete requests -/

namespace Message

/-- The message in a field of a message of a type is complete. -/
def isCompleteField (s : Shape) (f : Nat × Value) : Bool :=
  match s.slot? f.1 with
  | some slot => f.2.isComplete slot.kind
  | none => true

theorem fieldsComplete_eq_all (s : Shape) (fs : List (Nat × Value)) :
    fieldsComplete s fs = fs.all (isCompleteField s) := by
  induction fs with
  | nil => rfl
  | cons f fs ih =>
    have step : fieldsComplete s (f :: fs) = (isCompleteField s f && fieldsComplete s fs) := rfl
    rw [step, ih, List.all_cons]

/-- A name of a file to generate holds no message. -/
theorem isCompleteField_name (v : Value) : isCompleteField .request (1, v) = true := by
  cases v <;> rfl

theorem isComplete_request (m : Message) :
    m.isComplete .request = (m.fieldsBut 1).all (isCompleteField .request) := by
  obtain ⟨fields, unknown⟩ := m
  have whole : isComplete .request (.mk fields unknown) = fieldsComplete .request fields := by
    simp [isComplete, Shape.required]
  rw [whole, fieldsComplete_eq_all, fieldsBut, Message.fields, List.all_filter]
  refine congrArg (List.all fields) (funext fun f => ?_)
  obtain ⟨n, v⟩ := f
  by_cases name : n = 1
  · simp [name, isCompleteField_name]
  · simp [name]

theorem isComplete_put (m : Message) (v : Value) : (m.put 1 v).isComplete .request = m.isComplete .request := by
  rw [isComplete_request, isComplete_request, fieldsBut_put]

end Message

theorem Request.encode?_narrowed_eq_none {r : Request} {name : String} :
    (r.narrowed name).encode? = none ↔ r.message.isComplete .request = false := by
  rw [encode?, narrowed, Message.isComplete_put]
  split
  · next complete => simp [complete]
  · next incomplete => simpa using incomplete

/-- The call of a generator's program. -/
def Generator.callOf (host : Host) (executable : String) (input : Bytes) : Call :=
  ⟨[executable], none, some (externalEnv host.env), some input⟩

namespace Dispatch

/-- The program answers `r` when it is asked for the file of `c`. -/
def Says (host : Host) (executable : String) (c : Generator.Context) (r : Response) : Prop :=
  ∃ input t output complaint, Generator.inputFor c = .ok input ∧
    (host.run (Generator.callOf host executable input) t).1 = .ended 0 output complaint ∧
    Response.decode? output = some r

/-- A request is neither answered nor fails as a failure of a generator, but with another one. -/
inductive Escapes (s : Settings) (host : Host) (request : Request) : Failure → Prop
  /-- A described message has a field in a oneof that it does not have. -/
  | noSuchElement {d : Request.File} {m : String × Descriptor} (described : d ∈ request.descriptors)
      (own : d.package = .text s.config.fieldTablePackage) (inside : m ∈ d.description.inOrder)
      (undeclared : ¬ m.2.OneofsDeclared) : Escapes s host request .noSuchElement
  /-- The request lacks a field that it has to have. -/
  | notComplete (incomplete : request.message.isComplete .request = false) : Escapes s host request .notComplete
  /-- The system cannot be asked for the call of a program. -/
  | programUnfit {p : String × String} {input : Bytes} (listed : p ∈ s.config.plugins)
      (unfit : (Generator.callOf host p.2 input).isUnfit = true) : Escapes s host request .outOfRange
  /-- The system cannot be asked for the call of the formatter. -/
  | formatterUnfit {f source : String} (formatter : s.config.formatter = some f)
      (unfit : (Tool.formatCall f source).isUnfit = true) : Escapes s host request .outOfRange
  /-- The formatter ends well on a table and gives what is no text. -/
  | formatsBadly {d : Request.File} {f source : String} (described : d ∈ request.descriptors)
      (own : d.package = .text s.config.fieldTablePackage)
      (rendered : FieldTable.render d.description (Path.baseName s.config.fieldTableDir) s.config.preambleText =
        .ok source)
      (formatter : s.config.formatter = some f) (formatted : Tool.FormatsBadly host f source) :
      Escapes s host request .notText
  /-- A file to generate has a name that is no text, which its table and the line for the log ask for. -/
  | unlisted {bs : Bytes} (named : .octets bs ∈ request.names) : Escapes s host request (.value .octets)
  /-- A file to generate has a name that is no text and cannot be put into the request for it. -/
  | unnamed {p : String × String} {bs : Bytes} (listed : p ∈ s.config.plugins) (named : .octets bs ∈ request.names) :
      Escapes s host request .notText
  /-- A name in a described file is no text. -/
  | illegible {d : Request.File} (described : d ∈ request.descriptors)
      (own : d.package = .text s.config.fieldTablePackage) (octets : FieldTable.isIllegible d.message = true) :
      Escapes s host request (.value .octets)
  /-- A program answers with octets that are in the way of the version blocks. -/
  | answered {p : String × String} {d : Request.File} {stable : Bool} {r : Response} {e : Failure}
      (listed : p ∈ s.config.plugins) (described : d ∈ request.descriptors)
      (said : Says host p.2 ⟨request, d, stable⟩ r) (obstructs : Response.Obstructs r.files e) :
      Escapes s host request e

theorem Escapes.not_own {s : Settings} {request : Request} {e : Failure} (escapes : Escapes s host request e) :
    e.isOwn = false := by
  cases escapes with
  | answered _ _ _ obstructs => cases obstructs <;> rfl
  | _ => rfl

/-- The failures of a request. -/
def Fails (s : Settings) (host : Host) (request : Request) (e : Failure) : Prop :=
  (∃ f, e = .plugin f) ∨ Escapes s host request e

end Dispatch

/-! ### Generators -/

namespace Generator

open Dispatch (Escapes Fails)

variable {s : Settings} {request : Request} {d : Request.File} {stable : Bool}

theorem readAnswer_failing {name file : String} {output : Bytes} {e : Failure}
    (failed : readAnswer name file output = .error e) : ∃ f, e = .plugin f := by
  unfold readAnswer at failed
  split at failed
  · exact ⟨_, (Except.error.inj failed).symm⟩
  · split at failed
    · exact ⟨_, (Except.error.inj failed).symm⟩
    · cases failed

theorem decode?_of_readAnswer {name file : String} {output : Bytes} {r : Response}
    (answered : readAnswer name file output = .ok r) : Response.decode? output = some r := by
  unfold readAnswer at answered
  split at answered
  · cases answered
  · next decoded =>
    split at answered
    · cases answered
    · cases answered
      exact decoded

theorem fits_of_readAnswer {name file : String} {output : Bytes} {r : Response}
    (answered : readAnswer name file output = .ok r) : Response.Fits r.files :=
  Response.fits_of_decode? (decode?_of_readAnswer answered)

/-- The input of a program fails to be made where a name is no text or a field is missing. -/
theorem inputFor_failing {c : Context} {e : Failure} (failed : inputFor c = .error e) :
    e = .notText ∧ c.file.title.isText = false ∨
      e = .notComplete ∧ c.request.message.isComplete .request = false := by
  unfold inputFor at failed
  split at failed
  · split at failed
    · cases failed
    · next none => exact .inr ⟨(Except.error.inj failed).symm, Request.encode?_narrowed_eq_none.1 none⟩
  · next octets => exact .inl ⟨(Except.error.inj failed).symm, by simpa using octets⟩

theorem octets_of_title {file : Handed} (found : request.descriptor? file = some d) (octets : d.title.isText = false) :
    ∃ bs, d.title = .octets bs ∧ file = .octets bs := by
  have same : d.title = file := by simpa using List.find?_some found
  cases title : d.title with
  | text s =>
    rw [title] at octets
    cases octets
  | octets bs => exact ⟨bs, rfl, same ▸ title⟩

theorem described_of_descriptor? {file : Handed} (found : request.descriptor? file = some d) :
    d ∈ request.descriptors :=
  List.mem_reverse.1 (List.mem_of_find?_eq_some found)

/-- What a program gave when it was called with success. -/
theorem ended_of_run {executable name : String} {input : Bytes} {w : World} {output : Bytes × Bytes}
    (ran : ((tryCatch (Tool.run [executable] ⟨none, some (externalEnv host.env), some input⟩)
      fun e => throw (asToolFailure name e)).runOn host w).1 = .ok output) :
    (host.run (callOf host executable input) w.files).1 = .ended 0 output.1 output.2 := by
  rw [Session.runOn_tryCatch, Tool.runOn_run] at ran
  cases ended : Tool.ending [executable] (host.start (callOf host executable input) w.files).1 with
  | error e =>
    rw [callOf] at ended
    simp only [ended] at ran
    cases ran
  | ok given =>
    have well := (Host.start_fst_eq_some_iff.1 (Tool.ending_eq_ok_iff.1 ended)).2
    rw [callOf] at ended
    simp only [ended] at ran
    cases ran
    exact well

theorem quiet_external {p : String × String} (listed : p ∈ s.config.plugins) {file : Handed} (named : file ∈ request.names)
    (found : request.descriptor? file = some d) (name : String) :
    (generateExternal name p.2 ⟨request, d, stable⟩).Quiet host (Fails s host request) := by
  have described := described_of_descriptor? found
  refine .read (.bind (.ofExcept fun e failed => ?_) fun input given => .bind (.tryCatch (Tool.quiet_run _ _) ?_)
    fun output ran => .bind (.ofExcept ?_) fun r answered => ?_)
  · obtain ⟨rfl, octets⟩ | ⟨rfl, incomplete⟩ := inputFor_failing failed
    · obtain ⟨bs, -, rfl⟩ := octets_of_title found octets
      exact .inr (.unnamed listed named)
    · exact .inr (.notComplete incomplete)
  · rintro _ (⟨f, rfl⟩ | ⟨rfl, unfit⟩)
    · exact .throw (.inl ⟨_, rfl⟩)
    · exact .throw (.inr (.programUnfit listed unfit))
  · exact fun e failed => .inl (readAnswer_failing failed)
  · obtain ⟨w, given⟩ := given
    obtain ⟨v, ran⟩ := ran
    obtain ⟨u, answered⟩ := answered
    rw [Session.runOn_ofExcept] at given answered
    split
    · refine .ofExcept fun e failed => ?_
      obtain plugin | obstructs := Response.stabilizeHanded_failing (fits_of_readAnswer answered) failed
      · exact .inl plugin
      · have said : Dispatch.Says host p.2 ⟨request, d, stable⟩ r :=
          ⟨input, v.files, output.1, output.2, given, ended_of_run ran, decode?_of_readAnswer answered⟩
        exact .inr (.answered listed described said obstructs)
    · exact .pure r

theorem quiet_tables {file : Handed} (named : file ∈ request.names) (found : request.descriptor? file = some d) :
    ((Registry.tablesOf s).generate ⟨request, d, stable⟩).Quiet host (Fails s host request) := by
  have described := described_of_descriptor? found
  unfold Tables.generate
  split
  · exact .pure _
  · next own =>
    rw [not_not] at own
    refine .bind (.ofExcept fun e failed => ?_) fun source rendered => ?_
    · unfold Tables.source at failed
      split at failed
      · next octets => exact .inr (Except.error.inj failed ▸ .illegible described own octets)
      · obtain ⟨rfl, m, inside, undeclared⟩ := FieldTable.render_failing failed
        exact .inr (.noSuchElement described own inside undeclared)
    · obtain ⟨w, rendered⟩ := rendered
      rw [Session.runOn_ofExcept, Tables.source] at rendered
      split at rendered
      · cases rendered
      refine .bind (.tryCatch (Tool.quiet_format _ _) ?_) fun source _ => .bind (.ofExcept fun e failed => ?_)
        fun _ _ => .pure _
      · rintro _ (⟨f, rfl⟩ | ⟨f, formatter, ⟨rfl, formatted⟩ | ⟨rfl, unfit⟩⟩)
        · exact .throw (.inl ⟨_, rfl⟩)
        · exact .throw (.inr (.formatsBadly described own rendered formatter formatted))
        · exact .throw (.inr (.formatterUnfit formatter unfit))
      · have octets : d.title.isText = false := by
          cases title : d.title with
          | text s => simp only [title] at failed; cases failed
          | octets bs => rfl
        obtain ⟨bs, title, rfl⟩ := octets_of_title found octets
        simp only [title] at failed
        exact .inr (Except.error.inj failed ▸ .unlisted named)

end Generator

/-! ### Requests -/

namespace Dispatch

variable {s : Settings} {request : Request}

theorem mem_of_resolve {registry : Registry} {plugin : String} {gs : List Generator} {g : Generator}
    (found : registry.resolve plugin = .ok gs) (listed : g ∈ gs) : g ∈ registry.generators plugin := by
  unfold Registry.resolve at found
  split at found
  · cases found
  · cases found
    exact listed

theorem demandNames_failing {e : Failure} (failed : demandNames request = .error e) :
    e = .value .octets ∧ ∃ bs, Handed.octets bs ∈ request.names := by
  unfold demandNames at failed
  split at failed
  · cases failed
  · next some =>
    simp only [List.all_eq_true, not_forall] at some
    obtain ⟨name, named, octets⟩ := some
    cases name with
    | text s => exact absurd rfl octets
    | octets bs => exact ⟨(Except.error.inj failed).symm, bs, named⟩

/-- Only generators fail in ways of their own; the loops over them hand failures on, and at the end the names of the
files have to be texts. -/
theorem quiet_handle (host : Host) (s : Settings) (plugins : List String) (request : Request) (stable : Bool) :
    (handle (Registry.ofSettings s) plugins request stable).Quiet host (Fails s host request) := by
  refine .bind (.foldlM (fun whole plugin _ => .bind (.ofExcept fun e failed => ?_) fun gs found => ?_) _)
    fun r _ => .bind (.ofExcept fun e failed => ?_) fun _ _ => .pure r
  · unfold Registry.resolve at failed
    split at failed
    · exact .inl ⟨_, (Except.error.inj failed).symm⟩
    · cases failed
  · obtain ⟨w, found⟩ := found
    refine .foldlM (fun whole file named => ?_) _
    unfold handleFile
    split
    · exact .throw (.inl ⟨_, rfl⟩)
    · next d there =>
      refine .foldlM (fun whole g listed => .bind (.bind (.note rfl) fun _ _ => ?_) fun r _ => .pure _) _
      rw [Session.runOn_ofExcept] at found
      obtain ⟨p, configured, rfl⟩ | rfl := Registry.mem_generators_ofSettings (mem_of_resolve found listed)
      · exact Generator.quiet_external configured named there p.2
      · exact Generator.quiet_tables named there
  · obtain ⟨rfl, bs, named⟩ := demandNames_failing failed
    exact .inr (.unlisted named)

end Dispatch

/-! ### The process -/

namespace Program

open Dispatch (Escapes)

/-- How a process that serves a request ends, by the outcome of the work on the request. Only an answer is
written, and only a failure that escapes is not reported. -/
inductive Ends (s : Settings) (host : Host) (request : Request) (log : Log.Setup) (w : World) :
    Except Failure Response → Except Failure Ending × World → Prop
  | answered {r : Response} {v : World} (written : output v.journal = output w.journal ++ r.encode) :
      Ends s host request log w (.ok r) (.ok ⟨.ok 0, log⟩, v)
  | reported {f : PluginFault} {v : World} (written : output v.journal = output w.journal) :
      Ends s host request log w (.error (.plugin f)) (.ok ⟨.ok 1, log⟩, v)
  | broken {e : Failure} {v : World} (escapes : Escapes s host request e)
      (written : output v.journal = output w.journal) :
      Ends s host request log w (.error e) (.ok ⟨.error e, log⟩, v)

/-- The work on a decoded request is that of its generators, and only an answer is noted. -/
theorem runOn_answer {s : Settings} {request : Request} {input : Bytes} {u x : World}
    (decoded : Request.decode? input = some request)
    (built : (Registry.build s).runOn host u = (.ok (Registry.ofSettings s), x)) :
    (Dispatch.answer s none input).runOn host u =
      match (Dispatch.handle (Registry.ofSettings s) s.pluginBackends request true).runOn host x with
      | (.ok r, y) => (.ok (), y.noted [.answered r.encode])
      | (.error e, y) => (.error e, y) := by
  rw [Dispatch.answer, Dispatch.serve, decoded]
  simp only [bind_assoc]
  rw [Session.runOn_bind_of_ok built, Session.runOn_bind]
  generalize (Dispatch.handle (Registry.ofSettings s) s.pluginBackends request true).runOn host x = handled
  obtain ⟨e | r, y⟩ := handled
  · rfl
  · rfl

/-- What a process that serves a request makes of the outcome of its work. -/
def ended (log : Log.Setup) : Except Failure Unit × World → Except Failure Ending × World
  | (.ok (), y) => (.ok ⟨.ok 0, log⟩, y)
  | (.error e, y) =>
    if e.isOwn then
      (.ok ⟨.ok 1, log⟩, if log.shows Log.error then y.noted [.told (e.message ++ "\n")] else y)
    else (.ok ⟨.error e, log⟩, y)

theorem runOn_servePlugin {w v u : World} {log : Log.Setup} {s : Settings} {input : Bytes}
    (logged : (Log.setUp .initial (.ofEnv host.env "")).runOn host w = (.ok (log, none), v))
    (settled : Settings.ofEnvironment.runOn host v = (.ok s, u)) :
    (servePlugin input).runOn host w = ended log ((Dispatch.answer s none input).runOn host u) := by
  have asked : (read : Session Host).runOn host w = (.ok host, w) := rfl
  rw [servePlugin, withLog, Session.runOn_bind_of_ok asked, Session.runOn_bind_of_ok logged]
  simp only
  rw [Session.runOn_bind_of_ok (Session.runOn_attempt _), Session.runOn_bind_of_ok (Session.runOn_attempt _),
    Session.runOn_bind_of_ok settled]
  generalize (Dispatch.answer s none input).runOn host u = r
  obtain ⟨e | _, y⟩ := r
  · simp only [ended]
    cases e.isOwn with
    | false => rfl
    | true => cases log.shows Log.error <;> rfl
  · rfl

/-- A request that decodes is answered, or it fails as a failure of a generator, which is reported and ends the
process with status one, unless it escapes. -/
theorem servePlugin_ends {w v u : World} {log : Log.Setup} {s : Settings} {request : Request} {input : Bytes}
    (logged : (Log.setUp .initial (.ofEnv host.env "")).runOn host w = (.ok (log, none), v))
    (settled : Settings.ofEnvironment.runOn host v = (.ok s, u)) (decoded : Request.decode? input = some request) :
    ∃ x, Ends s host request log w
      ((Dispatch.handle (Registry.ofSettings s) s.pluginBackends request true).runOn host x).1
      ((servePlugin input).runOn host w) := by
  have start : output u.journal = output w.journal := by
    have first := (quiet_setUp host .initial (.ofEnv host.env "") w).1
    have second := (quiet_ofEnvironment host v).1
    rw [logged] at first
    rw [settled] at second
    exact second.trans first
  have build := Registry.runOn_build_fst s host u
  have silent := (quiet_build host s u).1
  generalize built : (Registry.build s).runOn host u = r at build silent
  obtain ⟨_, x⟩ := r
  cases build
  refine ⟨x, ?_⟩
  rw [runOn_servePlugin logged settled, runOn_answer decoded built]
  obtain ⟨quiet, fails⟩ := Dispatch.quiet_handle host s s.pluginBackends request true x
  generalize (Dispatch.handle (Registry.ofSettings s) s.pluginBackends request true).runOn host x = handled
    at quiet fails ⊢
  have before := quiet.trans (silent.trans start)
  obtain ⟨e | r, y⟩ := handled
  · obtain ⟨f, rfl⟩ | escapes := fails e rfl
    · refine .reported ?_
      split
      · rw [World.noted_journal, Dispatch.output_append, before]
        simp [output]
      · exact before
    · rw [ended, escapes.not_own, if_neg Bool.false_ne_true]
      exact .broken escapes before
  · refine .answered ?_
    rw [World.noted_journal, Dispatch.output_append, before]
    simp [output]

end Program

end

namespace Program

namespace Serving

/-- Programs that cannot be started. -/
def host : Host :=
  ⟨[(Tool.pluginEnv, "go"), (Tool.modulePathEnv, "example.com/m"), (Tool.configEnv, "gen.yml")], ["repo"], "regen",
    fun _ => none, fun _ t => (.unstarted SystemFault.noEntry, t), fun _ n => n, fun _ => false⟩

/-- A configuration without programs and formatter. -/
def content : Bytes := Text.bytes "plugins: \x7b\x7d\ngofmt: null\n"

def world : World := ⟨⟨[(["repo"], .directory), (["repo", "gen.yml"], .file content false)]⟩, []⟩

def config : Config := { Config.default with plugins := [], formatter := none }

def settings : Settings :=
  ⟨.plugin, .diff, ⟨"/", ["repo"]⟩, "example.com/m", none, "", ["go"], some ⟨"", ["gen.yml"]⟩, config⟩

/-- A request for a file whose one message has one field with the given further entries. -/
def request (more : List (Nat × Value)) : Request :=
  let field : Message := .mk ([(1, .text "x"), (3, .number 1)] ++ more) []
  let message : Message := .mk [(1, .text "M"), (2, .nested field)] []
  let file : Message := .mk [(1, .text "a.proto"), (2, .text "google.protobuf"), (4, .nested message)] []
  ⟨.mk [(1, .text "a.proto"), (15, .nested file)] []⟩

theorem logged : (Log.setUp .initial (.ofEnv host.env "")).runOn host world =
    (.ok (⟨Log.warning, [Log.console Log.warning]⟩, none), world) := by
  have unnamed : (Log.Wish.ofEnv host.env "").file = "" := by decide
  have level : Log.level (Log.Wish.ofEnv host.env "").level = Log.warning := by decide +kernel
  unfold Log.setUp
  rw [if_pos unnamed, level]
  rfl

theorem settled : Settings.ofEnvironment.runOn host world = (.ok settings, world) := by
  have there : world.files.isFile host.cwd ⟨"", ["gen.yml"]⟩ = .ok true := by decide
  have read : world.files.read host.cwd ⟨"", ["gen.yml"]⟩ = .ok content := by decide
  have holds : Config.ofBytes (Path.toString ⟨"", ["gen.yml"]⟩) content = .ok config := by decide +kernel
  have load : (Config.load (some ⟨"", ["gen.yml"]⟩)).runOn host world = (.ok config, world) :=
    Config.runOn_ofFile_eq_ok_iff.2 ⟨by decide, there, ⟨content, read, holds⟩, rfl⟩
  exact Settings.runOn_ofEnvironment (by decide) (by decide) load

end Serving

end Program
end Regen
