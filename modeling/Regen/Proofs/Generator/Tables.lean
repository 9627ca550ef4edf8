import Mathlib.Data.List.TakeWhile
import Mathlib.Data.List.Nodup
import Regen.Proofs.Dispatch
import Regen.Proofs.Files.Output
import Regen.Proofs.Generator
import Regen.Proofs.Path.Normalized

/-!
# Tables of different files

The table of a file is named after the last part of the file's name, without the ending of descriptions (`stem`). Two
files have tables of one name exactly when their stems are the same, so files in two directories may share a table's
name (`outputName_collides`). An answer holds no two tables of one name when the stems of its files differ, and a table
that is written leaves those of other stems alone (`tables_apart`).
-/

namespace Regen

/-! ### Names of tables -/

namespace Path

theorem slash_not_mem_baseName (s : String) : '/' ∉ (baseName s).toList := by
  rw [baseName, String.toList_ofList, List.mem_reverse]
  intro mem
  simpa using List.mem_takeWhile_imp mem

/-- A path text that is not absolute is told by what it makes behind another one. -/
theorem joinText_right_inj {a b c : String} (head : b.toList.head? ≠ some '/') (head' : c.toList.head? ≠ some '/') :
    joinText a b = joinText a c ↔ b = c := by
  rw [joinText, joinText, if_neg head, if_neg head']
  split <;> exact String.append_right_inj _

theorem join_joinText {a b : String} (head : b.toList.head? ≠ some '/') (p : Path) :
    p.join (joinText a b) = ⟨(p.join a).root, (p.join a).parts ++ (ofString b).parts⟩ := by
  rw [join, join, append, append, ofString_joinText head]
  by_cases absolute : (ofString a).isAbsolute = true
  · have same : isAbsolute ⟨(ofString a).root, (ofString a).parts ++ (ofString b).parts⟩ = true := absolute
    rw [if_pos absolute, if_pos same]
  · have same : ¬ isAbsolute ⟨(ofString a).root, (ofString a).parts ++ (ofString b).parts⟩ = true := absolute
    rw [if_neg absolute, if_neg same, List.append_assoc]

end Path

namespace Generator.Tables

variable {t : Tables} {f g : FileDescriptor}

/-- What the table of a file is named after. -/
def stem (file : String) : String := withoutEnding (Path.baseName file) ".proto"

/-- The last part of the name of a table. -/
def leaf (file : String) : String := stem file ++ "_gen.go"

/-- The directory of the tables. -/
def place (t : Tables) : String := Path.joinText t.modulePath t.directory

theorem outputName_eq : t.outputName f = Path.joinText t.place (leaf f.name) := rfl

theorem slash_not_mem_stem (file : String) : '/' ∉ (stem file).toList := by
  have base := Path.slash_not_mem_baseName file
  unfold stem withoutEnding
  split
  · rw [String.Slice.toString_eq, String.toList_copy_dropEnd]
    exact fun mem => base (List.take_subset _ _ mem)
  · exact base

theorem isSegment_leaf (file : String) : Path.IsSegment (leaf file) where
  part := by
    have text : (leaf file).toList = (stem file).toList ++ "_gen.go".toList := String.toList_append
    rw [text]
    cases (stem file).toList <;> simp [Path.isPart]
  slash := by
    rw [leaf, String.toList_append, List.mem_append, not_or]
    exact ⟨slash_not_mem_stem file, by decide⟩

theorem isInner_leaf (file : String) : Files.IsInner (leaf file) := by
  have other {s : String} (none : '_' ∉ s.toList) : leaf file ≠ s := by
    rintro rfl
    exact none (by simp [leaf])
  exact ⟨other (by decide), other (by decide)⟩

theorem head?_leaf (file : String) : (leaf file).toList.head? ≠ some '/' := fun slash =>
  (isSegment_leaf file).slash (List.mem_of_mem_head? slash)

theorem leaf_inj {a b : String} : leaf a = leaf b ↔ stem a = stem b := String.append_left_inj _

/-- Two files have tables of one name when they have one stem, and only then. -/
theorem outputName_eq_iff : t.outputName f = t.outputName g ↔ stem f.name = stem g.name := by
  rw [outputName_eq, outputName_eq, Path.joinText_right_inj (head?_leaf _) (head?_leaf _), leaf_inj]

/-! ### Tables in a directory -/

section

open Session Files

variable {host : Host} {w : World} {staging : Path} {L : Place}

/-- The path of a table in a staging directory. -/
theorem join_outputName (t : Tables) (staging : Path) (f : FileDescriptor) : staging.join (t.outputName f) =
    ⟨(staging.join t.place).root, (staging.join t.place).parts ++ [leaf f.name]⟩ := by
  rw [outputName_eq, Path.join_joinText (head?_leaf _), Path.parts_ofString, Path.namesOf_segment (isSegment_leaf _)]

/-- A table stays when that of another stem is written beside it, whether that can be written or not. -/
theorem bytes?_writeFile
    (anchor : Anchor w.files host.cwd (staging.join t.place).root (staging.join t.place).parts L)
    (clear : Clear w.files L) (other : stem f.name ≠ stem g.name) {content : Bytes}
    (there : w.files.bytes? host.cwd (staging.join (t.outputName f)) = some content) (new : Bytes) :
    ((writeFile (staging.join (t.outputName g)) new).runOn host w).2.files.bytes? host.cwd
      (staging.join (t.outputName f)) = some content := by
  have inner (file : String) : ∀ n ∈ [leaf file], IsInner n := by simp [isInner_leaf]
  have apart : L ++ [leaf f.name] ≠ L ++ [leaf g.name] := fun same =>
    other (leaf_inj.1 (by simpa using List.append_cancel_left same))
  rw [join_outputName] at there ⊢
  rw [join_outputName]
  obtain ⟨plain, read⟩ := bytes?_eq_some_iff.1 there
  obtain ⟨p, found, file⟩ := read_eq_ok read
  obtain ⟨rfl, -⟩ := anchor.locate clear (inner _) (List.cons_ne_nil _ _) found
  obtain ⟨x, file⟩ := content?_eq_some_iff.1 file
  have stays {u : Files} (ways : Ways w.files u) (kept : u.get? (L ++ [leaf f.name]) = some (.file content x)) :
      u.bytes? host.cwd ⟨(staging.join t.place).root, (staging.join t.place).parts ++ [leaf f.name]⟩ =
        some content :=
    bytes?_eq_some_iff.2 ⟨plain, read_of_there (locate_kept ways (by simp [kept]) id found) kept⟩
  rcases runOn_writeFile_cases anchor clear (inner g.name) (List.cons_ne_nil _ _) new with
    ⟨e, u, fails, paved, -⟩ | ⟨u, done, wrote, -⟩
  · rw [fails]
    exact stays paved.ways (paved.kept file)
  · rw [done]
    exact stays wrote.ways (wrote.kept apart file)

end

end Generator.Tables

/-! ### Tables in an answer -/

namespace Dispatch

open Session

section

variable {host : Host} {w v : World} {t : Generator.Tables} {registry : Registry} {request : Request} {stable : Bool}

/-- Steps that all answer, with their answers. -/
inductive Served (host : Host) : List Step → World → List Response → World → Prop
  | nil (w : World) : Served host [] w [] w
  | ask {g : Generator} {c : Generator.Context} {steps : List Step} {w u v : World} {part : Response}
      {parts : List Response} : (g.ask c).runOn host w = (.ok part, u) → Served host steps u parts v →
      Served host (.ask g c :: steps) w (part :: parts) v

/-- A request that is answered was served step by step, whatever its generators are. -/
theorem served_of_run {steps : List Step} {whole r : Response}
    (run : (steps.foldlM Step.into whole).runOn host w = (.ok r, v)) :
    ∃ parts, Served host steps w parts v ∧ r = parts.foldl .merge whole := by
  induction steps generalizing whole w with
  | nil =>
    cases run
    exact ⟨[], .nil _, rfl⟩
  | cons step steps ih =>
    obtain ⟨next, u, first, rest⟩ := runOn_bind_eq_ok_iff.1 run
    cases step with
    | refuse e => cases first
    | ask g c =>
      obtain ⟨part, u', asked, merged⟩ := runOn_bind_eq_ok_iff.1 first
      cases merged
      obtain ⟨parts, served, whole⟩ := ih rest
      exact ⟨part :: parts, .ask asked served, whole⟩

/-- The generator makes tables of field numbers. -/
def isTabling (g : Generator) : Bool := g.kind = .fieldTable

/-- The generator that a step asks makes tables. -/
def Step.isTabling : Step → Bool
  | ask g _ => Dispatch.isTabling g
  | refuse _ => false

/-- The name of the table of a file, when it has one. -/
def titlesOf (t : Generator.Tables) (d : Request.File) : List String :=
  if d.package = .text t.package then [t.outputName d.description] else []

/-- The files that were answered to the steps that ask for tables. -/
def tableFiles (steps : List Step) (parts : List Response) : List GeneratedFile :=
  ((steps.zip parts).filter (·.1.isTabling)).flatMap (·.2.files)

theorem titles_ofFile (name content : String) :
    (Response.ofFile (.plain name content)).files.map (·.title) = [name] := rfl

/-- What is answered when a table is asked for. -/
theorem titles_of_ask {c : Generator.Context} {part : Response} {u : World}
    (asked : ((Generator.tables t).ask c).runOn host w = (.ok part, u)) :
    part.files.map (·.title) = titlesOf t c.file := by
  unfold titlesOf
  obtain ⟨_, w₁, -, run⟩ := runOn_bind_eq_ok_iff.1 asked
  have generates : (Generator.tables t).generate c = t.generate c := rfl
  rw [generates, Generator.Tables.generate] at run
  by_cases here : c.file.package = .text t.package
  · rw [if_neg (not_not.2 here)] at run
    obtain ⟨source, w₂, -, run⟩ := runOn_bind_eq_ok_iff.1 run
    obtain ⟨text, w₃, -, run⟩ := runOn_bind_eq_ok_iff.1 run
    obtain ⟨_, w₄, -, run⟩ := runOn_bind_eq_ok_iff.1 run
    rw [runOn_pure] at run
    have answered : Response.ofFile (.plain (t.outputName c.file.description) text) = part :=
      Except.ok.inj (congrArg Prod.fst run)
    rw [if_pos here, ← answered, titles_ofFile]
  · rw [if_pos here] at run
    cases run
    rw [if_neg here]
    rfl

/-- The names of the tables that steps ask for. -/
def Step.titles (t : Generator.Tables) : Step → List String
  | ask g c => if Dispatch.isTabling g then titlesOf t c.file else []
  | refuse _ => []

theorem titles_tableFiles {steps : List Step} {parts : List Response} (served : Served host steps w parts v)
    (only : ∀ g c, Step.ask g c ∈ steps → isTabling g = true → g = .tables t) :
    (tableFiles steps parts).map (·.title) = steps.flatMap (Step.titles t) := by
  induction served with
  | nil => rfl
  | @ask g c steps w u v part parts asked _ ih =>
    have rest := ih fun g' c' mem => only g' c' (List.mem_cons_of_mem _ mem)
    rw [tableFiles] at rest ⊢
    rw [List.zip_cons_cons, List.flatMap_cons, ← rest]
    cases tabling : isTabling g with
    | false =>
      rw [List.filter_cons_of_neg (by simp [Step.isTabling, tabling])]
      simp [Step.titles, tabling]
    | true =>
      obtain rfl := only g c List.mem_cons_self tabling
      rw [List.filter_cons_of_pos (by simp [Step.isTabling, tabling]), List.flatMap_cons, List.map_append,
        titles_of_ask asked, Step.titles, if_pos tabling]

/-- The names of the tables of the described files of a request, asked of each of some generators. -/
def titlesBy (t : Generator.Tables) (request : Request) (gs : List Generator) : List String :=
  request.names.flatMap fun file => (request.descriptor? file).toList.flatMap fun d => gs.flatMap fun _ => titlesOf t d

theorem titles_pluginSteps (t : Generator.Tables) (registry : Registry) (request : Request) (stable : Bool)
    (plugin : String) : (pluginSteps registry request stable plugin).flatMap (Step.titles t) =
      titlesBy t request ((registry.generators plugin).filter isTabling) := by
  have asks (gs : List Generator) (d : Request.File) :
      (gs.map fun g => Step.ask g ⟨request, d, stable⟩).flatMap (Step.titles t) =
        (gs.filter isTabling).flatMap fun _ => titlesOf t d := by
    induction gs with
    | nil => rfl
    | cons g gs ih =>
      rw [List.map_cons, List.flatMap_cons, ih, Step.titles]
      cases tabling : isTabling g with
      | false => rw [List.filter_cons_of_neg (by simp [tabling])]; rfl
      | true => rw [List.filter_cons_of_pos tabling]; rfl
  have file (gs : List Generator) (file : Handed) : (fileSteps request stable gs file).flatMap (Step.titles t) =
      (request.descriptor? file).toList.flatMap fun d => (gs.filter isTabling).flatMap fun _ => titlesOf t d := by
    unfold fileSteps
    cases request.descriptor? file with
    | none => rfl
    | some d =>
      rw [Option.toList_some, List.flatMap_singleton]
      exact asks gs d
  unfold pluginSteps Registry.resolve titlesBy
  cases registry.generators plugin with
  | nil => simp [Step.titles]
  | cons g gs =>
    simp only [List.flatMap_assoc, file]

theorem titlesBy_nil (t : Generator.Tables) (request : Request) : titlesBy t request [] = [] := by
  simp [titlesBy]

/-- Where one generator makes tables the tables of a request are its. -/
theorem titles_steps {plugins : List String}
    (once : (plugins.flatMap registry.generators).filter isTabling = [.tables t]) :
    (steps registry plugins request stable).flatMap (Step.titles t) = titlesBy t request [.tables t] := by
  rw [List.filter_flatMap] at once
  rw [steps, List.flatMap_assoc]
  simp only [titles_pluginSteps]
  induction plugins with
  | nil => cases once
  | cons plugin plugins ih =>
    rw [List.flatMap_cons] at once ⊢
    rcases List.append_eq_singleton_iff.1 once with ⟨never, later⟩ | ⟨here, never⟩
    · rw [never, titlesBy_nil, List.nil_append, ih later]
    · have none := List.flatMap_eq_nil_iff.1 never
      rw [here, List.flatMap_eq_nil_iff.2 fun q mem => by rw [none q mem, titlesBy_nil], List.append_nil]

/-- In the registry that settings ask for, one plugin has a generator of tables. -/
theorem tabling_ofSettings (s : Settings) (plugin : String) :
    ((Registry.ofSettings s).generators plugin).filter isTabling =
      if plugin = Registry.tablesName then [.tables (Registry.tablesOf s)] else [] := by
  have programs (plugin : String) :
      ((Registry.ofPlugins s.config.plugins).generators plugin).filter isTabling = [] := by
    refine List.filter_eq_nil_iff.2 fun g mem => ?_
    obtain ⟨p, -, rfl⟩ := Registry.mem_generators_ofPlugins mem
    exact Bool.false_ne_true
  rw [Registry.ofSettings, Registry.generators_register]
  split
  · rw [List.filter_append, programs]
    rfl
  · exact programs plugin

/-- Where plugins are named once, and that one among them, one generator makes tables. -/
theorem once_ofSettings (s : Settings) {plugins : List String} (distinct : plugins.Nodup)
    (named : Registry.tablesName ∈ plugins) :
    (plugins.flatMap (Registry.ofSettings s).generators).filter isTabling = [.tables (Registry.tablesOf s)] := by
  rw [List.filter_flatMap]
  simp only [tabling_ofSettings]
  induction plugins with
  | nil => cases named
  | cons plugin plugins ih =>
    obtain ⟨fresh, distinct⟩ := List.nodup_cons.1 distinct
    rw [List.flatMap_cons]
    by_cases here : plugin = Registry.tablesName
    · subst here
      have none : ∀ q ∈ plugins,
          (if q = Registry.tablesName then [Generator.tables (Registry.tablesOf s)] else []) = [] :=
        fun q mem => if_neg fun same : q = Registry.tablesName => fresh (same ▸ mem)
      rw [if_pos rfl, List.flatMap_eq_nil_iff.2 none]
      rfl
    · rw [if_neg here, List.nil_append]
      exact ih distinct ((List.mem_cons.1 named).resolve_left (Ne.symm here))

/-- The files of a request that have a table. -/
def tabled (t : Generator.Tables) (request : Request) : List FileDescriptor :=
  ((request.names.filterMap request.descriptor?).filter fun d => d.package = .text t.package).map (·.description)

theorem titlesBy_singleton (t : Generator.Tables) (request : Request) (g : Generator) :
    titlesBy t request [g] = (tabled t request).map t.outputName := by
  unfold titlesBy tabled
  induction request.names with
  | nil => rfl
  | cons file files ih =>
    rw [List.flatMap_cons, ih, List.filterMap_cons]
    cases request.descriptor? file with
    | none => rfl
    | some d =>
      by_cases here : d.package = .text t.package
      · simp [titlesOf, here]
      · simp [titlesOf, here]

theorem name_of_descriptor? {file : Handed} {d : Request.File} (found : request.descriptor? file = some d) :
    d.description.name = file.shown := by
  have title : d.title = file := by simpa using List.find?_some found
  rw [← title]
  show d.message.shown 1 = ((d.message.handed? 1).getD (.text "")).shown
  rw [Message.shown]
  cases d.message.handed? 1 <;> rfl

/-- Files that are asked for once and whose stems differ have tables of different names. -/
theorem nodup_titles (distinct : request.files.Nodup)
    (apart : ∀ d ∈ tabled t request, ∀ d' ∈ tabled t request,
      Generator.Tables.stem d.name = Generator.Tables.stem d'.name → d.name = d'.name) :
    ((tabled t request).map t.outputName).Nodup := by
  have asked : ∀ files : List Handed,
      ((files.filterMap request.descriptor?).map (·.description.name)).Sublist (files.map Handed.shown) := by
    intro files
    induction files with
    | nil => exact .slnil
    | cons file files ih =>
      rw [List.filterMap_cons]
      cases found : request.descriptor? file with
      | none => exact ih.cons file.shown
      | some d =>
        rw [List.map_cons, name_of_descriptor? found]
        exact ih.cons_cons file.shown
  have names : ((tabled t request).map (·.name)).Nodup := by
    rw [tabled, List.map_map]
    exact distinct.sublist ((List.filter_sublist.map _).trans (asked request.names))
  refine (List.Nodup.of_map _ names).map_on fun d mem d' mem' same => ?_
  exact List.inj_on_of_nodup_map names mem mem' (apart d mem d' mem' (Generator.Tables.outputName_eq_iff.1 same))

/-- **Tables do not overwrite each other.** Two files have tables of one name exactly when they have one stem. An
answer, whatever else its generators give, holds no two tables of one name when each file is asked for once, each by
one generator of tables, and the stems of files with tables differ. And in a directory without links a table stays
when that of another stem is written. -/
theorem tables_apart (t : Generator.Tables) :
    (∀ f g : FileDescriptor, t.outputName f = t.outputName g ↔
      Generator.Tables.stem f.name = Generator.Tables.stem g.name) ∧
    (∀ (registry : Registry) (plugins : List String) (request : Request) (stable : Bool) (host : Host) (w v : World)
      (r : Response), (handle registry plugins request stable).runOn host w = (.ok r, v) →
      (plugins.flatMap registry.generators).filter isTabling = [.tables t] → request.files.Nodup →
      (∀ d ∈ tabled t request, ∀ d' ∈ tabled t request,
        Generator.Tables.stem d.name = Generator.Tables.stem d'.name → d.name = d'.name) →
      ∃ parts, Served host (steps registry plugins request stable) w parts v ∧ r.files = parts.flatMap (·.files) ∧
        (tableFiles (steps registry plugins request stable) parts).map (·.title) =
          (tabled t request).map t.outputName ∧ ((tabled t request).map t.outputName).Nodup) ∧
    ∀ (host : Host) (w : World) (staging : Path) (L : Place) (f g : FileDescriptor) (content new : Bytes),
      Files.Anchor w.files host.cwd (staging.join t.place).root (staging.join t.place).parts L →
      Files.Clear w.files L → Generator.Tables.stem f.name ≠ Generator.Tables.stem g.name →
      w.files.bytes? host.cwd (staging.join (t.outputName f)) = some content →
      ((writeFile (staging.join (t.outputName g)) new).runOn host w).2.files.bytes? host.cwd
        (staging.join (t.outputName f)) = some content := by
  refine ⟨fun f g => Generator.Tables.outputName_eq_iff, ?_,
    fun host w staging L f g content new anchor clear other there =>
      Generator.Tables.bytes?_writeFile anchor clear other there new⟩
  intro registry plugins request stable host w v r run once distinct apart
  obtain ⟨parts, served, rfl⟩ := served_of_run (runOn_steps_of_handle run)
  refine ⟨parts, served, by rw [Response.files_foldl_merge]; rfl, ?_, nodup_titles distinct apart⟩
  have only : ∀ g c, Step.ask g c ∈ steps registry plugins request stable → isTabling g = true → g = .tables t := by
    intro g c mem tabling
    rcases mem_steps mem with ⟨e, refused⟩ | ⟨plugin, named, g', listed, d, asked⟩
    · cases refused
    · cases asked
      have inside := List.mem_filter.2 ⟨List.mem_flatMap.2 ⟨plugin, named, listed⟩, tabling⟩
      rw [once] at inside
      exact List.mem_singleton.1 inside
  rw [titles_tableFiles served only, titles_steps once, titlesBy_singleton]

end

/-! ### Tables of two files -/

namespace Tabled

def settings : Settings :=
  { Sample.settings with modulePath := "m", config := { Config.default with plugins := [], formatter := none } }

def registry : Registry := .ofSettings settings

def tables : Generator.Tables := Registry.tablesOf settings

/-- A file of the package without messages. -/
def file (name : String) : Message := (Message.empty.put 1 (.text name)).put 2 (.text "google.protobuf")

/-- A request for two files. -/
def request (a b : String) : Request :=
  ⟨(((Message.empty.add 1 (.text a)).add 1 (.text b)).add 15 (.nested (file a))).add 15 (.nested (file b))⟩

/-- A staging directory with the table of one file. -/
def staged : Files :=
  ⟨[(["stage"], .directory), (["stage", "m"], .directory), (["stage", "m", "internal"], .directory),
    (["stage", "m", "internal", "fieldnum"], .directory),
    (["stage", "m", "internal", "fieldnum", "x_gen.go"], .file [1] false)]⟩

def host : Host := ⟨[], [], "gen", fun _ => none, fun _ t => (.unstarted 2, t), fun _ n => n, fun _ => false⟩

end Tabled

open Tabled in
theorem tables_apart_sample :
    (∃ r v parts, (handle registry ["go"] (request "a/x.proto" "b/y.proto") true).runOn host ⟨.empty, []⟩ = (.ok r, v) ∧
      r.files = parts.flatMap (·.files) ∧
      (tableFiles (steps registry ["go"] (request "a/x.proto" "b/y.proto") true) parts).map (·.title) =
        ["m/internal/fieldnum/x_gen.go", "m/internal/fieldnum/y_gen.go"]) ∧
    ((writeFile (Path.join ⟨"", ["stage"]⟩ (tables.outputName (.ofMessage (file "b/y.proto")))) [2]).runOn host
      ⟨staged, []⟩).2.files.bytes? host.cwd
        (Path.join ⟨"", ["stage"]⟩ (tables.outputName (.ofMessage (file "a/x.proto")))) = some [1] := by
  obtain ⟨-, answers, stays⟩ := tables_apart tables
  constructor
  · have ran : ((handle registry ["go"] (request "a/x.proto" "b/y.proto") true).runOn host
        ⟨.empty, []⟩).1.toOption.isSome = true := by decide +kernel
    generalize run : (handle registry ["go"] (request "a/x.proto" "b/y.proto") true).runOn host ⟨.empty, []⟩ = x at ran
    obtain ⟨e | r, v⟩ := x
    · cases ran
    · obtain ⟨parts, -, whole, titles, -⟩ := answers registry ["go"] _ true host _ v r run
        (once_ofSettings settings (by decide) (by decide)) (by decide) (by decide +kernel)
      exact ⟨r, v, parts, rfl, whole, titles.trans (by decide +kernel)⟩
  · have anchor : Files.Anchor staged [] "" ["stage", "m", "internal", "fieldnum"]
        ["stage", "m", "internal", "fieldnum"] := ⟨by decide, by decide⟩
    exact stays host ⟨staged, []⟩ ⟨"", ["stage"]⟩ _ _ _ [1] [2] anchor (Files.clear_of_entries (by simp [staged]) _)
      (by decide +kernel) (by decide +kernel)

open Tabled in
/-- Files in two directories may have tables of one name. -/
theorem outputName_collides :
    tables.outputName (.ofMessage (file "a/x.proto")) = tables.outputName (.ofMessage (file "b/x.proto")) ∧
    ((handle registry ["go"] (request "a/x.proto" "b/x.proto") true).runOn host ⟨.empty, []⟩).1.map
      (fun r => r.files.map (·.title)) = .ok ["m/internal/fieldnum/x_gen.go", "m/internal/fieldnum/x_gen.go"] := by
  constructor <;> decide +kernel

end Dispatch
end Regen
