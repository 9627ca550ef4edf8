import Regen.Proofs.Generator
import Regen.Proofs.Response.Handed

/-!
# Version lists

A generator for services names its versions in a list, whose lines do not start as the entries of a version
block do. Of such a list only the line that opens it is taken out of a file (`strip_listing`). A stable answer
still tells all versions, and answers that differ in them stay different (`generateExternal_listed`).
-/

namespace Regen

namespace VersionBlock

/-- The line of a version list for one tool. -/
def listLine (tool version : String) : List Char := "// - ".toList ++ (tool.toList ++ ' ' :: version.toList) ++ ['\n']

/-- A text with a version list, the versions left open. -/
structure Listing where
  before : List Char
  tools : List String
  after : List Char
  ended : Text.Ended before
  clear : header ∉ Text.feedLines before
  plain : ∀ t ∈ tools, '\n' ∉ t.toList
  /-- An empty list would be the header of the entries behind it. -/
  closed : tools = [] → ∀ l, (Text.feedLines after).head? = some l → isEntry l = false

namespace Listing

/-- There is a version for each tool, and all of them fit into a line. -/
structure Suits (g : Listing) (versions : List String) : Prop where
  count : versions.length = g.tools.length
  plain : ∀ v ∈ versions, '\n' ∉ v.toList

def lines (g : Listing) (versions : List String) : List (List Char) :=
  (g.tools.zip versions).map fun (tool, version) => listLine tool version

def text (g : Listing) (versions : List String) : List Char :=
  g.before ++ header ++ (g.lines versions).flatten ++ g.after

/-- The text without the line that opens the list. -/
def opened (g : Listing) (versions : List String) : List Char :=
  g.before ++ (g.lines versions).flatten ++ g.after

end Listing

theorem isLine_listLine {tool version : String} (tools : '\n' ∉ tool.toList) (versions : '\n' ∉ version.toList) :
    Text.IsLine (listLine tool version) :=
  ⟨_, by simp [tools, versions], rfl⟩

/-- The third character of an entry is a tab, or the fourth. -/
theorem isEntry_listLine (tool version : String) : isEntry (listLine tool version) = false := by
  rw [isEntry, Bool.and_eq_false_iff]
  exact .inr rfl

theorem listLine_inj {tool v v' : String} (same : listLine tool v = listLine tool v') : v = v' := by
  have rest := List.append_cancel_left (List.append_cancel_left (List.append_cancel_right same))
  exact String.toList_inj.1 (List.cons.inj rest).2

theorem map_listLine_inj {tools vs vs' : List String} (count : vs.length = tools.length)
    (count' : vs'.length = tools.length)
    (same : (tools.zip vs).map (fun (t, v) => listLine t v) = (tools.zip vs').map fun (t, v) => listLine t v) :
    vs = vs' := by
  induction tools generalizing vs vs' with
  | nil => rw [List.length_eq_zero_iff.1 count, List.length_eq_zero_iff.1 count']
  | cons t tools ih =>
    obtain ⟨v, vs, rfl⟩ := List.exists_cons_of_length_eq_add_one count
    obtain ⟨v', vs', rfl⟩ := List.exists_cons_of_length_eq_add_one count'
    obtain ⟨first, rest⟩ := List.cons.inj same
    rw [listLine_inj first, ih (Nat.succ.inj count) (Nat.succ.inj count') rest]

namespace Listing

variable {g : Listing} {vs vs' : List String}

theorem Suits.isLine (suits : g.Suits vs) : ∀ l ∈ g.lines vs, Text.IsLine l := by
  intro l mem
  obtain ⟨⟨t, v⟩, pair, rfl⟩ := List.mem_map.1 mem
  obtain ⟨tool, version⟩ := List.of_mem_zip pair
  exact isLine_listLine (g.plain t tool) (suits.plain v version)

theorem isEntry_of_mem_lines {l : List Char} (mem : l ∈ g.lines vs) : isEntry l = false := by
  obtain ⟨⟨t, v⟩, -, rfl⟩ := List.mem_map.1 mem
  exact isEntry_listLine t v

/-- The place behind the line that opens the list is not in front of an entry. -/
theorem Suits.closed (suits : g.Suits vs) :
    ∀ l, (Text.feedLines ((g.lines vs).flatten ++ g.after)).head? = some l → isEntry l = false := by
  intro l first
  rw [Text.feedLines_append (Text.ended_flatten suits.isLine), Text.feedLines_flatten suits.isLine] at first
  cases lines : g.lines vs with
  | nil =>
    have none : g.tools = [] := by
      rcases List.zip_eq_nil_iff.1 (List.map_eq_nil_iff.1 lines) with none | none
      · exact none
      · rw [none] at suits
        exact List.length_eq_zero_iff.1 suits.count.symm
    rw [lines] at first
    exact g.closed none l first
  | cons m rest =>
    rw [lines] at first
    obtain rfl := Option.some.inj first
    exact isEntry_of_mem_lines (by rw [lines]; exact List.mem_cons_self)

/-- A block without entries stands in front of the list. -/
def Suits.seam (suits : g.Suits vs) : Seam where
  before := g.before
  after := (g.lines vs).flatten ++ g.after
  ended := g.ended
  clear := g.clear
  closed := suits.closed

theorem opened_inj (suits : g.Suits vs) (suits' : g.Suits vs') (same : g.opened vs = g.opened vs') : vs = vs' := by
  have lines := congrArg Text.feedLines (List.append_cancel_left (List.append_cancel_right same))
  rw [Text.feedLines_flatten suits.isLine, Text.feedLines_flatten suits'.isLine] at lines
  exact map_listLine_inj suits.count suits'.count lines

end Listing

/-- Of a version list only the line that opens it is taken out. -/
theorem strip_listing {g : Listing} {vs : List String} (suits : g.Suits vs) :
    strip (String.ofList (g.text vs)) =
      ⟨String.ofList (g.opened vs), (Text.encode g.before).length, (Text.encode header).length⟩ := by
  have text : g.text vs = suits.seam.insert ⟨[], List.forall_mem_nil _, List.forall_mem_nil _⟩ := by
    simp [Listing.text, Seam.insert, Block.text, Listing.Suits.seam]
  have rest : suits.seam.text = g.opened vs := by
    simp [Listing.opened, Seam.text, Listing.Suits.seam]
  have head : (⟨[], List.forall_mem_nil _, List.forall_mem_nil _⟩ : Block).text = header := List.append_nil _
  rw [text, strip_insert, rest, head]
  rfl

end VersionBlock

/-! ### Stable answers -/

namespace Generator

open Response
open VersionBlock (Listing)

/-- The program, asked for the file of `c`, ends well and says `r`. No two of its source and annotation files
share a name, the annotation files that have to move along can be read, and what is worked on is texts. -/
structure Answers (executable : String) (c : Context) (host : Host) (w : World) (r : Response) : Prop where
  said : ∃ input output complaint, inputFor c = .ok input ∧
    (host.start ⟨[executable], none, some (externalEnv host.env), some input⟩ w.files).1 =
      some (.ended 0 output complaint) ∧ Response.decode? output = some r
  fine : r.error = none
  distinct : Distinct r.files
  legible : ∀ e, ¬ Refused r.files e
  clear : ∀ e, ¬ Obstructs r.files e

section

variable {executable : String} {c : Context} {host : Host} {w : World} {r : Response}

theorem Answers.fits (answers : Answers executable c host w r) : Fits r.files := by
  obtain ⟨_, _, _, -, -, decoded⟩ := answers.said
  exact fits_of_decode? decoded

theorem Answers.runOn (answers : Answers executable c host w r) (name : String) :
    ((generateExternal name executable c).runOn host w).1 = if c.stable then r.stabilize else .ok r := by
  obtain ⟨input, output, complaint, asked, ended, decoded⟩ := answers.said
  have read : (read : Session Host).runOn host w = (.ok host, w) := rfl
  have answer : readAnswer name c.file.name output = .ok r := by rw [readAnswer, decoded]; simp only [answers.fine]
  have given : (Session.ofExcept (inputFor c)).runOn host w = (.ok input, w) := by rw [asked]; rfl
  rw [generateExternal, Session.runOn_bind_of_ok read, Session.runOn_bind_of_ok given]
  rw [Session.runOn_bind, Session.runOn_tryCatch, Tool.runOn_run]
  simp only [ended, Tool.ending, if_true, answer]
  have stable : r.stabilizeHanded host.objects = r.stabilize := stabilizeHanded_eq answers.fits answers.clear
  cases c.stable <;> simp [Session.runOn_bind, stable]

/-- The file at place `i` is a source file with the version list `g`. -/
def Lists (r : Response) (i : Nat) (g : Listing) (vs : List String) : Prop :=
  ∃ f, r.files[i]? = some f ∧ isSource f = true ∧ f.text = String.ofList (g.text vs)

/-- In a stable answer the file has lost the line that opens its version list. -/
theorem Answers.listed (answers : Answers executable c host w r) (stable : c.stable = true) {i : Nat} {g : Listing}
    {vs : List String} (suits : g.Suits vs) (lists : Lists r i g vs) (name : String) :
    ∃ out f, ((generateExternal name executable c).runOn host w).1 = .ok out ∧ out.files[i]? = some f ∧
      f.text = String.ofList (g.opened vs) := by
  obtain ⟨f, file, source, text⟩ := lists
  have block : blockOf? f = some
      ⟨String.ofList (g.opened vs), (Text.encode g.before).length, (Text.encode VersionBlock.header).length⟩ := by
    rw [blockOf?_eq_some_iff, text, VersionBlock.strip_listing suits]
    exact ⟨source, Nat.ne_of_gt (VersionBlock.length_encode_pos (by decide)), rfl⟩
  rw [answers.runOn, if_pos stable]
  rcases stabilize_cases answers.distinct answers.fits with ⟨done, -⟩ | ⟨e, -, refused⟩
  · refine ⟨_, _, done, by rw [List.getElem?_map, file, Option.map_some], ?_⟩
    rw [settled_of_some block]
    rfl
  · exact absurd refused (answers.legible e)

end

/-- A file with a version list comes out of a stable answer with all lines of the list, so two answers whose
lists name other versions differ there. -/
theorem generateExternal_listed {executable : String} {c : Context} {host host' : Host} {w w' : World}
    {r r' : Response} (stable : c.stable = true) (answers : Answers executable c host w r)
    (answers' : Answers executable c host' w' r') {i i' : Nat} {g : Listing} {vs vs' : List String}
    (suits : g.Suits vs) (suits' : g.Suits vs') (lists : Lists r i g vs) (lists' : Lists r' i' g vs')
    (name : String) :
    ∃ out out' f f', ((generateExternal name executable c).runOn host w).1 = .ok out ∧
      ((generateExternal name executable c).runOn host' w').1 = .ok out' ∧
      out.files[i]? = some f ∧ out'.files[i']? = some f' ∧
      f.text = String.ofList (g.opened vs) ∧ f'.text = String.ofList (g.opened vs') ∧
      (f.text = f'.text ↔ vs = vs') := by
  obtain ⟨out, f, run, file, text⟩ := answers.listed stable suits lists name
  obtain ⟨out', f', run', file', text'⟩ := answers'.listed stable suits' lists' name
  refine ⟨out, out', f, f', run, run', file, file', text, text', ?_⟩
  rw [text, text', String.ofList_inj]
  constructor
  · exact VersionBlock.Listing.opened_inj suits suits'
  · rintro rfl
    rfl

namespace Sample

def before : List Char := "// é\n".toList

def after : List Char := "\npackage a\n".toList

def tools : List String := ["protoc-gen-go-grpc", "protoc            "]

theorem ended_before : Text.Ended before := .inr (by decide)

theorem clear_before : VersionBlock.header ∉ Text.feedLines before := by decide

theorem plain_tools : ∀ t ∈ tools, '\n' ∉ t.toList := by decide

theorem closed_tools : tools = [] → ∀ l, (Text.feedLines after).head? = some l → VersionBlock.isEntry l = false :=
  fun none => absurd none (List.cons_ne_nil _ _)

/-- The list of a compiler and a generator, in front of a package. -/
def listing : Listing := ⟨before, tools, after, ended_before, clear_before, plain_tools, closed_tools⟩

theorem suits_listing {v : String} (plain : '\n' ∉ v.toList) : listing.Suits ["v1.2.0", v] := by
  refine ⟨rfl, ?_⟩
  simp [plain]

/-- An answer with the version `v` of the compiler. -/
def service (v : String) : Response :=
  .ofFile (.plain "a_grpc.pb.go" (String.ofList (listing.text ["v1.2.0", v])))

/-- A host where every program gives this answer. -/
def host (v : String) : Host :=
  ⟨[], [], "regen", fun _ => none, fun _ t => (.ended 0 (service v).encode [], t), fun _ n => n, fun _ => false⟩

def world : World := ⟨.empty, []⟩

def context : Context := ⟨⟨.empty⟩, ⟨.empty⟩, true⟩

theorem lists_service (v : String) : Lists (service v) 0 listing ["v1.2.0", v] :=
  ⟨_, rfl, endsWith_iff.2 (show ".go".toList <:+ "a_grpc.pb.go".toList by decide), rfl⟩

theorem answers_service {v : String} (decoded : Response.decode? (service v).encode = some (service v)) :
    Answers "protoc-gen-go-grpc" context (host v) world (service v) where
  said := ⟨[10, 0], (service v).encode, [], by decide, rfl, decoded⟩
  fine := rfl
  distinct := List.pairwise_singleton _ _
  legible := by
    rintro e ⟨f, -, -, g, mem, names, -⟩
    obtain rfl := List.mem_singleton.1 mem
    have ending := endsWith_iff.1 (isAnnotations_of_title names)
    exact absurd ending (show ¬ ".meta".toList <:+ "a_grpc.pb.go".toList by decide)
  clear := by
    have plain : ∀ f ∈ (service v).files, f.octets = [] := fun f mem => by rw [List.mem_singleton.1 mem]; rfl
    have held {f : GeneratedFile} {n : Nat} (mem : f ∈ (service v).files) : ¬ (f.octets.lookup n).isSome = true := by
      simp [plain f mem]
    rintro e (⟨mem, octets⟩ | ⟨mem, -, octets⟩ | ⟨mem, -, octets⟩)
    · exact held mem octets
    · exact held mem octets
    · exact held mem octets

theorem decode?_old : Response.decode? (service "v3.21.12").encode = some (service "v3.21.12") := by decide +kernel

theorem decode?_new : Response.decode? (service "v4.22.0").encode = some (service "v4.22.0") := by decide +kernel

end Sample

theorem generateExternal_listed_sample :
    ∃ out out' f f', ((generateExternal "grpc" "protoc-gen-go-grpc" Sample.context).runOn
        (Sample.host "v3.21.12") Sample.world).1 = .ok out ∧
      ((generateExternal "grpc" "protoc-gen-go-grpc" Sample.context).runOn
        (Sample.host "v4.22.0") Sample.world).1 = .ok out' ∧
      out.files[0]? = some f ∧ out'.files[0]? = some f' ∧
      f.text = String.ofList (Sample.listing.opened ["v1.2.0", "v3.21.12"]) ∧
      f'.text = String.ofList (Sample.listing.opened ["v1.2.0", "v4.22.0"]) ∧
      (f.text = f'.text ↔ ["v1.2.0", "v3.21.12"] = ["v1.2.0", "v4.22.0"]) :=
  generateExternal_listed rfl (Sample.answers_service Sample.decode?_old) (Sample.answers_service Sample.decode?_new)
    (Sample.suits_listing (by decide)) (Sample.suits_listing (by decide)) (Sample.lists_service _)
    (Sample.lists_service _) "grpc"

/-- A stable answer tells which version of the compiler was asked. -/
theorem generateExternal_unstable :
    ∃ out out' f f', ((generateExternal "grpc" "protoc-gen-go-grpc" Sample.context).runOn
        (Sample.host "v3.21.12") Sample.world).1 = .ok out ∧
      ((generateExternal "grpc" "protoc-gen-go-grpc" Sample.context).runOn
        (Sample.host "v4.22.0") Sample.world).1 = .ok out' ∧
      out.files[0]? = some f ∧ out'.files[0]? = some f' ∧ f.text ≠ f'.text := by
  obtain ⟨out, f, run, file, text⟩ := (Sample.answers_service Sample.decode?_old).listed rfl
    (Sample.suits_listing (by decide)) (Sample.lists_service _) "grpc"
  obtain ⟨out', f', run', file', text'⟩ := (Sample.answers_service Sample.decode?_new).listed rfl
    (Sample.suits_listing (by decide)) (Sample.lists_service _) "grpc"
  refine ⟨out, out', f, f', run, run', file, file', ?_⟩
  rw [text, text', ne_eq, String.ofList_inj]
  decide

end Generator
end Regen
