import Regen.Proofs.Corresponding
import Regen.Proofs.Response.Stable
import Regen.Proofs.Span.RoundTrip
import Regen.Proofs.VersionBlock.Cut

/-!
# Answers of different tool versions

Two answers that differ in their version blocks, and in the offsets behind them, are the same when the
blocks are taken out (`stabilize_versions`). Both come out as the answer into which the blocks were put,
with the annotations of its source files in their written form (`stabilize_versioned`).
-/

namespace Regen

open VersionBlock (Block Seam)

/-- The count of bytes in front of a seam. -/
def VersionBlock.Seam.place (m : Seam) : Nat := (Text.encode m.before).length

/-- The count of bytes of a block. -/
def VersionBlock.Block.size (b : Block) : Nat := (Text.encode b.text).length

theorem VersionBlock.Block.size_pos (b : Block) : 0 < b.size :=
  VersionBlock.length_encode_pos (List.append_ne_nil_of_left_ne_nil (by decide) _)

namespace Response

/-- The file `new` is the file `old` of an answer with the files `files` when at its seam every source
file has got its block: the annotations that stand with a source file, or in the file beside it, have
moved on; other files are the same. -/
inductive VersionedFile (files : List GeneratedFile) (seam : String → Seam) (block : String → Block) :
    (old new : GeneratedFile) → Prop
  | source {f : GeneratedFile} {info : Option CodeInfo} : isSource f = true →
      f.text = String.ofList (seam f.title).text →
      Option.Rel (CodeInfo.Opened (seam f.title).place (block f.title).size) f.info info →
      VersionedFile files seam block f
        { f with content := some (String.ofList ((seam f.title).insert (block f.title))), info := info }
  | annotations {f g : GeneratedFile} {text : String} {info moved : CodeInfo} : f ∈ files →
      isSource f = true → g.title = f.title ++ ".meta" → CodeInfo.read? g.text = some info →
      CodeInfo.read? text = some moved →
      CodeInfo.Opened (seam f.title).place (block f.title).size info moved →
      VersionedFile files seam block g { g with content := some text }
  | other {g : GeneratedFile} : isSource g = false →
      (∀ f ∈ files, isSource f = true → g.title ≠ f.title ++ ".meta") →
      VersionedFile files seam block g g

/-- The answer `new` is the answer `old` with a block in every source file. -/
structure Versioned (seam : String → Seam) (block : String → Block) (old new : Response) : Prop where
  files : List.Forall₂ (VersionedFile old.files seam block) old.files new.files
  rest : new = { old with files := new.files }

/-- A file of an answer into which no blocks were put, as it comes out when they are taken out. -/
def unversioned (files : List GeneratedFile) (g : GeneratedFile) : GeneratedFile :=
  if isSource g then { g with content := some g.text }
  else if files.any fun f => isSource f && g.title == f.title ++ ".meta" then
    (CodeInfo.read? g.text).elim g fun info => { g with content := some info.print }
  else g

section Versioned

variable {files files' : List GeneratedFile} {seam : String → Seam} {block : String → Block}

theorem VersionedFile.title {f f' : GeneratedFile} (versioned : VersionedFile files seam block f f') :
    f'.title = f.title := by
  cases versioned <;> rfl

theorem distinct_iff {files : List GeneratedFile} :
    Distinct files ↔ (files.map (·.title)).Pairwise fun a b =>
      a.endsWith ".go" = true ∨ a.endsWith ".meta" = true → a ≠ b := by
  rw [List.pairwise_map]
  rfl

theorem distinct_of_nodup {files : List GeneratedFile} (names : (files.map (·.title)).Nodup) :
    Distinct files := by
  rw [distinct_iff]
  refine List.Pairwise.imp ?_ names
  intro a b other _
  exact other

theorem Distinct.of_versioned (distinct : Distinct files)
    (versioned : List.Forall₂ (VersionedFile files seam block) files files') : Distinct files' := by
  rw [distinct_iff] at distinct ⊢
  rwa [map_eq_of_forall₂ versioned fun _ _ file => file.title]

/-- A source file loses the block that was put in. -/
theorem VersionedFile.blockOf? {f f' : GeneratedFile} (versioned : VersionedFile files seam block f f')
    (source : isSource f = true) :
    Response.blockOf? f' =
      some ⟨String.ofList (seam f.title).text, (seam f.title).place, (block f.title).size⟩ := by
  cases versioned with
  | source _ text info =>
    rw [blockOf?_eq_some_iff]
    exact ⟨source, Nat.ne_of_gt (block f.title).size_pos, (VersionBlock.strip_insert _ _).symm⟩
  | annotations _ _ names =>
    rw [isSource_eq_false_of_isAnnotations (isAnnotations_of_title names)] at source
    cases source
  | other plain =>
    rw [plain] at source
    cases source

theorem isSource_of_blockOf? {f : GeneratedFile} (block : (Response.blockOf? f).isSome) :
    isSource f = true := by
  obtain ⟨s, block⟩ := Option.isSome_iff_exists.1 block
  exact (blockOf?_eq_some_iff.1 block).1

theorem isSource_congr {f f' : GeneratedFile} (same : f'.title = f.title) : isSource f' = isSource f := by
  rw [isSource, isSource, same]

theorem map_after_opened {start length : Nat} (pos : 0 < length) {old new : Option CodeInfo}
    (opened : Option.Rel (CodeInfo.Opened start length) old new) :
    new.map (CodeInfo.after start length) = old := by
  cases opened with
  | none => rfl
  | some opened => rw [Option.map_some, opened.after pos]

/-- When the blocks are taken out, nothing tells which they were. -/
theorem VersionedFile.settled (distinct : Distinct files)
    (versioned : List.Forall₂ (VersionedFile files seam block) files files') {g g' : GeneratedFile}
    (file : VersionedFile files seam block g g') : settled files' g' = unversioned files g := by
  have lost := file.blockOf?
  cases file with
  | source source text info =>
    rw [settled_of_some (lost source), unversioned, if_pos source, GeneratedFile.withoutBlock,
      map_after_opened (Block.size_pos _) info, text]
  | @annotations f _ _ info _ mem source names read moved opened =>
    obtain ⟨f', mem', file⟩ := (mem_of_forall₂ versioned).1 f mem
    have block := file.blockOf? source
    have plain := isSource_eq_false_of_isAnnotations (isAnnotations_of_title names)
    have beside : (files.any fun f => isSource f && g.title == f.title ++ ".meta") = true :=
      List.any_eq_true.2 ⟨f, mem, by simp [source, names]⟩
    rw [settled_annotations (distinct.of_versioned versioned) mem' block (by rw [file.title]; exact names),
      unversioned, if_neg (by simp [plain]), if_pos beside, read, Option.elim_some]
    simp only [GeneratedFile.realigned, GeneratedFile.text, Option.getD_some, moved]
    rw [opened.after (Block.size_pos _)]
  | other plain alone =>
    have none : Response.blockOf? g = none := by simp [Response.blockOf?, plain]
    have beside : ¬ (files.any fun f => isSource f && g.title == f.title ++ ".meta") = true := by
      simpa using alone
    rw [unversioned, if_neg (by simp [plain]), if_neg beside]
    refine settled_other none fun f' mem' block => ?_
    obtain ⟨f, mem, file⟩ := (mem_of_forall₂ versioned).2 f' mem'
    have source := isSource_of_blockOf? block
    rw [isSource_congr file.title] at source
    rw [file.title]
    exact alone f mem source

/-- The annotation files of an answer with blocks can be read. -/
theorem not_refused_of_versioned
    (versioned : List.Forall₂ (VersionedFile files seam block) files files') (e : Failure) :
    ¬ Refused files' e := by
  rintro ⟨f', mem', block, g', memg', names, unread, -⟩
  obtain ⟨f, mem, file⟩ := (mem_of_forall₂ versioned).2 f' mem'
  obtain ⟨g, memg, annotations⟩ := (mem_of_forall₂ versioned).2 g' memg'
  have source := isSource_of_blockOf? block
  rw [isSource_congr file.title] at source
  rw [annotations.title, file.title] at names
  cases annotations with
  | source plain =>
    rw [isSource_eq_false_of_isAnnotations (isAnnotations_of_title names)] at plain
    cases plain
  | annotations _ _ _ _ moved =>
    rw [GeneratedFile.text, Option.getD_some, moved] at unread
    cases unread
  | other _ alone => exact alone f mem source names

end Versioned

/-- What comes out does not tell which blocks were put in. -/
theorem stabilize_versioned {r r' : Response} {seam : String → Seam} {block : String → Block}
    (distinct : Distinct r.files) (fits : Fits r'.files) (versioned : Versioned seam block r r') :
    r'.stabilize = .ok { r with files := r.files.map (unversioned r.files) } := by
  rcases stabilize_cases (distinct.of_versioned versioned.files) fits with ⟨done, -⟩ | ⟨e, -, refused⟩
  · have files : r'.files.map (settled r'.files) = r.files.map (unversioned r.files) :=
      map_eq_of_forall₂ versioned.files fun _ _ file => file.settled distinct versioned.files
    rw [done, files, versioned.rest]
  · exact absurd refused (not_refused_of_versioned versioned.files e)

/-! ### An answer with one source file -/

namespace Sample

/-- A seam behind a line that takes more bytes than characters. -/
def seam : Seam where
  before := "// é\n".toList
  after := "package a\n".toList
  ended := .inr (by decide)
  clear := by decide
  closed := by
    rintro _ ⟨⟩
    decide

/-- Annotations of the last word, `n` bytes behind its place. -/
def info (n : Nat) : CodeInfo := ⟨[⟨[4, 0], some "é.proto", some (14 + n), some (15 + n), some 1, [], []⟩], []⟩

/-- An answer whose source file has the given text. -/
def answer (text : List Char) (n : Nat) : Response :=
  { Response.empty with files :=
    [{ GeneratedFile.plain "a.go" (String.ofList text) with info := some (info n) },
      .plain "a.go.meta" (info n).print, .plain "NOTICE" "é"] }

def shortBlock : Block := ⟨[], nofun, nofun⟩

def longBlock : Block where
  entries := ["//\tprotoc é\n".toList]
  lines := by simpa using ⟨"//\tprotoc é".toList, by decide, by decide⟩
  marked := by decide

theorem opened (n : Nat) : CodeInfo.Opened seam.place n (info 0) (info n) := by
  have moved : ∀ k : Int, 6 ≤ k → Span.OffsetOpened seam.place n (some (k + 0)) (some (k + n)) := by
    intro k behind
    rw [Int.add_zero]
    exact .moved behind
  exact ⟨.cons ⟨moved 14 (by decide), moved 15 (by decide), rfl⟩ .nil, rfl⟩

theorem legible {n : Nat} (small : n < 100) : (info n).Legible := by
  have path : ∀ k ∈ [(4 : Int), 0], Shape.Kind.int32.holds k = true := by decide
  have known : Shape.semantics.contains 1 = true := by decide
  refine ⟨?_, rfl⟩
  simp only [info, List.mem_singleton, forall_eq]
  refine ⟨⟨?_, ?_⟩, path, by rintro _ ⟨⟩; exact known, rfl, rfl⟩ <;>
  · rintro _ ⟨⟩
    rw [Span.holds_int32_iff]
    omega

theorem distinct (text : List Char) (n : Nat) : Distinct (answer text n).files := by
  refine distinct_of_nodup (show ["a.go", "a.go.meta", "NOTICE"].Nodup from ?_)
  decide

theorem fits (text : List Char) {n : Nat} (small : n < 100) : Fits (answer text n).files := by
  have all := (legible small).fits
  simp [Fits, answer, GeneratedFile.plain, all]

theorem versioned {b : Block} (small : b.size < 100) :
    Versioned (fun _ => seam) (fun _ => b) (answer seam.text 0) (answer (seam.insert b) b.size) := by
  have source : isSource { GeneratedFile.plain "a.go" (String.ofList seam.text) with info := some (info 0) } =
      true := endsWith_iff.2 (by decide)
  refine ⟨.cons ?_ (.cons ?_ (.cons ?_ .nil)), rfl⟩
  · exact .source source rfl (.some (opened b.size))
  · exact .annotations (List.mem_cons_self ..) source rfl (CodeInfo.read?_print (legible (by decide)))
      (CodeInfo.read?_print (legible small)) (opened b.size)
  · refine .other ?_ ?_
    · rw [Bool.eq_false_iff, ne_eq, isSource, endsWith_iff]
      decide
    · intro f _ _ names
      have ending := endsWith_iff.1 (isAnnotations_of_title names)
      exact absurd ending (by decide)

end Sample

/-- Answers that differ in their version blocks, and in the offsets behind these, come out the same. -/
theorem stabilize_versions {r r₁ r₂ : Response} {seam : String → Seam} {block₁ block₂ : String → Block}
    (distinct : Distinct r.files) (fits₁ : Fits r₁.files) (fits₂ : Fits r₂.files)
    (first : Versioned seam block₁ r r₁) (second : Versioned seam block₂ r r₂) :
    ∃ out, r₁.stabilize = .ok out ∧ r₂.stabilize = .ok out :=
  ⟨_, stabilize_versioned distinct fits₁ first, stabilize_versioned distinct fits₂ second⟩

theorem stabilize_versions_sample :
    ∃ out, (Sample.answer (Sample.seam.insert Sample.shortBlock) 13).stabilize = .ok out ∧
      (Sample.answer (Sample.seam.insert Sample.longBlock) 26).stabilize = .ok out :=
  stabilize_versions (Sample.distinct _ 0) (Sample.fits _ (by decide)) (Sample.fits _ (by decide))
    (Sample.versioned (by decide)) (Sample.versioned (by decide))

end Response
end Regen
