import Regen.Proofs.Response.Versions

/-!
# Annotations stay on their symbols

When the version blocks are taken out of an answer, every annotation goes on covering what it covered, less
the block, and whatever has no block stays as it is (`stabilize_settled`). Only an annotation file that
cannot be read keeps an answer from coming out.
-/

namespace Regen

namespace CodeInfo

theorem aligned_after {old : Bytes} {start length : Nat} (inside : start + length ≤ old.length)
    (pos : 0 < length) (info : CodeInfo) :
    Aligned old (old.take start ++ old.drop (start + length)) start length info
      (info.after start length) := by
  have each : ∀ as : List Span, List.Forall₂
      (Span.Aligned old (old.take start ++ old.drop (start + length)) start length) as
      (as.map (Span.after start length)) := by
    intro as
    induction as with
    | nil => exact .nil
    | cons a as ih => exact .cons (Span.aligned_after inside pos a) ih
  exact each info.spans

end CodeInfo

namespace Response

/-- A source file `f` that loses the block `s`, and the file `f'` that is left. -/
structure SourceSettled (s : VersionBlock.Stripped) (f f' : GeneratedFile) : Prop where
  inside : s.start + s.length ≤ (Text.bytes f.text).length
  content : Text.bytes f'.text =
    (Text.bytes f.text).take s.start ++ (Text.bytes f.text).drop (s.start + s.length)
  info : Option.Rel (CodeInfo.Aligned (Text.bytes f.text) (Text.bytes f'.text) s.start s.length)
    f.info f'.info
  rest : f' = { f with content := f'.content, info := f'.info }

/-- The file `g` beside the source file `f` that loses the block `s`, and the files that are left. -/
structure AnnotationsSettled (s : VersionBlock.Stripped) (f f' g g' : GeneratedFile) : Prop where
  info : ∃ info info', CodeInfo.read? g.text = some info ∧ CodeInfo.read? g'.text = some info' ∧
    CodeInfo.Aligned (Text.bytes f.text) (Text.bytes f'.text) s.start s.length info info'
  rest : g' = { g with content := g'.content }

/-- The answer `r'` is the answer `r` without its version blocks. -/
structure Settled (r r' : Response) : Prop where
  rest : r' = { r with files := r'.files }
  names : r'.files.map (·.name) = r.files.map (·.name)
  sources : ∀ {i : Nat} {f f' : GeneratedFile} {s : VersionBlock.Stripped}, r.files[i]? = some f →
    r'.files[i]? = some f' → blockOf? f = some s → SourceSettled s f f'
  annotations : ∀ {i j : Nat} {f f' g g' : GeneratedFile} {s : VersionBlock.Stripped},
    r.files[i]? = some f → r'.files[i]? = some f' → r.files[j]? = some g → r'.files[j]? = some g' →
    blockOf? f = some s → g.title = f.title ++ ".meta" → AnnotationsSettled s f f' g g'
  others : ∀ {i : Nat} {g g' : GeneratedFile}, r.files[i]? = some g → r'.files[i]? = some g' →
    blockOf? g = none → (∀ f ∈ r.files, (blockOf? f).isSome → g.title ≠ f.title ++ ".meta") → g' = g

theorem bytes_withoutBlock {s : VersionBlock.Stripped} {f : GeneratedFile} (block : blockOf? f = some s) :
    s.start + s.length ≤ (Text.bytes f.text).length ∧
    Text.bytes (f.withoutBlock s).text =
      (Text.bytes f.text).take s.start ++ (Text.bytes f.text).drop (s.start + s.length) := by
  obtain ⟨-, -, rfl⟩ := blockOf?_eq_some_iff.1 block
  exact VersionBlock.strip_bytes f.text

theorem aligned_withoutBlock {s : VersionBlock.Stripped} {f : GeneratedFile} (block : blockOf? f = some s)
    (info : CodeInfo) :
    CodeInfo.Aligned (Text.bytes f.text) (Text.bytes (f.withoutBlock s).text) s.start s.length info
      (info.after s.start s.length) := by
  obtain ⟨inside, content⟩ := bytes_withoutBlock block
  rw [content]
  exact CodeInfo.aligned_after inside (Nat.pos_of_ne_zero (blockOf?_eq_some_iff.1 block).2.1) info

theorem sourceSettled_withoutBlock {s : VersionBlock.Stripped} {f : GeneratedFile}
    (block : blockOf? f = some s) : SourceSettled s f (f.withoutBlock s) where
  inside := (bytes_withoutBlock block).1
  content := (bytes_withoutBlock block).2
  info := by
    show Option.Rel _ f.info (f.info.map _)
    cases f.info with
    | none => exact .none
    | some info => exact .some (aligned_withoutBlock block info)
  rest := rfl

theorem annotationsSettled_realigned {s : VersionBlock.Stripped} {f g : GeneratedFile}
    (block : blockOf? f = some s) (readable : (CodeInfo.read? g.text).isSome) :
    AnnotationsSettled s f (f.withoutBlock s) g (g.realigned s) := by
  obtain ⟨info, read⟩ := Option.isSome_iff_exists.1 readable
  have legible := (CodeInfo.legible_of_read? read).after s.start s.length
  have moved : g.realigned s = { g with content := some (info.after s.start s.length).print } := by
    rw [GeneratedFile.realigned, read]
  rw [moved]
  exact ⟨⟨info, _, read, CodeInfo.read?_print legible, aligned_withoutBlock block info⟩, rfl⟩

theorem name_settled (files : List GeneratedFile) (f : GeneratedFile) : (settled files f).name = f.name := by
  have realigned : ∀ s, (f.realigned s).name = f.name := by
    intro s
    unfold GeneratedFile.realigned
    split <;> rfl
  unfold settled followed
  split
  · rfl
  · split
    · rfl
    · exact realigned _

theorem settled_map {r : Response} (distinct : Distinct r.files)
    (readable : ∀ f ∈ r.files, Readable r.files f) :
    Settled r { r with files := r.files.map (settled r.files) } where
  rest := rfl
  names := by simp [name_settled]
  sources := by
    intro i f f' s old new block
    rw [List.getElem?_map, old] at new
    cases new
    rw [settled_of_some block]
    exact sourceSettled_withoutBlock block
  annotations := by
    intro i j f f' g g' s oldSource newSource old new block names
    rw [List.getElem?_map, oldSource] at newSource
    rw [List.getElem?_map, old] at new
    cases newSource
    cases new
    have mem := List.mem_of_getElem? oldSource
    rw [settled_of_some block, settled_annotations distinct mem block names]
    exact annotationsSettled_realigned block
      (readable f mem (by rw [block]; rfl) g (List.mem_of_getElem? old) names)
  others := by
    intro i g g' old new none alone
    rw [List.getElem?_map, old] at new
    cases new
    exact settled_other none alone

/-- Either an annotation file cannot be read, or the answer comes out with its annotations in place. -/
theorem stabilize_settled {r : Response} (distinct : Distinct r.files) (fits : Fits r.files) :
    (∃ r', r.stabilize = .ok r' ∧ Settled r r') ∨ ∃ e, r.stabilize = .error e ∧ Refused r.files e := by
  rcases stabilize_cases distinct fits with ⟨done, readable⟩ | refused
  · exact .inl ⟨_, done, settled_map distinct readable⟩
  · exact .inr refused

theorem stabilize_settled_sample :
    ∃ r', (Sample.answer (Sample.seam.insert Sample.longBlock) 26).stabilize = .ok r' ∧
      Settled (Sample.answer (Sample.seam.insert Sample.longBlock) 26) r' := by
  have versioned := Sample.versioned (b := Sample.longBlock) (by decide)
  rcases stabilize_settled (Sample.distinct (Sample.seam.insert Sample.longBlock) 26)
    (Sample.fits _ (by decide)) with settled | ⟨e, -, refused⟩
  · exact settled
  · exact absurd refused (not_refused_of_versioned versioned.files e)

end Response
end Regen
