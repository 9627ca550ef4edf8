import Regen.Proofs.Response.Stable

/-!
# Answers that hold octets

Version blocks are taken out of texts. Octets keep an answer from coming out when they stand where a text is worked on:
in the name of a file, in a source file, or in an annotation file (`Obstructs`). No step changes which octets a file
holds (`head_stabilizeAt`). So an answer without such octets comes out as its texts do (`stabilizeHanded_eq`), and one
that does not come out has an annotation file that cannot be read, or such octets (`stabilizeHanded_failing`).
-/

namespace Regen

/-- What of a file stays when version blocks are taken out. -/
def GeneratedFile.head (f : GeneratedFile) : Option String × List (Nat × Bytes) := (f.name, f.octets)

namespace Response

/-- Octets in the files of an answer that are in the way of its version blocks, with what they cause. -/
inductive Obstructs (files : List GeneratedFile) : Failure → Prop
  | title {f : GeneratedFile} (mem : f ∈ files) (octets : f.titleOctets?.isSome) : Obstructs files (.value .octets)
  | source {f : GeneratedFile} (mem : f ∈ files) (source : isSource f = true) (octets : f.textOctets?.isSome) :
      Obstructs files (.value .octets)
  | annotations {f : GeneratedFile} (mem : f ∈ files) (annotations : isAnnotations f = true)
      (octets : f.textOctets?.isSome) : Obstructs files .notText

variable {objects : Bytes → Bool} {files files' : List GeneratedFile} {f g : GeneratedFile} {i : Nat} {e : Failure}

/-! ### Octets stay -/

theorem title_of_head (same : f.head = g.head) : f.title = g.title := by
  have names : f.name = g.name := congrArg Prod.fst same
  rw [GeneratedFile.title, names, GeneratedFile.title]

theorem octets_of_head (same : f.head = g.head) : f.octets = g.octets := congrArg Prod.snd same

theorem Obstructs.of_heads (obstructs : Obstructs files' e)
    (same : files'.map GeneratedFile.head = files.map GeneratedFile.head) : Obstructs files e := by
  have old {f : GeneratedFile} (mem : f ∈ files') : ∃ g ∈ files, g.head = f.head :=
    List.mem_map.1 (same ▸ List.mem_map_of_mem mem)
  cases obstructs with
  | title mem octets =>
    obtain ⟨g, mem, head⟩ := old mem
    rw [GeneratedFile.titleOctets?, ← octets_of_head head] at octets
    exact .title mem octets
  | source mem source octets =>
    obtain ⟨g, mem, head⟩ := old mem
    rw [isSource, ← title_of_head head] at source
    rw [GeneratedFile.textOctets?, ← octets_of_head head] at octets
    exact .source mem source octets
  | annotations mem annotations octets =>
    obtain ⟨g, mem, head⟩ := old mem
    rw [isAnnotations, ← title_of_head head] at annotations
    rw [GeneratedFile.textOctets?, ← octets_of_head head] at octets
    exact .annotations mem annotations octets

theorem map_head_set (here : files[i]? = some f) (same : g.head = f.head) :
    (files.set i g).map GeneratedFile.head = files.map GeneratedFile.head := by
  apply List.ext_getElem?
  intro k
  rw [List.map_set, List.getElem?_set]
  split
  · next place =>
    subst place
    have bound := (List.getElem?_eq_some_iff.1 here).1
    rw [if_pos (by rwa [List.length_map]), List.getElem?_map, here, same, Option.map_some]
  · rfl

theorem head_shiftAnnotations {start length : Nat} {source : String}
    (done : shiftAnnotations start length source files = .ok files') :
    files'.map GeneratedFile.head = files.map GeneratedFile.head := by
  obtain ⟨-, same⟩ | ⟨j, g, here, -, moved⟩ := shiftAnnotations_cases start length source files
  · rw [done] at same
    cases same
    rfl
  · rw [done, shiftedFile] at moved
    cases read : CodeInfo.read? g.text with
    | none =>
      rw [read] at moved
      cases moved
    | some info =>
      simp only [read] at moved
      cases shifted : info.shift start length with
      | error e =>
        rw [shifted] at moved
        cases moved
      | ok info' =>
        rw [shifted] at moved
        cases moved
        exact map_head_set here rfl

/-- A step leaves the names of the files and the octets in them. -/
theorem head_stabilizeAt (fits : Fits files) (done : stabilizeAt files i = .ok files') :
    files'.map GeneratedFile.head = files.map GeneratedFile.head := by
  cases here : files[i]? with
  | none =>
    rw [stabilizeAt, here] at done
    cases done
    rfl
  | some f =>
    cases block : blockOf? f with
    | none =>
      rw [stabilizeAt_of_none here block] at done
      cases done
      rfl
    | some s =>
      rw [stabilizeAt_of_some here block (fits f (List.mem_of_getElem? here))] at done
      exact (head_shiftAnnotations done).trans (map_head_set here rfl)

/-! ### Offsets stay in range -/

theorem Fits.set (fits : Fits files) (here : ∀ info ∈ g.info, info.Fits) (i : Nat) : Fits (files.set i g) := by
  intro f mem
  rcases List.mem_or_eq_of_mem_set mem with old | rfl
  · exact fits f old
  · exact here

theorem fits_withoutBlock (fits : ∀ info ∈ f.info, info.Fits) (s : VersionBlock.Stripped) :
    ∀ info ∈ (f.withoutBlock s).info, info.Fits := by
  intro info stands
  obtain ⟨old, there, rfl⟩ := Option.map_eq_some_iff.1 stands
  intro a mem
  obtain ⟨b, inside, rfl⟩ := List.mem_map.1 mem
  have span := fits old there b inside
  exact ⟨Span.holds_offsetAfter _ _ span.begins, Span.holds_offsetAfter _ _ span.ends⟩

theorem info_realigned (s : VersionBlock.Stripped) (g : GeneratedFile) : (g.realigned s).info = g.info := by
  unfold GeneratedFile.realigned
  split <;> rfl

/-- Offsets stay in range from one file to the next, so that only an annotation file can be in the way. -/
theorem stabilizeAt_failing (fits : Fits files) (i : Nat) :
    (∃ files', stabilizeAt files i = .ok files' ∧ Fits files') ∨
      ∃ f, stabilizeAt files i = .error (.plugin f) := by
  cases here : files[i]? with
  | none => exact .inl ⟨files, by rw [stabilizeAt, here], fits⟩
  | some f =>
    have own := fits f (List.mem_of_getElem? here)
    cases block : blockOf? f with
    | none => exact .inl ⟨files, stabilizeAt_of_none here block, fits⟩
    | some s =>
      have cut := fits.set (fits_withoutBlock own s) i
      rw [stabilizeAt_of_some here block own]
      obtain ⟨-, kept⟩ | ⟨j, g, there, -, moved⟩ := shiftAnnotations_cases s.start s.length f.title
        (files.set i (f.withoutBlock s))
      · exact .inl ⟨_, kept, cut⟩
      · rw [moved]
        cases read : CodeInfo.read? g.text with
        | none => exact .inr ⟨_, by rw [shiftedFile_of_unreadable read]; rfl⟩
        | some info =>
          have beside := cut g (List.mem_of_getElem? there)
          rw [← info_realigned s] at beside
          exact .inl ⟨_, by rw [shiftedFile_of_read (by simp [read])]; rfl, cut.set beside j⟩

/-! ### What octets do -/

/-- Where texts are asked for they are there, or octets are in the way. -/
theorem demandTexts_cases (objects : Bytes → Bool) (files : List GeneratedFile) (i : Nat) :
    demandTexts objects files i = .ok () ∨ ∃ e e', demandTexts objects files i = .error e ∧ Obstructs files e' ∧
      (e = e' ∨ ∃ f, e = .plugin f) := by
  unfold demandTexts
  cases here : files[i]? with
  | none => exact .inl rfl
  | some f =>
    simp only
    split
    · exact .inl rfl
    next source =>
    split
    · next octets =>
      exact .inr ⟨_, _, rfl, .source (List.mem_of_getElem? here) (by simpa using source) octets, .inl rfl⟩
    split
    · exact .inl rfl
    cases found : annotationsOf? files f.title with
    | none => exact .inl rfl
    | some j =>
      obtain ⟨g, there, names⟩ := title_of_annotationsOf? found
      simp only [Option.bind_some, there]
      cases held : g.textOctets? with
      | none => exact .inl rfl
      | some bs =>
        refine .inr ⟨_, .notText, rfl, .annotations (List.mem_of_getElem? there) (isAnnotations_of_title names)
          (by rw [held]; rfl), ?_⟩
        cases objects bs with
        | true => exact .inr ⟨_, rfl⟩
        | false => exact .inl rfl

theorem demandTexts_of_clear (clear : ∀ e, ¬ Obstructs files e) (objects : Bytes → Bool) (i : Nat) :
    demandTexts objects files i = .ok () := by
  obtain fine | ⟨_, e', -, obstructs, -⟩ := demandTexts_cases objects files i
  · exact fine
  · exact absurd obstructs (clear e')

theorem any_titleOctets?_of_clear (clear : ∀ e, ¬ Obstructs files e) : files.any (·.titleOctets?.isSome) = false := by
  rw [List.any_eq_false]
  exact fun f mem octets => clear _ (.title mem octets)

/-- Where no octets are in the way, asking for texts adds nothing to the loop over the files. -/
theorem foldlM_handed_of_clear (l : List Nat) (fits : Fits files) (clear : ∀ e, ¬ Obstructs files e) :
    l.foldlM (fun files i => do demandTexts objects files i; stabilizeAt files i) files = l.foldlM stabilizeAt files := by
  induction l generalizing files with
  | nil => rfl
  | cons i l ih =>
    have step : (do demandTexts objects files i; stabilizeAt files i) = stabilizeAt files i := by
      rw [demandTexts_of_clear clear]
      rfl
    rw [List.foldlM_cons, List.foldlM_cons, step]
    obtain ⟨files', done, fits'⟩ | ⟨f, stop⟩ := stabilizeAt_failing fits i
    · rw [done]
      exact ih fits' fun e obstructs => clear e (obstructs.of_heads (head_stabilizeAt fits done))
    · rw [stop]
      rfl

/-- Where no octets are in the way, an answer comes out as its texts do. -/
theorem stabilizeHanded_eq {r : Response} (fits : Fits r.files) (clear : ∀ e, ¬ Obstructs r.files e) :
    r.stabilizeHanded objects = r.stabilize := by
  rw [stabilizeHanded, any_titleOctets?_of_clear clear, if_neg Bool.false_ne_true, foldlM_handed_of_clear _ fits clear,
    stabilize]

/-- A step that asks for texts comes out and keeps the heads of the files, or what stops it is a fault of a generator
or octets. -/
theorem handedAt_cases (fits : Fits files) (i : Nat) :
    (∃ files', (do demandTexts objects files i; stabilizeAt files i) = .ok files' ∧ Fits files' ∧
        files'.map GeneratedFile.head = files.map GeneratedFile.head) ∨
      ∃ e, (do demandTexts objects files i; stabilizeAt files i) = .error e ∧
        ((∃ f, e = .plugin f) ∨ Obstructs files e) := by
  obtain fine | ⟨e, e', met, obstructs, cause⟩ := demandTexts_cases objects files i
  · rw [fine]
    obtain ⟨files', done, fits'⟩ | ⟨f, stop⟩ := stabilizeAt_failing fits i
    · exact .inl ⟨files', done, fits', head_stabilizeAt fits done⟩
    · exact .inr ⟨_, stop, .inl ⟨f, rfl⟩⟩
  · rw [met]
    refine .inr ⟨e, rfl, ?_⟩
    rcases cause with rfl | plugin
    · exact .inr obstructs
    · exact .inl plugin

theorem foldlM_handed_failing (l : List Nat) (fits : Fits files)
    (failed : l.foldlM (fun files i => do demandTexts objects files i; stabilizeAt files i) files = .error e) :
    (∃ f, e = .plugin f) ∨ Obstructs files e := by
  induction l generalizing files with
  | nil => cases failed
  | cons i l ih =>
    rw [List.foldlM_cons] at failed
    obtain ⟨files', done, fits', heads⟩ | ⟨e', stop, cause⟩ := handedAt_cases fits i
    · rw [done] at failed
      exact (ih fits' failed).imp_right fun obstructs => obstructs.of_heads heads
    · rw [stop] at failed
      cases failed
      exact cause

/-- Nothing but an annotation file that cannot be read, or octets, keep an answer from losing its version blocks. -/
theorem stabilizeHanded_failing {r : Response} (fits : Fits r.files) (failed : r.stabilizeHanded objects = .error e) :
    (∃ f, e = .plugin f) ∨ Obstructs r.files e := by
  unfold stabilizeHanded at failed
  split at failed
  · next held =>
    obtain ⟨f, mem, octets⟩ := List.any_eq_true.1 held
    rw [← Except.error.inj failed]
    exact .inr (.title mem octets)
  · cases loop : (List.range r.files.length).foldlM
        (fun files i => do demandTexts objects files i; stabilizeAt files i) r.files with
    | ok files' =>
      rw [loop] at failed
      cases failed
    | error e' =>
      rw [loop] at failed
      exact Except.error.inj failed ▸ foldlM_handed_failing _ fits loop

end Response
end Regen
