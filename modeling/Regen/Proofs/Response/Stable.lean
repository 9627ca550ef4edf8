import Mathlib.Data.List.Forall2
import Mathlib.Data.List.Induction
import Regen.Proofs.Span.Legible
import Regen.Proofs.Span.Shift
import Regen.Proofs.VersionBlock.Cut
import Regen.Response.Stable

/-!
# What a stable answer holds, file by file

`stabilize` goes over the files of an answer and changes them in place: a source file where it stands,
its annotation file wherever that is. When no two source or annotation files share a name, the steps
do not disturb each other and each file of the result depends on two files of the answer only. The one
thing that can go wrong is an annotation file that nothing can be read from (`stabilize_cases`).
-/

namespace Regen

/-- The file without the block `s`, its own annotations moved along. -/
def GeneratedFile.withoutBlock (s : VersionBlock.Stripped) (f : GeneratedFile) : GeneratedFile :=
  { f with content := some s.content, info := f.info.map (CodeInfo.after s.start s.length) }

/-- The annotation file of a file that lost the block `s`. -/
def GeneratedFile.realigned (s : VersionBlock.Stripped) (g : GeneratedFile) : GeneratedFile :=
  match CodeInfo.read? g.text with
  | none => g
  | some info => { g with content := some (info.after s.start s.length).print }

namespace Response

def isAnnotations (f : GeneratedFile) : Bool := f.title.endsWith ".meta"

/-- No two source or annotation files share a name. -/
def Distinct (files : List GeneratedFile) : Prop :=
  files.Pairwise fun f g => isSource f = true ∨ isAnnotations f = true → f.title ≠ g.title

/-- The annotations that stand with the files have offsets that are fields of an annotation. -/
def Fits (files : List GeneratedFile) : Prop := ∀ f ∈ files, ∀ info ∈ f.info, info.Fits

/-- The annotations of an answer that bytes encode. -/
theorem fits_of_decode? {bs : Bytes} {r : Response} (decoded : decode? bs = some r) : Fits r.files := by
  obtain ⟨m, read, rfl⟩ := Option.map_eq_some_iff.1 decoded
  intro f mem info stands
  obtain ⟨c, file, rfl⟩ := List.mem_map.1 mem
  have suits : c.Suits .responseFile := (Message.suits_of_decode? read).of_mem_nested rfl rfl c file
  obtain ⟨d, inner, rfl⟩ := Option.map_eq_some_iff.1 stands
  exact CodeInfo.fits_ofMessage (suits.of_mem_nested rfl rfl d (List.mem_of_mem_head? inner))

/-- The block that a file loses. -/
def blockOf? (f : GeneratedFile) : Option VersionBlock.Stripped :=
  let s := VersionBlock.strip f.text
  if !isSource f || s.length = 0 then none else some s

/-- The block that the source file of the annotation file `g` loses. -/
def blockFor? (files : List GeneratedFile) (g : GeneratedFile) : Option VersionBlock.Stripped :=
  files.findSome? fun f => if f.title ++ ".meta" = g.title then blockOf? f else none

/-- The file `g` when the source files among `done` have lost their blocks. -/
def followed (done : List GeneratedFile) (g : GeneratedFile) : GeneratedFile :=
  match blockFor? done g with
  | none => g
  | some s => g.realigned s

/-- What becomes of the file `f` among `files`. -/
def settled (files : List GeneratedFile) (f : GeneratedFile) : GeneratedFile :=
  match blockOf? f with
  | some s => f.withoutBlock s
  | none => followed files f

/-- The file at place `i` when the first `k` source files have been seen to. -/
def settledUpTo (files : List GeneratedFile) (k i : Nat) (f : GeneratedFile) : GeneratedFile :=
  match blockOf? f with
  | some s => if i < k then f.withoutBlock s else f
  | none => followed (files.take k) f

section Settled

variable {files done : List GeneratedFile} {f g : GeneratedFile} {s : VersionBlock.Stripped}

theorem followed_of_some (found : blockFor? done g = some s) : followed done g = g.realigned s := by
  rw [followed, found]

theorem followed_of_none (missing : blockFor? done g = none) : followed done g = g := by
  rw [followed, missing]

theorem settled_of_some (block : blockOf? f = some s) : settled files f = f.withoutBlock s := by
  rw [settled, block]

theorem settled_of_none (none : blockOf? f = none) : settled files f = followed files f := by
  rw [settled, none]

theorem settledUpTo_of_some (block : blockOf? f = some s) (k i : Nat) :
    settledUpTo files k i f = if i < k then f.withoutBlock s else f := by
  rw [settledUpTo, block]

theorem settledUpTo_of_none (none : blockOf? f = none) (k i : Nat) :
    settledUpTo files k i f = followed (files.take k) f := by
  rw [settledUpTo, none]

end Settled

/-- If the file `f` loses a block, its annotation file can be read. -/
def Readable (files : List GeneratedFile) (f : GeneratedFile) : Prop :=
  (blockOf? f).isSome → ∀ g ∈ files, g.title = f.title ++ ".meta" → (CodeInfo.read? g.text).isSome

/-! ### Names -/

theorem endsWith_iff {s ending : String} : s.endsWith ending = true ↔ ending.toList <:+ s.toList := by
  rw [String.endsWith_eq_endsWith_toSlice, String.Slice.endsWith_string_iff, String.copy_toSlice]

theorem isAnnotations_of_title {f g : GeneratedFile} (names : g.title = f.title ++ ".meta") :
    isAnnotations g = true := by
  rw [isAnnotations, names, endsWith_iff, String.toList_append]
  exact List.suffix_append _ _

/-- No source file is an annotation file. -/
theorem isSource_eq_false_of_isAnnotations {f : GeneratedFile} (annotations : isAnnotations f = true) :
    isSource f = false := by
  rw [isAnnotations, endsWith_iff] at annotations
  obtain ⟨r, whole⟩ := annotations
  rw [Bool.eq_false_iff, isSource, ne_eq, endsWith_iff]
  rintro ⟨r', whole'⟩
  have last : (".go".toList).getLast? = (".meta".toList).getLast? := by
    have e := congrArg List.getLast? (whole'.trans whole.symm)
    rwa [List.getLast?_append_of_ne_nil _ (by decide), List.getLast?_append_of_ne_nil _ (by decide)] at e
  exact absurd last (by decide)

theorem blockOf?_eq_some_iff {f : GeneratedFile} {s : VersionBlock.Stripped} :
    blockOf? f = some s ↔ isSource f = true ∧ s.length ≠ 0 ∧ s = VersionBlock.strip f.text := by
  unfold blockOf?
  by_cases source : isSource f = true
  · by_cases none : (VersionBlock.strip f.text).length = 0
    · simp only [source, none, Bool.not_true, decide_true, Bool.or_true, if_true, reduceCtorEq, false_iff]
      rintro ⟨-, some, rfl⟩
      exact some none
    · simp only [source, none, Bool.not_true, decide_false, Bool.or_false, Bool.false_eq_true, if_false,
        Option.some.injEq, true_and]
      constructor
      · rintro rfl
        exact ⟨none, rfl⟩
      · rintro ⟨-, rfl⟩
        rfl
  · simp [source]

theorem blockOf?_of_isAnnotations {f : GeneratedFile} (annotations : isAnnotations f = true) :
    blockOf? f = none := by
  rw [Option.eq_none_iff_forall_ne_some]
  intro s block
  have source := (blockOf?_eq_some_iff.1 block).1
  rw [isSource_eq_false_of_isAnnotations annotations] at source
  cases source

/-- In a list without double names a name tells the place. -/
theorem Distinct.place {files : List GeneratedFile} (distinct : Distinct files) {i j : Nat}
    {f g : GeneratedFile} (hi : files[i]? = some f) (hj : files[j]? = some g)
    (kind : isSource f = true ∨ isAnnotations f = true) (same : f.title = g.title) : i = j := by
  obtain ⟨li, rfl⟩ := List.getElem?_eq_some_iff.1 hi
  obtain ⟨lj, rfl⟩ := List.getElem?_eq_some_iff.1 hj
  rcases Nat.lt_trichotomy i j with less | rfl | more
  · exact absurd same (List.pairwise_iff_getElem.1 distinct i j li lj less kind)
  · rfl
  · refine absurd same.symm (List.pairwise_iff_getElem.1 distinct j i lj li more ?_)
    simpa only [isSource, isAnnotations, same] using kind

theorem title_inj {a b : String} (same : a ++ ".meta" = b ++ ".meta") : a = b := by
  have e := congrArg String.toList same
  rw [String.toList_append, String.toList_append] at e
  exact String.toList_inj.1 (List.append_cancel_right e)

/-- The last file with the name of an annotation file. -/
theorem annotationsOf?_snoc (files : List GeneratedFile) (f : GeneratedFile) (source : String) :
    annotationsOf? (files ++ [f]) source =
      if f.title = source ++ ".meta" then some files.length else annotationsOf? files source := by
  simp [annotationsOf?, List.zipIdx_append]

theorem title_of_annotationsOf? {files : List GeneratedFile} {source : String} {j : Nat}
    (found : annotationsOf? files source = some j) :
    ∃ g, files[j]? = some g ∧ g.title = source ++ ".meta" := by
  induction files using List.reverseRecOn with
  | nil => cases found
  | append_singleton files f ih =>
    rw [annotationsOf?_snoc] at found
    split at found
    · cases found
      exact ⟨f, by simp, by assumption⟩
    · obtain ⟨g, hg, names⟩ := ih found
      have bound := (List.getElem?_eq_some_iff.1 hg).1
      exact ⟨g, by rw [List.getElem?_append_left bound, hg], names⟩

theorem title_of_annotationsOf?_none {files : List GeneratedFile} {source : String}
    (missing : annotationsOf? files source = none) : ∀ g ∈ files, g.title ≠ source ++ ".meta" := by
  induction files using List.reverseRecOn with
  | nil => simp
  | append_singleton files f ih =>
    rw [annotationsOf?_snoc] at missing
    split at missing
    · cases missing
    · intro g hg
      rcases List.mem_append.1 hg with old | new
      · exact ih missing g old
      · rw [List.mem_singleton.1 new]
        assumption

/-! ### Following a source file -/

theorem title_realigned (s : VersionBlock.Stripped) (g : GeneratedFile) :
    (g.realigned s).title = g.title := by
  unfold GeneratedFile.realigned
  split <;> rfl

theorem title_followed (done : List GeneratedFile) (g : GeneratedFile) :
    (followed done g).title = g.title := by
  cases found : blockFor? done g with
  | none => rw [followed_of_none found]
  | some s => rw [followed_of_some found, title_realigned]

theorem title_settledUpTo (files : List GeneratedFile) (k i : Nat) (f : GeneratedFile) :
    (settledUpTo files k i f).title = f.title := by
  cases block : blockOf? f with
  | none => rw [settledUpTo_of_none block, title_followed]
  | some s =>
    rw [settledUpTo_of_some block]
    split <;> rfl

theorem blockFor?_eq_some {files : List GeneratedFile} {g : GeneratedFile} {s : VersionBlock.Stripped}
    (found : blockFor? files g = some s) :
    ∃ f ∈ files, f.title ++ ".meta" = g.title ∧ blockOf? f = some s := by
  obtain ⟨f, mem, found⟩ := List.exists_of_findSome?_eq_some found
  split at found
  · exact ⟨f, mem, by assumption, found⟩
  · cases found

theorem blockFor?_take_succ {files : List GeneratedFile} {k : Nat} {f : GeneratedFile}
    (hk : files[k]? = some f) (g : GeneratedFile) :
    blockFor? (files.take (k + 1)) g =
      (blockFor? (files.take k) g).or (if f.title ++ ".meta" = g.title then blockOf? f else none) := by
  rw [blockFor?, List.take_add_one, hk, List.findSome?_append]
  simp [blockFor?]

theorem followed_take_succ {files : List GeneratedFile} {k : Nat} {f g : GeneratedFile}
    (hk : files[k]? = some f) (apart : f.title ++ ".meta" = g.title → blockOf? f = none) :
    followed (files.take (k + 1)) g = followed (files.take k) g := by
  have none : (if f.title ++ ".meta" = g.title then blockOf? f else none) = none := by
    split
    · exact apart (by assumption)
    · rfl
  have same : blockFor? (files.take (k + 1)) g = blockFor? (files.take k) g := by
    rw [blockFor?_take_succ hk, none, Option.or_none]
  cases found : blockFor? (files.take k) g with
  | none => rw [followed_of_none found, followed_of_none (same.trans found)]
  | some s => rw [followed_of_some found, followed_of_some (same.trans found)]

/-- One more source file is seen to, neither the file itself nor one that it follows. -/
theorem settledUpTo_succ {files : List GeneratedFile} {k i : Nat} {f g : GeneratedFile}
    (hk : files[k]? = some f) (other : i ≠ k) (apart : f.title ++ ".meta" = g.title → blockOf? f = none) :
    settledUpTo files (k + 1) i g = settledUpTo files k i g := by
  cases block : blockOf? g with
  | none => rw [settledUpTo_of_none block, settledUpTo_of_none block, followed_take_succ hk apart]
  | some s => simp only [settledUpTo_of_some block, show i < k + 1 ↔ i < k by omega]

/-- A file that follows another is an annotation file, so it has no block of its own. -/
theorem blockOf?_followed {done : List GeneratedFile} {g : GeneratedFile} (none : blockOf? g = none) :
    blockOf? (followed done g) = .none := by
  cases found : blockFor? done g with
  | none => rw [followed_of_none found, none]
  | some s =>
    rw [followed_of_some found]
    obtain ⟨f, -, names, -⟩ := blockFor?_eq_some found
    have annotations := isAnnotations_of_title names.symm
    apply blockOf?_of_isAnnotations
    rwa [isAnnotations, title_realigned]

/-- No source file in front of `f` has the annotation file of `f`. -/
theorem Distinct.blockFor?_take {files : List GeneratedFile} (distinct : Distinct files) {k : Nat}
    {f g : GeneratedFile} (hk : files[k]? = some f) (names : g.title = f.title ++ ".meta") :
    blockFor? (files.take k) g = none := by
  rw [Option.eq_none_iff_forall_ne_some]
  intro s found
  obtain ⟨e, mem, same, block⟩ := blockFor?_eq_some found
  obtain ⟨i, hi⟩ := List.mem_iff_getElem?.1 mem
  have bound : i < k := by
    have := (List.getElem?_eq_some_iff.1 hi).1
    rw [List.length_take] at this
    omega
  rw [List.getElem?_take_of_lt bound] at hi
  have source := (blockOf?_eq_some_iff.1 block).1
  have := distinct.place hi hk (.inl source) (title_inj (same.trans names))
  omega

/-! ### The loop over the files -/

theorem stabilizeAt_of_none {files : List GeneratedFile} {k : Nat} {f : GeneratedFile}
    (hk : files[k]? = some f) (none : blockOf? f = none) : stabilizeAt files k = .ok files := by
  have kept : (!isSource f || decide ((VersionBlock.strip f.text).length = 0)) = true := by
    unfold blockOf? at none
    by_contra other
    simp [other] at none
  simp only [stabilizeAt, hk, kept, if_true]

theorem stabilizeAt_of_some {files : List GeneratedFile} {k : Nat} {f : GeneratedFile}
    {s : VersionBlock.Stripped} (hk : files[k]? = some f) (block : blockOf? f = some s)
    (fits : ∀ info ∈ f.info, info.Fits) :
    stabilizeAt files k =
      shiftAnnotations s.start s.length f.title (files.set k (f.withoutBlock s)) := by
  obtain ⟨source, cut, rfl⟩ := blockOf?_eq_some_iff.1 block
  have taken : (!isSource f || decide ((VersionBlock.strip f.text).length = 0)) = false := by
    simp [source, cut]
  have moved : f.info.mapM (CodeInfo.shift (VersionBlock.strip f.text).start
        (VersionBlock.strip f.text).length) =
      .ok (f.info.map (CodeInfo.after (VersionBlock.strip f.text).start
        (VersionBlock.strip f.text).length)) := by
    cases h : f.info with
    | none => rfl
    | some info =>
      rw [Option.mapM_some, CodeInfo.shift_eq_after (fits info h)]
      rfl
  simp only [stabilizeAt, hk, taken, moved]
  rfl

theorem shiftedFile_of_read {s : VersionBlock.Stripped} {g : GeneratedFile}
    (read : (CodeInfo.read? g.text).isSome) :
    shiftedFile s.start s.length g = .ok (g.realigned s) := by
  obtain ⟨info, read⟩ := Option.isSome_iff_exists.1 read
  have fits := (CodeInfo.legible_of_read? read).fits
  simp only [shiftedFile, GeneratedFile.realigned, read, CodeInfo.shift_eq_after fits]
  rfl

theorem shiftedFile_of_unreadable {s : VersionBlock.Stripped} {g : GeneratedFile}
    (unreadable : CodeInfo.read? g.text = none) :
    shiftedFile s.start s.length g = .error (.plugin (.unparsableAnnotations g.title)) := by
  simp only [shiftedFile, unreadable]
  rfl

/-- A source file has no annotation file, or one that is changed where it stands. -/
theorem shiftAnnotations_cases (start length : Nat) (source : String) (files : List GeneratedFile) :
    ((∀ g ∈ files, g.title ≠ source ++ ".meta") ∧
      shiftAnnotations start length source files = .ok files) ∨
    ∃ j g, files[j]? = some g ∧ g.title = source ++ ".meta" ∧
      shiftAnnotations start length source files = (shiftedFile start length g).map (files.set j) := by
  unfold shiftAnnotations
  cases found : annotationsOf? files source with
  | none => exact .inl ⟨title_of_annotationsOf?_none found, rfl⟩
  | some j =>
    obtain ⟨g, hj, names⟩ := title_of_annotationsOf? found
    exact .inr ⟨j, g, hj, names, by simp only [hj]⟩

/-- The files when the first `k` source files have been seen to. -/
def progress (files : List GeneratedFile) (k : Nat) : List GeneratedFile :=
  files.mapIdx (settledUpTo files k)

theorem getElem?_progress (files : List GeneratedFile) (k i : Nat) :
    (progress files k)[i]? = files[i]?.map (settledUpTo files k i) := by
  simp [progress, List.getElem?_mapIdx]

/-- What ends the work on an answer: there is nothing to be read from the annotation file of a file
that loses its block. -/
def Refused (files : List GeneratedFile) (e : Failure) : Prop :=
  ∃ f ∈ files, (blockOf? f).isSome ∧ ∃ g ∈ files, g.title = f.title ++ ".meta" ∧
    CodeInfo.read? g.text = none ∧ e = .plugin (.unparsableAnnotations g.title)

/-- A file that loses no block leaves all files as they are. -/
theorem progress_succ_of_none {files : List GeneratedFile} {k : Nat} {f : GeneratedFile}
    (hk : files[k]? = some f) (none : blockOf? f = none) :
    progress files (k + 1) = progress files k := by
  apply List.ext_getElem?
  intro i
  rw [getElem?_progress, getElem?_progress]
  cases hi : files[i]? with
  | none => rfl
  | some g =>
    rw [Option.map_some, Option.map_some]
    by_cases here : i = k
    · subst here
      obtain rfl : f = g := Option.some.inj (hk.symm.trans hi)
      rw [settledUpTo_of_none none, settledUpTo_of_none none, followed_take_succ hk fun _ => none]
    · rw [settledUpTo_succ hk here fun _ => none]

/-- A file that loses its block, and has no annotation file. -/
theorem progress_succ_of_some {files : List GeneratedFile} {k : Nat} {f : GeneratedFile}
    {s : VersionBlock.Stripped} (hk : files[k]? = some f) (block : blockOf? f = some s)
    (alone : ∀ g ∈ files, g.title ≠ f.title ++ ".meta") :
    progress files (k + 1) = (progress files k).set k (f.withoutBlock s) := by
  apply List.ext_getElem?
  intro i
  rw [List.getElem?_set, getElem?_progress, getElem?_progress]
  by_cases here : k = i
  · subst here
    have bound : k < (progress files k).length := by
      rw [progress, List.length_mapIdx]
      exact (List.getElem?_eq_some_iff.1 hk).1
    simp [hk, bound, settledUpTo_of_some block]
  · rw [if_neg here]
    cases hi : files[i]? with
    | none => rfl
    | some g =>
      have apart : f.title ++ ".meta" = g.title → blockOf? f = none := fun e =>
        absurd e.symm (alone g (List.mem_of_getElem? hi))
      rw [Option.map_some, Option.map_some, settledUpTo_succ hk (Ne.symm here) apart]

/-- A file that loses its block, and whose annotation file stands at place `j`. -/
theorem progress_succ_of_annotations {files : List GeneratedFile} (distinct : Distinct files) {k j : Nat}
    {f g : GeneratedFile} {s : VersionBlock.Stripped} (hk : files[k]? = some f)
    (block : blockOf? f = some s) (hj : files[j]? = some g) (names : g.title = f.title ++ ".meta") :
    progress files (k + 1) = ((progress files k).set k (f.withoutBlock s)).set j (g.realigned s) := by
  have annotations := isAnnotations_of_title names
  have other : k ≠ j := by
    rintro rfl
    rw [hk] at hj
    cases hj
    rw [blockOf?_of_isAnnotations annotations] at block
    cases block
  apply List.ext_getElem?
  intro i
  rw [List.getElem?_set, List.getElem?_set, getElem?_progress, getElem?_progress]
  have bound : ∀ {i : Nat} {e : GeneratedFile}, files[i]? = some e → i < (progress files k).length := by
    intro i e hi
    rw [progress, List.length_mapIdx]
    exact (List.getElem?_eq_some_iff.1 hi).1
  by_cases there : j = i
  · subst there
    have found : blockFor? (files.take (k + 1)) g = some s := by
      rw [blockFor?_take_succ hk, distinct.blockFor?_take hk names, if_pos names.symm, block]
      rfl
    simp [hj, bound hj, settledUpTo_of_none (blockOf?_of_isAnnotations annotations), followed_of_some found]
  · rw [if_neg there]
    by_cases here : k = i
    · subst here
      simp [hk, bound hk, settledUpTo_of_some block]
    · rw [if_neg here]
      cases hi : files[i]? with
      | none => rfl
      | some e =>
        have apart : f.title ++ ".meta" = e.title → blockOf? f = none := fun same =>
          absurd (distinct.place hj hi (.inr annotations) (names.trans same)) there
        rw [Option.map_some, Option.map_some, settledUpTo_succ hk (Ne.symm here) apart]

/-- The annotation file of a file is untouched until its turn comes. -/
theorem progress_set_annotations {files : List GeneratedFile} (distinct : Distinct files) {k j : Nat}
    {f g : GeneratedFile} {s : VersionBlock.Stripped} (hk : files[k]? = some f)
    (block : blockOf? f = some s) (hj : files[j]? = some g) (names : g.title = f.title ++ ".meta") :
    ((progress files k).set k (f.withoutBlock s))[j]? = some g := by
  have none := blockOf?_of_isAnnotations (isAnnotations_of_title names)
  have other : k ≠ j := by
    rintro rfl
    rw [hk] at hj
    cases hj
    rw [none] at block
    cases block
  rw [List.getElem?_set_ne other, getElem?_progress, hj]
  rw [Option.map_some, settledUpTo_of_none none, followed_of_none (distinct.blockFor?_take hk names)]

theorem title_progress_set {files : List GeneratedFile} {k j : Nat} {f g : GeneratedFile}
    {s : VersionBlock.Stripped} (hk : files[k]? = some f)
    (hj : ((progress files k).set k (f.withoutBlock s))[j]? = some g) :
    ∃ e, files[j]? = some e ∧ e.title = g.title := by
  rw [List.getElem?_set] at hj
  split at hj
  · rename_i here
    subst here
    split at hj
    · cases hj
      exact ⟨f, hk, rfl⟩
    · cases hj
  · rw [getElem?_progress] at hj
    obtain ⟨e, he, rfl⟩ := Option.map_eq_some_iff.1 hj
    exact ⟨e, he, (title_settledUpTo files k j e).symm⟩

/-- One step of the loop. -/
theorem stabilizeAt_progress {files : List GeneratedFile} (distinct : Distinct files) (fits : Fits files)
    {k : Nat} {f : GeneratedFile} (hk : files[k]? = some f) :
    (stabilizeAt (progress files k) k = .ok (progress files (k + 1)) ∧ Readable files f) ∨
      ∃ e, stabilizeAt (progress files k) k = .error e ∧ Refused files e := by
  have mem := List.mem_of_getElem? hk
  have stands : (progress files k)[k]? = some (settledUpTo files k k f) := by
    rw [getElem?_progress, hk]
    rfl
  cases block : blockOf? f with
  | none =>
    have keeps : blockOf? (settledUpTo files k k f) = none := by
      rw [settledUpTo_of_none block]
      exact blockOf?_followed block
    rw [progress_succ_of_none hk block]
    exact .inl ⟨stabilizeAt_of_none stands keeps, by simp [Readable, block]⟩
  | some s =>
    have same : settledUpTo files k k f = f := by rw [settledUpTo_of_some block, if_neg (Nat.lt_irrefl k)]
    rw [same] at stands
    rw [stabilizeAt_of_some stands block (fits f mem)]
    rcases shiftAnnotations_cases s.start s.length f.title ((progress files k).set k (f.withoutBlock s))
      with ⟨alone, result⟩ | ⟨j, g, hj, names, result⟩
    · have none : ∀ g ∈ files, g.title ≠ f.title ++ ".meta" := by
        intro g hg names
        obtain ⟨j, hj⟩ := List.mem_iff_getElem?.1 hg
        exact alone g (List.mem_of_getElem? (progress_set_annotations distinct hk block hj names)) names
      rw [result, progress_succ_of_some hk block none]
      exact .inl ⟨rfl, fun _ g hg names => absurd names (none g hg)⟩
    · obtain ⟨e, he, title⟩ := title_progress_set hk hj
      have untouched := progress_set_annotations distinct hk block he (title.trans names)
      obtain rfl : e = g := by
        rw [untouched] at hj
        exact Option.some.inj hj
      cases read : CodeInfo.read? e.text with
      | none =>
        refine .inr ⟨_, ?_, f, mem, by simp [block], e, List.mem_of_getElem? he, names, read, rfl⟩
        rw [result, shiftedFile_of_unreadable read]
        rfl
      | some info =>
        rw [result, shiftedFile_of_read (by simp [read]),
          progress_succ_of_annotations distinct hk block he names]
        refine .inl ⟨rfl, ?_⟩
        intro _ g hg names'
        obtain ⟨i, hi⟩ := List.mem_iff_getElem?.1 hg
        obtain rfl := distinct.place he hi (.inr (isAnnotations_of_title names)) (names.trans names'.symm)
        rw [he] at hi
        cases hi
        simp [read]

/-- The loop as far as the first `k` places. -/
theorem foldlM_stabilizeAt {files : List GeneratedFile} (distinct : Distinct files) (fits : Fits files)
    {k : Nat} (bound : k ≤ files.length) :
    ((List.range k).foldlM stabilizeAt files = .ok (progress files k) ∧
        ∀ f ∈ files.take k, Readable files f) ∨
      ∃ e, (List.range k).foldlM stabilizeAt files = .error e ∧ Refused files e := by
  induction k with
  | zero =>
    have start : progress files 0 = files := by
      apply List.ext_getElem?
      intro i
      rw [getElem?_progress]
      cases files[i]? with
      | none => rfl
      | some f =>
        rw [Option.map_some]
        cases block : blockOf? f with
        | none => rw [settledUpTo_of_none block, List.take_zero, followed_of_none rfl]
        | some s => rw [settledUpTo_of_some block, if_neg (Nat.not_lt_zero i)]
    rw [start]
    exact .inl ⟨rfl, by simp⟩
  | succ k ih =>
    rw [List.range_succ, List.foldlM_append]
    rcases ih (by omega) with ⟨done, readable⟩ | ⟨e, stop, refused⟩
    · have hk : files[k]? = some files[k] := List.getElem?_eq_getElem (by omega)
      have last : ([k].foldlM stabilizeAt (progress files k)) = stabilizeAt (progress files k) k :=
        bind_pure _
      rw [done]
      change (([k].foldlM stabilizeAt (progress files k)) = _ ∧ _) ∨
        ∃ e, ([k].foldlM stabilizeAt (progress files k)) = _ ∧ _
      rw [last]
      rcases stabilizeAt_progress distinct fits hk with ⟨step, here⟩ | failed
      · refine .inl ⟨step, ?_⟩
        intro f hf
        rw [List.take_add_one, hk] at hf
        rcases List.mem_append.1 hf with old | new
        · exact readable f old
        · rw [List.mem_singleton.1 new]
          exact here
      · exact .inr failed
    · exact .inr ⟨e, by rw [stop]; rfl, refused⟩

theorem progress_length (files : List GeneratedFile) :
    progress files files.length = files.map (settled files) := by
  apply List.ext_getElem?
  intro i
  rw [getElem?_progress, List.getElem?_map]
  cases hi : files[i]? with
  | none => rfl
  | some f =>
    have bound := (List.getElem?_eq_some_iff.1 hi).1
    rw [Option.map_some, Option.map_some]
    cases block : blockOf? f with
    | none => rw [settledUpTo_of_none block, settled_of_none block, List.take_length]
    | some s => rw [settledUpTo_of_some block, settled_of_some block, if_pos bound]

/-- Either every file is settled, or an annotation file stands in the way. -/
theorem stabilize_cases {r : Response} (distinct : Distinct r.files) (fits : Fits r.files) :
    (r.stabilize = .ok { r with files := r.files.map (settled r.files) } ∧
        ∀ f ∈ r.files, Readable r.files f) ∨
      ∃ e, r.stabilize = .error e ∧ Refused r.files e := by
  unfold stabilize
  rcases foldlM_stabilizeAt distinct fits (Nat.le_refl r.files.length) with
    ⟨done, readable⟩ | ⟨e, stop, refused⟩
  · rw [done, progress_length]
    rw [List.take_length] at readable
    exact .inl ⟨rfl, readable⟩
  · exact .inr ⟨e, by rw [stop]; rfl, refused⟩

/-! ### What a settled file is -/

/-- The annotation file of a source file that loses a block. -/
theorem settled_annotations {files : List GeneratedFile} (distinct : Distinct files)
    {f g : GeneratedFile} {s : VersionBlock.Stripped} (mem : f ∈ files) (block : blockOf? f = some s)
    (names : g.title = f.title ++ ".meta") : settled files g = g.realigned s := by
  have found : blockFor? files g = some s := by
    cases h : blockFor? files g with
    | none =>
      have here := List.findSome?_eq_none_iff.1 h f mem
      rw [if_pos names.symm, block] at here
      cases here
    | some s' =>
      obtain ⟨e, he, same, block'⟩ := blockFor?_eq_some h
      obtain ⟨i, hi⟩ := List.mem_iff_getElem?.1 he
      obtain ⟨j, hj⟩ := List.mem_iff_getElem?.1 mem
      obtain rfl := distinct.place hi hj (.inl (blockOf?_eq_some_iff.1 block').1)
        (title_inj (same.trans names))
      rw [hi] at hj
      cases hj
      rw [← block', block]
  rw [settled_of_none (blockOf?_of_isAnnotations (isAnnotations_of_title names)), followed_of_some found]

/-- All other files stay. -/
theorem settled_other {files : List GeneratedFile} {g : GeneratedFile} (none : blockOf? g = none)
    (alone : ∀ f ∈ files, (blockOf? f).isSome → g.title ≠ f.title ++ ".meta") :
    settled files g = g := by
  have missing : blockFor? files g = .none := by
    cases h : blockFor? files g with
    | none => rfl
    | some s =>
      obtain ⟨f, hf, same, block⟩ := blockFor?_eq_some h
      exact absurd same.symm (alone f hf (by simp [block]))
  rw [settled_of_none none, followed_of_none missing]

end Response
end Regen
