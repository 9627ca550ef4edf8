import Regen.Proofs.Sync.Overlay

/-!
# What a dry pass foretells

A dry pass lists as differing the staged files whose targets a pass that applies would change, when a target
that is missing counts as an empty one (`reconcile_predicts`). So it overlooks an empty file that would be
made, and where links make two targets one place it may be wrong about the later one
(`reconcile_mispredicts`).
-/

namespace Regen

namespace Files

variable {t u : Files} {base p D S : Place}

/-- From one tree to the other the bytes of a file change, or the file is made and is not empty. -/
def Changes (t u : Files) (p : Place) : Prop :=
  t.content? p ≠ u.content? p ∧ ¬ (t.content? p = none ∧ u.content? p = some [])

instance (t u : Files) (p : Place) : Decidable (Changes t u p) := inferInstanceAs (Decidable (_ ∧ _))

/-- Where a file is in the end, only its bytes matter, and a missing one has none. -/
theorem changes_iff {new : Bytes} (file : u.content? p = some new) :
    Changes t u p ↔ (t.content? p).getD [] ≠ new := by
  unfold Changes
  rw [file]
  cases t.content? p with
  | none => simp [eq_comm]
  | some old => simp

end Files

namespace Sync

open Files

section Whole

variable {t : Files} {host : Host} {w : World} {destination staging : Path} {D S : Place}
  {n : List String} {old new : Bytes}

/-- What is read at a target is the content of the file there, and nothing when there is no file. -/
theorem Reads.content_target (site : Site t host.cwd destination staging D S)
    (reads : Reads t host.cwd destination staging n old new) (more : n ≠ []) (names : ∀ m ∈ n, IsName m) :
    old = (t.content? (D ++ n)).getD [] := by
  obtain ⟨lead, tail, L, parts, found, tailNames, rfl⟩ := site.leads
  obtain ⟨foundLead, directory⟩ := find?_eq_some_iff.1 found
  have anchor : Anchor t host.cwd destination.root lead L := ⟨foundLead, directory⟩
  have target : targetOf destination n = ⟨destination.root, lead ++ (tail ++ n)⟩ := by
    rw [targetOf, parts, List.append_assoc]
  have inner : ∀ m ∈ tail ++ n, IsInner m := fun m mem =>
    (List.mem_append.1 mem).elim (fun mem => (tailNames m mem).inner) fun mem => (names m mem).inner
  have below : tail ++ n ≠ [] := by simp [more]
  have read := reads.old
  rw [target] at read
  rw [List.append_assoc]
  rcases readOrEmpty_eq_ok read with ⟨p, located, rfl⟩ | ⟨rfl, missing⟩
  · obtain ⟨rfl, -⟩ := anchor.locate (site.sound.clear L) inner below located
    rfl
  · cases file : t.content? (L ++ (tail ++ n)) with
    | none => rfl
    | some bytes =>
      -- Where something stands, only too long a name keeps a path from leading there.
      obtain ⟨x, there⟩ := content?_eq_some_iff.1 file
      have leads : t.locate host.cwd true ⟨destination.root, lead ++ (tail ++ n)⟩ = _ :=
        anchor.locate_there site.sound.isClosed inner below there Entry.file_ne_link
      rw [missing] at leads
      split at leads <;> cases leads

theorem Reads.content_source (site : Site t host.cwd destination staging D S)
    (reads : Reads t host.cwd destination staging n old new) (more : n ≠ []) (names : ∀ m ∈ n, IsName m) :
    t.content? (S ++ n) = some new := by
  obtain ⟨found, directory⟩ := find?_eq_some_iff.1 site.staged
  have anchor : Anchor t host.cwd staging.root staging.parts S := ⟨found, directory⟩
  obtain ⟨p, located, file⟩ := read_eq_ok reads.new
  obtain ⟨rfl, -⟩ := anchor.locate (site.sound.clear S) (fun m mem => (names m mem).inner) more located
  exact file

/-- A pass that applies changes no bytes but those of targets. -/
theorem Overlay.not_changes {u : Files} {names : List (List String)} (overlay : Overlay t u D S names names)
    {p : Place} (other : ∀ n ∈ names, p ≠ D ++ n) : ¬ Changes t u p := by
  rintro ⟨changed, -⟩
  apply changed
  cases before : t.get? p with
  | some e => exact content?_of_get? (before.trans (overlay.kept p other e before).symm)
  | none =>
    cases after : u.get? p with
    | none => exact content?_of_get? (before.trans after.symm)
    | some e =>
      rcases overlay.made p before e after with ⟨n, mem, target⟩ | ⟨rfl, -⟩
      · exact absurd target (other n mem)
      · rw [content?, content?, before, after]

/-- A target changes when a dry pass tells its file apart. -/
theorem Overlay.changes_target_iff {u : Files} {names : List (List String)} {endings : Option (List String)}
    (overlay : Overlay t u D S names names) (site : Site t host.cwd destination staging D S)
    (below : FileBelow t S endings n) (mem : n ∈ names)
    (reads : Reads t host.cwd destination staging n old new) : Changes t u (D ++ n) ↔ old ≠ new := by
  obtain ⟨content, x, staged⟩ := below.file
  have isName : ∀ m ∈ n, IsName m := fun m inside => site.sound.isName staged m (by simp [inside])
  have target := reads.content_target site below.inner isName
  have source := reads.content_source site below.inner isName
  rw [content?_of_file staged] at source
  cases source
  obtain ⟨y, copied⟩ := overlay.copied n mem _ x staged
  rw [changes_iff (content?_of_file copied), target]

end Whole

/-- A dry pass foretells what a pass that applies changes. Where both come back, the staged files that the
dry one lists as differing are those whose targets the other one changes or makes with at least one byte; and
nothing differs just when the other one changes no bytes and makes no files but empty ones. -/
theorem reconcile_predicts {host : Host} {w : World} {destination staging : Path} {D S : Place}
    (site : Site w.files host.cwd destination staging D S) (endings : List String)
    (apart : ∀ n ∈ w.files.walkNames host.cwd staging (some endings), ¬ S <+: D ++ n)
    {dry applied : Report} {w₁ w₂ : World}
    (compares : (reconcile destination staging .diff endings).runOn host w = (.ok dry, w₁))
    (applies : (reconcile destination staging .apply endings).runOn host w = (.ok applied, w₂)) :
    dry.differing = ((w.files.walkNames host.cwd staging (some endings)).filter fun n =>
      Changes w.files w₂.files (D ++ n)).map nameText ∧
    dry.unchanged = ((w.files.walkNames host.cwd staging (some endings)).filter fun n =>
      ¬ Changes w.files w₂.files (D ++ n)).map nameText ∧
    (dry.isClean = true ↔ ∀ p, ¬ Changes w.files w₂.files p) := by
  have plain := hasNul_of_find? site.sound site.staged
  have listed : ∀ n ∈ w.files.walkNames host.cwd staging (some endings), FileBelow w.files S (some endings) n :=
    fun n => (mem_walkNames_iff site.sound site.staged).1
  rw [runOn_reconcile plain] at compares applies
  have distinct : (w.files.walkNames host.cwd staging (some endings)).Nodup :=
    nodup_walkNames site.sound site.staged
  generalize w.files.walkNames host.cwd staging (some endings) = names at *
  have overlay : Overlay w.files w₂.files D S names names := by
    rcases runOn_foldlM_apply (r := .empty .apply) site names rfl (Progress.start site) distinct listed apart
      with ⟨v, run, progress⟩ | ⟨e, v, -, -, -, -, run, -⟩
    · rw [run] at applies
      cases applies
      exact progress.overlay
    · rw [run] at applies
      cases applies
  have read := reads_of_foldlM_diff rfl compares
  choose! old new read using read
  -- What the dry pass compares is what changes.
  have changes : ∀ n ∈ names, (Changes w.files w₂.files (D ++ n) ↔ old n ≠ new n) :=
    fun n mem => overlay.changes_target_iff site (listed n mem) mem (read n mem)
  rw [runOn_foldlM_diff rfl read] at compares
  cases compares
  have same : ∀ n ∈ names, (decide (old n ≠ new n) = decide (Changes w.files w₂.files (D ++ n))) :=
    fun n mem => decide_eq_decide.2 (changes n mem).symm
  refine ⟨?_, ?_, ?_⟩
  · simp only [Report.empty, List.nil_append]
    rw [List.filter_congr same]
  · simp only [Report.empty, List.nil_append]
    congr 1
    exact List.filter_congr fun n mem => decide_eq_decide.2 (by rw [changes n mem, not_not])
  · simp only [Report.isClean, Report.empty, List.nil_append, List.isEmpty_iff, List.map_eq_nil_iff,
      List.filter_eq_nil_iff, decide_eq_true_eq]
    constructor
    · intro none p
      by_cases target : ∃ n ∈ names, p = D ++ n
      · obtain ⟨n, mem, rfl⟩ := target
        exact fun changed => none n mem ((changes n mem).1 changed)
      · exact overlay.not_changes fun n mem here => target ⟨n, mem, here⟩
    · exact fun none n mem differs => none _ ((changes n mem).2 differs)

/-- The results of passes that reconcile the staged `.go` files of a sample. -/
def Sample.result (mode : Mode) (w : World) : Except Failure Report × World :=
  (reconcile Sample.destination Sample.staging mode [".go"]).runOn Sample.host w

theorem reconcile_predicts_sample :
    let u := (Sample.result .apply ⟨Sample.tree, []⟩).2.files
    (Sample.result .diff ⟨Sample.tree, []⟩).1 = .ok ⟨.diff, [], ["a/a.go", "b.go"], ["c.go"]⟩ ∧
      ["a/a.go", "b.go"] = ((Sample.tree.walkNames [] Sample.staging (some [".go"])).filter fun n =>
        Changes Sample.tree u (["repo"] ++ n)).map nameText ∧
      ["c.go"] = ((Sample.tree.walkNames [] Sample.staging (some [".go"])).filter fun n =>
        ¬ Changes Sample.tree u (["repo"] ++ n)).map nameText ∧
      (Report.isClean ⟨.diff, [], ["a/a.go", "b.go"], ["c.go"]⟩ = true ↔ ∀ p, ¬ Changes Sample.tree u p) := by
  have dry : (Sample.result .diff ⟨Sample.tree, []⟩).1 = .ok ⟨.diff, [], ["a/a.go", "b.go"], ["c.go"]⟩ := by decide +kernel
  have applied : (Sample.result .apply ⟨Sample.tree, []⟩).1 = .ok ⟨.apply, ["a/a.go", "b.go", "c.go"], [], []⟩ := by
    decide +kernel
  exact ⟨dry, reconcile_predicts Sample.site [".go"] (fun n _ => by simp) (Prod.ext dry rfl)
    (Prod.ext applied rfl)⟩

namespace Sample

/-- A repository with an empty staged file. -/
def withEmpty : World :=
  ⟨⟨[(["repo"], .directory), (["stage"], .directory), (["stage", "empty.go"], .file [] false)]⟩, []⟩

/-- A repository in which two staged files belong at one place. -/
def withLink : World :=
  ⟨⟨[(["repo"], .directory), (["repo", "a.go"], .file [] false), (["repo", "z.go"], .link "a.go"),
      (["stage"], .directory), (["stage", "a.go"], .file [2] false), (["stage", "z.go"], .file [] false)]⟩, []⟩

end Sample

/-- An empty file that is missing is told to be unchanged and then made. A file that a link names again is
told to differ and holds in the end what it held. -/
theorem reconcile_mispredicts :
    ((Sample.result .diff Sample.withEmpty).1 = .ok ⟨.diff, [], [], ["empty.go"]⟩ ∧
      (Sample.result .apply Sample.withEmpty).1 = .ok ⟨.apply, ["empty.go"], [], []⟩ ∧
      Sample.withEmpty.files.get? ["repo", "empty.go"] = none ∧
      (Sample.result .apply Sample.withEmpty).2.files.get? ["repo", "empty.go"] = some (.file [] false)) ∧
    (Sample.result .diff Sample.withLink).1 = .ok ⟨.diff, [], ["a.go"], ["z.go"]⟩ ∧
      (Sample.result .apply Sample.withLink).1 = .ok ⟨.apply, ["a.go", "z.go"], [], []⟩ ∧
      (Sample.result .apply Sample.withLink).2.files.entries = Sample.withLink.files.entries := by
  decide +kernel

end Sync
end Regen
