import Mathlib.Tactic.Choose
import Regen.Proofs.Alike
import Regen.Sync.Reconcile

/-!
# Dry passes

A dry pass reads each staged file and its target and tells those that differ, in the order of the walk
(`runOn_foldlM_diff`). It comes back only when it could read them all (`reads_of_foldlM_diff`), and it changes
no file (`keeps_reconcile_diff`).
-/

namespace Regen

/-- Only equal contents have no diff. -/
theorem Diff.unified_eq_empty_iff {old new : Bytes} {oldLabel newLabel : String} :
    Diff.unified old new oldLabel newLabel = "" ↔ old = new := by
  unfold Diff.unified
  split
  · next same => simp [same]
  · next other =>
    refine iff_of_false (fun empty => ?_) other
    split at empty <;>
      exact absurd (congrArg String.length empty) (by simp [String.length_append, toString])

namespace Sync

/-- The text of a report for a staged file. -/
def nameText (names : List String) : String := "/".intercalate names

def sourceOf (staging : Path) (names : List String) : Path := ⟨staging.root, staging.parts ++ names⟩

def targetOf (destination : Path) (names : List String) : Path :=
  ⟨destination.root, destination.parts ++ names⟩

/-- What a dry pass reads for a staged file: the content of its target, where a missing one is empty, and
its own. -/
structure Reads (t : Files) (base : Place) (destination staging : Path) (n : List String) (old new : Bytes) :
    Prop where
  plainTarget : (targetOf destination n).hasNul = false
  old : t.readOrEmpty base (targetOf destination n) = .ok old
  plainSource : (sourceOf staging n).hasNul = false
  new : t.read base (sourceOf staging n) = .ok new

/-- What a dry pass emits for a staged file. -/
def difference (n : List String) (old new : Bytes) : List Event :=
  if old = new then []
  else [.emitted (Diff.unified old new ("a/" ++ nameText n) ("b/" ++ nameText n))]

/-- The report with one more staged file in it. -/
def Report.compared (r : Report) (n : List String) (old new : Bytes) : Report :=
  if old = new then { r with unchanged := r.unchanged ++ [nameText n] }
  else { r with differing := r.differing ++ [nameText n] }

variable {host : Host} {w w' : World} {destination staging : Path} {names : List (List String)}
  {n : List String} {r : Report}

theorem Report.mode_compared (r : Report) (n : List String) (old new : Bytes) :
    (r.compared n old new).mode = r.mode := by
  unfold compared
  split <;> rfl

theorem reconcileFile_apply (mode : r.mode = .apply) :
    reconcileFile destination staging r n = (do
      Session.emit s!"# {nameText n}\n"
      Session.copyFile (sourceOf staging n) (targetOf destination n)
      return { r with applied := r.applied ++ [nameText n] }) := by
  obtain ⟨_, applied, differing, unchanged⟩ := r
  cases mode
  rfl

theorem reconcileFile_diff (mode : r.mode = .diff) :
    reconcileFile destination staging r n = (do
      let old ← Session.readOrEmpty (targetOf destination n)
      let new ← Session.readFile (sourceOf staging n)
      let text := Diff.unified old new ("a/" ++ nameText n) ("b/" ++ nameText n)
      if text = "" then return { r with unchanged := r.unchanged ++ [nameText n] }
      else
        Session.emit text
        return { r with differing := r.differing ++ [nameText n] }) := by
  obtain ⟨_, applied, differing, unchanged⟩ := r
  cases mode
  rfl

theorem runOn_reconcileFile_diff (mode : r.mode = .diff) {old new : Bytes}
    (reads : Reads w.files host.cwd destination staging n old new) :
    (reconcileFile destination staging r n).runOn host w =
      (.ok (r.compared n old new), w.noted (difference n old new)) := by
  have first := Session.runOn_readOrEmpty_eq_ok_iff.2 ⟨reads.plainTarget, reads.old, Eq.refl w⟩
  have second := Session.runOn_readFile_eq_ok_iff.2 ⟨reads.plainSource, reads.new, Eq.refl w⟩
  rw [reconcileFile_diff mode, Session.runOn_bind_of_ok first, Session.runOn_bind_of_ok second]
  simp only [Diff.unified_eq_empty_iff, Report.compared, difference]
  split
  · simp
  · rfl

theorem reads_of_reconcileFile_diff (mode : r.mode = .diff) {r' : Report}
    (run : (reconcileFile destination staging r n).runOn host w = (.ok r', w')) :
    ∃ old new, Reads w.files host.cwd destination staging n old new := by
  rw [reconcileFile_diff mode, Session.runOn_bind_eq_ok_iff] at run
  obtain ⟨old, v, first, run⟩ := run
  obtain ⟨plainTarget, readOld, rfl⟩ := Session.runOn_readOrEmpty_eq_ok_iff.1 first
  obtain ⟨new, v, second, -⟩ := Session.runOn_bind_eq_ok_iff.1 run
  obtain ⟨plainSource, readNew, -⟩ := Session.runOn_readFile_eq_ok_iff.1 second
  exact ⟨old, new, plainTarget, readOld, plainSource, readNew⟩

/-- A dry pass tells the staged files apart by their contents. -/
theorem runOn_foldlM_diff (mode : r.mode = .diff) {old new : List String → Bytes}
    (reads : ∀ n ∈ names, Reads w.files host.cwd destination staging n (old n) (new n)) :
    (names.foldlM (reconcileFile destination staging) r).runOn host w =
      (.ok { r with
          differing := r.differing ++ (names.filter fun n => old n ≠ new n).map nameText
          unchanged := r.unchanged ++ (names.filter fun n => old n = new n).map nameText },
        w.noted (names.flatMap fun n => difference n (old n) (new n))) := by
  induction names generalizing r w with
  | nil => simp
  | cons n names ih =>
    have here := runOn_reconcileFile_diff mode (reads n (by simp))
    have rest := ih (w := w.noted (difference n (old n) (new n))) (r := r.compared n (old n) (new n))
      ((r.mode_compared n _ _).trans mode) fun m mem => reads m (by simp [mem])
    rw [List.foldlM_cons, Session.runOn_bind_of_ok here, rest]
    by_cases same : old n = new n <;> simp [Report.compared, same]

/-- A dry pass tells nothing of files whose targets hold the same. -/
theorem runOn_foldlM_diff_of_same (mode : r.mode = .diff)
    (same : ∀ n ∈ names, ∃ content, Reads w.files host.cwd destination staging n content content) :
    (names.foldlM (reconcileFile destination staging) r).runOn host w =
      (.ok { r with unchanged := r.unchanged ++ names.map nameText }, w) := by
  choose! content reads using same
  have silent : (names.flatMap fun n => difference n (content n) (content n)) = [] := by
    simp [List.flatMap_eq_nil_iff, difference]
  have all : (names.filter fun _ => true) = names := List.filter_eq_self.2 fun _ _ => rfl
  rw [runOn_foldlM_diff mode reads, silent]
  simp [all]

/-- A dry pass that comes back has read all the files. -/
theorem reads_of_foldlM_diff (mode : r.mode = .diff) {r' : Report}
    (run : (names.foldlM (reconcileFile destination staging) r).runOn host w = (.ok r', w')) :
    ∀ n ∈ names, ∃ old new, Reads w.files host.cwd destination staging n old new := by
  induction names generalizing r w with
  | nil => simp
  | cons n names ih =>
    rw [List.foldlM_cons, Session.runOn_bind_eq_ok_iff] at run
    obtain ⟨r₁, v, first, run⟩ := run
    obtain ⟨old, new, reads⟩ := reads_of_reconcileFile_diff mode first
    rw [runOn_reconcileFile_diff mode reads] at first
    cases first
    have rest := ih ((r.mode_compared n old new).trans mode) run
    rw [List.forall_mem_cons]
    exact ⟨⟨old, new, reads⟩, rest⟩

theorem alike_reconcileFile {R : World → World → Prop} (emits : ∀ text, (Session.emit text).Alike host R)
    (reads : ∀ p, (Session.readFile p).Alike host R) (looks : ∀ p, (Session.readOrEmpty p).Alike host R)
    (copies : ∀ p q, (Session.copyFile p q).Alike host R) :
    (reconcileFile destination staging r n).Alike host R := by
  cases mode : r.mode with
  | apply =>
    rw [reconcileFile_apply mode]
    exact (emits _).bind fun _ => (copies _ _).bind fun _ => .pure _
  | diff =>
    rw [reconcileFile_diff mode]
    refine (looks _).bind fun old => (reads _).bind fun new => ?_
    simp only
    split
    · exact .pure _
    · exact (emits _).bind fun _ => .pure _

/-! ### What a dry pass leaves as it is -/

section Keeps

variable {I : World → Prop} (emits : ∀ w text, I w → I (w.noted [.emitted text]))

include emits

theorem keeps_reconcileFile_diff (mode : r.mode = .diff) :
    (reconcileFile destination staging r n).Keeps host I := by
  have emitted : ∀ text, (Session.emit text).Keeps host I := fun text =>
    Session.keeps_iff.2 fun w holds => emits w text holds
  rw [reconcileFile_diff mode]
  refine .bind (Session.keeps_of_unchanged (Session.runOn_readOrEmpty_snd _)) fun old => ?_
  refine .bind (Session.keeps_of_unchanged (Session.runOn_readFile_snd _)) fun new => ?_
  simp only
  split
  · exact .pure _
  · exact (emitted _).bind fun _ => .pure _

theorem keeps_foldlM_diff (mode : r.mode = .diff) :
    (names.foldlM (reconcileFile destination staging) r).Keeps host I := by
  rw [Session.keeps_iff]
  intro w holds
  induction names generalizing r w with
  | nil => exact holds
  | cons n names ih =>
    have step : (reconcileFile destination staging r n).Keeps host I := keeps_reconcileFile_diff emits mode
    have here := Session.keeps_iff.1 step w holds
    rw [List.foldlM_cons, Session.runOn_bind]
    cases run : (reconcileFile destination staging r n).runOn host w with
    | mk result v =>
      rw [run] at here
      cases result with
      | error e => exact here
      | ok r' =>
        obtain ⟨old, new, reads⟩ := reads_of_reconcileFile_diff mode run
        rw [runOn_reconcileFile_diff mode reads] at run
        cases run
        exact ih ((r.mode_compared n old new).trans mode) _ here

theorem keeps_reconcile_diff (endings : List String) :
    (reconcile destination staging .diff endings).Keeps host I :=
  .bind (Session.keeps_of_unchanged (Session.runOn_walkNames_snd _ _)) fun _ => keeps_foldlM_diff emits rfl

/-- A pass of either kind changes files and emits texts and does nothing else. -/
theorem keeps_reconcile (files : ∀ w t, I w → I { w with files := t }) (mode : Mode)
    (endings : List String) : (reconcile destination staging mode endings).Keeps host I :=
  .bind (Session.keeps_of_unchanged (Session.runOn_walkNames_snd _ _)) fun _ =>
    .foldlM (fun _ _ _ => alike_reconcileFile
      (fun text => Session.keeps_iff.2 fun w holds => emits w text holds)
      (fun p => Session.keeps_of_unchanged (Session.runOn_readFile_snd p))
      (fun p => Session.keeps_of_unchanged (Session.runOn_readOrEmpty_snd p))
      fun p q => Session.keeps_copyFile_of_files files p q) _

end Keeps

end Sync
end Regen
