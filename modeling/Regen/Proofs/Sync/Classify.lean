import Regen.Proofs.Diff.Same
import Regen.Proofs.Sync.Overlay

/-!
# Staged files told apart by their bytes

A dry pass tells a staged file apart from its target by the bytes of both, however they are shown
(`Pass.classifies`): contents that are shown as the same lines get a line of their own, and no others do
(`unified_eq_binary_iff`).
-/

namespace Regen

namespace Diff

variable {old new : Bytes} {oldLabel newLabel : String}

theorem shownLines_inj : shownLines old = shownLines new ↔ Text.decodeEscaping old = Text.decodeEscaping new := by
  constructor
  · intro lines
    have texts := congrArg List.flatten lines
    rwa [shownLines, shownLines, Text.flatten_boundaryLines, Text.flatten_boundaryLines] at texts
  · intro texts
    rw [shownLines, shownLines, texts]

/-- Only contents that differ and are shown as the same text are told to be binary. -/
theorem unified_eq_binary_iff :
    unified old new oldLabel newLabel = s!"Binary files {oldLabel} and {newLabel} differ\n" ↔
      old ≠ new ∧ Text.decodeEscaping old = Text.decodeEscaping new := by
  rw [← shownLines_inj, ← hunks_eq_nil_iff]
  by_cases same : old = new
  · have empty : unified old new oldLabel newLabel = "" := unified_eq_empty_iff.2 same
    rw [empty]
    refine iff_of_false (fun text => ?_) fun other => other.1 same
    have heads := congrArg (fun s => s.toList.head?) text
    simp [toString] at heads
  · cases found : hunks (shownLines old) (shownLines new) with
    | nil => simp [unified, same, found]
    | cons h hs =>
      refine iff_of_false (fun text => ?_) fun none => List.cons_ne_nil h hs none.2
      -- A diff with hunks opens with the name of the old side.
      have heads := congrArg (fun s => s.toList.head?) text
      simp [unified, same, found, toString] at heads

end Diff

namespace Files

variable {t : Files} {base : Place} {q : Path} {content : Bytes}

/-- The bytes of the file that a path leads to; none when it leads to no file. -/
def contentAt (t : Files) (base : Place) (q : Path) : Bytes :=
  match t.find? base q with
  | some (_, .file content _) => content
  | _ => []

theorem find?_of_read (read : t.read base q = .ok content) : ∃ p x, t.find? base q = some (p, .file content x) := by
  obtain ⟨p, located, file⟩ := read_eq_ok read
  obtain ⟨x, there⟩ := content?_eq_some_iff.1 file
  exact ⟨p, x, find?_eq_some_iff.2 ⟨located, there⟩⟩

theorem contentAt_of_find? {p : Place} {x : Bool} (found : t.find? base q = some (p, .file content x)) :
    t.contentAt base q = content := by
  rw [contentAt, found]

theorem contentAt_of_readOrEmpty (read : t.readOrEmpty base q = .ok content) : t.contentAt base q = content := by
  rcases readOrEmpty_eq_ok read with ⟨p, located, rfl⟩ | ⟨rfl, missing⟩
  · rw [contentAt, content?, find?, located]
    cases there : t.get? p with
    | none => simp only [there, Option.map_none, Option.getD_none]
    | some e => cases e <;> simp only [there, Option.map_some, Option.getD_some, Option.getD_none]
  · rw [contentAt, find?, missing]

end Files

namespace Sync

open Files

/-- A pass over a staging directory. -/
structure Pass where
  host : Host
  world : World
  destination : Path
  staging : Path
  endings : List String

namespace Pass

variable (p : Pass)

/-- The names of the staged files, in the order of the walk. -/
def names : List (List String) := p.world.files.walkNames p.host.cwd p.staging (some p.endings)

def staged (n : List String) : Bytes := p.world.files.contentAt p.host.cwd (sourceOf p.staging n)

/-- What stands at the target of a staged file; a missing one is empty. -/
def present (n : List String) : Bytes := p.world.files.contentAt p.host.cwd (targetOf p.destination n)

def differing : List (List String) := p.names.filter fun n => p.present n ≠ p.staged n

def unchanged : List (List String) := p.names.filter fun n => p.present n = p.staged n

/-- The text that tells a staged file apart from its target. -/
def told (n : List String) : String :=
  Diff.unified (p.present n) (p.staged n) ("a/" ++ nameText n) ("b/" ++ nameText n)

/-- What a dry pass comes back with: the staged files told apart by their bytes, in the order of the walk, with one
text for each that differs, and no file changed. -/
structure Classifies (r : Report) (w : World) : Prop where
  report : r = ⟨.diff, [], p.differing.map nameText, p.unchanged.map nameText⟩
  files : w.files = p.world.files
  journal : w.journal = p.world.journal ++ p.differing.map fun n => .emitted (p.told n)
  told : ∀ n ∈ p.differing, p.told n ≠ ""
  staged : ∀ n ∈ p.names, ∃ place x,
    p.world.files.find? p.host.cwd (sourceOf p.staging n) = some (place, .file (p.staged n) x)
  /-- The walk names each file below the staging directory with one of the endings once, in order. -/
  walk : ∀ S, p.world.files.Keyed → p.world.files.find? p.host.cwd p.staging = some (S, .directory) →
    (∀ n, n ∈ p.names ↔ Listed p.world.files S (some p.endings) n) ∧ p.names.Nodup ∧
      p.names.Pairwise (namesLe · ·)
  absent : p.world.files.isDirectory p.host.cwd p.staging = false → p.names = []

variable {p} {r : Report} {w : World}

theorem flatMap_difference (p : Pass) : (p.names.flatMap fun n => difference n (p.present n) (p.staged n)) =
    p.differing.map fun n => .emitted (p.told n) := by
  unfold differing told
  induction p.names with
  | nil => rfl
  | cons n names ih =>
    rw [List.flatMap_cons, ih, difference]
    by_cases same : p.present n = p.staged n <;> simp [same]

theorem runOn_diff (plain : p.staging.hasNul = false)
    (reads : ∀ n ∈ p.names, Reads p.world.files p.host.cwd p.destination p.staging n (p.present n) (p.staged n)) :
    (reconcile p.destination p.staging .diff p.endings).runOn p.host p.world =
      (.ok ⟨.diff, [], p.differing.map nameText, p.unchanged.map nameText⟩,
        p.world.noted (p.differing.map fun n => .emitted (p.told n))) := by
  rw [runOn_reconcile plain, ← flatMap_difference]
  exact runOn_foldlM_diff (r := .empty .diff) rfl reads

/-- A pass that comes back has read what stands at both places. -/
theorem reads_of_run (run : (reconcile p.destination p.staging .diff p.endings).runOn p.host p.world = (.ok r, w)) :
    ∀ n ∈ p.names, Reads p.world.files p.host.cwd p.destination p.staging n (p.present n) (p.staged n) := by
  rw [runOn_reconcile (plain_of_reconcile run)] at run
  intro n mem
  obtain ⟨old, new, reads⟩ := reads_of_foldlM_diff rfl run n mem
  obtain ⟨place, x, found⟩ := find?_of_read reads.new
  obtain rfl : p.present n = old := contentAt_of_readOrEmpty reads.old
  obtain rfl : p.staged n = new := contentAt_of_find? found
  exact reads

/-- A dry pass that comes back has told the staged files apart by their bytes. A diff is empty just for equal
contents, and tells nothing but that they differ just for contents that are shown as the same text. -/
theorem classifies (run : (reconcile p.destination p.staging .diff p.endings).runOn p.host p.world = (.ok r, w)) :
    p.Classifies r w ∧ ∀ (old new : Bytes) (oldLabel newLabel : String),
      (Diff.unified old new oldLabel newLabel = "" ↔ old = new) ∧
      (Diff.unified old new oldLabel newLabel = s!"Binary files {oldLabel} and {newLabel} differ\n" ↔
        old ≠ new ∧ Text.decodeEscaping old = Text.decodeEscaping new) := by
  refine ⟨?_, fun old new oldLabel newLabel => ⟨Diff.unified_eq_empty_iff, Diff.unified_eq_binary_iff⟩⟩
  have reads := reads_of_run run
  rw [runOn_diff (plain_of_reconcile run) reads] at run
  cases run
  constructor
  case report => rfl
  case files => rfl
  case journal => rfl
  case told =>
    intro n mem
    have other : p.present n ≠ p.staged n := by simpa using (List.mem_filter.1 mem).2
    exact fun empty => other (Diff.unified_eq_empty_iff.1 empty)
  case staged => exact fun n mem => find?_of_read (reads n mem).new
  case walk =>
    intro S keyed found
    exact ⟨fun n => keyed.mem_walkNames found, keyed.nodup_walkNames, pairwise_walkNames ..⟩
  case absent => exact walkNames_of_not_directory

end Pass

/-- A pass over three staged files: one whose target holds the same, one whose target is missing, and one whose
target holds a byte that is shown as the file spells it. -/
def Sample.pass : Pass where
  host := host
  world := ⟨⟨[(["repo"], .directory), (["repo", "a.go"], .file [1] false), (["repo", "c.go"], .file [0xFF] false),
    (["stage"], .directory), (["stage", "c.go"], .file [0x5C, 0x78, 0x66, 0x66] false),
    (["stage", "b.go"], .file [2] false), (["stage", "a.go"], .file [1] true), (["stage", "d.txt"], .file [] false)]⟩, []⟩
  destination := destination
  staging := staging
  endings := [".go"]

theorem Pass.classifies_sample :
    ∃ w, (reconcile Sample.pass.destination Sample.pass.staging .diff Sample.pass.endings).runOn Sample.pass.host
        Sample.pass.world = (.ok ⟨.diff, [], ["b.go", "c.go"], ["a.go"]⟩, w) ∧
      Sample.pass.Classifies ⟨.diff, [], ["b.go", "c.go"], ["a.go"]⟩ w ∧
      Sample.pass.told ["c.go"] = "Binary files a/c.go and b/c.go differ\n" := by
  have plain : ∀ n ∈ Sample.pass.names, (targetOf Sample.destination n).hasNul = false ∧
      (sourceOf Sample.staging n).hasNul = false := by decide +kernel
  have reads : ∀ n ∈ Sample.pass.names,
      Sample.pass.world.files.readOrEmpty [] (targetOf Sample.destination n) = .ok (Sample.pass.present n) ∧
      Sample.pass.world.files.read [] (sourceOf Sample.staging n) = .ok (Sample.pass.staged n) := by decide +kernel
  have ran := Pass.runOn_diff (p := Sample.pass) rfl fun n mem =>
    ⟨(plain n mem).1, (reads n mem).1, (plain n mem).2, (reads n mem).2⟩
  have differing : Sample.pass.differing.map nameText = ["b.go", "c.go"] := by decide +kernel
  have unchanged : Sample.pass.unchanged.map nameText = ["a.go"] := by decide +kernel
  rw [differing, unchanged] at ran
  have classified := Pass.classifies ran
  exact ⟨_, ran, classified.1, (classified.2 _ _ _ _).2.2 (by decide +kernel)⟩

end Sync
end Regen
