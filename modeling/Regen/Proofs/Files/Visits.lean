import Mathlib.Algebra.Order.BigOperators.Group.List
import Mathlib.Algebra.Order.Group.Nat
import Mathlib.Data.List.Flatten
import Mathlib.Data.List.Nodup
import Regen.Proofs.Files.Equivalent

/-!
# Going through directories

A file system lists the names of a directory in whatever order it likes. Going through a directory takes the files in
it and then goes through one directory in it after the other (`Visits`), so nothing is promised about the order of what
is found. A walk names the same files, each once and in ascending order (`Walked`, `walk_visits`).
-/

namespace Regen

namespace Files

variable {t : Files} {at_ : Place} {listing : Place → List String} {endings : Option (List String)}
  {names rest : List String} {found : List (List String)} {n : String}

/-- The names of what stands in a directory, each once. -/
structure Lists (t : Files) (at_ : Place) (names : List String) : Prop where
  distinct : names.Nodup
  mem_iff : ∀ n, n ∈ names ↔ t.get? (at_ ++ [n]) ≠ none

/-- A file with one of the endings has the name. -/
def fileIn (t : Files) (at_ : Place) (endings : Option (List String)) (n : String) : Bool :=
  (t.get? (at_ ++ [n])).any (t.countsAsFile (at_ ++ [n])) && hasEnding endings n

/-- A directory has the name; a link to one does not count. -/
def directoryIn (t : Files) (at_ : Place) (n : String) : Bool := decide (t.get? (at_ ++ [n]) = some .directory)

/-- What is found in a directory with these names: the files in it, and behind them what is found in one directory in it
after the other. -/
def gathered (t : Files) (at_ : Place) (endings : Option (List String)) (names : List String)
    (below : String → List (List String)) : List (List String) :=
  (names.filter (t.fileIn at_ endings)).map ([·]) ++
    (names.filter (t.directoryIn at_)).flatMap fun n => (below n).map (n :: ·)

/-- What is found by going through a directory when the names in each directory come as `listing` has them. -/
inductive Visits (t : Files) (listing : Place → List String) (endings : Option (List String)) :
    Place → List (List String) → Prop where
  | through {at_ : Place} {below : String → List (List String)}
      (each : ∀ n ∈ listing at_, t.directoryIn at_ n = true → Visits t listing endings (at_ ++ [n]) (below n)) :
      Visits t listing endings at_ (t.gathered at_ endings (listing at_) below)

/-! ### One directory -/

/-- The names of what stands in a directory, in the order in which it came into the tree. -/
def arrivals (t : Files) (at_ : Place) : List String :=
  t.entries.filterMap fun e =>
    if at_ ++ [e.1.getLast?.getD ""] = e.1 then some (e.1.getLast?.getD "") else none

theorem lists_arrivals (keyed : t.Keyed) (at_ : Place) : Lists t at_ (t.arrivals at_) where
  distinct := by
    refine List.Pairwise.filterMap _ ?_ (List.pairwise_map.1 keyed.distinct)
    intro e e' other n first m second same
    simp only [Option.ite_none_right_eq_some, Option.some.injEq] at first second
    obtain ⟨here, rfl⟩ := first
    obtain ⟨here', rfl⟩ := second
    rw [same, here'] at here
    exact other here.symm
  mem_iff n := by
    simp only [arrivals, List.mem_filterMap, Option.ite_none_right_eq_some, Option.some.injEq]
    constructor
    · rintro ⟨e, mem, here, rfl⟩
      rw [here, keyed.get?_of_mem mem]
      exact Option.some_ne_none _
    · intro there
      obtain ⟨e, there⟩ := Option.ne_none_iff_exists'.1 there
      exact ⟨_, mem_of_get? (List.concat_ne_nil n at_) there, by simp⟩

theorem listed_singleton_iff : Listed t at_ endings [n] ↔ t.fileIn at_ endings n = true := by
  rw [fileIn, Bool.and_eq_true, Option.any_eq_true]
  constructor
  · rintro ⟨-, file, ending⟩
    exact ⟨file, ending⟩
  · rintro ⟨file, ending⟩
    exact ⟨List.cons_ne_nil n [], file, ending⟩

theorem listed_cons_iff (more : rest ≠ []) : Listed t at_ endings (n :: rest) ↔ Listed t (at_ ++ [n]) endings rest := by
  have place : at_ ++ n :: rest = at_ ++ [n] ++ rest := List.append_cons at_ n rest
  have last : (n :: rest).getLast?.getD "" = rest.getLast?.getD "" := by
    rw [List.getLast?_cons_of_ne_nil more]
  constructor
  · rintro ⟨-, file, ending⟩
    exact ⟨more, place ▸ file, last ▸ ending⟩
  · rintro ⟨-, file, ending⟩
    exact ⟨List.cons_ne_nil n rest, place ▸ file, last ▸ ending⟩

/-- The names that lead to a file below a directory begin with one of the names in it. -/
theorem Lists.mem_of_listed (lists : Lists t at_ names) (closed : t.Closed)
    (listed : Listed t at_ endings (n :: rest)) : n ∈ names ∧ (rest ≠ [] → t.directoryIn at_ n = true) := by
  obtain ⟨e, there, -⟩ := listed.file
  rw [lists.mem_iff]
  by_cases last : rest = []
  · subst last
    rw [there]
    exact ⟨Option.some_ne_none e, fun more => absurd rfl more⟩
  · rw [List.append_cons] at there
    have directory := closed.directory last there
    rw [directory]
    exact ⟨Option.some_ne_none _, fun _ => decide_eq_true directory⟩

section Gathered

variable {below below' : String → List (List String)}

theorem nodup_gathered (distinct : names.Nodup) (once : ∀ n, (below n).Nodup) (inner : ∀ n, [] ∉ below n) :
    (t.gathered at_ endings names below).Nodup := by
  have files : ((names.filter (t.fileIn at_ endings)).map ([·])).Nodup :=
    (distinct.filter _).map fun _ _ same => List.singleton_injective same
  have deeper : ((names.filter (t.directoryIn at_)).flatMap fun n => (below n).map (n :: ·)).Nodup := by
    refine List.nodup_flatMap.2 ⟨fun n _ => (once n).map List.cons_injective, ?_⟩
    refine (distinct.filter _).imp fun other ns mem mem' => ?_
    obtain ⟨_, _, rfl⟩ := List.mem_map.1 mem
    obtain ⟨_, _, same⟩ := List.mem_map.1 mem'
    exact other (List.cons.inj same).1.symm
  refine List.nodup_append.2 ⟨files, deeper, ?_⟩
  rintro _ mem _ mem' rfl
  obtain ⟨n, -, rfl⟩ := List.mem_map.1 mem
  obtain ⟨m, -, found⟩ := List.mem_flatMap.1 mem'
  obtain ⟨rest, found, same⟩ := List.mem_map.1 found
  exact inner m ((List.cons.inj same).2 ▸ found)

theorem gathered_perm (each : ∀ n ∈ names, t.directoryIn at_ n = true → (below n).Perm (below' n)) :
    (t.gathered at_ endings names below).Perm (t.gathered at_ endings names below') := by
  refine .append_left _ (.flatMap_left _ fun n mem => ?_)
  obtain ⟨mem, directory⟩ := List.mem_filter.1 mem
  exact (each n mem directory).map _

end Gathered

/-- What stands below a directory are the files in it and what stands below the directories in it. -/
theorem gathered_namesBelow (keyed : t.Keyed) (closed : t.Closed) (lists : Lists t at_ names) :
    (t.gathered at_ endings names fun n => t.namesBelow (at_ ++ [n]) endings).Perm (t.namesBelow at_ endings) := by
  have once : (t.gathered at_ endings names fun n => t.namesBelow (at_ ++ [n]) endings).Nodup :=
    nodup_gathered lists.distinct (fun n => nodup_namesBelow keyed) fun n mem =>
      ((mem_namesBelow keyed).1 mem).inner rfl
  refine (List.perm_ext_iff_of_nodup once (nodup_namesBelow keyed)).2 fun ns => ?_
  simp only [gathered, List.mem_append, List.mem_map, List.mem_flatMap, List.mem_filter, mem_namesBelow keyed]
  constructor
  · rintro (⟨n, ⟨-, file⟩, rfl⟩ | ⟨n, -, rest, listed, rfl⟩)
    · exact listed_singleton_iff.2 file
    · exact (listed_cons_iff listed.inner).2 listed
  · intro listed
    cases ns with
    | nil => exact absurd rfl listed.inner
    | cons n rest =>
      obtain ⟨mem, directory⟩ := lists.mem_of_listed closed listed
      by_cases last : rest = []
      · subst last
        exact .inl ⟨n, ⟨mem, listed_singleton_iff.1 listed⟩, rfl⟩
      · exact .inr ⟨n, ⟨mem, directory last⟩, rest, (listed_cons_iff last).1 listed, rfl⟩

/-! ### All directories -/

/-- In whatever order the names come, the same is found. -/
theorem Visits.perm (visits : Visits t listing endings at_ found) (keyed : t.Keyed) (closed : t.Closed)
    (lists : ∀ p, t.get? p = some .directory → Lists t p (listing p)) (directory : t.get? at_ = some .directory) :
    found.Perm (t.namesBelow at_ endings) := by
  induction visits with
  | through _ ih =>
    refine .trans (gathered_perm fun n mem here => ?_) (gathered_namesBelow keyed closed (lists _ directory))
    exact ih n mem here (of_decide_eq_true here)

/-- Directories are gone through to the end: no place is longer than `bound`. -/
theorem exists_visits {bound : Nat} (short : ∀ p e, t.get? p = some e → p.length ≤ bound)
    (listing : Place → List String) (endings : Option (List String)) {left : Nat} (at_ : Place)
    (near : bound ≤ at_.length + left) : ∃ found, Visits t listing endings at_ found := by
  induction left generalizing at_ with
  | zero =>
    refine ⟨_, @Visits.through _ _ _ _ (fun _ => []) fun n _ here => ?_⟩
    have longer := short _ _ (of_decide_eq_true here)
    rw [List.length_append, List.length_singleton] at longer
    omega
  | succ left ih =>
    have deeper : ∀ n, ∃ found, Visits t listing endings (at_ ++ [n]) found := by
      intro n
      apply ih
      rw [List.length_append, List.length_singleton]
      omega
    choose below each using deeper
    exact ⟨_, .through fun n _ _ => each n⟩

theorem exists_length_le (t : Files) : ∃ bound, ∀ p e, t.get? p = some e → p.length ≤ bound := by
  refine ⟨(t.entries.map (·.1.length)).sum, fun p e there => ?_⟩
  by_cases inner : p = []
  · simp [inner]
  · exact List.le_sum_of_mem (List.mem_map.2 ⟨_, mem_of_get? inner there, rfl⟩)

/-! ### The order -/

theorem lt_of_namesLe {a b : List String} (le : namesLe a b = true) (other : a ≠ b) : a < b := by
  induction a generalizing b with
  | nil =>
    cases b with
    | nil => exact absurd rfl other
    | cons m b => exact List.nil_lt_cons m b
  | cons n a ih =>
    cases b with
    | nil => cases le
    | cons m b =>
      rw [namesLe_cons] at le
      rw [List.cons_lt_cons_iff]
      refine le.imp_right ?_
      rintro ⟨rfl, later⟩
      exact ⟨rfl, ih later fun same => other (congrArg (n :: ·) same)⟩

theorem ascending_walkNames (keyed : t.Keyed) (base : Place) (root : Path) (endings : Option (List String)) :
    (t.walkNames base root endings).Pairwise (· < ·) :=
  ((pairwise_walkNames t base root endings).and keyed.nodup_walkNames).imp fun ⟨le, other⟩ => lt_of_namesLe le other

theorem lt_append_of_lt {a b : String} (before : a < b) (lead rest rest' : List String) :
    lead ++ a :: rest < lead ++ b :: rest' := by
  induction lead with
  | nil => exact List.cons_lt_cons_iff.2 (.inl before)
  | cons n lead ih => exact List.cons_lt_cons_iff.2 (.inr ⟨rfl, ih⟩)

theorem lt_longer (name : String) {more : String} (some : more ≠ "") : name < name ++ more := by
  rw [String.lt_iff, String.toList_append]
  induction name.toList with
  | nil =>
    cases text : more.toList with
    | nil => exact absurd (String.toList_eq_nil_iff.1 text) some
    | cons c r => exact List.nil_lt_cons c r
  | cons c r ih => exact List.cons_lt_cons_iff.2 (.inr ⟨rfl, ih⟩)

/-- In an ascending list a smaller element stands in front of a greater one. -/
theorem pair_sublist {l : List (List String)} (ascending : l.Pairwise (· < ·)) {a b : List String} (mem : a ∈ l)
    (mem' : b ∈ l) (before : a < b) : [a, b].Sublist l := by
  induction l with
  | nil => cases mem
  | cons c l ih =>
    obtain ⟨least, ascending⟩ := List.pairwise_cons.1 ascending
    rcases List.mem_cons.1 mem with rfl | later
    · rcases List.mem_cons.1 mem' with rfl | later'
      · exact absurd before (List.lt_irrefl b)
      · exact (List.singleton_sublist.2 later').cons_cons a
    · rcases List.mem_cons.1 mem' with rfl | later'
      · exact absurd before (List.lt_asymm (least a later))
      · exact (ih ascending later later').cons c

/-! ### Walks -/

/-- What a walk of the directory at a place names. -/
structure Walked (t : Files) (at_ : Place) (endings : Option (List String)) (walked : List (List String)) : Prop where
  mem_iff : ∀ names, names ∈ walked ↔ Listed t at_ endings names
  distinct : walked.Nodup
  ascending : walked.Pairwise (· < ·)
  /-- The files of a directory stand in front of a file beside it whose name goes on behind its own. -/
  beside : ∀ lead directory rest more, more ≠ "" → lead ++ directory :: rest ∈ walked →
    lead ++ [directory ++ more] ∈ walked →
      [lead ++ directory :: rest, lead ++ [directory ++ more]].Sublist walked
  /-- In whatever order the names of each directory come, the same is found, and sorting puts it in this order. -/
  visited : ∀ listing, (∀ p, t.get? p = some .directory → Lists t p (listing p)) →
    (∃ found, Visits t listing endings at_ found) ∧
      ∀ found, Visits t listing endings at_ found → Sorting.sort namesLe found = walked

theorem walked_walkNames (keyed : t.Keyed) (closed : t.Closed) {base : Place} {root : Path}
    (leads : t.find? base root = some (at_, .directory)) :
    Walked t at_ endings (t.walkNames base root endings) where
  mem_iff _ := keyed.mem_walkNames leads
  distinct := keyed.nodup_walkNames
  ascending := ascending_walkNames keyed base root endings
  beside lead directory rest more some mem mem' :=
    pair_sublist (ascending_walkNames keyed base root endings) mem mem'
      (lt_append_of_lt (lt_longer directory some) lead rest [])
  visited listing lists := by
    obtain ⟨bound, short⟩ := exists_length_le t
    refine ⟨exists_visits short listing endings at_ (Nat.le_add_left bound _), fun found visits => ?_⟩
    rw [walkNames_eq leads]
    exact Sorting.sort_eq_of_perm namesLe_linear.toWeak
      (visits.perm keyed closed lists (find?_eq_some_iff.1 leads).2) fun a _ b _ => namesLe_linear.antisymm a b

theorem runOn_walk_eq {host : Host} (root : Path) (endings : Option (List String)) (w : World) :
    (Session.walk root endings).runOn host w =
      (if root.hasNul then .error .outOfRange
        else .ok ((w.files.walkNames host.cwd root endings).map fun names => ⟨root.root, root.parts ++ names⟩), w) := by
  rw [Session.walk, Session.runOn_bind, Session.runOn_walkNames]
  cases root.hasNul <;> rfl

/-- A walk names each file below a directory once, links to directories left aside, in an order that does not depend on
the order in which the file system lists names. It names nothing where no directory is; what holds a NUL is no path. -/
theorem walk_visits {host : Host} {w : World} (keyed : w.files.Keyed) (closed : w.files.Closed) (root : Path)
    (endings : Option (List String)) :
    (Session.walk root endings).runOn host w =
        (if root.hasNul then .error .outOfRange
          else .ok ((w.files.walkNames host.cwd root endings).map fun names => ⟨root.root, root.parts ++ names⟩), w) ∧
      (w.files.isDirectory host.cwd root = false → w.files.walkNames host.cwd root endings = []) ∧
      (∀ at_, w.files.find? host.cwd root = some (at_, .directory) →
        Walked w.files at_ endings (w.files.walkNames host.cwd root endings)) ∧
      ∀ u, Equivalent w.files u → u.walkNames host.cwd root endings = w.files.walkNames host.cwd root endings := by
  refine ⟨runOn_walk_eq root endings w, walkNames_of_not_directory, ?_, ?_⟩
  · intro at_ found
    exact walked_walkNames keyed closed found
  · intro u equivalent
    exact (equivalent.walkNames endings).symm

namespace Sample

/-- A directory beside a file whose name goes on behind its own, and links to a directory and to nothing. -/
def linked : Files :=
  ⟨[(["r"], .directory), (["r", "a.go"], .file [] false), (["r", "z.go"], .link "a"), (["r", "gone.go"], .link "b"),
    (["r", "a"], .directory), (["r", "a", "z.go"], .file [] false), (["r", "a", "b"], .directory),
    (["r", "a", "b", "x.go"], .file [] false), (["r", "a.txt"], .file [] false)]⟩

theorem keyed_linked : linked.Keyed := ⟨by decide, by decide⟩

theorem closed_linked : linked.Closed := closed_of_entries (by decide)

def host : Host := ⟨[], [], "regen", fun _ => none, fun _ t => (.unstarted SystemFault.noEntry, t), fun _ n => n, fun _ => false⟩

end Sample

theorem walk_visits_sample :
    Sample.linked.Keyed ∧ Sample.linked.Closed ∧
      (Session.walk ⟨"", ["r"]⟩ (some [".go"])).runOn Sample.host ⟨Sample.linked, []⟩ =
        (.ok [⟨"", ["r", "a", "b", "x.go"]⟩, ⟨"", ["r", "a", "z.go"]⟩, ⟨"", ["r", "a.go"]⟩, ⟨"", ["r", "gone.go"]⟩],
          ⟨Sample.linked, []⟩) ∧
      Walked Sample.linked ["r"] (some [".go"]) [["a", "b", "x.go"], ["a", "z.go"], ["a.go"], ["gone.go"]] ∧
      ∃ found, Visits Sample.linked Sample.linked.arrivals (some [".go"]) ["r"] found ∧
        Sorting.sort namesLe found = [["a", "b", "x.go"], ["a", "z.go"], ["a.go"], ["gone.go"]] := by
  have names : Sample.linked.walkNames [] ⟨"", ["r"]⟩ (some [".go"]) =
      [["a", "b", "x.go"], ["a", "z.go"], ["a.go"], ["gone.go"]] := by decide +kernel
  have found : Sample.linked.find? [] ⟨"", ["r"]⟩ = some (["r"], .directory) := by decide +kernel
  obtain ⟨run, -, walked, -⟩ := @walk_visits Sample.host ⟨Sample.linked, []⟩ Sample.keyed_linked Sample.closed_linked
    ⟨"", ["r"]⟩ (some [".go"])
  have walked := walked ["r"] found
  simp only [Sample.host, names] at run walked
  obtain ⟨⟨found, visits⟩, sorted⟩ := walked.visited Sample.linked.arrivals fun p _ =>
    lists_arrivals Sample.keyed_linked p
  exact ⟨Sample.keyed_linked, Sample.closed_linked, run, walked, found, visits, sorted found visits⟩

end Files
end Regen
