import Regen.Proofs.Path
import Regen.Session

/-!
# Resolving a path

A path that leads somewhere is resolved to the place where it leads (`resolve_of_locate`). Resolving follows
each link by itself and gives up inside a link that it is following already; a walk that comes through has no
such link, since what a link leads to takes a fixed count of links (`Walks.unique`). In a tree of ordinary names
the resolved path leads to the same place from everywhere, also when it has been a text in between
(`locate_pathOf`, `ofString_pathOf`).
-/

namespace Regen

namespace Files

variable {t : Files} {base at_ p q : Place} {name : String} {ns ms : List String} {k links : Nat}

/-- Where a walk goes on at a link in the directory `at_`. -/
def linkStart (at_ : Place) (target : String) : Place := if (Path.ofString target).isAbsolute then [] else at_

/-- A walk along names that comes through, with the count of the links that it follows. -/
inductive Walks (t : Files) : Nat → Place → List String → Place → Prop
  | done {at_ : Place} : Walks t 0 at_ [] at_
  | dot {k : Nat} {at_ p : Place} {name : String} {ns : List String} : name = "." → Walks t k at_ ns p →
      Walks t k at_ (name :: ns) p
  | dots {k : Nat} {at_ p : Place} {name : String} {ns : List String} : name = ".." → Walks t k at_.dropLast ns p →
      Walks t k at_ (name :: ns) p
  | into {k : Nat} {at_ p : Place} {name : String} {ns : List String} : IsInner name →
      t.get? (at_ ++ [name]) = some .directory → Walks t k (at_ ++ [name]) ns p → Walks t k at_ (name :: ns) p
  | last {at_ : Place} {name : String} : IsInner name → t.get? (at_ ++ [name]) ≠ some .directory →
      (∀ target, t.get? (at_ ++ [name]) ≠ some (.link target)) → Walks t 0 at_ [name] (at_ ++ [name])
  | jump {k : Nat} {at_ p : Place} {name target : String} {ns : List String} : IsInner name →
      t.get? (at_ ++ [name]) = some (.link target) → Walks t k (linkStart at_ target) (targetNames target ++ ns) p →
      Walks t (k + 1) at_ (name :: ns) p

theorem walks_of_walkFrom {jump : Place → List String → Except Nat Place}
    (onward : ∀ q names, jump q names = .ok p → ∃ k, Walks t k q names p)
    (found : t.walkFrom true jump at_ ns = .ok p) : ∃ k, Walks t k at_ ns p := by
  induction ns generalizing at_ with
  | nil =>
    cases found
    exact ⟨0, .done⟩
  | cons name ns ih =>
    cases walkFrom_cons_iff.1 found with
    | dot dot found =>
      obtain ⟨k, walks⟩ := ih found
      exact ⟨k, .dot dot walks⟩
    | dots dots found =>
      obtain ⟨k, walks⟩ := ih found
      exact ⟨k, .dots dots walks⟩
    | into inner _ there found =>
      obtain ⟨k, walks⟩ := ih found
      exact ⟨k, .into inner there walks⟩
    | last inner _ leaf plain last here =>
      subst last here
      exact ⟨0, .last inner leaf fun target link => absurd (plain target link) nofun⟩
    | jump inner _ there _ found =>
      obtain ⟨k, walks⟩ := onward _ _ found
      exact ⟨k + 1, .jump inner there walks⟩

theorem walks_of_walkThrough (found : t.walkThrough true links at_ ns = .ok p) : ∃ k, Walks t k at_ ns p := by
  induction links generalizing at_ ns with
  | zero => exact walks_of_walkFrom (fun _ _ loop => by cases loop) found
  | succ links ih => exact walks_of_walkFrom (fun _ _ => ih) found

namespace Walks

/-- A walk has one end, and it follows a fixed count of links. -/
theorem unique {k' : Nat} {p' : Place} (walks : Walks t k at_ ns p) (walks' : Walks t k' at_ ns p') :
    k = k' ∧ p = p' := by
  induction walks generalizing k' p' with
  | done =>
    cases walks'
    exact ⟨rfl, rfl⟩
  | dot dot _ ih =>
    subst dot
    cases walks' with
    | dot _ rest => exact ih rest
    | dots other => exact absurd other (by decide)
    | into inner | last inner | jump inner => exact absurd rfl inner.dot
  | dots dots _ ih =>
    subst dots
    cases walks' with
    | dot other => exact absurd other (by decide)
    | dots _ rest => exact ih rest
    | into inner | last inner | jump inner => exact absurd rfl inner.dots
  | into inner there _ ih =>
    cases walks' with
    | dot dot => exact absurd dot inner.dot
    | dots dots => exact absurd dots inner.dots
    | into _ _ rest => exact ih rest
    | last _ leaf => exact absurd there leaf
    | jump _ link =>
      rw [there] at link
      cases link
  | last inner leaf plain =>
    cases walks' with
    | dot dot => exact absurd dot inner.dot
    | dots dots => exact absurd dots inner.dots
    | into _ there => exact absurd there leaf
    | last => exact ⟨rfl, rfl⟩
    | jump _ link => exact absurd link (plain _)
  | jump inner link _ ih =>
    cases walks' with
    | dot dot => exact absurd dot inner.dot
    | dots dots => exact absurd dots inner.dots
    | into _ there =>
      rw [there] at link
      cases link
    | last _ _ plain => exact absurd link (plain _)
    | jump _ link' rest =>
      rw [link] at link'
      cases link'
      obtain ⟨same, ends⟩ := ih rest
      exact ⟨congrArg (· + 1) same, ends⟩

/-- A walk along names and more names is a walk along the first and one along the others. -/
theorem split (walks : Walks t k at_ (ns ++ ms) p) :
    ∃ i j mid, Walks t i at_ ns mid ∧ Walks t j mid ms p ∧ i + j = k := by
  generalize whole : ns ++ ms = names at walks
  -- Along no names the walk has not begun, whatever it does first.
  have whole_of_nil {k : Nat} {at_ p : Place} {names : List String} (walks : Walks t k at_ names p)
      (same : ms = names) : ∃ i j mid, Walks t i at_ [] mid ∧ Walks t j mid ms p ∧ i + j = k :=
    ⟨0, k, at_, .done, same ▸ walks, Nat.zero_add k⟩
  induction walks generalizing ns with
  | done =>
    obtain ⟨rfl, rfl⟩ := List.append_eq_nil_iff.1 whole
    exact ⟨0, 0, _, .done, .done, rfl⟩
  | dot dot rest ih =>
    cases ns with
    | nil => exact whole_of_nil (.dot dot rest) whole
    | cons n ns =>
      obtain ⟨rfl, tail⟩ := List.cons.inj whole
      obtain ⟨i, j, mid, first, second, sum⟩ := ih tail
      exact ⟨i, j, mid, .dot dot first, second, sum⟩
  | dots dots rest ih =>
    cases ns with
    | nil => exact whole_of_nil (.dots dots rest) whole
    | cons n ns =>
      obtain ⟨rfl, tail⟩ := List.cons.inj whole
      obtain ⟨i, j, mid, first, second, sum⟩ := ih tail
      exact ⟨i, j, mid, .dots dots first, second, sum⟩
  | into inner there rest ih =>
    cases ns with
    | nil => exact whole_of_nil (.into inner there rest) whole
    | cons n ns =>
      obtain ⟨rfl, tail⟩ := List.cons.inj whole
      obtain ⟨i, j, mid, first, second, sum⟩ := ih tail
      exact ⟨i, j, mid, .into inner there first, second, sum⟩
  | last inner leaf plain =>
    cases ns with
    | nil => exact whole_of_nil (.last inner leaf plain) whole
    | cons n ns =>
      obtain ⟨rfl, tail⟩ := List.cons.inj whole
      obtain ⟨rfl, rfl⟩ := List.append_eq_nil_iff.1 tail
      exact ⟨0, 0, _, .last inner leaf plain, .done, rfl⟩
  | jump inner link rest ih =>
    cases ns with
    | nil => exact whole_of_nil (.jump inner link rest) whole
    | cons n ns =>
      obtain ⟨rfl, rfl⟩ := List.cons.inj whole
      obtain ⟨i, j, mid, first, second, sum⟩ := ih (List.append_assoc ..)
      exact ⟨i + 1, j, mid, .jump inner link first, second, by omega⟩

/-- The `.` that a target's last slash asks for goes nowhere. -/
theorem of_targetNames {target : String} (walks : Walks t k at_ (targetNames target) p) :
    Walks t k at_ (Path.ofString target).parts p := by
  obtain ⟨i, j, mid, first, second, rfl⟩ := walks.split
  split at second
  · cases second
    exact first
  · cases second with
    | dot _ rest =>
      cases rest
      exact first
    | dots other => exact absurd other (by decide)
    | into inner | last inner | jump inner => exact absurd rfl inner.dot

end Walks

/-! ### Links that are being followed -/

/-- Following any of the links takes at least `k` further links, and comes through. -/
def Pending (t : Files) (k : Nat) (opened : List Place) : Prop :=
  ∀ L ∈ opened, ∃ target m p, t.get? L = some (.link target) ∧
    Walks t m (linkStart L.dropLast target) (Path.ofString target).parts p ∧ k ≤ m

theorem Pending.mono {opened : List Place} {j : Nat} (pending : Pending t k opened) (le : j ≤ k) :
    Pending t j opened := by
  intro L mem
  obtain ⟨target, m, p, link, walks, more⟩ := pending L mem
  exact ⟨target, m, p, link, walks, Nat.le_trans le more⟩

/-- Links stand in the tree, so there are no more of them than entries. -/
theorem Pending.length_le {opened : List Place} (pending : Pending t k opened) (distinct : opened.Nodup) :
    opened.length ≤ t.entries.length := by
  have keys : opened ⊆ t.entries.map (·.1) := by
    intro L mem
    obtain ⟨target, -, -, link, -⟩ := pending L mem
    have inner : L ≠ [] := by
      rintro rfl
      cases link
    exact List.mem_map.2 ⟨_, mem_of_get? inner link, rfl⟩
  simpa using distinct.length_le_of_subset keys

/-- A link that a shorter walk meets is none of those that are being followed. -/
theorem Pending.fresh {opened : List Place} {target : String} {i : Nat} (pending : Pending t k opened)
    (link : t.get? (at_ ++ [name]) = some (.link target))
    (walks : Walks t i (linkStart at_ target) (Path.ofString target).parts p) (less : i < k) :
    at_ ++ [name] ∉ opened := by
  intro mem
  obtain ⟨target', m, p', link', walks', more⟩ := pending _ mem
  rw [link] at link'
  cases link'
  rw [List.dropLast_concat] at walks'
  have same := (walks.unique walks').1
  omega

/-- Resolving goes where a walk goes. The induction is on the links that the walk follows: a link of the walk is
resolved by a walk with fewer of them, and so is what lies behind it. -/
theorem resolveFrom_of_walks {nested : Nat} {opened : List Place} (walks : Walks t k at_ ns p) (plain : "." ∉ ns)
    (pending : Pending t k opened) (distinct : opened.Nodup)
    (room : t.entries.length ≤ nested + opened.length) :
    t.resolveFrom (t.resolveThrough nested opened) at_ ns = .ok p := by
  induction k using Nat.strongRecOn generalizing nested opened at_ ns p with
  | ind k ih =>
    induction ns generalizing at_ with
    | nil =>
      cases walks
      rfl
    | cons name ns onward =>
      obtain ⟨here, rest⟩ : "." ≠ name ∧ "." ∉ ns := by simpa using plain
      cases walks with
      | dot dot => exact absurd dot.symm here
      | dots dots walks =>
        subst dots
        exact onward walks rest
      | into inner there walks =>
        rw [resolveFrom, if_neg inner.dots]
        simp only [there]
        exact onward walks rest
      | last inner leaf noLink =>
        rw [resolveFrom, if_neg inner.dots]
        cases there : t.get? (at_ ++ [name]) with
        | none => rfl
        | some e =>
          cases e with
          | file => rfl
          | directory => rfl
          | link target => exact absurd there (noLink target)
      | @jump k _ _ _ target _ inner link walks =>
        obtain ⟨i, j, mid, first, second, rfl⟩ := walks.split
        have first := first.of_targetNames
        have fresh := pending.fresh link first (by omega)
        have next : Pending t i ((at_ ++ [name]) :: opened) := by
          refine List.forall_mem_cons.2 ⟨⟨target, i, mid, link, ?_, Nat.le_refl i⟩, pending.mono (by omega)⟩
          rwa [List.dropLast_concat]
        have distinct' := List.nodup_cons.2 ⟨fresh, distinct⟩
        have bound := next.length_le distinct'
        rw [List.length_cons] at bound
        obtain ⟨nested, rfl⟩ : ∃ n, nested = n + 1 := ⟨nested - 1, by omega⟩
        have through : t.resolveThrough (nested + 1) opened (at_ ++ [name]) (Path.ofString target) = .ok mid := by
          rw [resolveThrough, if_neg fresh, List.dropLast_concat]
          refine ih i (by omega) first (fun dot => Path.ne_dot_of_mem_namesOf dot rfl) next distinct' ?_
          rw [List.length_cons]
          omega
        rw [resolveFrom, if_neg inner.dots]
        simp only [link, through]
        exact ih j (by omega) second rest (pending.mono (by omega)) distinct room

/-- A path that leads somewhere is resolved to the place where it leads. -/
theorem resolve_of_locate {path : Path} (plain : "." ∉ path.parts) (found : t.locate base true path = .ok p) :
    t.resolve base path = some p := by
  rw [locate] at found
  split at found
  · cases found
  · obtain ⟨k, walks⟩ := walks_of_walkThrough found
    have pending : Pending t k [] := nofun
    simp only [resolve, resolveFrom_of_walks walks plain pending List.nodup_nil (Nat.le_refl _)]

/-! ### Resolved paths -/

/-- A name of an entry of a directory. -/
structure IsEntryName (name : String) : Prop extends IsName name where
  nonempty : name ≠ ""
  slash : '/' ∉ name.toList
  short : name.utf8ByteSize ≤ maxNameBytes

theorem IsEntryName.isSegment (isName : IsEntryName name) : Path.IsSegment name where
  part := by
    have dot : name.toList ≠ ['.'] := fun dot => isName.dot (String.toList_inj.1 dot)
    simp [Path.isPart, dot, isName.nonempty]
  slash := isName.slash

/-- A tree that a file system can hold. -/
structure Ordinary (t : Files) : Prop where
  closed : t.Closed
  named : ∀ p e, t.get? p = some e → ∀ n ∈ p, IsEntryName n

instance (name : String) : Decidable (IsEntryName name) :=
  decidable_of_iff (name ≠ "." ∧ name ≠ ".." ∧ '\x00' ∉ name.toList ∧ name ≠ "" ∧ '/' ∉ name.toList ∧
      name.utf8ByteSize ≤ maxNameBytes)
    ⟨fun ⟨dot, dots, nul, nonempty, slash, short⟩ => ⟨⟨dot, dots, nul⟩, nonempty, slash, short⟩,
      fun h => ⟨h.dot, h.dots, h.nul, h.nonempty, h.slash, h.short⟩⟩

/-- It is enough to look at the entries. -/
theorem Ordinary.of_entries (closed : ∀ e ∈ t.entries, t.get? e.1.dropLast = some .directory)
    (named : ∀ e ∈ t.entries, ∀ n ∈ e.1, IsEntryName n) : t.Ordinary where
  closed := by
    intro p e there
    by_cases root : p = []
    · rw [root]
      rfl
    · exact closed _ (mem_of_get? root there)
  named := by
    intro p e there
    by_cases root : p = []
    · simp [root]
    · exact named _ (mem_of_get? root there)

/-- The path of a file leads to it from everywhere. -/
theorem Ordinary.locate_pathOf (ordinary : t.Ordinary) {content : Bytes} {x : Bool}
    (there : t.get? p = some (.file content x)) (short : (Session.pathOf p).toString.utf8ByteSize < pathBytesLimit)
    (base : Place) : t.locate base true (Session.pathOf p) = .ok p := by
  have names := ordinary.named _ _ there
  have here : t.get? ([] ++ p) = some (.file content x) := there
  have walks : t.walkThrough true maxLinks [] p = .ok ([] ++ p) := by
    rw [walkThrough_there ordinary.closed (fun n mem => (names n mem).inner) here Entry.file_ne_link,
      if_pos fun n mem => (names n mem).short]
  rw [locate, if_neg (by omega)]
  exact walks

end Files

namespace Path

/-- The path of an entry is read back from its text. -/
theorem ofString_pathOf {p : Place} (isName : ∀ n ∈ p, Files.IsEntryName n) :
    ofString (Session.pathOf p).toString = Session.pathOf p := by
  have text : (Session.pathOf p).toString.toList = '/' :: ("/".intercalate p).toList := by
    simp [Session.pathOf, Path.toString]
  have segments : ∀ n ∈ p, IsSegment n := fun n mem => (isName n mem).isSegment
  have names : namesOf ('/' :: ("/".intercalate p).toList) = p := by
    rw [← List.nil_append ('/' :: _), namesOf_append, namesOf_intercalate segments]
    rfl
  rw [ofString, text, rootOf_slash (head?_intercalate segments)]
  exact congrArg (Path.mk "/") names

end Path
end Regen
