import Regen.Proofs.Sync.Copy

/-!
# What is written into a tree

Writing files changes a tree by an output: contents for places, and directories on the way there (`Output`). Outputs
are put together (`Output.trans`), and a tree and an output leave one tree (`Output.unique`). Writing one file is such
an output (`Wrote.output`).
-/

namespace Regen

namespace Files

variable {t u v : Files} {out out' : Place → Option Bytes} {p : Place}

/-- Whether an executable file stands at a place. -/
def executableAt (t : Files) (p : Place) : Bool :=
  match t.get? p with
  | some (.file _ x) => x
  | _ => false

theorem executableAt_of_file {content : Bytes} {x : Bool} (there : t.get? p = some (.file content x)) :
    t.executableAt p = x := by
  rw [executableAt, there]

/-- The second tree is the first one with files written where `out` has contents for them, and with directories
made on the way there. A file that is written again stays executable, or not. -/
structure Output (out : Place → Option Bytes) (t u : Files) : Prop where
  written : ∀ p content, out p = some content → u.get? p = some (.file content (t.executableAt p))
  kept : ∀ p, out p = none → ∀ e, t.get? p = some e → u.get? p = some e
  made : ∀ p, out p = none → t.get? p = none → ∀ e, u.get? p = some e →
    e = .directory ∧ ∃ q content, out q = some content ∧ p <+: q

namespace Output

theorem refl (t : Files) : Output (fun _ => none) t t where
  written _ _ none := nomatch none
  kept _ _ _ there := there
  made p _ free e there := by
    rw [free] at there
    cases there

theorem executableAt_eq (output : Output out t u) (p : Place) : u.executableAt p = t.executableAt p := by
  cases wrote : out p with
  | some content => exact executableAt_of_file (output.written p content wrote)
  | none =>
    cases before : t.get? p with
    | some e => rw [executableAt, executableAt, output.kept p wrote e before, before]
    | none =>
      cases after : u.get? p with
      | none => rw [executableAt, executableAt, before, after]
      | some e =>
        obtain ⟨rfl, -⟩ := output.made p wrote before e after
        rw [executableAt, executableAt, before, after]

/-- One output after another is the output of both. -/
theorem trans (first : Output out t u) (second : Output out' u v)
    (agree : ∀ p a b, out p = some a → out' p = some b → a = b) :
    Output (fun p => (out p).or (out' p)) t v where
  written := by
    intro p content wrote
    cases again : out' p with
    | some b =>
      have latest : b = content := by
        cases before : out p with
        | none => simpa [before, again] using wrote
        | some a =>
          rw [← agree p a b before again]
          simpa [before] using wrote
      rw [second.written p b again, latest, first.executableAt_eq]
    | none =>
      have before : out p = some content := by simpa [again] using wrote
      exact second.kept p again _ (first.written p content before)
  kept := by
    intro p none e there
    obtain ⟨none, none'⟩ := Option.or_eq_none_iff.1 none
    exact second.kept p none' e (first.kept p none e there)
  made := by
    intro p none free e there
    obtain ⟨none, none'⟩ := Option.or_eq_none_iff.1 none
    cases between : u.get? p with
    | none =>
      obtain ⟨directory, q, content, wrote, way⟩ := second.made p none' between e there
      cases before : out q with
      | none => exact ⟨directory, q, content, by simp [before, wrote], way⟩
      | some a => exact ⟨directory, q, a, by simp [before], way⟩
    | some e' =>
      obtain ⟨directory, q, content, wrote, way⟩ := first.made p none free e' between
      have stays := second.kept p none' e' between
      rw [there] at stays
      cases stays
      exact ⟨directory, q, content, by simp [wrote], way⟩

/-- Where a directory was made for an output, there is one in every tree with that output. -/
theorem get?_of_made (output : Output out t u) (again : Output out t v) (closed : v.Closed) (none : out p = none)
    (free : t.get? p = .none) {e : Entry} (there : u.get? p = some e) : v.get? p = some e := by
  obtain ⟨rfl, q, content, wrote, rest, rfl⟩ := output.made p none free e there
  refine closed.directory ?_ (again.written _ content wrote)
  rintro rfl
  rw [List.append_nil, none] at wrote
  cases wrote

/-- A tree and an output leave one tree. -/
theorem unique (output : Output out t u) (output' : Output out t v) (closed : u.Closed) (closed' : v.Closed)
    (p : Place) : u.get? p = v.get? p := by
  cases wrote : out p with
  | some content => rw [output.written p content wrote, output'.written p content wrote]
  | none =>
    cases before : t.get? p with
    | some e => rw [output.kept p wrote e before, output'.kept p wrote e before]
    | none =>
      refine Option.ext fun e => ?_
      exact ⟨output.get?_of_made output' closed' wrote before, output'.get?_of_made output closed wrote before⟩

end Output

/-- What is found first does not depend on the order where all that is found is the same. -/
theorem findSome?_eq_of_perm {α β : Type} {f : α → Option β} {l l' : List α} (perm : l.Perm l')
    (agree : ∀ a ∈ l, ∀ b ∈ l, ∀ x y, f a = some x → f b = some y → x = y) : l.findSome? f = l'.findSome? f := by
  have told : ∀ {k : List α} {x : β}, k ⊆ l → (k.findSome? f = some x ↔ ∃ a ∈ k, f a = some x) := by
    intro k x known
    refine ⟨List.exists_of_findSome?_eq_some, ?_⟩
    rintro ⟨a, mem, found⟩
    cases all : k.findSome? f with
    | none =>
      have nothing := List.findSome?_eq_none_iff.1 all a mem
      rw [found] at nothing
      cases nothing
    | some y =>
      obtain ⟨b, mem', found'⟩ := List.exists_of_findSome?_eq_some all
      rw [agree a (known mem) b (known mem') x y found found']
  refine Option.ext fun x => ?_
  rw [told (List.Subset.refl l), told perm.symm.subset]
  exact exists_congr fun a => and_congr_left fun _ => perm.mem_iff

/-! ### What paths lead to -/

/-- The bytes of the file that a path leads to, when it leads to one. -/
def bytes? (t : Files) (base : Place) (q : Path) : Option Bytes :=
  if q.hasNul then none else (t.read base q).toOption

theorem bytes?_eq_some_iff {base : Place} {q : Path} {content : Bytes} :
    t.bytes? base q = some content ↔ q.hasNul = false ∧ t.read base q = .ok content := by
  unfold bytes?
  cases q.hasNul <;> cases t.read base q <;> simp [Except.toOption]

/-! ### One file -/

theorem closed_put {e : Entry} (closed : t.Closed) (inner : p ≠ []) (parent : t.get? p.dropLast = some .directory)
    (leaf : t.get? p ≠ some .directory) : (t.put p e).Closed := by
  intro q e' there
  have above : t.get? q.dropLast = some .directory := by
    rw [get?_put inner] at there
    split at there
    · next here => rwa [here]
    · exact closed q e' there
  rw [get?_put inner, if_neg, above]
  rintro here
  exact leaf (here ▸ above)

theorem Paved.closed {goal : Place} (paved : Paved goal t u) (closed : t.Closed) : u.Closed := by
  induction paved with
  | refl => exact closed
  | make _ none _ parent ih => exact closed_put ih (ne_nil_of_none none) parent (by simp [none])

theorem executableAt_put {q : Place} {content : Bytes} (inner : q ≠ []) (p : Place) :
    (t.put q (.file content (t.executableAt q))).executableAt p = t.executableAt p := by
  by_cases here : p = q
  · rw [here]
    exact executableAt_of_file (by rw [get?_put inner, if_pos rfl])
  · rw [executableAt, get?_put inner, if_neg here, executableAt]

/-- Writing leaves a file as executable as it was. -/
theorem executableAt_write {base : Place} {q : Path} {content : Bytes} (written : t.write base q content = .ok u)
    (p : Place) : u.executableAt p = t.executableAt p := by
  unfold write at written
  cases found : t.locate base true q with
  | error n =>
    rw [found] at written
    cases written
  | ok at_ =>
    rw [found] at written
    simp only [bind, Except.bind, writeAt] at written
    have inner : t.get? at_ ≠ some .directory → at_ ≠ [] := by
      rintro leaf rfl
      exact leaf rfl
    have put {x : Bool} (there : t.executableAt at_ = x) (leaf : t.get? at_ ≠ some .directory) :
        (t.put at_ (.file content x)).executableAt p = t.executableAt p := there ▸ executableAt_put (inner leaf) p
    cases there : t.get? at_ with
    | none =>
      rw [there] at written
      cases written
      exact put (by rw [executableAt, there]) (by simp [there])
    | some e =>
      rw [there] at written
      cases e with
      | file old x =>
        cases written
        exact put (executableAt_of_file there) (by simp [there])
      | directory => cases written
      | link target => cases written

/-- The second tree is the first one with more directories. -/
structure Roomier (t u : Files) : Prop where
  kept : ∀ p e, t.get? p = some e → u.get? p = some e
  made : ∀ p e, t.get? p = none → u.get? p = some e → e = .directory

namespace Roomier

theorem refl (t : Files) : Roomier t t where
  kept _ _ there := there
  made p e free there := by
    rw [free] at there
    cases there

theorem trans (first : Roomier t u) (second : Roomier u v) : Roomier t v where
  kept p e there := second.kept p e (first.kept p e there)
  made p e free there := by
    cases between : u.get? p with
    | none => exact second.made p e between there
    | some e' =>
      obtain rfl := first.made p e' free between
      rw [second.kept p _ between] at there
      exact (Option.some.inj there).symm

theorem executableAt_eq (roomier : Roomier t u) (p : Place) : u.executableAt p = t.executableAt p := by
  cases before : t.get? p with
  | some e => rw [executableAt, executableAt, roomier.kept p e before, before]
  | none =>
    cases after : u.get? p with
    | none => rw [executableAt, executableAt, before, after]
    | some e =>
      obtain rfl := roomier.made p e before after
      rw [executableAt, executableAt, before, after]

end Roomier

theorem roomier_makeDirectory {base : Place} {q : Path} (made : t.makeDirectory base q = .ok u) : Roomier t u := by
  rcases makeDirectory_cases base q with ⟨p, -, free, done⟩ | ⟨p, -, done⟩ | ⟨n, -, done⟩
  · rw [done] at made
    cases made
    constructor
    · exact fun r e there => get?_put_of_free free there _
    · intro r e none there
      rw [get?_put (ne_nil_of_none free)] at there
      split at there
      · exact (Option.some.inj there).symm
      · rw [none] at there
        cases there
  · rw [done] at made
    cases made
  · rw [done] at made
    cases made

theorem roomier_makeWithin (base : Place) (levels : Nat) (t : Files) (q : Path) :
    Roomier t (t.makeWithin base levels q).1 := by
  induction levels generalizing t q with
  | zero =>
    rw [makeWithin]
    cases made : t.makeDirectory base q with
    | ok u => exact roomier_makeDirectory made
    | error f =>
      simp only
      split <;> exact .refl t
  | succ levels ih =>
    rw [makeWithin]
    cases made : t.makeDirectory base q with
    | ok u => exact roomier_makeDirectory made
    | error f =>
      have around := ih t q.parent
      simp only
      split
      · exact .refl t
      · generalize t.makeWithin base levels q.parent = r at around ⊢
        obtain ⟨u, fault⟩ := r
        cases fault with
        | some g => exact around
        | none =>
          simp only
          cases again : u.makeDirectory base q with
          | ok v => exact around.trans (roomier_makeDirectory again)
          | error g => exact around

namespace Wrote

variable {goal : Place} {content : Bytes}

theorem closed (wrote : Wrote t v goal content) (closed : t.Closed) : v.Closed := by
  obtain ⟨u, x, paved, parent, leaf, rfl⟩ := wrote.steps
  refine closed_put (paved.closed closed) wrote.inner parent fun directory => ?_
  obtain ⟨old, y, file⟩ := leaf _ directory
  cases file

theorem clear {L : Place} (wrote : Wrote t v goal content) (clear : Clear t L) : Clear v L := by
  intro p target inside link
  obtain ⟨u, x, paved, -, -, rfl⟩ := wrote.steps
  rw [get?_put wrote.inner] at link
  split at link
  · cases link
  · exact paved.clear clear p target inside link

theorem content?_of_ne (wrote : Wrote t v goal content) (other : p ≠ goal) : v.content? p = t.content? p := by
  cases before : t.get? p with
  | some e => rw [content?, content?, wrote.kept other before, before]
  | none =>
    cases after : v.get? p with
    | none => rw [content?, content?, before, after]
    | some e =>
      obtain ⟨rfl, -⟩ := (wrote.made before after).resolve_left other
      rw [content?, content?, before, after]

/-- A file that was written, with the directories on the way to it. -/
theorem output (wrote : Wrote t v goal content) (same : ∀ p, v.executableAt p = t.executableAt p) :
    Output (fun p => if p = goal then some content else none) t v where
  written p bytes written := by
    obtain ⟨rfl, rfl⟩ : p = goal ∧ content = bytes := by simpa using written
    obtain ⟨x, there⟩ := wrote.holds
    rw [← same, executableAt_of_file there, there]
  kept p none e there := wrote.kept (by simpa using none) there
  made p none free e there := by
    have other : p ≠ goal := by simpa using none
    obtain ⟨directory, way⟩ := (wrote.made free there).resolve_left other
    exact ⟨directory, goal, content, if_pos rfl, way.trans (List.dropLast_prefix goal)⟩

end Wrote

end Files

namespace Session

open Files

variable {host : Host} {path : Path} {content : Bytes} {w v : World}

/-- A file that could be written: directories were made, and then it was. -/
theorem runOn_writeFile_eq_ok (run : (writeFile path content).runOn host w = (.ok (), v)) :
    path.hasNul = false ∧ ∃ u, Roomier w.files u ∧ u.write host.cwd path content = .ok v.files := by
  obtain ⟨_, w₁, made, run⟩ := runOn_bind_eq_ok_iff.1 run
  obtain ⟨_, w₂, demanded, run⟩ := runOn_bind_eq_ok_iff.1 run
  have room : Roomier w.files w₁.files := by
    cases plain : path.parent.hasNul with
    | true =>
      rw [makeDirectories, runOn_bind_of_error (runOn_demand_of_nul plain)] at made
      cases made
    | false =>
      have whole := congrArg (fun r : Except Failure Unit × World => r.2.files) made
      rw [runOn_makeDirectories plain] at whole
      exact whole ▸ roomier_makeWithin ..
  rw [runOn_demand] at demanded
  split at demanded
  · cases demanded
  · next plain =>
    cases demanded
    rw [runOn_alter] at run
    cases written : w₁.files.write host.cwd path content with
    | error f =>
      rw [written] at run
      cases run
    | ok t =>
      rw [written] at run
      cases run
      exact ⟨Bool.eq_false_iff.2 plain, w₁.files, room, written⟩

theorem read_of_runOn_writeFile (run : (writeFile path content).runOn host w = (.ok (), v)) :
    v.files.read host.cwd path = .ok content := by
  obtain ⟨-, u, -, written⟩ := runOn_writeFile_eq_ok run
  exact read_of_write written

theorem executableAt_of_runOn_writeFile (run : (writeFile path content).runOn host w = (.ok (), v)) (p : Place) :
    v.files.executableAt p = w.files.executableAt p := by
  obtain ⟨-, u, room, written⟩ := runOn_writeFile_eq_ok run
  exact (executableAt_write written p).trans (room.executableAt_eq p)

theorem ways_of_runOn_writeFile (run : (writeFile path content).runOn host w = (.ok (), v)) :
    Ways w.files v.files := by
  obtain ⟨-, u, room, written⟩ := runOn_writeFile_eq_ok run
  exact (Ways.of_kept room.kept).trans (ways_of_write written)

end Session

end Regen
