import Regen.Proofs.Files.Copies
import Regen.Proofs.Files.Twin

/-!
# Trees with the same at all places

Two trees may have the same everywhere though they came about in different orders (`Equivalent`). No operation
tells them apart: paths lead to the same places in both, through links too (`locate`), the same is read and
walked, and what is made, written or taken away leaves them equivalent.
-/

namespace Regen

namespace Files

variable {t u v : Files} {base at_ p : Place} {q : Path} {follow : Bool}

theorem Keyed.put (keyed : t.Keyed) (inner : p ≠ []) (e : Entry) : (t.put p e).Keyed where
  distinct := Assoc.nodup_keys_put keyed.distinct p e
  rooted d mem := by
    rcases Assoc.mem_put mem with rfl | mem
    · exact inner
    · exact keyed.rooted d mem

theorem Keyed.cut (keyed : t.Keyed) (p : Place) : (t.cut p).Keyed where
  distinct := keyed.distinct.sublist (List.filter_sublist.map _)
  rooted e mem := keyed.rooted e (List.mem_of_mem_filter mem)

/-- Two trees have the same at all places. -/
structure Equivalent (t u : Files) : Prop where
  same : ∀ p, t.get? p = u.get? p
  keyed : t.Keyed
  keyed' : u.Keyed

namespace Equivalent

theorem refl (keyed : t.Keyed) : Equivalent t t := ⟨fun _ => rfl, keyed, keyed⟩

variable (equivalent : Equivalent t u)

include equivalent

theorem walkFrom {jump jump' : Place → List String → Except Nat Place}
    (onward : ∀ at_ ns, jump at_ ns = jump' at_ ns) (ns : List String) :
    t.walkFrom follow jump at_ ns = u.walkFrom follow jump' at_ ns := by
  induction ns generalizing at_ with
  | nil => rfl
  | cons name ns ih =>
    rw [Files.walkFrom, Files.walkFrom]
    simp only [equivalent.same, ih, onward]

theorem walkThrough (links : Nat) (ns : List String) :
    t.walkThrough follow links at_ ns = u.walkThrough follow links at_ ns := by
  induction links generalizing at_ ns with
  | zero => exact equivalent.walkFrom (fun _ _ => rfl) ns
  | succ links ih => exact equivalent.walkFrom (fun _ _ => ih _) ns

theorem locate : t.locate base follow q = u.locate base follow q := by
  unfold Files.locate
  rw [equivalent.walkThrough]

theorem find? : t.find? base q = u.find? base q := by
  unfold Files.find?
  simp only [equivalent.locate, equivalent.same]

theorem isDirectory : t.isDirectory base q = u.isDirectory base q := by
  unfold Files.isDirectory
  rw [equivalent.find?]

theorem isFile : t.isFile base q = u.isFile base q := by
  unfold Files.isFile
  simp only [equivalent.locate, equivalent.same]

theorem read : t.read base q = u.read base q := by
  have here : t.readAt = u.readAt := by
    funext at_
    rw [readAt, readAt, equivalent.same]
  rw [Files.read, Files.read, equivalent.locate, here]

theorem readOrEmpty : t.readOrEmpty base q = u.readOrEmpty base q := by
  rw [Files.readOrEmpty, Files.readOrEmpty, equivalent.read]

/-- A walk finds the same in both, in one order. -/
theorem walkNames (endings : Option (List String)) : t.walkNames base q endings = u.walkNames base q endings := by
  have copies : ∀ L, Copies t u L L := fun L =>
    ⟨fun _ => equivalent.same _, fun _ _ _ => equivalent.isDirectory⟩
  refine Corresponds.walkNames ?_ equivalent.keyed equivalent.keyed'
  by_cases there : t.isDirectory base q = true
  · obtain ⟨L, found, directory⟩ := isDirectory_iff.1 there
    have leads : t.find? base q = some (L, .directory) := find?_eq_some_iff.2 ⟨found, directory⟩
    exact .inl ⟨L, L, leads, equivalent.find? ▸ leads, copies L⟩
  · have none : t.isDirectory base q = false := Bool.eq_false_iff.2 there
    exact .inr ⟨none, equivalent.isDirectory ▸ none⟩

theorem put (inner : p ≠ []) (e : Entry) : Equivalent (t.put p e) (u.put p e) where
  same q := by rw [get?_put inner, get?_put inner, equivalent.same]
  keyed := equivalent.keyed.put inner e
  keyed' := equivalent.keyed'.put inner e

theorem removeAll : Equivalent (t.removeAll base q) (u.removeAll base q) := by
  unfold Files.removeAll
  rw [← equivalent.locate]
  cases t.locate base false q with
  | error n => exact equivalent
  | ok p =>
    refine ⟨fun q => ?_, equivalent.keyed.cut p, equivalent.keyed'.cut p⟩
    by_cases inner : p = []
    · subst inner
      simp [get?, Files.cut, Assoc.get?]
    · rw [get?_cut inner, get?_cut inner, equivalent.same]

theorem makeDirectory : Both Eq Equivalent (t.makeDirectory base q) (u.makeDirectory base q) := by
  unfold Files.makeDirectory
  rw [← equivalent.locate]
  cases t.locate base false q with
  | error n => exact .error rfl
  | ok p =>
    simp only [bind, Except.bind, ← equivalent.same p]
    cases free : t.get? p with
    | some e => exact .error rfl
    | none => exact .ok (equivalent.put (ne_nil_of_none free) .directory)

omit equivalent in
theorem makes (base : Place) : Makes base Eq Equivalent Eq where
  number := congrArg _
  make := by
    rintro t u p _ equivalent rfl
    exact equivalent.makeDirectory
  directory := by
    rintro t u p _ equivalent rfl
    exact equivalent.isDirectory
  parent := by
    rintro t u p _ f - rfl - -
    rfl

theorem makeDirectories (base : Place) (q : Path) : (t.makeDirectories base q).2 = (u.makeDirectories base q).2 ∧
    Equivalent (t.makeDirectories base q).1 (u.makeDirectories base q).1 := by
  have both := (makes base).makeWithin (q.parts.length + 1) equivalent (rfl : q = q)
  rw [Files.makeDirectories, Files.makeDirectories]
  generalize t.makeWithin base _ q = r at both ⊢
  generalize u.makeWithin base _ q = r' at both ⊢
  obtain ⟨t', fault⟩ := r
  obtain ⟨u', fault'⟩ := r'
  obtain ⟨faults, after⟩ := both
  cases faults with
  | none => exact ⟨rfl, after⟩
  | some same => exact ⟨congrArg some same, after⟩

theorem write (base : Place) (q : Path) (content : Bytes) :
    Both Eq Equivalent (t.write base q content) (u.write base q content) := by
  unfold Files.write
  rw [← equivalent.locate]
  cases t.locate base true q with
  | error n => exact .error rfl
  | ok p =>
    simp only [bind, Except.bind, writeAt, ← equivalent.same p]
    cases here : t.get? p with
    | none => exact .ok (equivalent.put (ne_nil_of_none here) _)
    | some e =>
      cases e with
      | directory => exact .error rfl
      | link target => exact .error rfl
      | file old x =>
        have inner : p ≠ [] := by
          rintro rfl
          cases here
        exact .ok (equivalent.put inner _)

end Equivalent

end Files

namespace Session

open Files

variable {host : Host} {R : World → World → Prop}

/-- Related worlds have equivalent files, and they stay related when the files in both are replaced by
equivalent ones. -/
structure Follows (R : World → World → Prop) : Prop where
  files : ∀ w w', R w w' → Equivalent w.files w'.files
  replaced : ∀ w w' t t', R w w' → Equivalent t t' → R { w with files := t } { w' with files := t' }

namespace Follows

variable (follows : Follows R)

include follows

theorem isFile (p : Path) : (isFile p).Alike host R := by
  unfold Session.isFile
  split
  · exact .pure _
  · exact .inspect fun w w' related => (follows.files w w' related).isFile

theorem readFile (p : Path) : (readFile p).Alike host R :=
  .bind (.demand p) fun _ => .inspect fun w w' related => (follows.files w w' related).read

theorem readOrEmpty (p : Path) : (readOrEmpty p).Alike host R :=
  .bind (.demand p) fun _ => .inspect fun w w' related => (follows.files w w' related).readOrEmpty

theorem walkNames (root : Path) (endings : Option (List String)) : (walkNames root endings).Alike host R := by
  refine .seen (runOn_walkNames_snd root endings) fun w w' related => ?_
  rw [runOn_walkNames, runOn_walkNames, (follows.files w w' related).walkNames]

theorem writeFile (p : Path) (content : Bytes) : (writeFile p content).Alike host R := by
  refine .bind (.makeDirectories fun w w' related => ?_) fun _ => .bind (.demand p) fun _ =>
    .alter fun w w' related => ?_
  · obtain ⟨same, after⟩ := (follows.files w w' related).makeDirectories host.cwd p.parent
    exact ⟨same, follows.replaced w w' _ _ related after⟩
  · have both := (follows.files w w' related).write host.cwd p content
    generalize w.files.write host.cwd p content = r at both ⊢
    generalize w'.files.write host.cwd p content = r' at both ⊢
    cases both with
    | error e => exact .error e
    | ok after => exact .ok (follows.replaced w w' _ _ related after)

theorem copyFile (source destination : Path) : (copyFile source destination).Alike host R :=
  (follows.readFile source).bind fun content => follows.writeFile destination content

end Follows

end Session

end Regen
