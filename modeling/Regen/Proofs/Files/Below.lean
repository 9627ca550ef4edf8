import Mathlib.Data.List.Induction
import Regen.Proofs.Files.Sound

/-!
# Inside a directory without links

Links may stand elsewhere in a tree. How a walk takes a name is said once (`walkFrom_cons_iff`). A path goes
on leading to where it led while directories and links stay (`locate_kept`). Where no link stands
in the directory, further names lead straight downwards from it (`walkThrough_below`), in the same way as from
any directory with the same inside (`walkThrough_moved`).
-/

namespace Regen.Files

variable {t u : Files} {base at_ p L : Place} {follow follow' : Bool} {links : Nat} {name : String}
  {lead ns : List String} {jump jump' : Place → List String → Except Nat Place}

/-- A name that leads downwards. -/
structure IsInner (name : String) : Prop where
  dot : name ≠ "."
  dots : name ≠ ".."

theorem IsName.inner (isName : IsName name) : IsInner name := ⟨isName.dot, isName.dots⟩

theorem IsInner.isName (inner : IsInner name) (plain : '\x00' ∉ name.toList) : IsName name :=
  ⟨inner.dot, inner.dots, plain⟩

/-- No link stands at a place or inside it. -/
def Clear (t : Files) (L : Place) : Prop := ∀ p target, L <+: p → t.get? p ≠ some (.link target)

theorem Sound.clear (sound : t.Sound) (L : Place) : Clear t L := fun p target _ => sound.not_link p target

theorem clear_of_entries (plain : ∀ e ∈ t.entries, ∀ target, e.2 ≠ .link target) (L : Place) : Clear t L := by
  intro p target below link
  refine plain _ (mem_of_get? ?_ link) target rfl
  rintro rfl
  cases link

theorem Clear.mono {M : Place} (clear : Clear t L) (below : L <+: M) : Clear t M :=
  fun p target inside => clear p target (below.trans inside)

/-- Two trees have the same at two places and inside them. -/
def AgreeIn (L M : Place) (t u : Files) : Prop := ∀ ns, t.get? (L ++ ns) = u.get? (M ++ ns)

theorem AgreeIn.behind {M : Place} (agree : AgreeIn L M t u) (ns : List String) :
    AgreeIn (L ++ ns) (M ++ ns) t u := fun rest => by simpa only [List.append_assoc] using agree (ns ++ rest)

/-- Whatever stands in a tree stands in a directory. -/
def Closed (t : Files) : Prop := ∀ p e, t.get? p = some e → t.get? p.dropLast = some .directory

theorem closed_of_entries (closed : ∀ e ∈ t.entries, t.get? e.1.dropLast = some .directory) : t.Closed := by
  intro p e there
  by_cases root : p = []
  · subst root
    rfl
  · exact closed _ (mem_of_get? root there)

theorem Sound.isClosed (sound : t.Sound) : t.Closed := closed_of_entries sound.closed

theorem Closed.directory {rest : Place} (closed : t.Closed) (more : rest ≠ []) {e : Entry}
    (there : t.get? (p ++ rest) = some e) : t.get? p = some .directory := by
  induction rest using List.reverseRecOn generalizing e with
  | nil => exact absurd rfl more
  | append_singleton rest name ih =>
    have above := closed _ _ there
    rw [← List.append_assoc, List.dropLast_concat] at above
    by_cases last : rest = []
    · simpa [last] using above
    · exact ih last above

/-- Nothing stands below a place where nothing stands. -/
theorem Closed.outside {q : Place} (closed : t.Closed) (free : t.get? p = none) {e : Entry}
    (there : t.get? q = some e) : ¬ p <+: q := by
  rintro ⟨rest, rfl⟩
  by_cases last : rest = []
  · rw [last, List.append_nil, free] at there
    cases there
  · rw [closed.directory last there] at free
    cases free

/-! ### Taking a name -/

/-- How a walk that comes through takes its first name. -/
inductive Takes (t : Files) (follow : Bool) (jump : Place → List String → Except Nat Place) (at_ : Place)
    (name : String) (ns : List String) (p : Place) : Prop
  | dot : name = "." → t.walkFrom follow jump at_ ns = .ok p → Takes t follow jump at_ name ns p
  | dots : name = ".." → t.walkFrom follow jump at_.dropLast ns = .ok p → Takes t follow jump at_ name ns p
  | into : IsInner name → name.utf8ByteSize ≤ maxNameBytes → t.get? (at_ ++ [name]) = some .directory →
      t.walkFrom follow jump (at_ ++ [name]) ns = .ok p → Takes t follow jump at_ name ns p
  | last : IsInner name → name.utf8ByteSize ≤ maxNameBytes → t.get? (at_ ++ [name]) ≠ some .directory →
      (∀ target, t.get? (at_ ++ [name]) = some (.link target) → follow = false) → ns = [] →
      p = at_ ++ [name] → Takes t follow jump at_ name ns p
  | jump {target : String} : IsInner name → name.utf8ByteSize ≤ maxNameBytes →
      t.get? (at_ ++ [name]) = some (.link target) → (ns = [] → follow = true) →
      jump (if (Path.ofString target).isAbsolute then [] else at_) (targetNames target ++ ns) = .ok p →
      Takes t follow jump at_ name ns p

theorem takes_of_walkFrom (found : t.walkFrom follow jump at_ (name :: ns) = .ok p) :
    Takes t follow jump at_ name ns p := by
  rw [walkFrom] at found
  split at found
  · next dot => exact .dot dot found
  split at found
  · next dots => exact .dots dots found
  split at found
  · cases found
  next dot dots long =>
  have inner : IsInner name := ⟨dot, dots⟩
  have short : name.utf8ByteSize ≤ maxNameBytes := by omega
  simp only at found
  cases there : t.get? (at_ ++ [name]) with
  | none =>
    rw [there] at found
    simp only at found
    split at found
    · next last => exact .last inner short (by simp [there]) (by simp [there]) last (Except.ok.inj found).symm
    · cases found
  | some e =>
    rw [there] at found
    cases e with
    | file content x =>
      simp only at found
      split at found
      · next last => exact .last inner short (by simp [there]) (by simp [there]) last (Except.ok.inj found).symm
      · cases found
    | directory => exact .into inner short there found
    | link target =>
      simp only at found
      split at found
      · next stop =>
        exact .last inner short (by simp [there]) (fun _ _ => by simpa using stop.2) stop.1
          (Except.ok.inj found).symm
      · next onward =>
        refine .jump inner short there (fun last => ?_) found
        cases follow
        · exact absurd ⟨last, rfl⟩ onward
        · rfl

theorem walkFrom_of_takes (takes : Takes t follow jump at_ name ns p) :
    t.walkFrom follow jump at_ (name :: ns) = .ok p := by
  rw [walkFrom]
  cases takes with
  | dot dot found => rw [if_pos dot, found]
  | dots dots found =>
    subst dots
    exact found
  | into inner short there found =>
    rw [if_neg inner.dot, if_neg inner.dots, if_neg (by omega)]
    simp only [there, found]
  | last inner short leaf stop last here =>
    rw [if_neg inner.dot, if_neg inner.dots, if_neg (by omega), last, here]
    cases there : t.get? (at_ ++ [name]) with
    | none => simp [there]
    | some e =>
      cases e with
      | file content x => simp [there]
      | directory => exact absurd there leaf
      | link target => simp [there, stop target there]
  | jump inner short there through found =>
    rw [if_neg inner.dot, if_neg inner.dots, if_neg (by omega)]
    simp only [there]
    rw [if_neg, found]
    rintro ⟨last, stop⟩
    simp [through last] at stop

theorem walkFrom_cons_iff :
    t.walkFrom follow jump at_ (name :: ns) = .ok p ↔ Takes t follow jump at_ name ns p :=
  ⟨takes_of_walkFrom, walkFrom_of_takes⟩

/-! ### Following names downwards -/

theorem walkFrom_below (clear : Clear t at_) (inner : ∀ n ∈ ns, IsInner n)
    (directory : t.get? at_ = some .directory) (found : t.walkFrom follow jump at_ ns = .ok p) :
    p = at_ ++ ns ∧ (ns ≠ [] → t.get? p.dropLast = some .directory) := by
  induction ns generalizing at_ with
  | nil =>
    cases found
    simp
  | cons name ns ih =>
    have below : at_ <+: at_ ++ [name] := List.prefix_append ..
    cases walkFrom_cons_iff.1 found with
    | dot dot => exact absurd dot (inner name (by simp)).dot
    | dots dots => exact absurd dots (inner name (by simp)).dots
    | into _ _ there found =>
      obtain ⟨rfl, parent⟩ := ih (clear.mono below) (fun n mem => inner n (by simp [mem])) there found
      refine ⟨by simp, fun _ => ?_⟩
      by_cases last : ns = []
      · subst last
        simpa using directory
      · exact parent last
    | last _ _ _ _ last here =>
      subst last here
      exact ⟨rfl, fun _ => by simpa using directory⟩
    | jump _ _ there => exact absurd there (clear _ _ below)

theorem walkThrough_below (clear : Clear t at_) (inner : ∀ n ∈ ns, IsInner n)
    (directory : t.get? at_ = some .directory) (found : t.walkThrough follow links at_ ns = .ok p) :
    p = at_ ++ ns ∧ (ns ≠ [] → t.get? p.dropLast = some .directory) := by
  cases links <;> exact walkFrom_below clear inner directory found

/-- From a directory with the same inside a walk takes the same way downwards. -/
theorem walkFrom_moved {M : Place} (clear : Clear t at_) (agree : AgreeIn at_ M t u) (inner : ∀ n ∈ ns, IsInner n) :
    u.walkFrom follow' jump' M ns = (t.walkFrom follow jump at_ ns).map fun _ => M ++ ns := by
  induction ns generalizing at_ M with
  | nil => simp [walkFrom, Except.map]
  | cons name ns ih =>
    have here := inner name (by simp)
    have below : at_ <+: at_ ++ [name] := List.prefix_append ..
    have rest := ih (clear.mono below) (agree.behind [name]) fun n mem => inner n (by simp [mem])
    rw [List.append_assoc, List.singleton_append] at rest
    rw [walkFrom, walkFrom, if_neg here.dot, if_neg here.dots, if_neg here.dot, if_neg here.dots]
    simp only [← agree [name]]
    split
    · rfl
    · cases there : t.get? (at_ ++ [name]) with
      | none => by_cases last : ns = [] <;> simp [last, Except.map]
      | some e =>
        cases e with
        | file content x => by_cases last : ns = [] <;> simp [last, Except.map]
        | directory => exact rest
        | link target => exact absurd there (clear _ target below)

theorem walkThrough_moved {M : Place} {links' : Nat} (clear : Clear t at_) (agree : AgreeIn at_ M t u)
    (inner : ∀ n ∈ ns, IsInner n) :
    u.walkThrough follow' links' M ns = (t.walkThrough follow links at_ ns).map fun _ => M ++ ns := by
  cases links <;> cases links' <;> exact walkFrom_moved clear agree inner

/-- Where something stands names lead to it, unless one of them is too long. -/
theorem walkFrom_there (closed : t.Closed) (inner : ∀ n ∈ ns, IsInner n) {e : Entry}
    (there : t.get? (at_ ++ ns) = some e) (plain : ∀ target, e ≠ .link target) :
    t.walkFrom follow jump at_ ns =
      if ∀ n ∈ ns, n.utf8ByteSize ≤ maxNameBytes then .ok (at_ ++ ns)
      else .error SystemFault.nameTooLong := by
  induction ns generalizing at_ with
  | nil => simp [walkFrom]
  | cons name ns ih =>
    have here := inner name (by simp)
    have split : at_ ++ name :: ns = at_ ++ [name] ++ ns := by simp
    rw [split] at there
    have rest := ih (fun n mem => inner n (by simp [mem])) there
    rw [walkFrom, if_neg here.dot, if_neg here.dots]
    by_cases short : name.utf8ByteSize ≤ maxNameBytes
    · rw [if_neg (by omega)]
      simp only [split, List.forall_mem_cons, short, true_and]
      by_cases last : ns = []
      · subst last
        rw [List.append_nil] at there
        cases e with
        | file content x => simp [there]
        | directory => simp [there, walkFrom]
        | link target => exact absurd rfl (plain target)
      · simp only [closed.directory last there, rest]
    · rw [if_pos (by omega), if_neg]
      exact fun all => short (all name (by simp))

theorem walkThrough_there (closed : t.Closed) (inner : ∀ n ∈ ns, IsInner n) {e : Entry}
    (there : t.get? (at_ ++ ns) = some e) (plain : ∀ target, e ≠ .link target) :
    t.walkThrough follow links at_ ns =
      if ∀ n ∈ ns, n.utf8ByteSize ≤ maxNameBytes then .ok (at_ ++ ns)
      else .error SystemFault.nameTooLong := by
  cases links <;> exact walkFrom_there closed inner there plain

/-- Without links, names that lead to something hold no NUL. -/
theorem walkFrom_plain (sound : t.Sound) {e : Entry} (there : t.get? p = some e)
    (found : t.walkFrom follow jump at_ ns = .ok p) : ∀ n ∈ ns, '\x00' ∉ n.toList := by
  induction ns generalizing at_ with
  | nil => simp
  | cons name ns ih =>
    rw [List.forall_mem_cons]
    cases walkFrom_cons_iff.1 found with
    | dot dot found =>
      subst dot
      exact ⟨by decide, ih found⟩
    | dots dots found =>
      subst dots
      exact ⟨by decide, ih found⟩
    | into _ _ here found => exact ⟨(sound.isName here name (by simp)).nul, ih found⟩
    | last _ _ _ _ last here =>
      subst last here
      exact ⟨(sound.isName there name (by simp)).nul, by simp⟩
    | jump _ _ link => exact absurd link (sound.not_link _ _)

theorem walkThrough_plain (sound : t.Sound) {e : Entry} (there : t.get? p = some e)
    (found : t.walkThrough follow links at_ ns = .ok p) : ∀ n ∈ ns, '\x00' ∉ n.toList := by
  cases links <;> exact walkFrom_plain sound there found

/-! ### Behind a path that leads to a directory -/

/-- Behind names that lead to a directory a walk goes on from there, through fewer links perhaps. -/
theorem walkFrom_append (more : ns ≠ []) (directory : t.get? L = some .directory)
    (here : ∃ left, t.walkFrom follow jump' L ns = t.walkThrough follow left L ns)
    (onward : ∀ q names, jump q names = .ok L →
      ∃ left, jump' q (names ++ ns) = t.walkThrough follow left L ns)
    (found : t.walkFrom true jump at_ lead = .ok L) :
    ∃ left, t.walkFrom follow jump' at_ (lead ++ ns) = t.walkThrough follow left L ns := by
  induction lead generalizing at_ with
  | nil =>
    cases found
    exact here
  | cons name lead ih =>
    rw [List.cons_append, walkFrom]
    cases walkFrom_cons_iff.1 found with
    | dot dot found =>
      rw [if_pos dot]
      exact ih found
    | dots dots found =>
      subst dots
      exact ih found
    | into inner short there found =>
      rw [if_neg inner.dot, if_neg inner.dots, if_neg (by omega)]
      simp only [there]
      exact ih found
    | last _ _ leaf _ _ here =>
      subst here
      exact absurd directory leaf
    | jump inner short there _ found =>
      rw [if_neg inner.dot, if_neg inner.dots, if_neg (by omega)]
      simp only [there, List.append_eq_nil_iff, more, and_false, false_and, if_false]
      rw [← List.append_assoc]
      exact onward _ _ found

theorem walkThrough_append (more : ns ≠ []) (directory : t.get? L = some .directory)
    (found : t.walkThrough true links at_ lead = .ok L) :
    ∃ left, t.walkThrough follow links at_ (lead ++ ns) = t.walkThrough follow left L ns := by
  induction links generalizing at_ lead with
  | zero =>
    rw [walkThrough] at found ⊢
    exact walkFrom_append more directory ⟨0, rfl⟩ (fun _ _ loop => by cases loop) found
  | succ links ih => exact walkFrom_append more directory ⟨links + 1, rfl⟩ (fun _ _ => ih) found

/-! ### While directories and links stay -/

/-- What a walk goes through stays: directories and links. -/
structure Ways (t u : Files) : Prop where
  directory : ∀ q, t.get? q = some .directory → u.get? q = some .directory
  link : ∀ q target, t.get? q = some (.link target) → u.get? q = some (.link target)

theorem Ways.of_kept (kept : ∀ q e, t.get? q = some e → u.get? q = some e) : Ways t u :=
  ⟨fun q => kept q _, fun q target => kept q (.link target)⟩

theorem Ways.trans {v : Files} (first : Ways t u) (second : Ways u v) : Ways t v :=
  ⟨fun q there => second.directory q (first.directory q there),
    fun q target there => second.link q target (first.link q target there)⟩

theorem walkFrom_kept (ways : Ways t u) (stop : ∀ target, u.get? p = some (.link target) → follow' = false)
    (followed : follow = true → follow' = true)
    (onward : ∀ q names, jump q names = .ok p → jump' q names = .ok p)
    (found : t.walkFrom follow jump at_ ns = .ok p) : u.walkFrom follow' jump' at_ ns = .ok p := by
  induction ns generalizing at_ with
  | nil => exact found
  | cons name ns ih =>
    rw [walkFrom_cons_iff] at found ⊢
    cases found with
    | dot dot found => exact .dot dot (ih found)
    | dots dots found => exact .dots dots (ih found)
    | into inner short there found => exact .into inner short (ways.directory _ there) (ih found)
    | last inner short _ _ last here =>
      subst last here
      by_cases directory : u.get? (at_ ++ [name]) = some .directory
      · exact .into inner short directory rfl
      · exact .last inner short directory stop rfl rfl
    | jump inner short there through found =>
      exact .jump inner short (ways.link _ _ there) (fun last => followed (through last)) (onward _ _ found)

theorem walkThrough_kept (ways : Ways t u)
    (stop : ∀ target, u.get? p = some (.link target) → follow' = false)
    (followed : follow = true → follow' = true)
    (found : t.walkThrough follow links at_ ns = .ok p) : u.walkThrough follow' links at_ ns = .ok p := by
  induction links generalizing at_ ns with
  | zero =>
    rw [walkThrough] at found ⊢
    exact walkFrom_kept ways stop followed (fun _ _ loop => by cases loop) found
  | succ links ih => exact walkFrom_kept ways stop followed (fun _ _ => ih) found

/-- A path goes on leading to where it led, unless there is a link now that has to be followed. -/
theorem locate_kept {q : Path} (ways : Ways t u)
    (stop : ∀ target, u.get? p = some (.link target) → follow' = false)
    (followed : follow = true → follow' = true)
    (found : t.locate base follow q = .ok p) : u.locate base follow' q = .ok p := by
  unfold locate at found ⊢
  split at found
  · cases found
  · next short =>
    rw [if_neg short]
    exact walkThrough_kept ways stop followed found

/-- In a tree without links a path goes on leading to where it led while directories stay. -/
theorem locate_mono (sound : t.Sound) (sound' : u.Sound)
    (stay : ∀ q, t.get? q = some .directory → u.get? q = some .directory) {q : Path}
    (found : t.locate base follow q = .ok p) : u.locate base follow q = .ok p :=
  locate_kept ⟨stay, fun q target link => absurd link (sound.not_link q target)⟩
    (fun target link => absurd link (sound'.not_link p target)) id found

/-- Where following a path leads to something, not following its last link does so too. -/
theorem walkFrom_stop (there : t.get? p ≠ none)
    (onward : ∀ q names, jump q names = .ok p → ∃ p', jump' q names = .ok p' ∧ t.get? p' ≠ none)
    (found : t.walkFrom true jump at_ ns = .ok p) :
    ∃ p', t.walkFrom false jump' at_ ns = .ok p' ∧ t.get? p' ≠ none := by
  induction ns generalizing at_ with
  | nil =>
    cases found
    exact ⟨_, rfl, there⟩
  | cons name ns ih =>
    simp only [walkFrom_cons_iff] at found ⊢
    cases found with
    | dot dot found =>
      obtain ⟨p', leads, some⟩ := ih found
      exact ⟨p', .dot dot leads, some⟩
    | dots dots found =>
      obtain ⟨p', leads, some⟩ := ih found
      exact ⟨p', .dots dots leads, some⟩
    | into inner short here found =>
      obtain ⟨p', leads, some⟩ := ih found
      exact ⟨p', .into inner short here leads, some⟩
    | last inner short leaf _ last here =>
      subst here
      exact ⟨_, .last inner short leaf (fun _ _ => rfl) last rfl, there⟩
    | jump inner short here _ found =>
      by_cases last : ns = []
      · exact ⟨_, .last inner short (by simp [here]) (fun _ _ => rfl) last rfl, by simp [here]⟩
      · obtain ⟨p', leads, some⟩ := onward _ _ found
        exact ⟨p', .jump inner short here (fun empty => absurd empty last) leads, some⟩

theorem walkThrough_stop (there : t.get? p ≠ none) (found : t.walkThrough true links at_ ns = .ok p) :
    ∃ p', t.walkThrough false links at_ ns = .ok p' ∧ t.get? p' ≠ none := by
  induction links generalizing at_ ns with
  | zero =>
    rw [walkThrough] at found ⊢
    exact walkFrom_stop there (fun _ _ loop => by cases loop) found
  | succ links ih => exact walkFrom_stop there (fun _ _ => ih) found

end Regen.Files
