import Mathlib.Data.List.Nodup
import Mathlib.Data.Prod.Basic
import Regen.Generation.Remote
import Regen.Proofs.Files.Output
import Regen.Proofs.Path

/-!
# Relocations

Relocations copy staged files over others, one after the other. Those whose source is a file when it is reached are
the ones that are returned, and nothing but their destinations changes (`relocateAll_copies`). Where no destination
is a source and no two destinations are the same, every source stays and the order does not matter. A relocation is
refused when its source is no file, it is not optional and its path is not too long to be looked for; a path that is
too long is a fault of its own (`relocateAll_overlong`).
-/

namespace Regen

/-! ### Path texts that are as short as they can be -/

/-- A path text that leads downwards and is written as its path is. -/
structure Path.Normal (s : String) : Prop extends Path.Downward s where
  spelled : (Path.ofString s).toString = s

instance (s : String) : Decidable (Path.Normal s) :=
  decidable_of_iff (Path.Downward s ∧ (Path.ofString s).toString = s)
    ⟨fun h => ⟨h.1, h.2⟩, fun h => ⟨h.toDownward, h.spelled⟩⟩

theorem Path.Downward.root_eq {s : String} (down : Downward s) : (ofString s).root = "" := by
  simpa [isAbsolute] using down.relative

/-- Such texts are told apart by their names. -/
theorem Path.Normal.eq_of_parts {s t : String} (normal : Normal s) (normal' : Normal t)
    (same : (ofString s).parts = (ofString t).parts) : s = t := by
  have path : ofString s = ofString t := by
    have root : (ofString s).root = (ofString t).root := normal.root_eq.trans normal'.root_eq.symm
    cases a : ofString s
    cases b : ofString t
    simp_all
  rw [← normal.spelled, path, normal'.spelled]

/-! ### Files at the end of paths -/

namespace Files

variable {t : Files} {base L : Place} {q : Path} {root : String} {lead ns : List String} {content : Bytes}

/-- The path is too long to be looked for, or a name in it. -/
def Overlong (t : Files) (base : Place) (q : Path) : Prop :=
  q.hasNul = false ∧ t.locate base true q = .error SystemFault.nameTooLong

instance (t : Files) (base : Place) (q : Path) : Decidable (t.Overlong base q) :=
  inferInstanceAs (Decidable (_ ∧ _))

theorem bytes?_of_overlong (overlong : t.Overlong base q) : t.bytes? base q = none := by
  rw [bytes?, overlong.1, Files.read, overlong.2]
  rfl

/-- Behind a directory a name of too many bytes is a fault. -/
theorem overlong_of_name {name : String} (anchor : Anchor t base root lead L) (inner : IsInner name)
    (long : maxNameBytes < name.utf8ByteSize) (plain : Path.hasNul ⟨root, lead ++ [name]⟩ = false) :
    t.Overlong base ⟨root, lead ++ [name]⟩ := by
  refine ⟨plain, ?_⟩
  obtain ⟨left, walks⟩ := anchor.walks true (List.cons_ne_nil name [])
  rw [walks]
  split
  · rfl
  · cases left <;> rw [walkThrough, walkFrom, if_neg inner.dot, if_neg inner.dots, if_pos long]

/-- Behind a directory without links, a path leads to what stands at the place of its names. -/
theorem bytes?_behind (anchor : Anchor t base root lead L) (clear : Clear t L) (closed : t.Closed)
    (inner : ∀ n ∈ ns, IsInner n) : t.bytes? base ⟨root, lead ++ ns⟩ =
      if Path.hasNul ⟨root, lead ++ ns⟩ = false ∧ Fits ⟨root, lead ++ ns⟩ ns then t.content? (L ++ ns) else none := by
  refine Option.ext fun content => ?_
  rw [bytes?_eq_some_iff, Option.ite_none_right_eq_some, and_assoc]
  refine and_congr_right fun _ => ?_
  constructor
  · intro read
    obtain ⟨p, found, file⟩ := read_eq_ok read
    by_cases more : ns = []
    · rw [more, List.append_nil, anchor.found] at found
      obtain rfl := Except.ok.inj found
      rw [content?, anchor.directory] at file
      cases file
    · obtain ⟨rfl, -⟩ := anchor.locate clear inner more found
      obtain ⟨x, there⟩ := content?_eq_some_iff.1 file
      rw [anchor.locate_there closed inner more there Entry.file_ne_link] at found
      split at found
      · next fits => exact ⟨fits, file⟩
      · cases found
  · rintro ⟨fits, file⟩
    obtain ⟨x, there⟩ := content?_eq_some_iff.1 file
    have more : ns ≠ [] := by
      rintro rfl
      rw [List.append_nil, anchor.directory] at there
      cases there
    refine read_of_there ?_ there
    rw [anchor.locate_there closed inner more there Entry.file_ne_link, if_pos fits]

end Files

namespace Session

open Files

variable {host : Host} {w : World}

/-- What the question for a file is answered. -/
theorem runOn_isFile_cases (host : Host) (q : Path) (w : World) :
    (∃ content, w.files.bytes? host.cwd q = some content ∧ (isFile q).runOn host w = (.ok true, w)) ∨
    (w.files.bytes? host.cwd q = none ∧ ¬ w.files.Overlong host.cwd q ∧ (isFile q).runOn host w = (.ok false, w)) ∨
    (w.files.Overlong host.cwd q ∧
      (isFile q).runOn host w = (.error (.system ⟨SystemFault.nameTooLong, q.toString⟩), w)) := by
  unfold isFile Overlong bytes?
  cases plain : q.hasNul with
  | true => exact .inr (.inl ⟨rfl, fun h => Bool.false_ne_true h.1.symm, rfl⟩)
  | false =>
    rw [if_neg Bool.false_ne_true, if_neg Bool.false_ne_true, runOn_inspect, Files.isFile, Files.read]
    cases found : w.files.locate host.cwd true q with
    | error n =>
      by_cases long : n = SystemFault.nameTooLong
      · exact .inr (.inr ⟨⟨rfl, congrArg _ long⟩, by simp [long]⟩)
      · exact .inr (.inl ⟨rfl, fun h => long (Except.error.inj h.2), by simp [long]⟩)
    | ok p =>
      have short : (Except.ok p : Except Nat Place) ≠ .error SystemFault.nameTooLong := fun h => by cases h
      simp only [bind, Except.bind, readAt]
      cases there : w.files.get? p with
      | none => exact .inr (.inl ⟨rfl, fun h => short h.2, rfl⟩)
      | some e =>
        cases e with
        | file content x => exact .inl ⟨content, rfl, rfl⟩
        | directory => exact .inr (.inl ⟨rfl, fun h => short h.2, rfl⟩)
        | link target => exact .inr (.inl ⟨rfl, fun h => short h.2, rfl⟩)

theorem fault_of_runOn_demand {q : Path} {v : World} {e : Failure}
    (run : (demand q).runOn host w = (.error e, v)) : e = .outOfRange := by
  rw [runOn_demand] at run
  split at run
  · cases run
    rfl
  · cases run

theorem fault_of_runOn_makeDirectories {q : Path} {v : World} {e : Failure}
    (run : (makeDirectories q).runOn host w = (.error e, v)) : e = .outOfRange ∨ ∃ f, e = .system f := by
  cases plain : q.hasNul with
  | true =>
    rw [makeDirectories, runOn_bind_of_error (runOn_demand_of_nul plain)] at run
    cases run
    exact .inl rfl
  | false =>
    rw [runOn_makeDirectories plain] at run
    cases fault : (w.files.makeDirectories host.cwd q).2 with
    | none =>
      rw [fault] at run
      cases run
    | some f =>
      rw [fault] at run
      cases run
      exact .inr ⟨f, rfl⟩

/-- Writing a file fails as a file system does, or because its path is out of range. -/
theorem fault_of_runOn_writeFile {path : Path} {content : Bytes} {v : World} {e : Failure}
    (run : (writeFile path content).runOn host w = (.error e, v)) : e = .outOfRange ∨ ∃ f, e = .system f := by
  rcases runOn_bind_eq_error_iff.1 run with made | ⟨_, w₁, -, run⟩
  · exact fault_of_runOn_makeDirectories made
  rcases runOn_bind_eq_error_iff.1 run with refused | ⟨_, w₂, -, run⟩
  · exact .inl (fault_of_runOn_demand refused)
  rw [runOn_alter] at run
  cases written : w₂.files.write host.cwd path content with
  | ok t =>
    rw [written] at run
    cases run
  | error f =>
    rw [written] at run
    cases run
    exact .inr ⟨f, rfl⟩

end Session

namespace Generation

open Session Files

section

variable {host : Host} {staging : Path} {S : Place} {w u v : World} {r : Relocation} {rs : List Relocation}
  {done : List String}

/-! ### One relocation -/

/-- The warning about a relocation that is skipped. -/
def skipping (r : Relocation) : Event := .warned s!"Relocation source was not generated, skipping: {r.source}"

/-- How a relocation ends. -/
inductive Ends (host : Host) (staging : Path) (r : Relocation) (w : World) : Except Failure (List String) × World → Prop
  | copied {content : Bytes} {v : World} : w.files.bytes? host.cwd (staging.join r.source) = some content →
      (writeFile (staging.join r.destination) content).runOn host w = (.ok (), v) →
      Ends host staging r w (.ok [r.destination], v)
  | uncopied {content : Bytes} {e : Failure} {v : World} :
      w.files.bytes? host.cwd (staging.join r.source) = some content →
      (writeFile (staging.join r.destination) content).runOn host w = (.error e, v) →
      Ends host staging r w (.error e, v)
  | skipped : w.files.bytes? host.cwd (staging.join r.source) = none →
      ¬ w.files.Overlong host.cwd (staging.join r.source) → r.optional = true →
      Ends host staging r w (.ok [], w.noted [skipping r])
  | refused : w.files.bytes? host.cwd (staging.join r.source) = none →
      ¬ w.files.Overlong host.cwd (staging.join r.source) → r.optional = false →
      Ends host staging r w (.error (.config (.notRelocatable r.source)), w)
  | overlong : w.files.Overlong host.cwd (staging.join r.source) →
      Ends host staging r w (.error (.system ⟨SystemFault.nameTooLong, (staging.join r.source).toString⟩), w)

theorem ends_relocate (host : Host) (staging : Path) (r : Relocation) (w : World) :
    Ends host staging r w ((relocate staging [] r).runOn host w) := by
  rw [relocate]
  rcases runOn_isFile_cases host (staging.join r.source) w with
    ⟨content, file, asked⟩ | ⟨none, short, asked⟩ | ⟨overlong, asked⟩
  · have read := runOn_readFile_eq_ok_iff.2 ⟨(bytes?_eq_some_iff.1 file).1, (bytes?_eq_some_iff.1 file).2, rfl⟩
    rw [runOn_bind_of_ok asked, if_pos rfl, copyFile, bind_assoc, runOn_bind_of_ok read, runOn_bind]
    generalize wrote : (writeFile (staging.join r.destination) content).runOn host w = x
    obtain ⟨e | _, v⟩ := x
    · exact .uncopied file wrote
    · exact .copied file wrote
  · rw [runOn_bind_of_ok asked, if_neg Bool.false_ne_true]
    cases optional : r.optional with
    | true => exact .skipped none short optional
    | false => exact .refused none short optional
  · rw [runOn_bind_of_error asked]
    exact .overlong overlong

/-- What was returned before is kept in front. -/
theorem runOn_relocate (done : List String) (r : Relocation) (w : World) :
    (relocate staging done r).runOn host w =
      (((relocate staging [] r).runOn host w).1.map (done ++ ·), ((relocate staging [] r).runOn host w).2) := by
  rw [relocate, relocate, runOn_bind, runOn_bind]
  generalize (isFile (staging.join r.source)).runOn host w = asked
  obtain ⟨e | file, w'⟩ := asked
  · rfl
  · cases file with
    | true =>
      simp only [if_true]
      rw [runOn_bind, runOn_bind]
      generalize (copyFile (staging.join r.source) (staging.join r.destination)).runOn host w' = copied
      obtain ⟨e | _, v⟩ := copied
      · rfl
      · simp [Except.map]
    | false =>
      cases r.optional with
      | true => exact Prod.ext (congrArg Except.ok (List.append_nil done).symm) rfl
      | false => rfl

/-! ### Relocations, one after the other -/

theorem runOn_relocations (done : List String) (rs : List Relocation) (w : World) :
    (rs.foldlM (relocate staging) done).runOn host w =
      (((rs.foldlM (relocate staging) []).runOn host w).1.map (done ++ ·),
        ((rs.foldlM (relocate staging) []).runOn host w).2) := by
  induction rs generalizing done w with
  | nil => exact Prod.ext (congrArg Except.ok (List.append_nil done).symm) rfl
  | cons r rs ih =>
    rw [List.foldlM_cons, List.foldlM_cons, runOn_bind, runOn_bind, runOn_relocate done]
    generalize (relocate staging [] r).runOn host w = x
    obtain ⟨e | new, u⟩ := x
    · rfl
    · simp only [Except.map]
      rw [ih (done ++ new), ih new]
      cases ((rs.foldlM (relocate staging) []).runOn host u).1 <;> simp [Except.map]

/-- The world after a relocation. -/
def landing (host : Host) (staging : Path) (r : Relocation) (w : World) : World :=
  ((relocate staging [] r).runOn host w).2

/-- Each relocation with the world in which it is reached. -/
def reached (host : Host) (staging : Path) : List Relocation → World → List (Relocation × World)
  | [], _ => []
  | r :: rs, w => (r, w) :: reached host staging rs (landing host staging r w)

/-- The bytes of the source of a relocation, when it is a file. -/
def sourceBytes? (host : Host) (staging : Path) (r : Relocation) (w : World) : Option Bytes :=
  w.files.bytes? host.cwd (staging.join r.source)

/-- Relocations that come to their end: those whose source is a file are copied, the others are skipped. -/
inductive Runs (host : Host) (staging : Path) : List Relocation → World → List String → World → Prop
  | nil (w : World) : Runs host staging [] w [] w
  | copy {r : Relocation} {rs : List Relocation} {w v : World} {content : Bytes} {done : List String} :
      sourceBytes? host staging r w = some content →
      (writeFile (staging.join r.destination) content).runOn host w = (.ok (), landing host staging r w) →
      Runs host staging rs (landing host staging r w) done v → Runs host staging (r :: rs) w (r.destination :: done) v
  | skip {r : Relocation} {rs : List Relocation} {w v : World} {done : List String} :
      sourceBytes? host staging r w = none → r.optional = true → (landing host staging r w).files = w.files →
      Runs host staging rs (landing host staging r w) done v → Runs host staging (r :: rs) w done v

theorem runs_of_run (run : (rs.foldlM (relocate staging) []).runOn host w = (.ok done, v)) :
    Runs host staging rs w done v := by
  induction rs generalizing w done with
  | nil =>
    cases run
    exact .nil _
  | cons r rs ih =>
    obtain ⟨new, u, first, rest⟩ := runOn_bind_eq_ok_iff.1 run
    have ends := ends_relocate host staging r w
    have here : landing host staging r w = u := by rw [landing, first]
    rw [first] at ends
    rw [runOn_relocations] at rest
    obtain ⟨later, ran, rfl⟩ : ∃ later, (rs.foldlM (relocate staging) []).runOn host u = (.ok later, v) ∧
        done = new ++ later := by
      generalize (rs.foldlM (relocate staging) []).runOn host u = x at rest ⊢
      obtain ⟨e | later, v'⟩ := x
      · cases rest
      · cases rest
        exact ⟨later, rfl, rfl⟩
    cases ends with
    | copied file wrote => exact .copy file (here ▸ wrote) (here ▸ ih ran)
    | skipped none _ optional => exact .skip none optional (by rw [here]; rfl) (here ▸ ih ran)

/-! ### In a staging directory -/

/-- The place of a path text in a staging directory. -/
def placeIn (S : Place) (text : String) : Place := S ++ (Path.ofString text).parts

theorem placeIn_inj {a b : String} (normal : Path.Normal a) (normal' : Path.Normal b)
    (same : placeIn S a = placeIn S b) : a = b := normal.eq_of_parts normal' (List.append_cancel_left same)

/-- A staging directory in which no link stands. -/
structure Linkless (t : Files) (base : Place) (staging : Path) (S : Place) : Prop where
  anchor : Anchor t base staging.root staging.parts S
  clear : Clear t S
  closed : t.Closed

theorem Linkless.bytes?_eq {t : Files} {base : Place} {text : String} (staged : Linkless t base staging S)
    (down : Path.Downward text) : t.bytes? base (staging.join text) =
      if (staging.join text).hasNul = false ∧ Fits (staging.join text) (Path.ofString text).parts then
        t.content? (placeIn S text) else none := by
  rw [down.join]
  exact bytes?_behind staged.anchor staged.clear staged.closed down.isInner

/-- What a path text leads to there is told by what stands at its place. -/
theorem Linkless.bytes?_congr {t t' : Files} {base : Place} {text : String} (staged : Linkless t base staging S)
    (staged' : Linkless t' base staging S) (down : Path.Downward text)
    (same : t'.content? (placeIn S text) = t.content? (placeIn S text)) :
    t'.bytes? base (staging.join text) = t.bytes? base (staging.join text) := by
  rw [staged.bytes?_eq down, staged'.bytes?_eq down, same]

/-- A file is written at the place of its path text. -/
theorem Linkless.write {text : String} {content : Bytes} (staged : Linkless w.files host.cwd staging S)
    (down : Path.Downward text) (run : (writeFile (staging.join text) content).runOn host w = (.ok (), v)) :
    Wrote w.files v.files (placeIn S text) content ∧ Linkless v.files host.cwd staging S := by
  have anchor := staged.anchor.kept (ways_of_runOn_writeFile run)
  have more : (Path.ofString text).parts ≠ [] := by
    intro none
    obtain ⟨p, found, file⟩ := read_eq_ok (read_of_runOn_writeFile run)
    rw [down.join, none, List.append_nil, anchor.found] at found
    obtain rfl := Except.ok.inj found
    rw [content?, anchor.directory] at file
    cases file
  rw [down.join] at run
  rcases runOn_writeFile_cases staged.anchor staged.clear down.isInner more content with
    ⟨e, t, fails, -⟩ | ⟨t, done, wrote, -⟩
  · cases run.symm.trans fails
  · cases run.symm.trans done
    exact ⟨wrote, anchor, wrote.clear staged.clear, wrote.closed staged.closed⟩

/-- A file that is written leaves what another path text leads to. -/
theorem Linkless.bytes?_write {text goal : String} {content : Bytes} (staged : Linkless w.files host.cwd staging S)
    (normal : Path.Normal goal) (short : Path.Normal text) (other : text ≠ goal)
    (run : (writeFile (staging.join goal) content).runOn host w = (.ok (), v)) :
    v.files.bytes? host.cwd (staging.join text) = w.files.bytes? host.cwd (staging.join text) := by
  obtain ⟨wrote, staged'⟩ := staged.write normal.toDownward run
  exact staged.bytes?_congr staged' short.toDownward
    (wrote.content?_of_ne fun same => other (placeIn_inj short normal same))

/-- The path texts of relocations are as short as they can be. -/
def AllNormal (rs : List Relocation) : Prop := ∀ r ∈ rs, Path.Normal r.source ∧ Path.Normal r.destination

/-- What relocations write when their sources hold the given bytes. -/
def relocated (S : Place) (held : Relocation → Option Bytes) (rs : List Relocation) (p : Place) : Option Bytes :=
  rs.findSome? fun r => if p = placeIn S r.destination then held r else none

theorem relocated_cons (held : Relocation → Option Bytes) (r : Relocation) (rs : List Relocation) :
    relocated S held (r :: rs) =
      fun p => (if p = placeIn S r.destination then held r else none).or (relocated S held rs p) := by
  funext p
  rw [relocated, List.findSome?_cons, relocated]
  split <;> simp_all

namespace Runs

theorem mem_destinations (runs : Runs host staging rs w done v) {d : String} (mem : d ∈ done) :
    ∃ r ∈ rs, r.destination = d := by
  induction runs with
  | nil => cases mem
  | @copy r rs _ _ _ _ _ _ _ ih =>
    rcases List.mem_cons.1 mem with rfl | mem
    · exact ⟨r, List.mem_cons_self, rfl⟩
    · obtain ⟨r', inside, here⟩ := ih mem
      exact ⟨r', List.mem_cons_of_mem r inside, here⟩
  | @skip r rs _ _ _ _ _ _ _ ih =>
    obtain ⟨r', inside, here⟩ := ih mem
    exact ⟨r', List.mem_cons_of_mem r inside, here⟩

theorem staged (runs : Runs host staging rs w done v) (normal : AllNormal rs)
    (staged : Linkless w.files host.cwd staging S) : Linkless v.files host.cwd staging S := by
  induction runs with
  | nil => exact staged
  | copy file wrote _ ih =>
    obtain ⟨here, rest⟩ := List.forall_mem_cons.1 normal
    exact ih rest (staged.write here.2.toDownward wrote).2
  | skip _ _ same _ ih => exact ih (List.forall_mem_cons.1 normal).2 (same ▸ staged)

/-- Places that are no returned destination keep their bytes. -/
theorem kept (runs : Runs host staging rs w done v) (normal : AllNormal rs)
    (staged : Linkless w.files host.cwd staging S) {p : Place} (other : ∀ d ∈ done, p ≠ placeIn S d) :
    v.files.content? p = w.files.content? p := by
  induction runs with
  | nil => rfl
  | copy file wrote _ ih =>
    obtain ⟨here, rest⟩ := List.forall_mem_cons.1 normal
    obtain ⟨goal, others⟩ := List.forall_mem_cons.1 other
    obtain ⟨wrote, staged⟩ := staged.write here.2.toDownward wrote
    exact (ih rest staged others).trans (wrote.content?_of_ne goal)
  | skip _ _ same _ ih =>
    exact (ih (List.forall_mem_cons.1 normal).2 (same ▸ staged) other).trans (by rw [same])

/-- A path text that is no returned destination leads to what it led to. -/
theorem bytes?_kept (runs : Runs host staging rs w done v) (normal : AllNormal rs)
    (staged : Linkless w.files host.cwd staging S) {text : String} (short : Path.Normal text) (other : text ∉ done) :
    v.files.bytes? host.cwd (staging.join text) = w.files.bytes? host.cwd (staging.join text) := by
  refine staged.bytes?_congr (runs.staged normal staged) short.toDownward (runs.kept normal staged ?_)
  rintro d mem same
  obtain ⟨r, inside, rfl⟩ := runs.mem_destinations mem
  exact other (placeIn_inj short (normal r inside).2 same ▸ mem)

theorem returned (runs : Runs host staging rs w done v) : done =
    ((reached host staging rs w).filter fun x => (sourceBytes? host staging x.1 x.2).isSome).map (·.1.destination) := by
  induction runs with
  | nil => rfl
  | copy file _ _ ih => rw [reached, List.filter_cons_of_pos (by simp [file]), List.map_cons, ← ih]
  | skip none _ _ _ ih => rw [reached, List.filter_cons_of_neg (by simp [none]), ← ih]

theorem optional (runs : Runs host staging rs w done v) :
    ∀ x ∈ reached host staging rs w, sourceBytes? host staging x.1 x.2 = none → x.1.optional = true := by
  induction runs with
  | nil => exact nofun
  | copy file _ _ ih => exact List.forall_mem_cons.2 ⟨fun none => by simp [file] at none, ih⟩
  | skip _ optional _ _ ih => exact List.forall_mem_cons.2 ⟨fun _ => optional, ih⟩

/-- A destination holds what the source of its last relocation held when that was reached. -/
theorem last (runs : Runs host staging rs w done v) (normal : AllNormal rs)
    (staged : Linkless w.files host.cwd staging S) {d : String} (mem : d ∈ done) :
    ∃ front r u back content, reached host staging rs w = front ++ (r, u) :: back ∧ r.destination = d ∧
      sourceBytes? host staging r u = some content ∧
      (∀ x ∈ back, x.1.destination = d → sourceBytes? host staging x.1 x.2 = none) ∧
      v.files.bytes? host.cwd (staging.join d) = some content := by
  induction runs with
  | nil => cases mem
  | @copy r rs w v content done file wrote rest ih =>
    obtain ⟨here, normal⟩ := List.forall_mem_cons.1 normal
    obtain ⟨written, staged⟩ := staged.write here.2.toDownward wrote
    by_cases later : d ∈ done
    · obtain ⟨front, r', u, back, content', way, found⟩ := ih normal staged later
      exact ⟨(r, w) :: front, r', u, back, content', by rw [reached, way, List.cons_append], found⟩
    · obtain rfl := (List.mem_cons.1 mem).resolve_right later
      refine ⟨[], r, w, _, content, rfl, rfl, file, fun x inside same => ?_, ?_⟩
      · by_contra some
        refine later ?_
        rw [rest.returned, ← same]
        exact List.mem_map_of_mem (List.mem_filter.2 ⟨inside, Option.isSome_iff_ne_none.2 some⟩)
      · rw [rest.bytes?_kept normal staged here.2 later]
        exact bytes?_eq_some_iff.2 ⟨(runOn_writeFile_eq_ok wrote).1, read_of_runOn_writeFile wrote⟩
  | @skip r rs w v done none _ same _ ih =>
    obtain ⟨front, r', u, back, content', way, found⟩ :=
      ih (List.forall_mem_cons.1 normal).2 (same ▸ staged) mem
    exact ⟨(r, w) :: front, r', u, back, content', by rw [reached, way, List.cons_append], found⟩

/-- A path text that no relocation leads to leads to one thing all the time. -/
theorem bytes?_reached (runs : Runs host staging rs w done v) (normal : AllNormal rs)
    (staged : Linkless w.files host.cwd staging S) {text : String} (short : Path.Normal text)
    (other : ∀ r ∈ rs, text ≠ r.destination) : ∀ x ∈ reached host staging rs w,
      x.2.files.bytes? host.cwd (staging.join text) = w.files.bytes? host.cwd (staging.join text) := by
  induction runs with
  | nil => exact nofun
  | copy file wrote _ ih =>
    obtain ⟨here, normal⟩ := List.forall_mem_cons.1 normal
    obtain ⟨goal, others⟩ := List.forall_mem_cons.1 other
    obtain ⟨-, staged'⟩ := staged.write here.2.toDownward wrote
    refine List.forall_mem_cons.2 ⟨rfl, fun x mem => (ih normal staged' others x mem).trans ?_⟩
    exact staged.bytes?_write here.2 short goal wrote
  | skip _ _ same _ ih =>
    refine List.forall_mem_cons.2 ⟨rfl, fun x mem => ?_⟩
    rw [← same]
    exact ih (List.forall_mem_cons.1 normal).2 (same ▸ staged) (List.forall_mem_cons.1 other).2 x mem

/-! ### Relocations that do not meet -/

/-- Where no destination is a source and no two are the same, relocations write what the sources held at first. -/
theorem output (runs : Runs host staging rs w done v) (normal : AllNormal rs)
    (staged : Linkless w.files host.cwd staging S) (apart : ∀ r ∈ rs, ∀ r' ∈ rs, r'.source ≠ r.destination)
    (distinct : (rs.map (·.destination)).Nodup) (held : Relocation → Option Bytes)
    (told : ∀ r ∈ rs, sourceBytes? host staging r w = held r) :
    Output (relocated S held rs) w.files v.files := by
  induction runs with
  | nil => exact .refl _
  | @copy r rs w v content done file wrote rest ih =>
    obtain ⟨here, normal⟩ := List.forall_mem_cons.1 normal
    obtain ⟨fresh, distinct⟩ := List.nodup_cons.1 distinct
    obtain ⟨first, told⟩ := List.forall_mem_cons.1 told
    obtain ⟨written, staged'⟩ := staged.write here.2.toDownward wrote
    have one := written.output (executableAt_of_runOn_writeFile wrote)
    have later := ih normal staged' (fun r mem r' mem' => apart r (.tail _ mem) r' (.tail _ mem')) distinct
      fun r' mem => by
        rw [← told r' mem]
        exact staged.bytes?_write here.2 (normal r' mem).1 (apart r (.head _) r' (.tail _ mem)) wrote
    rw [relocated_cons, ← first, file]
    refine one.trans later fun p a b wrote again => ?_
    obtain ⟨r', mem, found⟩ := List.exists_of_findSome?_eq_some again
    have here' : p = placeIn S r.destination := (Option.ite_none_right_eq_some.1 wrote).1
    have there : p = placeIn S r'.destination := (Option.ite_none_right_eq_some.1 found).1
    have same := placeIn_inj here.2 (normal r' mem).2 (here'.symm.trans there)
    exact absurd (List.mem_map.2 ⟨r', mem, same.symm⟩) fresh
  | @skip r rs w v done none _ same _ ih =>
    obtain ⟨first, told⟩ := List.forall_mem_cons.1 told
    have rest := ih (List.forall_mem_cons.1 normal).2 (same ▸ staged)
      (fun r mem r' mem' => apart r (.tail _ mem) r' (.tail _ mem')) (List.nodup_cons.1 distinct).2 fun r' mem => by
        rw [← told r' mem, sourceBytes?, same]
        rfl
    have all : relocated S held (r :: rs) = relocated S held rs := by
      simp only [relocated_cons, ← first, none, ite_self, Option.none_or]
    rw [all, ← same]
    exact rest

end Runs

theorem mem_of_mem_reached {x : Relocation × World} (mem : x ∈ reached host staging rs w) : x.1 ∈ rs := by
  induction rs generalizing w with
  | nil => cases mem
  | cons r rs ih =>
    rcases List.mem_cons.1 mem with rfl | mem
    · exact List.mem_cons_self
    · exact List.mem_cons_of_mem r (ih mem)

theorem exists_reached (host : Host) (staging : Path) (mem : r ∈ rs) (w : World) :
    ∃ u, (r, u) ∈ reached host staging rs w := by
  induction rs generalizing w with
  | nil => cases mem
  | cons r' rs ih =>
    rcases List.mem_cons.1 mem with rfl | mem
    · exact ⟨w, List.mem_cons_self⟩
    · obtain ⟨u, inside⟩ := ih mem (landing host staging r' w)
      exact ⟨u, List.mem_cons_of_mem _ inside⟩

/-- No destination is a source, and no two destinations are the same. -/
structure Unmet (rs : List Relocation) : Prop where
  apart : ∀ r ∈ rs, ∀ r' ∈ rs, r'.source ≠ r.destination
  distinct : (rs.map (·.destination)).Nodup

theorem Unmet.perm {rs' : List Relocation} (unmet : Unmet rs) (perm : rs.Perm rs') : Unmet rs' where
  apart r mem r' mem' := unmet.apart r (perm.mem_iff.2 mem) r' (perm.mem_iff.2 mem')
  distinct := (perm.map _).nodup_iff.1 unmet.distinct

section Unmet

variable (normal : AllNormal rs) (unmet : Unmet rs) (staged : Linkless w.files host.cwd staging S)

include normal unmet staged

theorem Runs.sourceBytes?_reached (runs : Runs host staging rs w done v) (mem : r ∈ rs) :
    ∀ x ∈ reached host staging rs w, sourceBytes? host staging r x.2 = sourceBytes? host staging r w :=
  runs.bytes?_reached normal staged (normal r mem).1 fun r' mem' => unmet.apart r' mem' r mem

/-- A source that is a file at first is copied to its destination. -/
theorem Runs.holds (runs : Runs host staging rs w done v) (mem : r ∈ rs) {content : Bytes}
    (file : sourceBytes? host staging r w = some content) :
    r.destination ∈ done ∧ v.files.bytes? host.cwd (staging.join r.destination) = some content := by
  obtain ⟨u, inside⟩ := exists_reached host staging mem w
  have there := (runs.sourceBytes?_reached normal unmet staged mem _ inside).trans file
  have returned : r.destination ∈ done := by
    rw [runs.returned]
    exact List.mem_map.2 ⟨(r, u), List.mem_filter.2 ⟨inside, by simp only [there, Option.isSome_some]⟩, rfl⟩
  obtain ⟨front, r', u', back, content', way, same, copied, -, holds⟩ := runs.last normal staged returned
  have known : (r', u') ∈ reached host staging rs w := by simp [way]
  obtain rfl := List.inj_on_of_nodup_map unmet.distinct (mem_of_mem_reached known) mem same
  have first := (runs.sourceBytes?_reached normal unmet staged mem _ known).symm.trans copied
  rw [file] at first
  exact ⟨returned, holds.trans first.symm⟩

/-- In another order the same is left. -/
theorem Runs.get?_reordered (runs : Runs host staging rs w done v) {rs' : List Relocation} {done' : List String}
    {v' : World} (perm : rs.Perm rs') (runs' : Runs host staging rs' w done' v') (p : Place) :
    v'.files.get? p = v.files.get? p := by
  have normal' : AllNormal rs' := fun r mem => normal r (perm.mem_iff.2 mem)
  have unmet' := unmet.perm perm
  have output := runs.output normal staged unmet.apart unmet.distinct (fun r => sourceBytes? host staging r w)
    fun _ _ => rfl
  have output' := runs'.output normal' staged unmet'.apart unmet'.distinct (fun r => sourceBytes? host staging r w)
    fun _ _ => rfl
  have same : relocated S (fun r => sourceBytes? host staging r w) rs =
      relocated S (fun r => sourceBytes? host staging r w) rs' := by
    funext p
    refine findSome?_eq_of_perm perm fun r mem r' mem' a b first second => ?_
    obtain ⟨here, first⟩ := Option.ite_none_right_eq_some.1 first
    obtain ⟨there, second⟩ := Option.ite_none_right_eq_some.1 second
    have goals := placeIn_inj (normal r mem).2 (normal r' mem').2 (here.symm.trans there)
    obtain rfl := List.inj_on_of_nodup_map unmet.distinct mem mem' goals
    exact Option.some.inj (first.symm.trans second)
  rw [← same] at output'
  exact output'.unique output (runs'.staged normal' staged).closed (runs.staged normal staged).closed p

end Unmet

/-! ### Relocations that are refused -/

theorem runOn_relocate_of_refused (none : sourceBytes? host staging r w = none)
    (short : ¬ w.files.Overlong host.cwd (staging.join r.source)) (optional : r.optional = false) :
    (relocate staging [] r).runOn host w = (.error (.config (.notRelocatable r.source)), w) := by
  have ends := ends_relocate host staging r w
  generalize (relocate staging [] r).runOn host w = x at ends ⊢
  cases ends with
  | copied file => cases none.symm.trans file
  | uncopied file => cases none.symm.trans file
  | skipped _ _ skips => cases optional.symm.trans skips
  | refused => rfl
  | overlong overlong => exact absurd overlong short

/-- The configuration is at fault when a relocation that is not optional is reached whose source is no file. -/
theorem runOn_relocations_config_iff {fault : ConfigFault} :
    (rs.foldlM (relocate staging) []).runOn host w = (.error (.config fault), v) ↔
      ∃ front r back done, rs = front ++ r :: back ∧
        (front.foldlM (relocate staging) []).runOn host w = (.ok done, v) ∧ r.optional = false ∧
        sourceBytes? host staging r v = none ∧ ¬ v.files.Overlong host.cwd (staging.join r.source) ∧
        fault = .notRelocatable r.source := by
  constructor
  · intro run
    induction rs generalizing w with
    | nil => cases run
    | cons r rs ih =>
      have ends := ends_relocate host staging r w
      rcases runOn_bind_eq_error_iff.1 run with first | ⟨new, u, first, rest⟩
      · rw [first] at ends
        cases ends with
        | uncopied _ wrote =>
          obtain other | ⟨f, other⟩ := fault_of_runOn_writeFile wrote
          · cases other
          · cases other
        | refused none short optional => exact ⟨[], r, rs, [], rfl, rfl, optional, none, short, rfl⟩
      · rw [runOn_relocations] at rest
        have later : (rs.foldlM (relocate staging) []).runOn host u = (.error (.config fault), v) := by
          generalize (rs.foldlM (relocate staging) []).runOn host u = x at rest ⊢
          obtain ⟨e | done, v'⟩ := x <;> cases rest
          rfl
        obtain ⟨front, r', back, done, rfl, ran, refused⟩ := ih later
        refine ⟨r :: front, r', back, new ++ done, rfl, ?_, refused⟩
        rw [List.foldlM_cons, runOn_bind_of_ok first, runOn_relocations, ran]
        rfl
  · rintro ⟨front, r, back, done, rfl, ran, optional, none, short, rfl⟩
    rw [List.foldlM_append, runOn_bind_of_ok ran, List.foldlM_cons]
    refine runOn_bind_of_error ?_ _
    rw [runOn_relocate, runOn_relocate_of_refused none short optional]
    rfl

theorem runOn_relocate_of_overlong (overlong : w.files.Overlong host.cwd (staging.join r.source)) :
    (relocate staging [] r).runOn host w =
      (.error (.system ⟨SystemFault.nameTooLong, (staging.join r.source).toString⟩), w) := by
  have none := bytes?_of_overlong overlong
  have ends := ends_relocate host staging r w
  generalize (relocate staging [] r).runOn host w = x at ends ⊢
  cases ends with
  | copied file => cases none.symm.trans file
  | uncopied file => cases none.symm.trans file
  | skipped _ short => exact absurd overlong short
  | refused _ short => exact absurd overlong short
  | overlong => rfl

/-! ### All relocations of a configuration -/

/-- What relocations that come to their end have done. -/
structure Moved (host : Host) (staging : Path) (S : Place) (rs : List Relocation) (w : World) (done : List String)
    (v : World) : Prop where
  /-- Those whose source was a file when they were reached are returned, the others are optional. -/
  returned : done =
    ((reached host staging rs w).filter fun x => (sourceBytes? host staging x.1 x.2).isSome).map (·.1.destination)
  optional : ∀ x ∈ reached host staging rs w, sourceBytes? host staging x.1 x.2 = none → x.1.optional = true
  kept : ∀ p, (∀ d ∈ done, p ≠ placeIn S d) → v.files.content? p = w.files.content? p
  /-- A destination holds what the source of its last relocation held when that was reached. -/
  last : ∀ d ∈ done, ∃ front r u back content, reached host staging rs w = front ++ (r, u) :: back ∧
    r.destination = d ∧ sourceBytes? host staging r u = some content ∧
    (∀ x ∈ back, x.1.destination = d → sourceBytes? host staging x.1 x.2 = none) ∧
    v.files.bytes? host.cwd (staging.join d) = some content
  /-- Where relocations do not meet, destinations hold what the sources held at first. -/
  holds : Unmet rs → ∀ r ∈ rs, ∀ content, sourceBytes? host staging r w = some content →
    r.destination ∈ done ∧ v.files.bytes? host.cwd (staging.join r.destination) = some content
  stays : Unmet rs → ∀ r ∈ rs, sourceBytes? host staging r v = sourceBytes? host staging r w
  reordered : Unmet rs → ∀ rs' done' v', rs.Perm rs' →
    (rs'.foldlM (relocate staging) []).runOn host w = (.ok done', v') → ∀ p, v'.files.get? p = v.files.get? p

/-- **Relocations copy and never lose.** Relocations that come to their end in a staging directory have copied the
sources that were files when they were reached, and nothing else has changed; where they do not meet their order does
not matter. The configuration is at fault exactly when a relocation that is not optional is reached whose source is
not a file, unless its path is too long to be looked for. -/
theorem relocateAll_copies (s : Settings) (host : Host) (staging : Path) (w : World) :
    (∀ S, Linkless w.files host.cwd staging S → AllNormal s.config.relocations →
      ∀ done v, (relocateAll s staging).runOn host w = (.ok done, v) →
        Moved host staging S s.config.relocations w done v) ∧
    ∀ fault v, (relocateAll s staging).runOn host w = (.error (.config fault), v) ↔
      ∃ front r back done, s.config.relocations = front ++ r :: back ∧
        (front.foldlM (relocate staging) []).runOn host w = (.ok done, v) ∧ r.optional = false ∧
        sourceBytes? host staging r v = none ∧ ¬ v.files.Overlong host.cwd (staging.join r.source) ∧
        fault = .notRelocatable r.source := by
  refine ⟨fun S staged normal done v run => ?_, fun fault v => runOn_relocations_config_iff⟩
  have runs := runs_of_run run
  constructor
  case returned => exact runs.returned
  case optional => exact runs.optional
  case kept => exact fun p other => runs.kept normal staged other
  case last => exact fun d mem => runs.last normal staged mem
  case holds => exact fun unmet r mem content file => runs.holds normal unmet staged mem file
  case stays =>
    intro unmet r mem
    refine runs.bytes?_kept normal staged (normal r mem).1 fun inside => ?_
    obtain ⟨r', mem', same⟩ := runs.mem_destinations inside
    exact unmet.apart r' mem' r mem same.symm
  case reordered =>
    exact fun unmet rs' done' v' perm run' => runs.get?_reordered normal unmet staged perm (runs_of_run run')

end

/-! ### A staging directory with two files -/

namespace Relocating

/-- A staging directory with two files, one of them in a directory. -/
def tree : Files :=
  ⟨[(["stage"], .directory), (["stage", "a.go"], .file [1] false), (["stage", "m"], .directory),
    (["stage", "m", "b.go"], .file [2] true)]⟩

def staging : Path := ⟨"", ["stage"]⟩

def host : Host := ⟨[], [], "gen", fun _ => none, fun _ t => (.unstarted 2, t), fun _ n => n, fun _ => false⟩

def settings (rs : List Relocation) : Settings :=
  ⟨.batch, .diff, ⟨"", []⟩, "m", none, "gen", [], none, { Config.default with relocations := rs }⟩

/-- Two copies, one over the other file and one into a new directory, and a source that is not there. -/
def relocations : List Relocation :=
  [⟨"a.go", "m/b.go", false⟩, ⟨"gone.go", "c.go", true⟩, ⟨"a.go", "n/a.go", false⟩]

/-- A name of more than `k` bytes. -/
def nameOver (k : Nat) : String := String.ofList (List.replicate (k + 1) 'n')

def overlong : Relocation := ⟨nameOver 299, "d", false⟩

theorem staged : Linkless tree host.cwd staging ["stage"] where
  anchor := ⟨by decide, rfl⟩
  clear := clear_of_entries (by simp [tree]) _
  closed := closed_of_entries (by decide)

theorem normal : AllNormal relocations := by
  have all : ∀ r ∈ relocations, Path.Normal r.source ∧ Path.Normal r.destination := by decide
  exact all

/-- A copy, and a source that has to be there and is not. -/
def copied : Relocation := ⟨"a.go", "d.go", false⟩

def missing : Relocation := ⟨"b.go", "d.go", false⟩

theorem unmet : Unmet relocations where
  apart := by decide
  distinct := by decide

end Relocating

open Relocating in
theorem relocateAll_copies_sample :
    (∃ v, (relocateAll (settings relocations) staging).runOn host ⟨tree, []⟩ = (.ok ["m/b.go", "n/a.go"], v) ∧
      Moved host staging ["stage"] relocations ⟨tree, []⟩ ["m/b.go", "n/a.go"] v ∧
      v.files.bytes? host.cwd (staging.join "m/b.go") = some [1]) ∧
    ∃ v, (relocateAll (settings [copied, missing]) staging).runOn host ⟨tree, []⟩ =
      (.error (.config (.notRelocatable "b.go")), v) := by
  constructor
  · have ran : ((relocateAll (settings relocations) staging).runOn host ⟨tree, []⟩).1 = .ok ["m/b.go", "n/a.go"] := by
      decide +kernel
    have run := Prod.fst_eq_iff.1 ran
    have moved := (relocateAll_copies (settings relocations) host staging ⟨tree, []⟩).1 _ staged normal _ _ run
    exact ⟨_, run, moved, (moved.holds unmet ⟨"a.go", "m/b.go", false⟩ (by decide) [1] (by decide)).2⟩
  · have ran : (([copied].foldlM (relocate staging) []).runOn host ⟨tree, []⟩).1 = .ok ["d.go"] := by decide +kernel
    have run := Prod.fst_eq_iff.1 ran
    refine ⟨_, ((relocateAll_copies (settings [copied, missing]) host staging ⟨tree, []⟩).2 _ _).2
      ⟨[copied], missing, [], _, rfl, run, rfl, ?_, ?_, rfl⟩⟩
    · decide +kernel
    · decide +kernel

namespace Relocating

theorem toList_nameOver (k : Nat) : (nameOver k).toList = 'n' :: List.replicate k 'n' := String.toList_ofList

theorem segment_nameOver (k : Nat) : Path.IsSegment (nameOver k) where
  part := by
    rw [toList_nameOver]
    rfl
  slash := by simp [toList_nameOver]

theorem ofString_nameOver (k : Nat) : Path.ofString (nameOver k) = ⟨"", [nameOver k]⟩ := by
  have root : Path.rootOf (nameOver k).toList = "" := (Path.rootOf_eq_empty_iff _).2 (by simp [toList_nameOver])
  rw [Path.ofString, root]
  exact congrArg _ (Path.namesOf_segment (segment_nameOver k))

theorem inner_nameOver (k : Nat) : IsInner (nameOver k) := by
  have head {s : String} (other : s.toList.head? ≠ some 'n') : nameOver k ≠ s := by
    rintro rfl
    exact other (by rw [toList_nameOver]; rfl)
  exact ⟨head (by decide), head (by decide)⟩

theorem normal_nameOver (k : Nat) : Path.Normal (nameOver k) where
  relative := by
    rw [ofString_nameOver]
    rfl
  inner := by
    rw [ofString_nameOver]
    exact fun mem => (inner_nameOver k).dots (List.mem_singleton.1 mem).symm
  spelled := by
    rw [ofString_nameOver]
    simp [Path.toString]

theorem overlong_nameOver {k : Nat} (long : maxNameBytes < (nameOver k).utf8ByteSize) :
    tree.Overlong host.cwd (staging.join (nameOver k)) := by
  have plain : Path.hasNul ⟨"", ["stage"] ++ [nameOver k]⟩ = false := by simp [Path.hasNul, toList_nameOver]
  rw [(normal_nameOver k).toDownward.join, ofString_nameOver]
  exact overlong_of_name staged.anchor (inner_nameOver k) long plain

end Relocating

open Relocating in
/-- A source that is no file is not refused when its path is too long. -/
theorem relocateAll_overlong : AllNormal [overlong] ∧ overlong.optional = false ∧
    sourceBytes? host staging overlong ⟨tree, []⟩ = none ∧
    (relocateAll (settings [overlong]) staging).runOn host ⟨tree, []⟩ =
      (.error (.system ⟨SystemFault.nameTooLong, (staging.join overlong.source).toString⟩), ⟨tree, []⟩) := by
  have tooLong : tree.Overlong host.cwd (staging.join overlong.source) := overlong_nameOver (by decide +kernel)
  have fails : (relocate staging [] overlong).runOn host ⟨tree, []⟩ =
      (.error (.system ⟨SystemFault.nameTooLong, (staging.join overlong.source).toString⟩), ⟨tree, []⟩) :=
    runOn_relocate_of_overlong tooLong
  refine ⟨?_, rfl, bytes?_of_overlong tooLong, runOn_bind_of_error fails _⟩
  intro r mem
  rw [List.mem_singleton.1 mem]
  exact ⟨normal_nameOver 299, by decide⟩

end Generation
end Regen
