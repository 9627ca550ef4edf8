import Regen.Proofs.Alike
import Regen.Proofs.Files.Held
import Regen.Proofs.Path
import Regen.Staging

/-!
# Staging directories come and go

A staging directory gets a drawn name that is free (`runOn_make_cases`), and as long as one of the names drawn is
free, there is such a directory (`runOn_make_of_draws`). It is removed when the work in it has ended, however that was
(`runOn_within`). Work that changes nothing outside it leaves all as it was (`get?_within`).
-/

namespace Regen

namespace Staging

open Files

/-! ### Names -/

theorem mem_alphabet {width n : Nat} {c : Char} (mem : c ∈ letters width n) : c ∈ alphabet := by
  induction width generalizing n with
  | zero => cases mem
  | succ width ih =>
    rw [letters, List.mem_append, List.mem_singleton] at mem
    rcases mem with mem | rfl
    · exact ih mem
    · cases found : alphabet[n % alphabet.length]? with
      | none => decide
      | some c => exact List.mem_of_getElem? found

/-- The characters of names take one byte each. -/
theorem utf8ByteSize_letters (width n : Nat) : (String.ofList (letters width n)).utf8ByteSize = width := by
  induction width generalizing n with
  | zero => rfl
  | succ width ih =>
    have all : alphabet.all (·.utf8Size == 1) := by decide
    have small : ∀ c ∈ alphabet, c.utf8Size = 1 := fun c mem => beq_iff_eq.1 (List.all_eq_true.1 all c mem)
    have digit : ∀ c ∈ letters 1 n, c ∈ alphabet := fun _ => mem_alphabet
    have last := small _ (digit _ (List.mem_append_right _ (List.mem_singleton.2 rfl)))
    rw [letters, String.ofList_append, String.utf8ByteSize_append, ih, ← String.singleton_eq_ofList,
      String.utf8ByteSize_singleton, last]

theorem length_letters (width n : Nat) : (letters width n).length = width := by
  induction width generalizing n with
  | zero => rfl
  | succ width ih => rw [letters, List.length_append, ih, List.length_singleton]

theorem toList_candidate (n : Nat) : (candidate n).toList = ['t', 'm', 'p'] ++ letters 8 n := by
  rw [candidate, String.toList_append, String.toList_ofList]
  simp

theorem isName_candidate (n : Nat) : IsName (candidate n) := by
  have first : (candidate n).toList.head? = some 't' := by simp [toList_candidate]
  refine ⟨?_, ?_, ?_⟩
  · intro dot
    rw [dot] at first
    exact absurd first (by decide)
  · intro dots
    rw [dots] at first
    exact absurd first (by decide)
  · rw [toList_candidate, List.mem_append, not_or]
    exact ⟨by decide, fun mem => absurd (mem_alphabet mem) (by decide)⟩

theorem utf8ByteSize_candidate (n : Nat) : (candidate n).utf8ByteSize = 11 := by
  rw [candidate, String.utf8ByteSize_append, utf8ByteSize_letters]
  rfl

/-- The path of candidate `k` in a directory. -/
def pathOf (parent : Path) (k : Nat) : Path := ⟨parent.root, parent.parts ++ [candidate k]⟩

theorem append_candidate (parent : Path) (k : Nat) : parent.append ⟨"", [candidate k]⟩ = pathOf parent k := rfl

/-! ### Coming -/

variable {t u : Files} {base D : Place} {parent : Path} {draw : Nat → Nat} {k : Nat}

/-- What is said of a path behind one candidate's directory, on its length, is so behind another one's. -/
theorem fits_behind {root : String} {lead behind ns : List String} {k : Nat}
    (fits : Fits ⟨root, lead ++ [candidate k] ++ behind⟩ ns) (m : Nat) :
    Fits ⟨root, lead ++ [candidate m] ++ behind⟩ ns := by
  refine ⟨?_, fits.2⟩
  rw [Path.utf8ByteSize_toString_congr root lead behind
    ((utf8ByteSize_candidate m).trans (utf8ByteSize_candidate k).symm)]
  exact fits.1

theorem fits_pathOf (fits : Fits (pathOf parent k) [candidate k]) (m : Nat) : Fits (pathOf parent m) [candidate m] := by
  have here : Fits ⟨parent.root, parent.parts ++ [candidate k] ++ []⟩ [candidate k] := by rwa [List.append_nil]
  have behind := fits_behind here m
  rw [List.append_nil] at behind
  refine ⟨behind.1, fun name mem => ?_⟩
  rw [List.mem_singleton.1 mem, utf8ByteSize_candidate, ← utf8ByteSize_candidate k]
  exact fits.2 _ (List.mem_singleton.2 rfl)

/-- What comes of drawing is a fault, or the directory of a name that was free. -/
theorem makeFrom_cases (fuel n : Nat) : (∃ e, makeFrom t base parent draw fuel n = .error e) ∨
    ∃ k u, makeFrom t base parent draw fuel n = .ok (pathOf parent k, u) ∧
      t.makeDirectory base (pathOf parent k) = .ok u := by
  induction fuel generalizing n with
  | zero => exact .inl ⟨_, rfl⟩
  | succ fuel ih =>
    rw [makeFrom, append_candidate]
    cases made : t.makeDirectory base (pathOf parent (draw n)) with
    | ok u => exact .inr ⟨draw n, u, rfl, made⟩
    | error f =>
      simp only
      split
      · exact ih (n + 1)
      · exact .inl ⟨_, rfl⟩

/-- A directory is made when a name that is drawn in time is free, as names are taken or free and nothing else. -/
theorem makeFrom_of_draws (anchor : Anchor t base parent.root parent.parts D)
    (fits : ∀ m, Fits (pathOf parent m) [candidate m]) {fuel n : Nat}
    (draws : ∃ m, m < fuel ∧ t.get? (D ++ [candidate (draw (n + m))]) = none) :
    ∃ r, makeFrom t base parent draw fuel n = .ok r := by
  induction fuel generalizing n with
  | zero =>
    obtain ⟨m, early, -⟩ := draws
    omega
  | succ fuel ih =>
    have tried := anchor.makeDirectory_last (isName_candidate (draw n)).inner
    rw [← pathOf, if_pos (fits (draw n))] at tried
    rw [makeFrom, append_candidate, tried]
    cases here : t.get? (D ++ [candidate (draw n)]) with
    | none => exact ⟨_, rfl⟩
    | some e =>
      obtain ⟨m, early, free⟩ := draws
      -- The name that is drawn now is taken, so the free one comes later.
      obtain ⟨m, rfl⟩ : ∃ m', m = m' + 1 := Nat.exists_eq_succ_of_ne_zero <| by
        rintro rfl
        rw [Nat.add_zero, here] at free
        cases free
      exact ih ⟨m, by omega, by rwa [Nat.add_assoc, Nat.add_comm 1 m]⟩

/-- No directory is made when all names that are drawn are taken. -/
theorem makeFrom_of_taken (anchor : Anchor t base parent.root parent.parts D)
    (fits : ∀ m, Fits (pathOf parent m) [candidate m]) {fuel n : Nat}
    (taken : ∀ m < fuel, t.get? (D ++ [candidate (draw (n + m))]) ≠ none) :
    makeFrom t base parent draw fuel n = .error noFreeName := by
  induction fuel generalizing n with
  | zero => rfl
  | succ fuel ih =>
    have tried := anchor.makeDirectory_last (isName_candidate (draw n)).inner
    rw [← pathOf, if_pos (fits (draw n))] at tried
    rw [makeFrom, append_candidate, tried]
    cases here : t.get? (D ++ [candidate (draw n)]) with
    | none => exact absurd here (taken 0 (by omega))
    | some e =>
      refine ih fun m early => ?_
      rw [Nat.add_assoc, Nat.add_comm 1 m]
      exact taken (m + 1) (by omega)

variable {host : Host} {w : World}

theorem runOn_make (plain : parent.hasNul = false) : (make parent).runOn host w =
    match makeFrom w.files host.cwd parent (host.draw w) attempts 0 with
    | .ok (p, t) => (.ok p, { w with files := t })
    | .error e => (.error e, w) := by
  have got : (get : Session World).runOn host w = (.ok w, w) := rfl
  have asked : (read : Session Host).runOn host w = (.ok host, w) := rfl
  rw [make, Session.runOn_bind_of_ok (Session.runOn_demand_of_plain plain), Session.runOn_bind_of_ok asked,
    Session.runOn_bind_of_ok got]
  rcases makeFrom w.files host.cwd parent (host.draw w) attempts 0 with e | ⟨p, t⟩ <;> rfl

theorem runOn_make_of_nul (nul : parent.hasNul = true) : (make parent).runOn host w = (.error .outOfRange, w) := by
  rw [make, Session.runOn_bind_of_error (Session.runOn_demand_of_nul nul)]

theorem runOn_make_cases (host : Host) (w : World) (parent : Path) :
    (∃ e, (make parent).runOn host w = (.error e, w)) ∨
      ∃ k u, (make parent).runOn host w = (.ok (pathOf parent k), { w with files := u }) ∧
        w.files.makeDirectory host.cwd (pathOf parent k) = .ok u := by
  cases plain : parent.hasNul with
  | true => exact .inl ⟨_, runOn_make_of_nul plain⟩
  | false =>
    rw [runOn_make plain]
    have cases : _ ∨ ∃ k u, makeFrom w.files host.cwd parent (host.draw w) attempts 0 = .ok (pathOf parent k, u) ∧ _ :=
      makeFrom_cases attempts 0
    rcases cases with ⟨e, fails⟩ | ⟨k, u, done, made⟩
    · exact .inl ⟨e, by rw [fails]⟩
    · exact .inr ⟨k, u, by rw [done], made⟩

/-- One of the names that are drawn in a world is free in the directory at a place. -/
def Draws (host : Host) (D : Place) (w : World) : Prop :=
  ∃ n < attempts, w.files.get? (D ++ [candidate (host.draw w n)]) = none

/-- Where no name is free there is no staging directory. -/
theorem runOn_make_of_taken (plain : parent.hasNul = false)
    (anchor : Anchor w.files host.cwd parent.root parent.parts D)
    (fits : ∀ m, Fits (pathOf parent m) [candidate m]) (taken : ¬ Draws host D w) :
    (make parent).runOn host w = (.error noFreeName, w) := by
  have stuck : makeFrom w.files host.cwd parent (host.draw w) attempts 0 = .error noFreeName :=
    makeFrom_of_taken anchor fits fun m early free => taken ⟨m, early, by rwa [Nat.zero_add] at free⟩
  rw [runOn_make plain, stuck]

/-- Where a name is free there is a staging directory. -/
theorem runOn_make_of_draws (plain : parent.hasNul = false)
    (anchor : Anchor w.files host.cwd parent.root parent.parts D)
    (fits : ∀ m, Fits (pathOf parent m) [candidate m]) (draws : Draws host D w) :
    ∃ k u, (make parent).runOn host w = (.ok (pathOf parent k), { w with files := u }) ∧
      w.files.makeDirectory host.cwd (pathOf parent k) = .ok u := by
  obtain ⟨n, early, free⟩ := draws
  obtain ⟨r, made⟩ : ∃ r, makeFrom w.files host.cwd parent (host.draw w) attempts 0 = .ok r :=
    makeFrom_of_draws anchor fits ⟨n, early, by rwa [Nat.zero_add]⟩
  rcases runOn_make_cases host w parent with ⟨e, fails⟩ | done
  · rw [runOn_make plain, made] at fails
    cases fails
  · exact done

/-- The directory that was made is open for work. -/
theorem opened_of_made (made : t.makeDirectory base (pathOf parent k) = .ok u) (closed : t.Closed)
    (anchor : Anchor t base parent.root parent.parts D) :
    t.get? (D ++ [candidate k]) = none ∧ u = t.put (D ++ [candidate k]) .directory ∧
      Opened u base (pathOf parent k) (D ++ [candidate k]) := by
  have inner := (isName_candidate k).inner
  obtain ⟨fits, free, made⟩ := anchor.makeDirectory_last_eq_ok inner made
  exact ⟨free, made, made ▸ Opened.of_put closed anchor inner fits free⟩

/-! ### Going -/

variable {α : Type}

theorem runOn_remove (p : Path) :
    (remove p).runOn host w = (.ok (), { w with files := w.files.removeAll host.cwd p }) := rfl

/-- The world without a staging directory. -/
def removed (host : Host) (p : Path) (w : World) : World := { w with files := w.files.removeAll host.cwd p }

theorem runOn_within_of_error (work : Path → Session α) {e : Failure} (fails : (make parent).runOn host w = (.error e, w)) :
    (within parent work).runOn host w = (.error e, w) := by
  rw [within, Session.runOn_bind_of_error fails]

theorem runOn_within (work : Path → Session α) {p : Path} {v : World}
    (made : (make parent).runOn host w = (.ok p, v)) :
    (within parent work).runOn host w =
      (((work p).runOn host v).1, removed host p ((work p).runOn host v).2) := by
  rw [within, Session.runOn_bind_of_ok made, Session.runOn_ensuring (work p) fun v => runOn_remove p]
  rfl

/-- A staging directory comes and goes without any change but in files. -/
theorem keeps_within {I : World → Prop} (files : ∀ w t, I w → I { w with files := t }) (parent : Path)
    (work : Path → Session α) (keeps : ∀ p, (work p).Keeps host I) : (within parent work).Keeps host I := by
  rw [Session.keeps_iff]
  intro w holds
  rcases runOn_make_cases host w parent with ⟨e, fails⟩ | ⟨k, u, done, -⟩
  · rw [within, Session.runOn_bind_of_error fails]
    exact holds
  · rw [runOn_within work done]
    exact files _ _ (Session.keeps_iff.1 (keeps _) _ (files w u holds))

theorem removed_files_of_stop {p : Path} {S : Place} (stop : w.files.locate host.cwd false p = .ok S) :
    (removed host p w).files = w.files.cut S := by
  simp only [removed, Files.removeAll, stop]

/-- Work that changes nothing outside the staging directory leaves all as it was. -/
theorem get?_within (work : Path → Session α) (closed : w.files.Closed)
    (anchor : Anchor w.files host.cwd parent.root parent.parts D)
    (held : ∀ k S v, Opened v.files host.cwd (pathOf parent k) S →
      Held v.files S ((work (pathOf parent k)).runOn host v).2.files) (p : Place) :
    ((within parent work).runOn host w).2.files.get? p = w.files.get? p := by
  rcases runOn_make_cases host w parent with ⟨e, fails⟩ | ⟨k, u, done, made⟩
  · rw [within, Session.runOn_bind_of_error fails]
  · obtain ⟨free, made, opened⟩ := opened_of_made made closed anchor
    have held := held k _ { w with files := u } opened
    rw [runOn_within work done]
    simp only
    rw [removed_files_of_stop (held.stop opened), held.get?_cut opened free closed made]

end Staging
end Regen
