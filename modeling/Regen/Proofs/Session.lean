import Regen.Session

/-!
# Running sessions

What a session does to a world, one equation for each way in which sessions are put together. A failure
ends what is behind it and keeps the world that it found.
-/

namespace Regen

/-- The world after more has been noted. -/
def World.noted (w : World) (es : List Event) : World := { w with journal := w.journal ++ es }

@[simp] theorem World.noted_journal (w : World) (es : List Event) :
    (w.noted es).journal = w.journal ++ es := rfl

@[simp] theorem World.noted_nil (w : World) : w.noted [] = w := by rw [noted, List.append_nil]

@[simp] theorem World.noted_noted (w : World) (es fs : List Event) :
    (w.noted es).noted fs = w.noted (es ++ fs) := by
  simp [noted, List.append_assoc]

namespace Session

variable {α β : Type} {host : Host} {w w' : World}

@[simp] theorem runOn_pure (a : α) : (pure a : Session α).runOn host w = (.ok a, w) := rfl

@[simp] theorem runOn_throw (e : Failure) : (throw e : Session α).runOn host w = (.error e, w) := rfl

theorem runOn_bind (s : Session α) (f : α → Session β) :
    (s >>= f).runOn host w = match s.runOn host w with
      | (.ok a, w') => (f a).runOn host w'
      | (.error e, w') => (.error e, w') := by
  simp only [runOn, ReaderT.run_bind, ExceptT.run_bind, StateT.run_bind, Id.run_bind]
  rcases ((s.run host).run.run w).run with ⟨r, v⟩
  cases r <;> rfl

theorem runOn_bind_of_ok {s : Session α} {a : α} (h : s.runOn host w = (.ok a, w')) (f : α → Session β) :
    (s >>= f).runOn host w = (f a).runOn host w' := by
  rw [runOn_bind, h]

theorem runOn_bind_of_error {s : Session α} {e : Failure} (h : s.runOn host w = (.error e, w'))
    (f : α → Session β) : (s >>= f).runOn host w = (.error e, w') := by
  rw [runOn_bind, h]

theorem runOn_bind_eq_ok_iff {s : Session α} {f : α → Session β} {b : β} :
    (s >>= f).runOn host w = (.ok b, w') ↔
      ∃ a v, s.runOn host w = (.ok a, v) ∧ (f a).runOn host v = (.ok b, w') := by
  rw [runOn_bind]
  rcases s.runOn host w with ⟨e | a, v⟩
  · simp
  · constructor
    · intro run
      exact ⟨a, v, rfl, run⟩
    · rintro ⟨_, _, ⟨⟩, run⟩
      exact run

theorem runOn_bind_eq_error_iff {s : Session α} {f : α → Session β} {e : Failure} :
    (s >>= f).runOn host w = (.error e, w') ↔
      s.runOn host w = (.error e, w') ∨ ∃ a v, s.runOn host w = (.ok a, v) ∧ (f a).runOn host v = (.error e, w') := by
  rw [runOn_bind]
  rcases s.runOn host w with ⟨e | a, v⟩
  · simp
  · constructor
    · intro run
      exact .inr ⟨a, v, rfl, run⟩
    · rintro (⟨⟨⟩⟩ | ⟨_, _, ⟨⟩, run⟩)
      exact run

theorem runOn_map (f : α → β) (s : Session α) :
    (f <$> s).runOn host w = ((s.runOn host w).1.map f, (s.runOn host w).2) := by
  rw [map_eq_pure_bind, runOn_bind]
  rcases s.runOn host w with ⟨_ | _, v⟩ <;> rfl

theorem runOn_tryCatch (s : Session α) (handle : Failure → Session α) :
    (tryCatch s handle).runOn host w = match s.runOn host w with
      | (.ok a, v) => (.ok a, v)
      | (.error e, v) => (handle e).runOn host v := by
  simp only [runOn, tryCatch, tryCatchThe, MonadExceptOf.tryCatch, ExceptT.tryCatch, ReaderT.run,
    ExceptT.run, ExceptT.mk, StateT.run_bind, Id.run_bind]
  rcases (StateT.run (s host) w).run with ⟨_ | _, v⟩ <;> rfl

theorem runOn_attempt (body : Session α) :
    (attempt body).runOn host w = (.ok (body.runOn host w).1, (body.runOn host w).2) := by
  rw [attempt, runOn_tryCatch, runOn_map]
  rcases body.runOn host w with ⟨_ | _, v⟩ <;> rfl

@[simp] theorem runOn_ofExcept (r : Except Failure α) : (ofExcept r).runOn host w = (r, w) := by
  cases r <;> rfl

theorem runOn_ensuring (body : Session α) {last : Session Unit} {change : World → World}
    (ends : ∀ v, last.runOn host v = (.ok (), change v)) :
    (ensuring body last).runOn host w = ((body.runOn host w).1, change (body.runOn host w).2) := by
  rw [ensuring, runOn_bind_of_ok (runOn_attempt body), runOn_bind_of_ok (ends _), runOn_ofExcept]

@[simp] theorem runOn_note (e : Event) : (note e).runOn host w = (.ok (), w.noted [e]) := rfl

theorem runOn_forM_fst {f : α → Session PUnit} {l : List α}
    (each : ∀ a ∈ l, ∀ w, ((f a).runOn host w).1 = .ok ⟨⟩) (w : World) :
    ((l.forM f).runOn host w).1 = .ok ⟨⟩ := by
  induction l generalizing w with
  | nil => rfl
  | cons a l ih =>
    have first : ((f a).runOn host w).1 = .ok ⟨⟩ := each a (by simp) w
    have both : ((a :: l).forM f).runOn host w = (f a >>= fun _ => l.forM f).runOn host w := rfl
    rw [both, runOn_bind]
    generalize (f a).runOn host w = r at first ⊢
    obtain ⟨_, v⟩ := r
    cases first
    exact ih (fun b mem => each b (by simp [mem])) v

/-! ### Files -/

theorem runOn_look (f : Files → Place → α) :
    (look f).runOn host w = (.ok (f w.files host.cwd), w) := rfl

theorem runOn_inspect (f : Files → Place → Except SystemFault α) :
    (inspect f).runOn host w = match f w.files host.cwd with
      | .ok a => (.ok a, w)
      | .error e => (.error (.system e), w) := by
  have run : (inspect f).runOn host w =
      Session.runOn (match f w.files host.cwd with
        | .ok a => pure a
        | .error e => throw (.system e)) host w := rfl
  rw [run]
  cases f w.files host.cwd <;> rfl

theorem runOn_alter (f : Files → Place → Except SystemFault Files) :
    (alter f).runOn host w = match f w.files host.cwd with
      | .ok t => (.ok (), { w with files := t })
      | .error e => (.error (.system e), w) := by
  have run : (alter f).runOn host w =
      Session.runOn (match f w.files host.cwd with
        | .ok t => modify fun w => { w with files := t }
        | .error e => throw (.system e)) host w := rfl
  rw [run]
  cases f w.files host.cwd <;> rfl

theorem runOn_demand (p : Path) :
    (demand p).runOn host w = if p.hasNul then (.error .outOfRange, w) else (.ok (), w) := by
  unfold demand
  split <;> rfl

theorem runOn_demand_of_plain {p : Path} (plain : p.hasNul = false) :
    (demand p).runOn host w = (.ok (), w) := by
  rw [runOn_demand, plain]
  rfl

theorem runOn_demand_of_nul {p : Path} (nul : p.hasNul = true) :
    (demand p).runOn host w = (.error .outOfRange, w) := by
  rw [runOn_demand, nul]
  rfl

theorem runOn_readFile_eq_ok_iff {p : Path} {content : Bytes} :
    (readFile p).runOn host w = (.ok content, w') ↔
      p.hasNul = false ∧ w.files.read host.cwd p = .ok content ∧ w' = w := by
  cases plain : p.hasNul with
  | true => simp [readFile, runOn_bind_of_error (runOn_demand_of_nul plain)]
  | false =>
    rw [readFile, runOn_bind_of_ok (runOn_demand_of_plain plain), runOn_inspect]
    cases w.files.read host.cwd p <;> simp [eq_comm]

theorem runOn_readOrEmpty_eq_ok_iff {p : Path} {content : Bytes} :
    (readOrEmpty p).runOn host w = (.ok content, w') ↔
      p.hasNul = false ∧ w.files.readOrEmpty host.cwd p = .ok content ∧ w' = w := by
  cases plain : p.hasNul with
  | true => simp [readOrEmpty, runOn_bind_of_error (runOn_demand_of_nul plain)]
  | false =>
    rw [readOrEmpty, runOn_bind_of_ok (runOn_demand_of_plain plain), runOn_inspect]
    cases w.files.readOrEmpty host.cwd p <;> simp [eq_comm]

/-- Looking changes nothing. -/
theorem runOn_readFile_snd (p : Path) (w : World) : ((readFile p).runOn host w).2 = w := by
  rw [readFile, runOn_bind, runOn_demand]
  cases p.hasNul with
  | true => rfl
  | false =>
    simp only [Bool.false_eq_true, if_false, runOn_inspect]
    split <;> rfl

theorem runOn_readOrEmpty_snd (p : Path) (w : World) : ((readOrEmpty p).runOn host w).2 = w := by
  rw [readOrEmpty, runOn_bind, runOn_demand]
  cases p.hasNul with
  | true => rfl
  | false =>
    simp only [Bool.false_eq_true, if_false, runOn_inspect]
    split <;> rfl

theorem runOn_isFile_snd (p : Path) (w : World) : ((isFile p).runOn host w).2 = w := by
  unfold isFile
  split
  · rfl
  · rw [runOn_inspect]
    split <;> rfl

theorem runOn_walkNames (root : Path) (endings : Option (List String)) (w : World) :
    (walkNames root endings).runOn host w =
      (if root.hasNul then .error .outOfRange else .ok (w.files.walkNames host.cwd root endings), w) := by
  rw [walkNames, runOn_bind, runOn_demand]
  cases root.hasNul <;> rfl

theorem runOn_walkNames_snd (root : Path) (endings : Option (List String)) (w : World) :
    ((walkNames root endings).runOn host w).2 = w := by rw [runOn_walkNames]

/-- Directories that were made stay, also when not all could be made. -/
theorem runOn_makeDirectories {p : Path} (plain : p.hasNul = false) :
    (makeDirectories p).runOn host w =
      ((w.files.makeDirectories host.cwd p).2.elim (.ok ()) fun f => .error (.system f),
        { w with files := (w.files.makeDirectories host.cwd p).1 }) := by
  have got : (get : Session World).runOn host w = (.ok w, w) := rfl
  have asked : (read : Session Host).runOn host w = (.ok host, w) := rfl
  rw [makeDirectories, runOn_bind_of_ok (runOn_demand_of_plain plain), runOn_bind_of_ok got,
    runOn_bind_of_ok asked]
  generalize w.files.makeDirectories host.cwd p = r
  obtain ⟨t, fault⟩ := r
  cases fault <;> rfl

end Session
end Regen
