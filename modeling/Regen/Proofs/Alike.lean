import Regen.Proofs.Session

/-!
# Sessions that run alike

A relation between sessions that is kept when they are put together holds of whole sessions when it holds of their
parts (`Compatible`). There are two such relations. A session runs alike from related worlds when the results are
the same and the worlds after it are related again. Between any two worlds, that says that a session has one
result (`Steady`); a relation that holds of a world and itself alone is an invariant, kept whether a session fails
or not (`keeps_iff`). And a session simulates another one when it gives what that one gives,
unless that one fails (`Simulates`).
-/

namespace Regen

/-- Two results are related failures, or both are there and related. -/
inductive Both {ε α : Type} (F : ε → ε → Prop) (R : α → α → Prop) : Except ε α → Except ε α → Prop
  | error {e f : ε} : F e f → Both F R (.error e) (.error f)
  | ok {a b : α} : R a b → Both F R (.ok a) (.ok b)

namespace Session

/-! ### Relations between sessions -/

/-- A relation between sessions that holds of whatever is put together in the same way from related ones. -/
structure Compatible (T : {α : Type} → Session α → Session α → Prop) : Prop where
  pure : ∀ {α : Type} (a : α), T (Pure.pure a) (Pure.pure a)
  throw : ∀ {α : Type} (e : Failure), T (MonadExcept.throw e : Session α) (MonadExcept.throw e)
  bind : ∀ {α β : Type} {s s' : Session α} {f f' : α → Session β},
    T s s' → (∀ a, T (f a) (f' a)) → T (s >>= f) (s' >>= f')

namespace Compatible

variable {α β : Type} {T : {α : Type} → Session α → Session α → Prop} (compatible : Compatible T) {l : List α}

include compatible

theorem foldlM {f f' : β → α → Session β} (step : ∀ b, ∀ a ∈ l, T (f b a) (f' b a)) (b : β) :
    T (l.foldlM f b) (l.foldlM f' b) := by
  induction l generalizing b with
  | nil => exact compatible.pure b
  | cons a l ih =>
    rw [List.foldlM_cons, List.foldlM_cons]
    exact compatible.bind (step b a (by simp)) fun b => ih (fun b a mem => step b a (by simp [mem])) b

theorem mapM {f f' : α → Session β} (step : ∀ a ∈ l, T (f a) (f' a)) : T (l.mapM f) (l.mapM f') := by
  induction l with
  | nil => exact compatible.pure []
  | cons a l ih =>
    rw [List.mapM_cons, List.mapM_cons]
    exact compatible.bind (step a (by simp)) fun b =>
      compatible.bind (ih fun a mem => step a (by simp [mem])) fun bs => compatible.pure _

theorem forM {f f' : α → Session PUnit} (step : ∀ a ∈ l, T (f a) (f' a)) : T (l.forM f) (l.forM f') := by
  induction l with
  | nil => exact compatible.pure _
  | cons a l ih => exact compatible.bind (step a (by simp)) fun _ => ih fun a mem => step a (by simp [mem])

end Compatible

/-! ### One session in two worlds -/

variable {α β : Type} {host : Host} {R : World → World → Prop}

/-- Two runs from related worlds have the same result and end in related worlds. -/
def Alike (host : Host) (R : World → World → Prop) (s : Session α) : Prop :=
  ∀ w w', R w w' →
    (s.runOn host w).1 = (s.runOn host w').1 ∧ R (s.runOn host w).2 (s.runOn host w').2

namespace Alike

theorem pure (a : α) : Alike host R (Pure.pure a) := fun _ _ related => ⟨rfl, related⟩

theorem throw (e : Failure) : Alike host R (MonadExcept.throw e : Session α) := fun _ _ related => ⟨rfl, related⟩

theorem bind {s : Session α} {f : α → Session β} (first : Alike host R s) (rest : ∀ a, Alike host R (f a)) :
    Alike host R (s >>= f) := by
  intro w w' related
  obtain ⟨same, after⟩ := first w w' related
  rw [runOn_bind, runOn_bind]
  generalize s.runOn host w = r at same after ⊢
  generalize s.runOn host w' = r' at same after ⊢
  obtain ⟨x, v⟩ := r
  obtain ⟨x', v'⟩ := r'
  cases same
  cases x with
  | error e => exact ⟨rfl, after⟩
  | ok a => exact rest a v v' after

theorem ofExcept (r : Except Failure α) : Alike host R (Session.ofExcept r) := by
  cases r with
  | error e => exact throw e
  | ok a => exact pure a

theorem read {f : Host → Session α} (rest : Alike host R (f host)) : Alike host R (MonadReader.read >>= f) :=
  rest

theorem tryCatch {s : Session α} {handle : Failure → Session α} (first : Alike host R s)
    (rest : ∀ e, Alike host R (handle e)) : Alike host R (MonadExcept.tryCatch s handle) := by
  intro w w' related
  obtain ⟨same, after⟩ := first w w' related
  rw [runOn_tryCatch, runOn_tryCatch]
  generalize s.runOn host w = r at same after ⊢
  generalize s.runOn host w' = r' at same after ⊢
  obtain ⟨x, v⟩ := r
  obtain ⟨x', v'⟩ := r'
  cases same
  cases x with
  | error e => exact rest e v v' after
  | ok a => exact ⟨rfl, after⟩

theorem map {s : Session α} (f : α → β) (first : Alike host R s) : Alike host R (f <$> s) := by
  rw [map_eq_pure_bind]
  exact first.bind fun a => pure (f a)

theorem note {e : Event} (noted : ∀ w w', R w w' → R (w.noted [e]) (w'.noted [e])) :
    Alike host R (Session.note e) := fun w w' related => ⟨rfl, noted w w' related⟩

/-- What is seen in the files is the same, and nothing is changed. -/
theorem seen {s : Session α} (unchanged : ∀ w, (s.runOn host w).2 = w)
    (same : ∀ w w', R w w' → (s.runOn host w).1 = (s.runOn host w').1) : Alike host R s := by
  intro w w' related
  rw [unchanged, unchanged]
  exact ⟨same w w' related, related⟩

theorem demand (p : Path) : Alike host R (Session.demand p) := by
  unfold Session.demand
  split
  · exact throw _
  · exact pure _

theorem inspect {f : Files → Place → Except SystemFault α}
    (same : ∀ w w', R w w' → f w.files host.cwd = f w'.files host.cwd) : Alike host R (Session.inspect f) := by
  intro w w' related
  rw [runOn_inspect, runOn_inspect, same w w' related]
  cases f w'.files host.cwd <;> exact ⟨rfl, related⟩

theorem alter {f : Files → Place → Except SystemFault Files}
    (changes : ∀ w w', R w w' → Both Eq (fun t t' => R { w with files := t } { w' with files := t' })
      (f w.files host.cwd) (f w'.files host.cwd)) : Alike host R (Session.alter f) := by
  intro w w' related
  have both := changes w w' related
  rw [runOn_alter, runOn_alter]
  generalize f w.files host.cwd = r at both ⊢
  generalize f w'.files host.cwd = r' at both ⊢
  cases both with
  | error same => exact ⟨same ▸ rfl, related⟩
  | ok after => exact ⟨rfl, after⟩

theorem makeDirectories {p : Path}
    (makes : ∀ w w', R w w' →
      (w.files.makeDirectories host.cwd p).2 = (w'.files.makeDirectories host.cwd p).2 ∧
        R { w with files := (w.files.makeDirectories host.cwd p).1 }
          { w' with files := (w'.files.makeDirectories host.cwd p).1 }) :
    Alike host R (Session.makeDirectories p) := by
  intro w w' related
  cases plain : p.hasNul with
  | true =>
    rw [Session.makeDirectories, runOn_bind_of_error (runOn_demand_of_nul plain),
      runOn_bind_of_error (runOn_demand_of_nul plain)]
    exact ⟨rfl, related⟩
  | false =>
    obtain ⟨same, after⟩ := makes w w' related
    rw [runOn_makeDirectories plain, runOn_makeDirectories plain, same]
    exact ⟨rfl, after⟩

/-- A session and itself, when it runs alike. -/
theorem compatible (host : Host) (R : World → World → Prop) : Compatible fun s s' => s = s' ∧ Alike host R s where
  pure a := ⟨rfl, pure a⟩
  throw e := ⟨rfl, throw e⟩
  bind first rest := ⟨first.1 ▸ congrArg _ (funext fun a => (rest a).1), first.2.bind fun a => (rest a).2⟩

theorem foldlM {f : β → α → Session β} {l : List α} (step : ∀ b, ∀ a ∈ l, Alike host R (f b a)) (b : β) :
    Alike host R (l.foldlM f b) := ((compatible host R).foldlM (fun b a mem => ⟨rfl, step b a mem⟩) b).2

theorem forM {f : α → Session PUnit} {l : List α} (step : ∀ a ∈ l, Alike host R (f a)) :
    Alike host R (l.forM f) := ((compatible host R).forM fun a mem => ⟨rfl, step a mem⟩).2

end Alike

/-- What a session gives does not depend on the world in which it runs. -/
def Steady (host : Host) (s : Session α) : Prop := Alike host (fun _ _ => True) s

/-- What a session gives in the empty world. -/
def result (host : Host) (s : Session α) : Except Failure α := (s.runOn host ⟨.empty, []⟩).1

theorem Steady.runOn_fst {s : Session α} (steady : s.Steady host) (w : World) :
    (s.runOn host w).1 = s.result host := (steady w _ trivial).1

theorem result_bind (s : Session α) {f : α → Session β} (steady : ∀ a, (f a).Steady host) :
    (s >>= f).result host = (s.result host).bind fun a => (f a).result host := by
  unfold result
  rw [runOn_bind]
  rcases s.runOn host ⟨.empty, []⟩ with ⟨e | a, w⟩
  · rfl
  · exact (steady a).runOn_fst w

/-- A session keeps an invariant, whether it fails or not. -/
def Keeps (host : Host) (I : World → Prop) (s : Session α) : Prop := Alike host (fun w w' => w = w' ∧ I w) s

theorem keeps_iff {I : World → Prop} {s : Session α} :
    Keeps host I s ↔ ∀ w, I w → I (s.runOn host w).2 := by
  constructor
  · intro keeps w holds
    exact (keeps w w ⟨rfl, holds⟩).2.2
  · rintro keeps w _ ⟨rfl, holds⟩
    exact ⟨rfl, rfl, keeps w holds⟩

theorem keeps_of_unchanged {I : World → Prop} {s : Session α} (unchanged : ∀ w, (s.runOn host w).2 = w) :
    Keeps host I s :=
  keeps_iff.2 fun w holds => by rwa [unchanged]

/-! ### Sessions that change nothing but files -/

section Files

variable {I : World → Prop} (files : ∀ w t, I w → I { w with files := t })

include files

theorem keeps_alter (f : Files → Place → Except SystemFault Files) : (alter f).Keeps host I := by
  rw [keeps_iff]
  intro w holds
  rw [runOn_alter]
  split
  · exact files w _ holds
  · exact holds

theorem keeps_makeDirectories (p : Path) : (makeDirectories p).Keeps host I :=
  .makeDirectories <| by
    rintro w _ ⟨rfl, holds⟩
    exact ⟨rfl, rfl, files w _ holds⟩

theorem keeps_writeFile_of_files (p : Path) (content : Bytes) : (writeFile p content).Keeps host I :=
  .bind (keeps_makeDirectories files _) fun _ => .bind (.demand _) fun _ => keeps_alter files _

theorem keeps_copyFile_of_files (source target : Path) : (copyFile source target).Keeps host I :=
  .bind (keeps_of_unchanged (runOn_readFile_snd source)) fun content =>
    keeps_writeFile_of_files files target content

end Files

/-! ### A session that does what another one does -/

/-- From related worlds the second session gives what the first one gives and leaves related worlds, unless the
first one fails or comes to a world of a kind which is never left again. -/
structure Simulates (host : Host) (B : World → Prop) (R : World → World → Prop) (s s' : Session α) : Prop where
  keeps : s.Keeps host B
  step : ∀ {w v w' : World} {a : α}, R w v → s.runOn host w = (.ok a, w') → ¬ B w' →
    ∃ v', s'.runOn host v = (.ok a, v') ∧ R w' v'

namespace Simulates

variable {B : World → Prop}

theorem pure (a : α) : Simulates host B R (Pure.pure a) (Pure.pure a) where
  keeps := .pure a
  step := by
    rintro w v _ _ related ⟨⟩ -
    exact ⟨v, rfl, related⟩

theorem throw (e : Failure) : Simulates host B R (MonadExcept.throw e : Session α) (MonadExcept.throw e) where
  keeps := .throw e
  step := by
    rintro w v _ _ - ⟨⟩ -

theorem bind {s s' : Session α} {f f' : α → Session β} (first : Simulates host B R s s')
    (rest : ∀ a, Simulates host B R (f a) (f' a)) : Simulates host B R (s >>= f) (s' >>= f') where
  keeps := .bind first.keeps fun a => (rest a).keeps
  step := by
    intro w v w' b related run good
    obtain ⟨a, w₁, one, two⟩ := runOn_bind_eq_ok_iff.1 run
    have good₁ : ¬ B w₁ := fun bad => good <| by
      have kept := keeps_iff.1 (rest a).keeps w₁ bad
      rwa [two] at kept
    obtain ⟨v₁, one', related₁⟩ := first.step related one good₁
    obtain ⟨v', two', related'⟩ := (rest a).step related₁ two good
    exact ⟨v', runOn_bind_eq_ok_iff.2 ⟨a, v₁, one', two'⟩, related'⟩

theorem compatible (host : Host) (B : World → Prop) (R : World → World → Prop) : Compatible (Simulates host B R) where
  pure := pure
  throw := throw
  bind := bind

/-- A session that runs alike does again what it does. -/
theorem of_alike {s : Session α} (keeps : s.Keeps host B) (alike : s.Alike host R) : Simulates host B R s s where
  keeps := keeps
  step := by
    intro w v w' a related run _
    obtain ⟨same, after⟩ := alike w v related
    rw [run] at same after
    exact ⟨(s.runOn host v).2, Prod.ext same.symm rfl, after⟩

/-- What is seen in the files is the same, and nothing is changed. -/
theorem seen {s s' : Session α} (unchanged : ∀ w, (s.runOn host w).2 = w)
    (same : ∀ {w v a}, R w v → ¬ B w → s.runOn host w = (.ok a, w) → s'.runOn host v = (.ok a, v)) :
    Simulates host B R s s' where
  keeps := keeps_of_unchanged unchanged
  step := by
    intro w v w' a related run good
    obtain rfl : w = w' := by rw [← unchanged w, run]
    exact ⟨v, same related good run, related⟩

end Simulates

end Session

end Regen
