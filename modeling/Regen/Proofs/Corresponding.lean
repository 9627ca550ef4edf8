import Mathlib.Data.List.Forall2

/-!
# Lists that correspond

Two lists correspond by a relation that holds of their elements at each place. A list of outcomes is one
outcome: the list of all results, or the first failure in it (`outcomes_cases`).
-/

namespace Regen

variable {α β : Type} {R : α → β → Prop} {as : List α} {bs : List β}

theorem map_eq_of_forall₂ {γ : Type} (related : List.Forall₂ R as bs) {f : β → γ} {g : α → γ}
    (each : ∀ a b, R a b → f b = g a) : bs.map f = as.map g := by
  induction related with
  | nil => rfl
  | cons first _ ih => rw [List.map_cons, List.map_cons, each _ _ first, ih]

theorem mem_of_forall₂ (related : List.Forall₂ R as bs) :
    (∀ a ∈ as, ∃ b ∈ bs, R a b) ∧ ∀ b ∈ bs, ∃ a ∈ as, R a b := by
  induction related with
  | nil => simp
  | cons first _ ih =>
    obtain ⟨left, right⟩ := ih
    constructor
    · intro a mem
      rcases List.mem_cons.1 mem with rfl | mem
      · exact ⟨_, by simp, first⟩
      · obtain ⟨b, hb, related⟩ := left a mem
        exact ⟨b, by simp [hb], related⟩
    · intro b mem
      rcases List.mem_cons.1 mem with rfl | mem
      · exact ⟨_, by simp, first⟩
      · obtain ⟨a, ha, related⟩ := right b mem
        exact ⟨a, by simp [ha], related⟩

theorem mapM_eq_some_of_forall₂ {f : α → Option β} (related : List.Forall₂ (fun a b => f a = some b) as bs) :
    as.mapM f = some bs := by
  induction related with
  | nil => rfl
  | cons first _ ih => rw [List.mapM_cons, first, ih]; rfl

/-! ### Outcomes -/

section Outcomes

variable {ε γ : Type}

theorem mapM_congr {f g : α → Except ε β} {l : List α} (same : ∀ a ∈ l, f a = g a) : l.mapM f = l.mapM g := by
  induction l with
  | nil => rfl
  | cons a l ih => rw [List.mapM_cons, List.mapM_cons, same a (by simp), ih fun b mem => same b (by simp [mem])]

theorem mapM_map_ok (f : α → Except ε β) (h : β → γ) (l : List α) :
    (l.mapM fun a => (f a).map h) = (l.mapM f).map (List.map h) := by
  induction l with
  | nil => rfl
  | cons a l ih =>
    rw [List.mapM_cons, List.mapM_cons, ih]
    cases f a with
    | error e => rfl
    | ok b => cases l.mapM f <;> rfl

theorem ne_nil_of_mapM_ok {f : α → Except ε β} {l : List α} {bs : List β} (some : l ≠ [])
    (results : l.mapM f = .ok bs) : bs ≠ [] := by
  obtain ⟨a, l, rfl⟩ := List.exists_cons_of_ne_nil some
  rintro rfl
  rw [List.mapM_cons] at results
  cases first : f a with
  | error e => simp [first, bind, Except.bind] at results
  | ok b => cases rest : l.mapM f <;> simp [first, rest, bind, Except.bind, pure, Except.pure] at results

theorem mapM_append_ok (f : α → Except ε β) (l m : List α) :
    (l ++ m).mapM f = (l.mapM f).bind fun bs => (m.mapM f).map (bs ++ ·) := by
  rw [List.mapM_append]
  cases l.mapM f with
  | error e => rfl
  | ok bs => cases m.mapM f <;> rfl

/-- Outcomes may be taken in groups. -/
theorem mapM_flatMap_ok (f : γ → List α) (g : α → Except ε β) (l : List γ) :
    (l.flatMap f).mapM g = (l.mapM fun c => (f c).mapM g).map List.flatten := by
  induction l with
  | nil => rfl
  | cons c l ih =>
    rw [List.flatMap_cons, mapM_append_ok, ih, List.mapM_cons]
    cases (f c).mapM g with
    | error e => rfl
    | ok bs => cases l.mapM fun c => (f c).mapM g <;> rfl

theorem collected_ok (results : List β) :
    (results.map .ok).mapM id = (.ok results : Except ε (List β)) := by
  induction results with
  | nil => rfl
  | cons b results ih => rw [List.map_cons, List.mapM_cons, ih]; rfl

theorem collected_error (results : List β) (e : ε) (after : List (Except ε β)) :
    (results.map Except.ok ++ Except.error e :: after).mapM id = .error e := by
  rw [mapM_append_ok, collected_ok]
  rfl

/-- All of the outcomes are results, or there is a first failure. -/
theorem outcomes_cases (outcomes : List (Except ε β)) :
    (∃ results : List β, outcomes = results.map .ok) ∨
      ∃ (results : List β) (e : ε) (after : List (Except ε β)),
        outcomes = results.map .ok ++ .error e :: after := by
  induction outcomes with
  | nil => exact .inl ⟨[], rfl⟩
  | cons outcome outcomes ih =>
    cases outcome with
    | error e => exact .inr ⟨[], e, outcomes, rfl⟩
    | ok b =>
      rcases ih with ⟨results, rfl⟩ | ⟨results, e, after, rfl⟩
      · exact .inl ⟨b :: results, rfl⟩
      · exact .inr ⟨b :: results, e, after, rfl⟩

end Outcomes

end Regen
