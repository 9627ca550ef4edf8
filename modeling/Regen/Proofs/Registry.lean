import Mathlib.Data.List.DropRight
import Regen.Proofs.Files.Sound
import Regen.Proofs.Generator

/-!
# A registry is the log of its changes

What a registry holds under a name are the generators that were registered since the name was last removed
(`generators_ofLog`), and the names stand in the order in which they came after that (`pairwise_names`). A name that
holds nothing is not there (`mem_names_iff`), so resolving fails exactly for the names that are not listed. The
registry of settings is such a log too: one registration for each program and one for the tables of field numbers
(`resolve_logged`).
-/

namespace Regen

namespace Assoc

variable {κ α : Type} [DecidableEq κ]

theorem get?_erase (t : List (κ × α)) (k k' : κ) :
    get? (erase t k) k' = if k' = k then none else get? t k' := by
  induction t with
  | nil => simp [erase, get?]
  | cons e t ih =>
    unfold erase at ih ⊢
    by_cases erased : e.1 = k
    · rw [List.filter_cons_of_neg (by simpa using erased), ih]
      split
      · rfl
      · next other => simp [get?, erased, Ne.symm other]
    · rw [List.filter_cons_of_pos (by simpa using erased)]
      by_cases found : e.1 = k'
      · have other : ¬ k' = k := fun same => erased (found.trans same)
        simp [get?, found, other]
      · simpa [get?, found] using ih

theorem keys_erase (t : List (κ × α)) (k : κ) : (erase t k).map (·.1) = (t.map (·.1)).filter (· ≠ k) := by
  rw [erase, List.filter_map]
  rfl

/-- In a table a key has the one entry that is found. -/
theorem filter_key {t : List (κ × α)} (distinct : (t.map (·.1)).Nodup) (k : κ) :
    t.filter (·.1 = k) = (get? t k).toList.map (k, ·) := by
  induction t with
  | nil => rfl
  | cons e t ih =>
    obtain ⟨fresh, distinct⟩ := List.nodup_cons.1 distinct
    by_cases here : e.1 = k
    · subst here
      have behind : t.filter (·.1 = e.1) = [] := by
        rw [List.filter_eq_nil_iff]
        intro d mem same
        exact fresh (List.mem_map.2 ⟨d, mem, by simpa using same⟩)
      rw [List.filter_cons_of_pos (by simp), behind]
      simp [get?]
    · rw [List.filter_cons_of_neg (by simpa using here), ih distinct]
      simp [get?, here]

end Assoc

namespace Registry

/-! ### One change -/

theorem generators_unregister (r : Registry) (plugin q : String) :
    (r.unregister plugin).generators q = if q = plugin then [] else r.generators q := by
  rw [unregister, generators, Assoc.get?_erase]
  split <;> rfl

theorem names_register (r : Registry) (plugin : String) (g : Generator) :
    (r.register plugin g).names = if plugin ∈ r.names then r.names else r.names ++ [plugin] :=
  Assoc.keys_put ..

theorem names_unregister (r : Registry) (plugin : String) :
    (r.unregister plugin).names = r.names.filter (· ≠ plugin) := Assoc.keys_erase ..

theorem resolve_of_ne_nil {r : Registry} {p : String} (some : r.generators p ≠ []) :
    r.resolve p = .ok (r.generators p) := by
  unfold resolve
  split
  · next none => exact absurd none some
  · rfl

theorem resolve_of_nil {r : Registry} {p : String} (none : r.generators p = []) :
    r.resolve p = .error (.plugin (.unknown p (Sorting.texts r.names))) := by
  rw [resolve, none]

/-- A change to a registry. -/
inductive Change where
  | register (plugin : String) (g : Generator)
  | unregister (plugin : String)

namespace Change

/-- The name that is changed. -/
def plugin : Change → String
  | register p _ => p
  | unregister p => p

/-- The name is removed. -/
def removes (p : String) : Change → Bool
  | register _ _ => false
  | unregister q => q = p

/-- What is registered under the name. -/
def adds? (p : String) : Change → Option Generator
  | register q g => if q = p then some g else none
  | unregister _ => none

def apply (r : Registry) : Change → Registry
  | register p g => r.register p g
  | unregister p => r.unregister p

variable {c : Change} {p : String}

theorem removes_of_ne (other : c.plugin ≠ p) : c.removes p = false := by
  cases c with
  | register q g => rfl
  | unregister q => exact decide_eq_false other

theorem adds?_of_ne (other : c.plugin ≠ p) : c.adds? p = none := by
  cases c with
  | register q g => exact if_neg other
  | unregister q => rfl

end Change

/-! ### Logs -/

/-- The registry that a log of changes leaves behind, when there was nothing at first. -/
def ofLog (log : List Change) : Registry := log.foldl Change.apply empty

/-- The end of a log that is behind the last removal of a name. -/
def since (p : String) (log : List Change) : List Change := log.rtakeWhile fun c => !c.removes p

/-- What was registered under a name since its last removal, in order. -/
def standing (p : String) (log : List Change) : List Generator := (since p log).filterMap (·.adds? p)

/-- Where in a log a name was first registered since its last removal. -/
def arrival (p : String) (log : List Change) : Nat :=
  (log.length - (since p log).length) + (since p log).findIdx fun c => (c.adds? p).isSome

variable {log : List Change} {p q : String} {c : Change}

theorem ofLog_concat (log : List Change) (c : Change) : ofLog (log ++ [c]) = c.apply (ofLog log) := by
  rw [ofLog, List.foldl_append]
  rfl

theorem since_concat (p : String) (log : List Change) (c : Change) :
    since p (log ++ [c]) = if c.removes p then [] else since p log ++ [c] := by
  rw [since, List.rtakeWhile_concat]
  cases c.removes p <;> rfl

theorem length_since_le (p : String) (log : List Change) : (since p log).length ≤ log.length :=
  List.IsSuffix.length_le (List.rtakeWhile_suffix ..)

/-- A removal takes what stood under the name, and a registration comes behind it. -/
theorem standing_concat (p : String) (log : List Change) (c : Change) :
    standing p (log ++ [c]) = if c.removes p then [] else standing p log ++ (c.adds? p).toList := by
  rw [standing, since_concat]
  split
  · rfl
  · rw [List.filterMap_append, ← standing]
    cases adds : c.adds? p <;> simp [adds]

theorem standing_register (p : String) (log : List Change) (q : String) (g : Generator) :
    standing p (log ++ [.register q g]) = if p = q then standing p log ++ [g] else standing p log := by
  rw [standing_concat]
  by_cases here : p = q
  · simp [Change.removes, Change.adds?, here]
  · simp [Change.removes, Change.adds?, here, Ne.symm here]

theorem standing_unregister (p : String) (log : List Change) (q : String) :
    standing p (log ++ [.unregister q]) = if p = q then [] else standing p log := by
  rw [standing_concat]
  by_cases here : p = q
  · simp [Change.removes, here]
  · simp [Change.removes, Change.adds?, here, Ne.symm here]

theorem standing_of_ne (other : c.plugin ≠ p) : standing p (log ++ [c]) = standing p log := by
  rw [standing_concat, Change.removes_of_ne other, Change.adds?_of_ne other]
  exact List.append_nil _

/-- A registry holds what stands in its log. -/
theorem generators_ofLog (log : List Change) (p : String) : (ofLog log).generators p = standing p log := by
  induction log using List.reverseRecOn with
  | nil => rfl
  | append_singleton log c ih =>
    rw [ofLog_concat]
    cases c with
    | register q g =>
      show ((ofLog log).register q g).generators p = _
      rw [generators_register, standing_register]
      split
      · next here => rw [← here, ih]
      · exact ih
    | unregister q =>
      show ((ofLog log).unregister q).generators p = _
      rw [generators_unregister, standing_unregister, ih]

/-- The names of a registry are those under which something stands. -/
theorem mem_names_iff (log : List Change) (p : String) : p ∈ (ofLog log).names ↔ standing p log ≠ [] := by
  induction log using List.reverseRecOn with
  | nil => simp [ofLog, names, empty, standing, since]
  | append_singleton log c ih =>
    rw [ofLog_concat]
    cases c with
    | register q g =>
      show p ∈ ((ofLog log).register q g).names ↔ _
      rw [names_register, standing_register]
      by_cases here : p = q
      · subst here
        split <;> simp_all
      · split <;> simp [ih, here]
    | unregister q =>
      show p ∈ ((ofLog log).unregister q).names ↔ _
      rw [names_unregister, standing_unregister, List.mem_filter, ih]
      by_cases here : p = q <;> simp [here]

/-! ### The order of the names -/

theorem findIdx_since_lt (stands : standing p log ≠ []) :
    (since p log).findIdx (fun c => (c.adds? p).isSome) < (since p log).length := by
  obtain ⟨g, listed⟩ := List.exists_mem_of_ne_nil _ stands
  obtain ⟨d, mem, adds⟩ := List.mem_filterMap.1 listed
  exact List.findIdx_lt_length_of_exists ⟨d, mem, by simp [adds]⟩

theorem arrival_lt (stands : standing p log ≠ []) : arrival p log < log.length := by
  have inside := findIdx_since_lt stands
  have whole := length_since_le p log
  unfold arrival
  omega

/-- A name under which something stands keeps its arrival as long as it is not removed. -/
theorem arrival_concat (stands : standing p log ≠ []) (stays : c.removes p = false) :
    arrival p (log ++ [c]) = arrival p log := by
  have inside := findIdx_since_lt stands
  have whole := length_since_le p log
  rw [arrival, since_concat, stays, if_neg Bool.false_ne_true, List.findIdx_append, if_pos inside, arrival,
    List.length_append, List.length_append, List.length_singleton]
  omega

/-- A name under which nothing stood arrives with its registration. -/
theorem arrival_register (none : standing p log = []) (g : Generator) :
    arrival p (log ++ [.register p g]) = log.length := by
  have before : (since p log).findIdx (fun c => (c.adds? p).isSome) = (since p log).length := by
    rw [List.findIdx_eq_length]
    intro d mem
    rw [standing, List.filterMap_eq_nil_iff] at none
    rw [none d mem]
    rfl
  have whole := length_since_le p log
  have stays : since p (log ++ [.register p g]) = since p log ++ [.register p g] := since_concat ..
  have last : [Change.register p g].findIdx (fun c => (c.adds? p).isSome) = 0 := by simp [Change.adds?]
  rw [arrival, stays, List.findIdx_append, before, if_neg (Nat.lt_irrefl _), last, List.length_append,
    List.length_append, List.length_singleton]
  omega

section Step

variable (ordered : (ofLog log).names.Pairwise fun p q => arrival p log < arrival q log)

include ordered

/-- The names that stayed keep their order, and a new one comes behind them. -/
theorem pairwise_names_register (plugin : String) (g : Generator) :
    ((ofLog log).register plugin g).names.Pairwise fun p q =>
      arrival p (log ++ [.register plugin g]) < arrival q (log ++ [.register plugin g]) := by
  have stays : ∀ {p}, p ∈ (ofLog log).names → arrival p (log ++ [.register plugin g]) = arrival p log := by
    intro p listed
    exact arrival_concat ((mem_names_iff log p).1 listed) rfl
  have kept : (ofLog log).names.Pairwise fun p q =>
      arrival p (log ++ [.register plugin g]) < arrival q (log ++ [.register plugin g]) := by
    refine ordered.imp_of_mem fun first second less => ?_
    rwa [stays first, stays second]
  rw [names_register]
  split
  · exact kept
  · next new =>
    have none : standing plugin log = [] := by simpa [mem_names_iff] using new
    refine List.pairwise_append.2 ⟨kept, List.pairwise_singleton .., ?_⟩
    intro p listed q last
    obtain rfl := List.mem_singleton.1 last
    rw [stays listed, arrival_register none]
    exact arrival_lt ((mem_names_iff log p).1 listed)

theorem pairwise_names_unregister (plugin : String) :
    ((ofLog log).unregister plugin).names.Pairwise fun p q =>
      arrival p (log ++ [.unregister plugin]) < arrival q (log ++ [.unregister plugin]) := by
  have stays : ∀ {p}, p ∈ (ofLog log).names.filter (· ≠ plugin) →
      arrival p (log ++ [.unregister plugin]) = arrival p log := by
    intro p mem
    obtain ⟨listed, other⟩ := List.mem_filter.1 mem
    have behind : p ≠ plugin := by simpa using other
    exact arrival_concat ((mem_names_iff log p).1 listed) (Change.removes_of_ne behind.symm)
  rw [names_unregister]
  refine (ordered.filter _).imp_of_mem fun first second less => ?_
  rwa [stays first, stays second]

end Step

/-- The names of a registry stand in the order of their arrival. -/
theorem pairwise_names (log : List Change) :
    (ofLog log).names.Pairwise fun p q => arrival p log < arrival q log := by
  induction log using List.reverseRecOn with
  | nil => exact .nil
  | append_singleton log c ih =>
    rw [ofLog_concat]
    cases c with
    | register plugin g => exact pairwise_names_register ih plugin g
    | unregister plugin => exact pairwise_names_unregister ih plugin

/-! ### Resolving -/

/-- What stands under a name depends on the changes of that name alone. -/
theorem standing_filter (p : String) (log : List Change) :
    standing p (log.filter (·.plugin = p)) = standing p log := by
  induction log using List.reverseRecOn with
  | nil => rfl
  | append_singleton log c ih =>
    rw [List.filter_append]
    by_cases here : c.plugin = p
    · rw [List.filter_cons_of_pos (by simp [here]), List.filter_nil, standing_concat, standing_concat, ih]
    · rw [List.filter_cons_of_neg (by simp [here]), List.filter_nil, List.append_nil, ih, standing_of_ne here]

theorem resolve_ofLog_of_stands (stands : standing p log ≠ []) : (ofLog log).resolve p = .ok (standing p log) := by
  rw [← generators_ofLog] at stands ⊢
  exact resolve_of_ne_nil stands

theorem resolve_ofLog_of_none (none : standing p log = []) :
    (ofLog log).resolve p = .error (.plugin (.unknown p (Sorting.texts (ofLog log).names))) := by
  rw [← generators_ofLog] at none
  exact resolve_of_nil none

theorem toOption_resolve_ofLog (log : List Change) (p : String) :
    ((ofLog log).resolve p).toOption = if (standing p log).isEmpty then none else some (standing p log) := by
  cases stands : standing p log with
  | nil =>
    rw [resolve_ofLog_of_none stands]
    rfl
  | cons g gs =>
    have some : standing p log ≠ [] := by simp [stands]
    rw [resolve_ofLog_of_stands some, stands]
    rfl

/-- A registry says what its log says: a name stands for what was registered under it since its last removal, and the
names that stand for anything are listed as they arrived. Only the text of a failure tells of other names. -/
structure Follows (log : List Change) : Prop where
  resolved : ∀ p, standing p log ≠ [] → (ofLog log).resolve p = .ok (standing p log)
  unknown : ∀ p, standing p log = [] →
    (ofLog log).resolve p = .error (.plugin (.unknown p (Sorting.texts (ofLog log).names)))
  listed : ∀ p, p ∈ (ofLog log).names ↔ ∃ gs, (ofLog log).resolve p = .ok gs
  distinct : (ofLog log).names.Nodup
  ordered : (ofLog log).names.Pairwise fun p q => arrival p log < arrival q log
  apart : ∀ p, ((ofLog log).resolve p).toOption = ((ofLog (log.filter (·.plugin = p))).resolve p).toOption

theorem follows (log : List Change) : Follows log where
  resolved _ := resolve_ofLog_of_stands
  unknown _ := resolve_ofLog_of_none
  listed p := by
    rw [mem_names_iff]
    constructor
    · intro stands
      exact ⟨_, resolve_ofLog_of_stands stands⟩
    · rintro ⟨gs, found⟩ none
      rw [resolve_ofLog_of_none none] at found
      cases found
  distinct := (pairwise_names log).imp fun less same => by simp [same] at less
  ordered := pairwise_names log
  apart p := by rw [toOption_resolve_ofLog, toOption_resolve_ofLog, standing_filter]

/-! ### The registry of settings -/

/-- The registrations of the programs in a table of plugins. -/
def programs (plugins : List (String × String)) : List Change :=
  plugins.map fun e => .register e.1 (.external e.2 e.2)

theorem ofPlugins_eq (plugins : List (String × String)) : ofPlugins plugins = ofLog (programs plugins) := by
  rw [ofLog, programs, List.foldl_map]
  rfl

theorem ofSettings_eq (s : Settings) :
    ofSettings s = ofLog (programs s.config.plugins ++ [.register tablesName (.tables (tablesOf s))]) := by
  rw [ofLog_concat, ← ofPlugins_eq]
  rfl

theorem standing_programs (p : String) (plugins : List (String × String)) :
    standing p (programs plugins) = (plugins.filter (·.1 = p)).map fun e => .external e.2 e.2 := by
  induction plugins using List.reverseRecOn with
  | nil => rfl
  | append_singleton plugins e ih =>
    have last : programs (plugins ++ [e]) = programs plugins ++ [.register e.1 (.external e.2 e.2)] :=
      List.map_append ..
    rw [last, standing_register, ih, List.filter_append]
    by_cases here : e.1 = p
    · simp [here]
    · simp [here, Ne.symm here]

/-- The name of the tables stands for its program, if it has one, and the tables. Each other name of the table of
plugins stands for its program alone. -/
structure Wired (s : Settings) (r : Registry) : Prop where
  tables : r.resolve tablesName = .ok
    (((Assoc.get? s.config.plugins tablesName).toList.map fun e => .external e e) ++ [.tables (tablesOf s)])
  programs : ∀ e ∈ s.config.plugins, e.1 ≠ tablesName → r.resolve e.1 = .ok [.external e.2 e.2]

theorem wired_ofSettings {s : Settings} (distinct : (s.config.plugins.map (·.1)).Nodup) : Wired s (ofSettings s) := by
  rw [ofSettings_eq]
  constructor
  · have stands : standing tablesName (programs s.config.plugins ++ [.register tablesName (.tables (tablesOf s))]) =
        ((Assoc.get? s.config.plugins tablesName).toList.map fun e => .external e e) ++ [.tables (tablesOf s)] := by
      rw [standing_register, if_pos rfl, standing_programs, Assoc.filter_key distinct, List.map_map]
      rfl
    rw [resolve_ofLog_of_stands (by simp [stands]), stands]
  · intro e mem other
    have stands : standing e.1 (programs s.config.plugins ++ [.register tablesName (.tables (tablesOf s))]) =
        [.external e.2 e.2] := by
      rw [standing_register, if_neg other, standing_programs, Assoc.filter_key distinct,
        Assoc.get?_of_mem distinct mem]
      rfl
    rw [resolve_ofLog_of_stands (by simp [stands]), stands]

/-- A registry is the log of its changes, and the one that is built of a table of plugins has their programs and the
tables of field numbers behind that of their name. -/
theorem resolve_logged (log : List Change) {s : Settings} (distinct : (s.config.plugins.map (·.1)).Nodup)
    (host : Host) (w : World) :
    Follows log ∧ ∃ r, ((build s).runOn host w).1 = .ok r ∧ Wired s r :=
  ⟨follows log, _, runOn_build_fst s host w, wired_ofSettings distinct⟩

namespace Sample

def generator (name : String) : Generator := .external name name

/-- The first name is removed, and it comes back behind the second one. -/
def changes : List Change :=
  [.register "go" (generator "old"), .register "grpc" (generator "service"), .unregister "go",
    .register "go" (generator "new"), .register "go" (generator "new")]

def settings : Settings := ⟨.plugin, .diff, ⟨"/", []⟩, "example.com/m", none, "", ["go", "grpc"], none, .default⟩

def host : Host := ⟨[], [], "regen", fun _ => none, fun _ t => (.unstarted 0, t), fun _ n => n, fun _ => false⟩

end Sample

theorem resolve_logged_sample :
    (ofLog Sample.changes).resolve "go" = .ok [Sample.generator "new", Sample.generator "new"] ∧
    ∃ r, ((build Sample.settings).runOn Sample.host ⟨.empty, []⟩).1 = .ok r ∧
      r.resolve "go" = .ok [.external "protoc-gen-go" "protoc-gen-go", .tables (tablesOf Sample.settings)] ∧
      r.resolve "grpc" = .ok [.external "protoc-gen-go-grpc" "protoc-gen-go-grpc"] := by
  have distinct : (Sample.settings.config.plugins.map (·.1)).Nodup := by decide
  obtain ⟨follows, r, built, wired⟩ := resolve_logged Sample.changes distinct Sample.host ⟨.empty, []⟩
  have program := wired.programs ("grpc", "protoc-gen-go-grpc") (by decide) (by decide)
  exact ⟨follows.resolved "go" (by decide), r, built, wired.tables, program⟩

/-- A name that was removed comes behind the names that stayed. -/
example : (ofLog Sample.changes).names = ["grpc", "go"] := by decide

end Registry
end Regen
