import Mathlib.Data.List.Basic
import Regen.Proofs.Tool
import Regen.Registry

/-!
# What a generator depends on

A registry that settings ask for holds programs and the tables of field numbers (`mem_generators_ofSettings`).
Where a program depends on nothing but the way it is called, each of them has one answer for a file, and the
other files that a request asks for do not matter to it (`separate_ofSettings`).
-/

namespace Regen

/-- What a program does depends on nothing but the way it is called. -/
def Host.Steady (host : Host) (command : String) : Prop :=
  ∀ call : Call, call.argv = [command] → ∀ t t', (host.run call t).1 = (host.run call t').1

/-- The programs that settings name depend on nothing but the way they are called. -/
structure Settings.ProgramsSteady (s : Settings) (host : Host) : Prop where
  plugins : ∀ p ∈ s.config.plugins, host.Steady p.2
  formatter : ∀ f, s.config.formatter = some f → host.Steady f

theorem Tool.respects_of_steady {host : Host} {command : String} (steady : host.Steady command) {call : Call}
    (argv : call.argv = [command]) : Respects host (fun _ _ => True) call :=
  fun w w' _ => ⟨Host.start_fst_congr (steady call argv w.files w'.files), trivial⟩

/-! ### Requests for one file -/

namespace Message

/-- The fields of a message without those of one number. -/
def fieldsBut (m : Message) (n : Nat) : List (Nat × Value) := m.fields.filter (·.1 != n)

theorem values_eq (m : Message) {n k : Nat} (other : k ≠ n) :
    m.values k = (m.fieldsBut n).filterMap fun f => if f.1 = k then some f.2 else none := by
  rw [fieldsBut, List.filterMap_filter]
  refine List.filterMap_congr fun f _ => ?_
  by_cases same : f.1 = k
  · simp [same, other]
  · simp [same]

theorem put_eq (m : Message) (n : Nat) (v : Value) : m.put n v =
    mk ((m.fieldsBut n).takeWhile (·.1 ≤ n) ++ (n, v) :: (m.fieldsBut n).dropWhile (·.1 ≤ n)) m.unknown := rfl

theorem fieldsBut_put (m : Message) (n : Nat) (v : Value) : (m.put n v).fieldsBut n = m.fieldsBut n := by
  have kept : ∀ fs : List (Nat × Value), (∀ f ∈ fs, f ∈ m.fieldsBut n) → fs.filter (·.1 != n) = fs :=
    fun fs part => List.filter_eq_self.2 fun f mem => (List.mem_filter.1 (part f mem)).2
  rw [put_eq, fieldsBut, fields, List.filter_append, List.filter_cons_of_neg (by simp),
    kept _ fun f mem => List.takeWhile_subset _ mem, kept _ fun f mem => List.dropWhile_subset _ mem,
    List.takeWhile_append_dropWhile]

theorem values_put (m : Message) (n : Nat) (v : Value) : (m.put n v).values n = [v] := by
  have none : ∀ fs : List (Nat × Value), (∀ f ∈ fs, f ∈ m.fieldsBut n) →
      fs.filterMap (fun f => if f.1 = n then some f.2 else none) = [] := by
    intro fs part
    refine List.filterMap_eq_nil_iff.2 fun f mem => if_neg ?_
    simpa using (List.mem_filter.1 (part f mem)).2
  rw [put_eq, values, fields, List.filterMap_append, none _ fun f mem => List.takeWhile_subset _ mem,
    List.filterMap_cons, none _ fun f mem => List.dropWhile_subset _ mem]
  simp

end Message

namespace Request

/-- A request is another one for one file only. -/
structure Narrows (whole single : Request) (file : String) : Prop where
  names : single.names = [.text file]
  fields : single.message.fieldsBut 1 = whole.message.fieldsBut 1
  unknown : single.message.unknown = whole.message.unknown

theorem narrows_narrowed (r : Request) (file : String) : Narrows r (r.narrowed file) file where
  names := by
    rw [names, Message.handed, narrowed, Message.values_put]
    rfl
  fields := Message.fieldsBut_put _ _ _
  unknown := rfl

namespace Narrows

variable {whole single : Request} {file : String} (narrows : Narrows whole single file)

include narrows

theorem narrowed (name : String) : single.narrowed name = whole.narrowed name := by
  rw [Request.narrowed, Request.narrowed, Message.put_eq, Message.put_eq, narrows.fields, narrows.unknown]

theorem descriptor? (name : Handed) : single.descriptor? name = whole.descriptor? name := by
  have same : single.message.values 15 = whole.message.values 15 := by
    rw [Message.values_eq _ (show 15 ≠ 1 by decide), Message.values_eq _ (show 15 ≠ 1 by decide),
      narrows.fields]
  rw [Request.descriptor?, Request.descriptor?, descriptors, descriptors, Message.nested, Message.nested, same]

end Narrows

end Request

/-! ### Generators -/

/-- A generator has one answer for a file, and the other files of a request do not matter to it. -/
structure Generator.Separate (g : Generator) (host : Host) : Prop where
  steady : ∀ c, (g.generate c).Steady host
  single : ∀ {whole single : Request} {file : String}, whole.Narrows single file → ∀ d stable,
    g.generate ⟨single, d, stable⟩ = g.generate ⟨whole, d, stable⟩

namespace Generator

open Session (Alike)

theorem separate_external {host : Host} (name : String) {executable : String}
    (steady : host.Steady executable) : (external name executable).Separate host where
  steady c := by
    have run (env : Env) (input : Bytes) : (tryCatch (Tool.run [executable] ⟨none, some env, some input⟩)
        fun e => throw (asToolFailure name e)).Steady host :=
      .tryCatch (Tool.alike_run (Tool.respects_of_steady steady rfl)) fun _ => .throw _
    refine Alike.read (.bind (.ofExcept _) fun input => (run _ input).bind fun output => .bind (.ofExcept _) fun r => ?_)
    split
    · exact .ofExcept _
    · exact .pure r
  single narrows d stable := by
    have same := narrows.narrowed d.name
    simp only [external, generateExternal, inputFor, same]

theorem separate_tables {host : Host} (t : Tables) (steady : ∀ f, t.formatter = some f → host.Steady f) :
    (tables t).Separate host where
  steady c := by
    have format (source : String) : (tryCatch (Tool.format t.formatter source)
        fun e => throw (Tables.asFormatFailure c.file.name e)).Steady host :=
      .tryCatch (Tool.alike_format fun f known => Tool.respects_of_steady (steady f known) rfl) fun _ => .throw _
    unfold tables Tables.generate
    simp only
    split
    · exact .pure _
    · exact .bind (.ofExcept _) fun source => (format source).bind fun source => .bind (.ofExcept _) fun _ => .pure _
  single _ _ _ := rfl

end Generator

/-! ### Registries -/

namespace Registry

theorem generators_register (r : Registry) (plugin q : String) (g : Generator) :
    (r.register plugin g).generators q =
      if q = plugin then r.generators plugin ++ [g] else r.generators q := by
  rw [register, generators, Assoc.get?_put]
  split <;> rfl

theorem mem_generators_register {r : Registry} {plugin q : String} {g h : Generator}
    (mem : g ∈ (r.register plugin h).generators q) : g ∈ r.generators q ∨ g = h := by
  rw [generators_register] at mem
  split at mem
  · next here =>
    rcases List.mem_append.1 mem with mem | mem
    · exact .inl (here ▸ mem)
    · exact .inr (List.mem_singleton.1 mem)
  · exact .inl mem

theorem mem_generators_ofPlugins {plugins : List (String × String)} {q : String} {g : Generator}
    (mem : g ∈ (ofPlugins plugins).generators q) : ∃ p ∈ plugins, g = .external p.2 p.2 := by
  have step : ∀ (plugins : List (String × String)) (r : Registry),
      g ∈ (plugins.foldl (fun r p => r.register p.1 (.external p.2 p.2)) r).generators q →
      g ∈ r.generators q ∨ ∃ p ∈ plugins, g = .external p.2 p.2 := by
    intro plugins
    induction plugins with
    | nil => exact fun r mem => .inl mem
    | cons p plugins ih =>
      intro r mem
      rcases ih _ mem with mem | ⟨p', listed, same⟩
      · rcases mem_generators_register mem with mem | same
        · exact .inl mem
        · exact .inr ⟨p, by simp, same⟩
      · exact .inr ⟨p', by simp [listed], same⟩
  rcases step plugins empty mem with none | found
  · cases none
  · exact found

theorem mem_generators_ofSettings {s : Settings} {q : String} {g : Generator}
    (mem : g ∈ (ofSettings s).generators q) :
    (∃ p ∈ s.config.plugins, g = .external p.2 p.2) ∨ g = .tables (tablesOf s) := by
  rcases mem_generators_register mem with mem | same
  · exact .inl (mem_generators_ofPlugins mem)
  · exact .inr same

/-- All generators of a registry have one answer for a file. -/
def Separate (r : Registry) (host : Host) : Prop := ∀ plugin, ∀ g ∈ r.generators plugin, g.Separate host

theorem separate_ofSettings {s : Settings} {host : Host} (steady : s.ProgramsSteady host) :
    (ofSettings s).Separate host := by
  intro plugin g mem
  rcases mem_generators_ofSettings mem with ⟨p, listed, rfl⟩ | rfl
  · exact Generator.separate_external p.2 (steady.plugins p listed)
  · exact Generator.separate_tables _ steady.formatter

theorem runOn_warnOfMissing_fst (plugins : List (String × String)) (host : Host) (w : World) :
    ((warnOfMissing plugins).runOn host w).1 = .ok () := by
  refine Session.runOn_forM_fst (fun (plugin, executable) _ w => ?_) w
  by_cases missing : (host.locate executable).isNone = true
  · simp only [missing, if_true]
    rfl
  · simp only [missing]
    rfl

/-- A program that cannot be found does not keep the registry from being built. -/
theorem runOn_build_fst (s : Settings) (host : Host) (w : World) :
    ((build s).runOn host w).1 = .ok (ofSettings s) := by
  have warned : ((warnOfMissing s.config.plugins).runOn host w).1 = .ok () := runOn_warnOfMissing_fst ..
  rw [build, Session.runOn_bind]
  generalize (warnOfMissing s.config.plugins).runOn host w = r at warned
  obtain ⟨_, v⟩ := r
  cases warned
  rfl

end Registry
end Regen
