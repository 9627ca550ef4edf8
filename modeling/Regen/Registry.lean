import Regen.Generator.External
import Regen.Generator.Tables
import Regen.Settings.Basic

/-!
# The registry of generators

A name that the compiler is given stands for a list of generators, which run in the order in
which they were registered. Names stay in the order of their first registration.
-/

namespace Regen

structure Registry where
  entries : List (String × List Generator)

namespace Registry

def empty : Registry := ⟨[]⟩

/-- The generators of a name; none when there is no such name. -/
def generators (r : Registry) (plugin : String) : List Generator :=
  (Assoc.get? r.entries plugin).getD []

/-- Puts a generator behind those of a name. -/
def register (r : Registry) (plugin : String) (g : Generator) : Registry :=
  ⟨Assoc.put r.entries plugin (r.generators plugin ++ [g])⟩

/-- Removes a name and all its generators. -/
def unregister (r : Registry) (plugin : String) : Registry := ⟨Assoc.erase r.entries plugin⟩

def names (r : Registry) : List String := r.entries.map (·.1)

/-- The generators of a name, at least one. -/
def resolve (r : Registry) (plugin : String) : Except Failure (List Generator) :=
  match r.generators plugin with
  | [] => .error (.plugin (.unknown plugin (Sorting.texts r.names)))
  | gs => .ok gs

/-- The name whose generators end with the tables of field numbers. -/
def tablesName : String := "go"

/-- The tables that settings ask for. -/
def tablesOf (s : Settings) : Generator.Tables where
  modulePath := s.modulePath
  package := s.config.fieldTablePackage
  directory := s.config.fieldTableDir
  preamble := s.config.preambleText
  formatter := s.config.formatter

/-- The programs of a table of plugins. -/
def ofPlugins (plugins : List (String × String)) : Registry :=
  plugins.foldl (fun r (plugin, executable) =>
    r.register plugin (.external executable executable)) empty

/-- The registry that settings ask for. -/
def ofSettings (s : Settings) : Registry :=
  (ofPlugins s.config.plugins).register tablesName (.tables (tablesOf s))

/-- Warns of the programs in a table of plugins that cannot be found. -/
def warnOfMissing (plugins : List (String × String)) : Session Unit := do
  let host ← read
  plugins.forM fun (plugin, executable) => do
    if (host.locate executable).isNone then
      let name := Text.quoted plugin
      Session.warn s!"Plugin executable for {name} not found on PATH: {executable}"

/-- Builds the registry that settings ask for. -/
def build (s : Settings) : Session Registry := do
  warnOfMissing s.config.plugins
  return ofSettings s

end Registry
end Regen
