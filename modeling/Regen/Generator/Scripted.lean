import Regen.Assoc
import Regen.Generator.Basic

/-!
# Generators with fixed answers

Such a generator stands in for a program where there is none. It generates one small file for
each file, and it fails for the files for which it was told to.
-/

namespace Regen.Generator

structure Script where
  name : String
  /-- What the journal calls the generator. -/
  label : String
  available : Bool
  ending : String
  /-- The files to fail for, with the failures' texts. -/
  failures : List (String × String)
  deriving DecidableEq

namespace Script

/-- The text of a failure that was given none. -/
def defaultFailure : String := "Mock failure"

def answer (s : Script) (file : Handed) : Except Failure Response := do
  let file ← file.demand
  match Assoc.get? s.failures file with
  | some text => throw (.plugin (.scripted s.name text))
  | none =>
    return .ofFile (.plain (withoutEnding file ".proto" ++ "." ++ s.ending)
      s!"// {s.name} {file}\n")

end Script

def scripted (s : Script) : Generator where
  kind := .scripted
  name := s.name
  label := s.label
  isAvailable _ := s.available
  generate c := Session.ofExcept (s.answer c.file.title)

end Regen.Generator
