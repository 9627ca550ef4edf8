import Regen.Request
import Regen.Response.Basic
import Regen.Session

/-!
# Generators

A generator answers a request for one file with generated files. It has a name for failures and
a label for the journal, and it knows whether it can run on a host.
-/

namespace Regen

namespace Generator

/-- What a generator is asked: the whole request, the file and whether the answer has to be free
    of tool versions. -/
structure Context where
  request : Request
  file : Request.File
  stable : Bool

inductive Kind where
  /-- A program of its own. -/
  | external
  /-- The tables of field numbers. -/
  | fieldTable
  /-- Answers that were fixed beforehand. -/
  | scripted
  deriving DecidableEq

end Generator

structure Generator where
  kind : Generator.Kind
  name : String
  label : String
  isAvailable : Host → Bool
  generate : Generator.Context → Session Response

namespace Generator

/-- Asks a generator for a file. -/
def ask (g : Generator) (c : Context) : Session Response := do
  Session.note (.asked g.label c.file.name c.stable)
  g.generate c

/-- A text without the ending, when it has it. -/
def withoutEnding (s ending : String) : String :=
  if s.endsWith ending then (s.dropEnd ending.length).toString else s

end Generator
end Regen
