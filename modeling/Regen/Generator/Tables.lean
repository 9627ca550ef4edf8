import Regen.FieldTable
import Regen.Generator.Basic
import Regen.Tool

/-!
# The generator of field number tables

For a file of one package it generates the table of the file's field numbers, named after the
file, in one directory of the module. For other files it generates nothing.
-/

namespace Regen.Generator

/-- Which files get a table, where the tables go and how they look. -/
structure Tables where
  modulePath : String
  package : String
  directory : String
  preamble : String
  formatter : Option String
  deriving DecidableEq

namespace Tables

def name : String := "fieldnum"

/-- The name of the table of a file. -/
def outputName (t : Tables) (file : FileDescriptor) : String :=
  let base := withoutEnding (Path.baseName file.name) ".proto"
  Path.joinText (Path.joinText t.modulePath t.directory) (base ++ "_gen.go")

/-- The table of a file as it goes to the formatter. -/
def source (t : Tables) (file : Request.File) : Except Failure String :=
  if FieldTable.isIllegible file.message then .error (.value .octets)
  else FieldTable.render file.description (Path.baseName t.directory) t.preamble

/-- Makes a failure of the formatter one of this generator. -/
def asFormatFailure (file : String) : Failure → Failure
  | .tool f => .plugin (.formatting name file f)
  | e => e

/-- Generates the table of a file of the package. -/
def generate (t : Tables) (c : Context) : Session Response := do
  if c.file.package ≠ .text t.package then return .empty
  let source ← Session.ofExcept (t.source c.file)
  let source ← tryCatch (Tool.format t.formatter source)
    fun e => throw (asFormatFailure c.file.name e)
  let _ ← Session.ofExcept c.file.title.demand
  return .ofFile (.plain (t.outputName c.file.description) source)

end Tables

def tables (t : Tables) : Generator where
  kind := .fieldTable
  name := Tables.name
  label := Tables.name
  isAvailable _ := true
  generate := t.generate

end Regen.Generator
