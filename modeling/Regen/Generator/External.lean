import Regen.Generator.Basic
import Regen.Response.Stable
import Regen.Tool

/-!
# Generators that are programs

The program gets the request for one file on its input and answers on its output. It does not
see the variable that makes this program a generator. An answer that carries an error is a
failure.
-/

namespace Regen.Generator

/-- The environment of a generator's program. -/
def externalEnv (env : Env) : Env := Assoc.erase env Tool.pluginEnv

/-- Makes a failure of a tool one of the named generator. -/
def asToolFailure (name : String) : Failure → Failure
  | .tool f => .plugin (.toolFailed name f)
  | e => e

/-- The answer that the output of a generator's program holds for a file. -/
def readAnswer (name file : String) (output : Bytes) : Except Failure Response :=
  match Response.decode? output with
  | none => .error (.plugin (.undecodableResponse name file))
  | some r =>
    match r.error with
    | some text => .error (.plugin (.reported name file text))
    | none => .ok r

/-- The input of a generator's program: the request for one file. The name of the file is put into it, which has to be
    a text for that. -/
def inputFor (c : Context) : Except Failure Bytes :=
  if c.file.title.isText then
    match (c.request.narrowed c.file.name).encode? with
    | some input => .ok input
    | none => .error .notComplete
  else .error .notText

/-- Asks a program for a file. -/
def generateExternal (name executable : String) (c : Context) : Session Response := do
  let host ← read
  let env := externalEnv host.env
  let input ← Session.ofExcept (inputFor c)
  let (output, _) ← tryCatch (Tool.run [executable] ⟨none, some env, some input⟩)
    fun e => throw (asToolFailure name e)
  let r ← Session.ofExcept (readAnswer name c.file.name output)
  if c.stable then Session.ofExcept (r.stabilizeHanded host.objects) else return r

def external (name executable : String) : Generator where
  kind := .external
  name := name
  label := name
  isAvailable host := (host.locate executable).isSome
  generate := generateExternal name executable

end Regen.Generator
