import Regen.Session

/-!
# Tools

Every tool is started by `run`, which gives its output or fails with the command line and all
that the tool said. The other functions are the tools that a run needs: the one that knows the
repository, the one that knows the module path, the formatter and the compiler of description
files, which starts this program as its generator.
-/

namespace Regen.Tool

/-- The variable that makes this program serve as a generator, with the generators' names. -/
def pluginEnv : String := "RUN_AS_PROTOC_PLUGIN"

def modulePathEnv : String := "GENPROTOS_MODULE_PATH"

def configEnv : String := "GENPROTOS_CONFIG"

/-- Where a tool runs, in which environment and with what input. -/
structure Setting where
  cwd : Option String
  env : Option Env
  input : Option Bytes

def Setting.plain : Setting := ⟨none, none, none⟩

/-- The standard output of a tool that ended well, and what it said beside it. -/
def run (argv : List String) (s : Setting) : Session (Bytes × Bytes) := do
  let call : Call := ⟨argv, s.cwd, s.env, s.input⟩
  Session.note (.ran call)
  let w ← get
  let (outcome, files) := (← read).start call w.files
  modify fun w => { w with files := files }
  match outcome with
  | none => throw .outOfRange
  | some (.unstarted n) =>
    let fault : SystemFault := ⟨n, argv.headD ""⟩
    throw (.tool ⟨argv, fault.message, none⟩)
  | some (.ended status out err) =>
    if status = 0 then return (out, err)
    else throw (.tool ⟨argv, Text.decodeReplacing (out ++ err), some status⟩)

/-- Bytes as a text; it is a failure when they are none. -/
def text (bs : Bytes) : Session String :=
  match Text.decode? bs with
  | some s => return s
  | none => throw .notText

/-- The output of a tool without the blanks around it. -/
def output (argv : List String) (cwd : Option String) : Session String := do
  let (out, _) ← run argv { Setting.plain with cwd := cwd }
  return Text.trim (← text out)

/-- The top of the repository around the current directory. -/
def repositoryRoot : Session Path := do
  return Path.ofString (← output ["git", "rev-parse", "--show-toplevel"] none)

/-- The module path that a repository declares. -/
def modulePath (root : Path) : Session String :=
  output ["go", "list", "-m", "-f", "\x7b\x7b.Path\x7d\x7d"] (some root.toString)

/-- The source text as the formatter leaves it; without a formatter, as it is. -/
def format (formatter : Option String) (source : String) : Session String :=
  match formatter with
  | none => return source
  | some f =>
    if f = "" then return source
    else do
      let (out, _) ← run [f] { Setting.plain with input := some (Text.bytes source) }
      text out

/-! ### The compiler of description files -/

/-- The compiler with this program as its generator. -/
structure Compiler where
  command : String
  /-- The executable that the compiler starts as its generator. -/
  generator : String
  modulePath : String
  config : Option Path
  cwd : Option String

namespace Compiler

def argv (c : Compiler) (args : List String) : List String :=
  c.command :: ("--plugin=protoc-gen-go=" ++ c.generator) :: args

/-- The environment in which the generator finds the names of the generators to run, the module
    path and the configuration. -/
def childEnv (c : Compiler) (env : Env) (backends : String) : Env :=
  let env := Assoc.put env pluginEnv backends
  let env := if c.modulePath = "" then env else Assoc.put env modulePathEnv c.modulePath
  match c.config with
  | some p => Assoc.put env configEnv p.toString
  | none => env

/-- Runs the compiler once. -/
def compile (c : Compiler) (backends : String) (args : List String) : Session Unit := do
  let env := c.childEnv (← read).env backends
  let _ ← run (c.argv args) ⟨c.cwd, some env, none⟩

end Compiler
end Regen.Tool
