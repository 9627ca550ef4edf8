import Regen.CommandLine
import Regen.Dispatch
import Regen.Generation.Summary
import Regen.Log
import Regen.Text.Style

/-!
# The program

One process: it serves a request when its environment makes it a generator, and otherwise it
does what its command line asks for. Failures that are reported end it with status one, a
malformed command line with status two.
-/

namespace Regen.Program

def name : String := "generate-protos"

def version : String := "0.1.0"

def usage : String := "Usage: generate-protos [OPTIONS]\n"

/-- The end of a process: its status, or a failure that nothing foresaw. -/
structure Ending where
  outcome : Except Failure Nat
  log : Log.Setup

/-- What a process wrote to the standard output stream. -/
def output (journal : List Event) : Bytes :=
  journal.flatMap fun e => match e with
    | .emitted text => Text.bytes (Text.unstyled text)
    | .answered bytes => bytes
    | _ => []

/-- What a process wrote to the standard error stream. -/
def errorOutput (log : Log.Setup) (journal : List Event) : String :=
  String.join (journal.map fun e => match e with
    | .warned text => if log.shows Log.warning then text ++ "\n" else ""
    | .told text => text
    | _ => "")

/-- Tells the user something, without orders to a terminal. -/
def say (text : String) : Session Unit := Session.tell (Text.unstyled text)

/-- Runs `body` with a log; without the log file that is asked for nothing runs. -/
def withLog (level : String) (body : Log.Setup → Session Nat) : Session Ending := do
  let (log, fault) ← Log.setUp .initial (.ofEnv (← read).env level)
  match fault with
  | some e => return ⟨.error e, log⟩
  | none => return ⟨← Session.attempt (body log), log⟩

/-! ### Serving a request -/

/-- Serves the request on the standard input stream. -/
def servePlugin (input : Bytes) : Session Ending :=
  withLog "" fun log => do
    let answer ← Session.attempt do
      Dispatch.answer (← Settings.ofEnvironment) none input
    match answer with
    | .ok () => return 0
    | .error e =>
      if e.isOwn then
        if log.shows Log.error then Session.tell (e.message ++ "\n")
        return 1
      else throw e

/-! ### Running a batch -/

def errorSummary (e : Failure) : String := (Json.object [("error", .text e.message)]).render ++ "\n"

/-- The line that tells how many files differ. -/
def differLine (count : Nat) : String :=
  s!"⚠️  {count} file(s) differ — rerun with --execute to apply.\n"

/-- Does the run that a command line asks for. -/
def runBatch (items : List CommandLine.Item) : Session Nat := do
  let has := CommandLine.has items
  let work : Session Generation.Outcome := do
    let settings ← Settings.ofOptions (CommandLine.options (← read).env items)
    Generation.run settings (!has .skipLocal) (!has .skipRemote)
  match ← Session.attempt (if has .json then Session.silently work else work) with
  | .ok o =>
    if has .json then Session.emit (o.summary.render ++ "\n")
    else if !has .quiet && !has .execute && !o.isClean then
      say (differLine o.differing)
    return 0
  | .error e =>
    if e.isReported then
      if has .json then Session.emit (errorSummary e) else say s!"❌ {e.message}\n"
      return 1
    else throw e

/-- Does what a command line asks for. -/
def runWords (words : List String) : Session Ending := do
  let malformed : Ending := ⟨.ok 2, .initial⟩
  match CommandLine.read words with
  | none => return malformed
  | some items =>
    match CommandLine.about? items with
    | some .version =>
      Session.emit s!"{name}, version {version}\n"
      return ⟨.ok 0, .initial⟩
    | some _ =>
      Session.emit usage
      return ⟨.ok 0, .initial⟩
    | none =>
      match ← Session.look fun t base => CommandLine.pathsFit t base items with
      | .error e => return ⟨.error e, .initial⟩
      | .ok fit =>
        if !fit || CommandLine.hasExtra items then return malformed
        withLog (CommandLine.logLevel items) fun _ => runBatch items

/-- Runs the program with the words of its command line and its input. -/
def run (words : List String) (input : Bytes) : Session Ending := do
  match Settings.runMode (← read).env with
  | (.plugin, _) => servePlugin input
  | (.batch, _) => runWords words

end Regen.Program
