import Regen.SystemFault
import Regen.Text.Blank
import Regen.ValueFault

/-!
# What ends a run early

A failure is a cause. Configuration, tool and generator failures are reported to the user, as
are faults of the file system; the others are defects of an input that nothing foresaw.
`Failure.message` holds all the wording. Where a reader of a foreign format explains what it
disliked, `Failure.detail` is that explanation, and it ends the message.
-/

namespace Regen

/-- A command that could not be started, or ended with a status other than zero. -/
structure ToolFault where
  command : List String
  output : String
  status : Option Int
  deriving DecidableEq

def ToolFault.message (f : ToolFault) : String :=
  let reason := match f.status with
    | none => "could not be started"
    | some n => s!"exited with code {n}"
  let line := " ".intercalate f.command
  Text.trimRight s!"executing: {line} ({reason})\n{f.output}"

/-- A step on the way to a place inside a document. -/
inductive Step where
  | key (name : String)
  | index (n : Int)
  deriving DecidableEq

/-- What is wrong with the value at a place of a document. -/
inductive Defect where
  | missing
  | notText
  /-- It stands for a text, but holds what is no character. -/
  | unreadableText
  | notBool
  | unreadableBool
  | notTuple
  | notSet
  | notTable
  | notRecord
  | badValue
  deriving DecidableEq

structure Problem where
  place : List Step
  defect : Defect
  deriving DecidableEq

inductive ConfigFault where
  | notFound (path : String)
  | unreadable (path : String) (fault : SystemFault)
  | malformed (path : String) (why : String)
  | notATable (path : String) (found : String)
  | invalid (path : String) (problems : List Problem)
  | badOverride (item : String)
  | noSourceRoot
  | noSourceRootForRemote
  | notExecutable (path : String)
  | notRelocatable (source : String)
  deriving DecidableEq

inductive PluginFault where
  | unknown (plugin : String) (registered : List String)
  | noDescriptor (file : String)
  | undecodableRequest
  | toolFailed (backend : String) (fault : ToolFault)
  | undecodableResponse (backend : String) (file : String)
  | reported (backend : String) (file : String) (text : String)
  | unparsableAnnotations (file : String)
  | formatting (backend : String) (file : String) (fault : ToolFault)
  | scripted (backend : String) (text : String)
  deriving DecidableEq

inductive Failure where
  | config (fault : ConfigFault)
  | tool (fault : ToolFault)
  | plugin (fault : PluginFault)
  | system (fault : SystemFault)
  /-- The run was broken off from outside. -/
  | interrupted (text : String)
  /-- Bytes that have to be a text are none. -/
  | notText
  /-- Bytes that have to be a message are none. -/
  | notMessage
  /-- A document does not have the required form. -/
  | notValid (problems : List Problem)
  /-- A value does not suit what is done with it. -/
  | value (fault : ValueFault)
  /-- A number or a path does not fit where it has to go. -/
  | outOfRange
  /-- An index names no element. -/
  | noSuchElement
  /-- A search pattern repeats something more often than any can. -/
  | countTooLarge
  /-- The groups of a search pattern stand in each other too often. -/
  | tooDeep
  /-- A search pattern looks further behind than can be looked. -/
  | tooWide
  /-- A message lacks a field that it has to have. -/
  | notComplete
  /-- The links on the way along a path lead back to themselves. -/
  | endlessLinks (path : String)
  deriving DecidableEq

namespace Step

def render : Step → String
  | key name => name
  | index n => toString n

end Step

namespace Defect

def render : Defect → String
  | missing => "required"
  | notText => "not a text"
  | unreadableText => "not readable as a text"
  | notBool => "not a truth value"
  | unreadableBool => "not readable as a truth value"
  | notTuple => "not a list"
  | notSet => "not a set"
  | notTable => "not a table"
  | notRecord => "not a table of settings"
  | badValue => "not a usable value"

end Defect

def Problem.render (p : Problem) : String :=
  ".".intercalate (p.place.map Step.render) ++ ": " ++ p.defect.render

namespace ConfigFault

/-- The message without the explanation that ends it. -/
def summary : ConfigFault → String
  | notFound path => s!"Config file not found: {path}"
  | unreadable path fault => s!"Cannot read {path}: {fault.message}"
  | malformed path _ => s!"Invalid YAML in {path}: "
  | notATable path found => s!"Expected a YAML mapping in {path}, got {found}"
  | invalid path _ => s!"Invalid generation config {path}: "
  | badOverride item => s!"Invalid override {Text.quoted item}: expected PATH=IMPORT"
  | noSourceRoot =>
    "protobuf source root is not set (use --protoroot or PROTOBUF_ROOT)"
  | noSourceRootForRemote => "protobuf source root is not set"
  | notExecutable path =>
    s!"cannot run {path} as the protoc plugin and generate-protos is not on PATH " ++
      "(use --plugin to name the executable)"
  | notRelocatable source => s!"relocation source was not generated: {source}"

def detail : ConfigFault → Option String
  | malformed _ why => some why
  | invalid _ problems => some ("\n".intercalate (problems.map Problem.render))
  | _ => none

end ConfigFault

namespace PluginFault

/-- The message without the explanation that ends it. -/
def summary : PluginFault → String
  | unknown plugin registered =>
    let known := if registered.isEmpty then "none" else ", ".intercalate registered
    s!"unknown plugin {Text.quoted plugin} (registered: {known})"
  | noDescriptor file => s!"file to generate is missing from the request: {file}"
  | undecodableRequest => "cannot decode CodeGeneratorRequest: "
  | toolFailed backend fault => s!"{backend}: {fault.message}"
  | undecodableResponse backend file => s!"{backend}: undecodable response for {file}: "
  | reported backend file text => s!"{backend}: {file}: {text}"
  | unparsableAnnotations file => s!"unparsable annotations in {file}: "
  | formatting backend file fault => s!"{backend}: formatting {file}: {fault.message}"
  | scripted backend text => s!"{backend}: {text}"

def detail : PluginFault → Option String
  | undecodableRequest => some "not an encoded message"
  | undecodableResponse _ _ => some "not an encoded message"
  | unparsableAnnotations _ => some "not the text of annotations"
  | _ => none

end PluginFault

namespace Failure

def summary : Failure → String
  | config f => f.summary
  | tool f => f.message
  | plugin f => f.summary
  | system f => f.message
  | interrupted text => text
  | notText => "bytes that are no text"
  | notMessage => "bytes that are no message"
  | notValid _ => "not a valid document: "
  | value f => f.message
  | outOfRange => "a value out of range"
  | noSuchElement => "no such element"
  | countTooLarge => "the repetition number is too large"
  | tooDeep => "a pattern that is too deep"
  | tooWide => "a pattern that looks too far behind"
  | notComplete => "a message without a required field"
  | endlessLinks path => s!"links without end: {path}"

def detail : Failure → Option String
  | config f => f.detail
  | plugin f => f.detail
  | notValid problems => some ("\n".intercalate (problems.map Problem.render))
  | _ => none

def message (f : Failure) : String := f.summary ++ f.detail.getD ""

/-- The failures of configuration, tools and generators. -/
def isOwn : Failure → Bool
  | config _ | tool _ | plugin _ => true
  | _ => false

/-- The failures that a user is told about in a sentence. -/
def isReported : Failure → Bool
  | config _ | tool _ | plugin _ | system _ | interrupted _ => true
  | _ => false

end Failure
end Regen
