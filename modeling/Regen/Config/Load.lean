import Regen.Config.Check
import Regen.Config.Packaged
import Regen.Session
import Regen.Yaml.Value

/-!
# Loading a configuration

A configuration file is a YAML text that holds a table. Without a file the packaged
configuration stands.
-/

namespace Regen

namespace Text

/-- The text with every line ended by a line feed alone. -/
def unifyFeeds : List Char → List Char
  | [] => []
  | '\r' :: '\n' :: r => '\n' :: unifyFeeds r
  | '\r' :: r => '\n' :: unifyFeeds r
  | c :: r => c :: unifyFeeds r

end Text

namespace Config

/-- The configuration that a YAML text holds; `path` names it in failures. -/
def ofYaml (path text : String) : Except Failure Config :=
  match Yaml.document text with
  | .error (.value f) => .error (.value f)
  | .error f => .error (.config (.malformed path f.message))
  | .ok .null => ofDocument (.table [])
  | .ok (.table es) =>
    match ofDocument (.table es) with
    | .error (.notValid ps) => .error (.config (.invalid path ps))
    | r => r
  | .ok d => .error (.config (.notATable path d.kindName))

/-- The configuration that the bytes of a file hold. -/
def ofBytes (path : String) (content : Bytes) : Except Failure Config :=
  match Text.decodeChars? content with
  | none => .error .notText
  | some cs => ofYaml path (String.ofList (Text.unifyFeeds cs))

/-- The configuration in a file. -/
def ofFile (path : Path) : Session Config := do
  if !(← Session.isFile path) then throw (.config (.notFound path.toString))
  let content ← tryCatch (Session.readFile path) fun e => match e with
    | .system f => throw (.config (.unreadable path.toString f))
    | e => throw e
  Session.ofExcept (ofBytes path.toString content)

/-- The configuration of a run: that of the named file, or the packaged one. -/
def load (path : Option Path) : Session Config :=
  match path with
  | none => return packaged
  | some p => ofFile p

end Config
end Regen
