import Regen.ValueFault

/-!
# What is wrong with a YAML text

Most faults concern the form of the text. The others concern the value of a scalar whose form is
right, or whose kind was named by a tag, and texts that are too deep to be read.
-/

namespace Regen.Yaml

inductive Fault where
  /-- A character that no YAML text may hold. -/
  | character
  /-- No token can start here. -/
  | token
  /-- The colon behind a key is missing. -/
  | colon
  /-- An entry, a key or a value may not stand here. -/
  | place
  | directive
  | anchor
  | tag
  | blockHeader
  | unclosedQuote
  | unknownEscape
  /-- Something else stands where a part of a collection or a document has to. -/
  | unexpected
  | undefinedAlias
  | repeatedAnchor
  | severalDocuments
  | badMerge
  | unknownTag
  /-- The tag asks for another kind of node. -/
  | wrongKind
  | badKey
  | badBase64
  /-- The form is right, but there is no such value. -/
  | value (fault : ValueFault)
  deriving DecidableEq

namespace Fault

def message : Fault → String
  | character => "a character that may not stand in a document"
  | token => "a character that cannot start a token"
  | colon => "no colon behind a key"
  | place => "an entry where none may stand"
  | directive => "a malformed directive"
  | anchor => "a malformed anchor or alias"
  | tag => "a malformed tag"
  | blockHeader => "a malformed block scalar header"
  | unclosedQuote => "a quoted scalar that is not closed"
  | unknownEscape => "an unknown escape"
  | unexpected => "a node or the end of a collection is missing"
  | undefinedAlias => "an alias without an anchor"
  | repeatedAnchor => "an anchor that stands twice"
  | severalDocuments => "more than one document"
  | badMerge => "a merge of something that is no mapping"
  | unknownTag => "an unknown tag"
  | wrongKind => "a node of another kind than its tag"
  | badKey => "a collection as a key"
  | badBase64 => "malformed base64"
  | value f => f.message

end Fault
end Regen.Yaml
