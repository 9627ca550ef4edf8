import Regen.Span.Basic

/-!
# Generator responses

What a generator answers: the files that it generated, the features and the range of editions
that it supports, or the text of an error. `merge` puts two answers together: files one behind
the other, features united, and the editions that both support.
-/

namespace Regen

structure GeneratedFile where
  name : Option String
  insertionPoint : Option String
  content : Option String
  info : Option CodeInfo
  /-- The name, the insertion point and the content, as far as they are no texts, by their fields. -/
  octets : List (Nat × Bytes)
  unknown : Bytes
  deriving DecidableEq

structure Response where
  error : Option String
  features : Option Nat
  minimumEdition : Option Int
  maximumEdition : Option Int
  files : List GeneratedFile
  unknown : Bytes
  deriving DecidableEq

namespace GeneratedFile

/-- A file with a name and a content and nothing else. -/
def plain (name content : String) : GeneratedFile := ⟨some name, none, some content, none, [], []⟩

/-- The name, empty when there is none. -/
def title (f : GeneratedFile) : String := f.name.getD ""

/-- The content, empty when there is none. -/
def text (f : GeneratedFile) : String := f.content.getD ""

/-- The name when it is no text. -/
def titleOctets? (f : GeneratedFile) : Option Bytes := f.octets.lookup 1

/-- The content when it is no text. -/
def textOctets? (f : GeneratedFile) : Option Bytes := f.octets.lookup 15

def ofMessage (m : Message) : GeneratedFile where
  name := m.text? 1
  insertionPoint := m.text? 2
  content := m.text? 15
  info := (m.nested? 16).map CodeInfo.ofMessage
  octets := m.octets
  unknown := m.unknown

def toMessage (f : GeneratedFile) : Message :=
  let m := ((Message.empty.putText? 1 f.name).putText? 2 f.insertionPoint).putText? 15 f.content
  ((f.info.elim m fun i => m.put 16 (.nested i.toMessage)).putOctets f.octets).keep f.unknown

end GeneratedFile

namespace Response

def empty : Response := ⟨none, none, none, none, [], []⟩

/-- An answer that holds one file. -/
def ofFile (f : GeneratedFile) : Response := { empty with files := [f] }

def ofMessage (m : Message) : Response where
  error := (m.handed? 1).map Handed.shown
  features := (m.number? 2).map Int.toNat
  minimumEdition := m.number? 3
  maximumEdition := m.number? 4
  files := (m.nested 15).map GeneratedFile.ofMessage
  unknown := m.unknown

def toMessage (r : Response) : Message :=
  let m := ((((Message.empty.putText? 1 r.error).putNumber? 2 (r.features.map Int.ofNat)).putNumber?
    3 r.minimumEdition).putNumber? 4 r.maximumEdition)
  (r.files.foldl (fun m f => m.add 15 (.nested f.toMessage)) m).keep r.unknown

/-- The answer that bytes encode. -/
def decode? (bs : Bytes) : Option Response := (Message.decode? .response bs).map ofMessage

def encode (r : Response) : Bytes := r.toMessage.encode

/-- The bound that two answers agree on; an answer without a bound agrees with any. -/
def agree (choose : Int → Int → Int) (whole part : Option Int) : Option Int :=
  match whole, part with
  | some a, some b => some (choose a b)
  | none, b => b
  | a, none => a

/-- The answer `whole` with the answer `part` put behind it. The features of the result are
    always set; its error and its unknown fields are those of `whole`. -/
def merge (whole part : Response) : Response :=
  { whole with
    features := some (whole.features.getD 0 ||| part.features.getD 0)
    minimumEdition := agree max whole.minimumEdition part.minimumEdition
    maximumEdition := agree min whole.maximumEdition part.maximumEdition
    files := whole.files ++ part.files }

end Response
end Regen
