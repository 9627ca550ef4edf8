import Regen.Descriptor
import Regen.Message.Complete

/-!
# Generator requests

What the compiler asks of a generator: the files to generate, a parameter and the descriptions
of these files and of all that they need. A request is a view of the message that carries it.
-/

namespace Regen

structure Request where
  message : Message

/-- A described file as a request hands it out, a view of the message that describes it. -/
structure Request.File where
  message : Message

namespace Request.File

/-- The description of the file. Where it holds octets in place of a text, they stand as they are shown. -/
def description (f : File) : FileDescriptor := .ofMessage f.message

/-- The name as it is shown. -/
def name (f : File) : String := f.description.name

def title (f : File) : Handed := (f.message.handed? 1).getD (.text "")

def package (f : File) : Handed := (f.message.handed? 2).getD (.text "")

end Request.File

namespace Request

/-- The request that bytes encode. -/
def decode? (bs : Bytes) : Option Request := (Message.decode? .request bs).map Request.mk

/-- The bytes of a complete request. -/
def encode? (r : Request) : Option Bytes :=
  if r.message.isComplete .request then some r.message.encode else none

/-- The names of the files to generate. -/
def names (r : Request) : List Handed := r.message.handed 1

/-- The names of the files to generate, as they are shown. -/
def files (r : Request) : List String := r.names.map Handed.shown

def parameter (r : Request) : Option String := r.message.text? 2

def descriptors (r : Request) : List File := (r.message.nested 15).map File.mk

/-- The description of a file, the last one when there are several. -/
def descriptor? (r : Request) (name : Handed) : Option File :=
  r.descriptors.reverse.find? (·.title = name)

/-- The same request for one file only. -/
def narrowed (r : Request) (name : String) : Request := ⟨r.message.put 1 (.text name)⟩

end Request
end Regen
