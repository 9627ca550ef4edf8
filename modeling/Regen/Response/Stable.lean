import Regen.Span.Printer
import Regen.Response.Basic
import Regen.VersionBlock

/-!
# Answers that do not depend on tool versions

The version block is taken out of every generated source file of an answer. The annotations of
the file move along, both those that stand with the file and those in the annotation file
beside it, whose name is the source file's with `.meta` behind it. When several annotation
files share a name the last of them counts. `stabilize` works on texts; where a file holds
octets in place of one, `stabilizeHanded` gets no further than to them.
-/

namespace Regen.Response

def isSource (f : GeneratedFile) : Bool := f.title.endsWith ".go"

/-- The place of the annotation file of the source file with the given name. -/
def annotationsOf? (files : List GeneratedFile) (source : String) : Option Nat :=
  files.zipIdx.foldl
    (fun found (f, i) => if f.title = source ++ ".meta" then some i else found) none

/-- The annotation file after bytes have been cut out of its source file. -/
def shiftedFile (start length : Nat) (f : GeneratedFile) : Except Failure GeneratedFile := do
  match CodeInfo.read? f.text with
  | none => throw (.plugin (.unparsableAnnotations f.title))
  | some info =>
    let info ← info.shift start length
    return { f with content := some info.print }

/-- Moves the annotation file of a source file along, when there is one. -/
def shiftAnnotations (start length : Nat) (source : String) (files : List GeneratedFile) :
    Except Failure (List GeneratedFile) :=
  match annotationsOf? files source with
  | none => .ok files
  | some j =>
    match files[j]? with
    | none => .ok files
    | some g => (shiftedFile start length g).map (files.set j)

/-- Takes the version block out of the file at place `i`, when it is a source file. -/
def stabilizeAt (files : List GeneratedFile) (i : Nat) : Except Failure (List GeneratedFile) :=
  match files[i]? with
  | none => .ok files
  | some f =>
    let s := VersionBlock.strip f.text
    if !isSource f || s.length = 0 then .ok files
    else do
      let info ← f.info.mapM (CodeInfo.shift s.start s.length)
      shiftAnnotations s.start s.length f.title
        (files.set i { f with content := some s.content, info := info })

/-- The answer without the version blocks of its source files. -/
def stabilize (r : Response) : Except Failure Response := do
  return { r with files := ← (List.range r.files.length).foldlM stabilizeAt r.files }

/-- Asks for the texts that are worked on at place `i`: that of a source file, and that of its annotation file when
    the source file has a version block. The reader of annotations gets as far as to the first line that is no text,
    unless it `objects` to what stands in front of it. -/
def demandTexts (objects : Bytes → Bool) (files : List GeneratedFile) (i : Nat) : Except Failure Unit :=
  match files[i]? with
  | none => .ok ()
  | some f =>
    if !isSource f then .ok ()
    else if f.textOctets?.isSome then .error (.value .octets)
    else if (VersionBlock.strip f.text).length = 0 then .ok ()
    else match (annotationsOf? files f.title).bind (files[·]?) with
      | none => .ok ()
      | some g => match g.textOctets? with
        | none => .ok ()
        | some bs => .error (if objects bs then .plugin (.unparsableAnnotations g.title) else .notText)

/-- The answer without the version blocks of its source files, when the texts in it may be octets. The names of all
    files are looked at first. -/
def stabilizeHanded (objects : Bytes → Bool) (r : Response) : Except Failure Response :=
  if r.files.any (·.titleOctets?.isSome) then .error (.value .octets)
  else do
    return { r with files := ← (List.range r.files.length).foldlM (fun files i => do
      demandTexts objects files i
      stabilizeAt files i) r.files }

end Regen.Response
