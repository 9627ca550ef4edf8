import Regen.Assoc
import Regen.Path
import Regen.Sorting
import Regen.SystemFault
import Regen.Text.Utf8

/-!
# File trees

A tree is a table from places to what stands there. A place is the list of names on the way
from the root, and everything but the root has its directory in the tree. `locate` follows a
path to its place through links; every other operation goes through it and reports the same
faults as a file system does.
-/

namespace Regen

/-- The names on the way from the root. -/
abbrev Place := List String

inductive Entry where
  | file (content : Bytes) (executable : Bool)
  | directory
  | link (target : String)
  deriving DecidableEq

structure Files where
  entries : List (Place × Entry)

namespace Files

def empty : Files := ⟨[]⟩

/-- What stands at a place. -/
def get? (t : Files) (p : Place) : Option Entry :=
  if p = [] then some .directory else Assoc.get? t.entries p

def put (t : Files) (p : Place) (e : Entry) : Files := ⟨Assoc.put t.entries p e⟩

/-- The tree without a place and all that lies below it. -/
def cut (t : Files) (p : Place) : Files := ⟨t.entries.filter fun e => !p.isPrefixOf e.1⟩

/-! ### Following a path -/

/-- The names that a link's target adds to a path. A target that ends in a slash or in `.` has to
    be a directory, which the name `.` behind it asks for. -/
def targetNames (target : String) : List String :=
  (Path.ofString target).parts ++ (if Path.isPart (Path.baseName target).toList then [] else ["."])

/-- A name has at most this many bytes. -/
def maxNameBytes : Nat := 255

/-- Walks from the directory at `at_` along names; `jump` walks on at a link. A path may end at
    a place where nothing stands. -/
def walkFrom (t : Files) (follow : Bool) (jump : Place → List String → Except Nat Place) :
    (at_ : Place) → List String → Except Nat Place
  | at_, [] => .ok at_
  | at_, name :: names =>
    if name = "." then walkFrom t follow jump at_ names
    else if name = ".." then walkFrom t follow jump at_.dropLast names
    else if maxNameBytes < name.utf8ByteSize then .error SystemFault.nameTooLong
    else
      let next := at_ ++ [name]
      match t.get? next with
      | none => if names = [] then .ok next else .error SystemFault.noEntry
      | some .directory => walkFrom t follow jump next names
      | some (.file _ _) => if names = [] then .ok next else .error SystemFault.notDirectory
      | some (.link target) =>
        if names = [] ∧ !follow then .ok next
        else
          jump (if (Path.ofString target).isAbsolute then [] else at_) (targetNames target ++ names)

/-- Walks through at most `links` links. -/
def walkThrough (t : Files) (follow : Bool) : (links : Nat) → Place → List String →
    Except Nat Place
  | 0 => walkFrom t follow fun _ _ => .error SystemFault.tooManyLinks
  | links + 1 => walkFrom t follow (walkThrough t follow links)

/-- A path goes through at most forty links. -/
def maxLinks : Nat := 40

/-- A path has less than this many bytes. -/
def pathBytesLimit : Nat := 4096

/-- The place of a path seen from the directory `base`; the number of a fault when there is
    none. A link at the end of the path is followed when `follow` is set. -/
def locate (t : Files) (base : Place) (follow : Bool) (p : Path) : Except Nat Place :=
  if pathBytesLimit ≤ p.toString.utf8ByteSize then .error SystemFault.nameTooLong
  else walkThrough t follow maxLinks (if p.isAbsolute then [] else base) p.parts

/-- What stands at the end of a path. -/
def find? (t : Files) (base : Place) (p : Path) : Option (Place × Entry) :=
  match t.locate base true p with
  | .ok at_ => (t.get? at_).map fun e => (at_, e)
  | .error _ => none

/-- Whether a file stands at the end of a path. A path that leads nowhere is no fault, but one
    that is too long is. -/
def isFile (t : Files) (base : Place) (p : Path) : Except SystemFault Bool :=
  match t.locate base true p with
  | .ok at_ =>
    match t.get? at_ with
    | some (.file _ _) => .ok true
    | _ => .ok false
  | .error n =>
    if n = SystemFault.nameTooLong then .error ⟨n, p.toString⟩ else .ok false

def isDirectory (t : Files) (base : Place) (p : Path) : Bool :=
  match t.find? base p with
  | some (_, .directory) => true
  | _ => false

/-- What stands at the end of a path text. An empty text leads nowhere, and one that ends in a
    slash or in `.` leads to a directory only. -/
def findText? (t : Files) (base : Place) (s : String) : Option Entry :=
  if s = "" then none
  else
    match t.find? base (Path.ofString s) with
    | some (_, .directory) => some .directory
    | some (_, e) => if Path.isPart (Path.baseName s).toList then some e else none
    | none => none

def isExecutable (t : Files) (base : Place) (p : Path) : Bool :=
  match t.find? base p with
  | some (_, .file _ x) => x
  | _ => false

/-! ### Resolving a path -/

/-- Walks from the place `at_` along names as far as they lead and takes the rest as it stands;
    `jump` resolves a link's target seen from the link's directory. Fails with the names on the
    way to a link that cannot be resolved and behind it. -/
def resolveFrom (t : Files) (jump : Place → Path → Except (List String) Place) :
    (at_ : Place) → List String → Except (List String) Place
  | at_, [] => .ok at_
  | at_, name :: names =>
    if name = ".." then resolveFrom t jump at_.dropLast names
    else
      match t.get? (at_ ++ [name]) with
      | some (.link target) =>
        match jump (at_ ++ [name]) (Path.ofString target) with
        | .ok at_ => resolveFrom t jump at_ names
        | .error stuck => .error (stuck ++ names)
      | _ => resolveFrom t jump (at_ ++ [name]) names

/-- Resolves the path `p` that stands in the link at `link`. A link among `opened`, those that are
    being resolved, is resolved no further; there are at most `nested` others. -/
def resolveThrough (t : Files) : (nested : Nat) → (opened : List Place) → Place → Path →
    Except (List String) Place
  | 0, _, link, _ => .error link
  | nested + 1, opened, link, p =>
    if link ∈ opened then .error link
    else
      resolveFrom t (resolveThrough t nested (link :: opened))
        (if p.isAbsolute then [] else link.dropLast) p.parts

/-- The place that a path names, where the rest of a path that leads nowhere stands for itself;
    nothing when links lead back to themselves. -/
def resolve (t : Files) (base : Place) (p : Path) : Option Place :=
  let start := if p.isAbsolute then [] else base
  match resolveFrom t (resolveThrough t t.entries.length []) start p.parts with
  | .ok at_ => some at_
  | .error stuck =>
    let at_ := Path.collapse true stuck
    match t.locate [] true ⟨"/", at_⟩ with
    | .error n => if n = SystemFault.tooManyLinks then none else some at_
    | .ok _ => some at_

/-! ### Reading and writing -/

/-- Names the path in the fault of an operation on it. -/
def onPath {α : Type} (p : Path) : Except Nat α → Except SystemFault α
  | .ok a => .ok a
  | .error n => .error ⟨n, p.toString⟩

def readAt (t : Files) (at_ : Place) : Except Nat Bytes :=
  match t.get? at_ with
  | some (.file content _) => .ok content
  | some .directory => .error SystemFault.isDirectory
  | _ => .error SystemFault.noEntry

def read (t : Files) (base : Place) (p : Path) : Except SystemFault Bytes :=
  onPath p (t.locate base true p >>= t.readAt)

/-- The content of a file, or nothing when there is no such file. -/
def readOrEmpty (t : Files) (base : Place) (p : Path) : Except SystemFault Bytes :=
  match t.read base p with
  | .error f => if f.number = SystemFault.noEntry then .ok [] else .error f
  | ok => ok

def writeAt (t : Files) (content : Bytes) (at_ : Place) : Except Nat Files :=
  match t.get? at_ with
  | some (.file _ x) => .ok (t.put at_ (.file content x))
  | some .directory => .error SystemFault.isDirectory
  | some (.link _) => .error SystemFault.noEntry
  | none => .ok (t.put at_ (.file content false))

/-- Writes a file in a directory that is there. -/
def write (t : Files) (base : Place) (p : Path) (content : Bytes) : Except SystemFault Files :=
  onPath p (t.locate base true p >>= t.writeAt content)

def makeDirectory (t : Files) (base : Place) (p : Path) : Except SystemFault Files :=
  onPath p do
    let at_ ← t.locate base false p
    match t.get? at_ with
    | some _ => throw SystemFault.alreadyThere
    | none => return t.put at_ .directory

/-- A directory that is there already is no fault. -/
def allowDirectory (t : Files) (base : Place) (p : Path) (f : SystemFault) : Option SystemFault :=
  if t.isDirectory base p then none else some f

/-- Makes a directory and those around it that are missing, `levels` of them at most. Gives the
    tree with all that was made, and the fault that kept it from making more. -/
def makeWithin (base : Place) : (levels : Nat) → Files → Path → Files × Option SystemFault
  | levels, t, p =>
    match t.makeDirectory base p with
    | .ok t => (t, none)
    | .error f =>
      if f.number ≠ SystemFault.noEntry then (t, t.allowDirectory base p f)
      else match levels with
        | 0 => (t, some f)
        | levels + 1 =>
          match makeWithin base levels t p.parent with
          | (t, some f) => (t, some f)
          | (t, none) =>
            match t.makeDirectory base p with
            | .ok t => (t, none)
            | .error f =>
              (t, if f.number = SystemFault.noEntry then some f else t.allowDirectory base p f)

/-- Makes a directory and those around it that are missing. -/
def makeDirectories (t : Files) (base : Place) (p : Path) : Files × Option SystemFault :=
  makeWithin base (p.parts.length + 1) t p

/-- The tree without what stands at a path and below it; a path that leads nowhere changes
    nothing. -/
def removeAll (t : Files) (base : Place) (p : Path) : Files :=
  match t.locate base false p with
  | .ok at_ => t.cut at_
  | .error _ => t

end Files
end Regen
