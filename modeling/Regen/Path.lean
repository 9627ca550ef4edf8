/-!
# Paths

A path is a list of names, perhaps behind a root. Reading a path drops empty names and `.`;
it keeps `..`, whose meaning depends on links. Two slashes in front are a root of their own,
one or more than two are the usual root.
-/

namespace Regen

structure Path where
  /-- Empty for a relative path. -/
  root : String
  parts : List String
  deriving DecidableEq

namespace Path

/-- The texts between the slashes of a text. -/
def splitSlash (s : List Char) : List (List Char) :=
  s.foldr (fun c ps => match ps with
    | [] => [[c]]
    | p :: ps => if c = '/' then [] :: p :: ps else (c :: p) :: ps) [[]]

/-- The text between slashes is a name. -/
def isPart (s : List Char) : Bool := !s.isEmpty && s != ['.']

/-- The root that the slashes at the head of a text stand for. -/
def rootOf : List Char → String
  | '/' :: '/' :: '/' :: _ => "/"
  | '/' :: '/' :: _ => "//"
  | '/' :: _ => "/"
  | _ => ""

def ofString (s : String) : Path :=
  ⟨rootOf s.toList, ((splitSlash s.toList).filter isPart).map String.ofList⟩

def isAbsolute (p : Path) : Bool := p.root != ""

/-- The path as a text; the empty relative path is `.`. -/
def toString (p : Path) : String :=
  if p.root = "" ∧ p.parts = [] then "." else p.root ++ "/".intercalate p.parts

instance : ToString Path := ⟨toString⟩

/-- The path `q` seen from `p`: itself when it is absolute. -/
def append (p q : Path) : Path := if q.isAbsolute then q else ⟨p.root, p.parts ++ q.parts⟩

/-- The path that a text names, seen from `p`. -/
def join (p : Path) (s : String) : Path := p.append (ofString s)

/-- The path of the directory around a path; that of an empty one is itself. -/
def parent (p : Path) : Path := ⟨p.root, p.parts.dropLast⟩

/-- The last name. -/
def name (p : Path) : String := p.parts.getLast?.getD ""

/-- A name holds the character that ends names for the file system, so the path leads nowhere. -/
def hasNul (p : Path) : Bool := p.parts.any fun name => name.toList.contains '\x00'

/-- The names behind those of `base`. -/
def partsBelow? (p base : Path) : Option (List String) :=
  if p.root = base.root ∧ base.parts.isPrefixOf p.parts then some (p.parts.drop base.parts.length)
  else none

/-- The path as seen from `base`, when it starts with it. -/
def below? (p base : Path) : Option Path := (p.partsBelow? base).map fun ps => ⟨"", ps⟩

/-! ### Paths that are texts -/

/-- One path text behind another, as they stand. -/
def joinText (a b : String) : String :=
  if b.toList.head? = some '/' then b
  else if a = "" ∨ a.toList.getLast? = some '/' then a ++ b
  else a ++ "/" ++ b

/-- The text behind the last slash. -/
def baseName (s : String) : String :=
  String.ofList (s.toList.reverse.takeWhile (· ≠ '/')).reverse

/-- The text in front of the last slash, without the slashes at its end. -/
def dirName (s : String) : String :=
  let head := (s.toList.reverse.dropWhile (· ≠ '/')).reverse
  if head.all (· = '/') then String.ofList head
  else String.ofList (head.reverse.dropWhile (· = '/')).reverse

/-- The names of a path with every `..` taken together with the name in front of it. -/
def collapse (absolute : Bool) (parts : List String) : List String :=
  (parts.foldl (fun (kept : List String) part =>
    if part ≠ ".." then part :: kept
    else match kept with
      | [] => if absolute then [] else [part]
      | k :: r => if k = ".." then part :: kept else r) []).reverse

/-- The path without `..` except at its head. -/
def collapsed (p : Path) : Path := ⟨p.root, collapse p.isAbsolute p.parts⟩

/-- The shortest text of a path text, links left aside. -/
def normalized (s : String) : String := (ofString s).collapsed.toString

end Path
end Regen
