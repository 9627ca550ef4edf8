import Regen.Span.Reader

/-!
# Writing the annotation notation

One field a line, the fields of an annotation indented by two spaces, each element of a path
on a line of its own, choices by name.
-/

namespace Regen.Span

/-- The three octal digits of a code below 512. -/
def octal (n : Nat) : List Char :=
  [n / 64 % 8, n / 8 % 8, n % 8].map fun d => Char.ofNat (48 + d)

/-- How a character stands between double quotes. -/
def escapedChar (c : Char) : List Char :=
  if c = '\t' then ['\\', 't']
  else if c = '\n' then ['\\', 'n']
  else if c = '\r' then ['\\', 'r']
  else if c = '"' ∨ c = '\\' ∨ c.toNat = 39 then ['\\', c]
  else if c.toNat < 32 ∨ c.toNat = 127 then '\\' :: octal c.toNat
  else [c]

def escaped (s : String) : String :=
  String.ofList ('"' :: s.toList.flatMap escapedChar ++ ['"'])

/-- The name of a choice, or its number when it has none. -/
def semanticName (n : Int) : String := (semanticNames.lookup n).getD (toString n)

/-- The fields of an annotation, each with the text of its value. -/
def fields (a : Span) : List (String × String) :=
  a.path.map (fun n => ("path", toString n)) ++
  (a.sourceFile.map fun s => ("source_file", escaped s)).toList ++
  (a.beginAt.map fun n => ("begin", toString n)).toList ++
  (a.endAt.map fun n => ("end", toString n)).toList ++
  (a.semantic.map fun n => ("semantic", semanticName n)).toList

def fieldLine (f : String × String) : String := "  " ++ f.1 ++ ": " ++ f.2 ++ "\n"

def print (a : Span) : String :=
  "annotation \x7b\n" ++ String.join (a.fields.map fieldLine) ++ "\x7d\n"

end Regen.Span

/-- The text of a file's annotations. -/
def Regen.CodeInfo.print (info : CodeInfo) : String :=
  String.join (info.spans.map Span.print)
