import Regen.Text.Alphanumeric
import Regen.Text.Case

/-!
# Search patterns

A pattern describes texts by characters, places, sequences, choices and repetitions. Groups
remember the text that they matched last, and a reference to a group stands for that text.
-/

namespace Regen.Pattern

/-- A class of characters that an escape names. -/
inductive Class where
  | digit
  | space
  | word
  deriving DecidableEq

/-- One item of a set of characters. Characters stand by their code points, some of which belong
    to no character. -/
inductive Item where
  | char (code : Nat)
  | range (lo hi : Nat)
  /-- The characters of a class, or all others. -/
  | class_ (negated ascii : Bool) (k : Class)
  deriving DecidableEq

/-- A place in the text, seen without reading a character. -/
inductive Place where
  | start
  | lineStart
  | stop
  | lastStop
  | lineStop
  /-- Between a word character and another one, or nowhere between them. -/
  | border (negated ascii : Bool)
  deriving DecidableEq

/-- Which characters count as the same when they are compared. -/
inductive Fold where
  /-- Only a character and itself. -/
  | exact
  /-- The two cases of an ASCII letter as well. -/
  | ascii
  /-- All letters with the same small form, or with small forms that are alike. -/
  | full
  deriving DecidableEq

inductive Node where
  | empty
  | never
  | set (negated : Bool) (fold : Fold) (items : List Item)
  /-- Any character, a line feed only when `all` is set. -/
  | any (all : Bool)
  | place (p : Place)
  | seq (a b : Node)
  | alt (a b : Node)
  /-- At least `least` times and at most `most` times, as often as possible when `greedy`. -/
  | repeated (least : Nat) (most : Option Nat) (greedy : Bool) (body : Node)
  | group (index : Nat) (body : Node)
  | same (index : Nat) (fold : Fold)
  /-- The body matches here without reading, or it does not when `negated`. -/
  | ahead (negated : Bool) (body : Node)
  /-- The body, which reads `width` characters, matches up to here. -/
  | behind (negated : Bool) (width : Nat) (body : Node)
  /-- The first match of the body only. -/
  | atomic (body : Node)
  | given (index : Nat) (yes no : Node)

def isWordChar (ascii : Bool) (c : Char) : Bool :=
  c == '_' || (if ascii then c.isAlphanum else Text.isAlphanumeric c)

def Class.has (k : Class) (ascii : Bool) (c : Char) : Bool :=
  match k with
  | .digit => if ascii then c.isDigit else Text.isDecimalDigit c
  | .space => if ascii then c == ' ' || (9 ≤ c.toNat && c.toNat ≤ 13) else Text.isBlank c
  | .word => isWordChar ascii c

/-- What a character is compared by. -/
def Fold.form (f : Fold) (code : Nat) : Nat :=
  match f with
  | .exact => code
  | .ascii => Text.asciiSmallForm code
  | .full => Text.smallForm code

/-- The forms that count as the same as a form. -/
def Fold.alike (f : Fold) (form : Nat) : List Nat :=
  match f with
  | .full => Text.alikeTo form
  | .exact | .ascii => [form]

/-- A code between two others has the given form. A range that leaves the basic plane is taken
    with the first capitals of all alphabets. -/
def Fold.between (f : Fold) (lo hi form : Nat) : Bool :=
  let within (code : Nat) : Bool := lo ≤ code && code ≤ hi
  match f with
  | .exact => within form
  | .ascii => within form || (0x61 ≤ form && form ≤ 0x7A && within (form - 32)) ||
      (0xFFFF < hi && ((Text.alikeTo form).flatMap Text.capitals).head?.any within)
  | .full => (f.alike form).any fun form => within form || (Text.capitals form).any within

/-- Whether an item among others has a character. An item beyond the basic plane has to be a form
    already. -/
def Item.has (fold : Fold) (c : Char) : Item → Bool
  | .char code =>
    if 0xFFFF < code then fold.form c.toNat == code
    else (fold.alike (fold.form c.toNat)).contains (fold.form code)
  | .range lo hi => fold.between lo hi (fold.form c.toNat)
  | .class_ negated ascii k => k.has ascii c != negated

/-- Whether a set has a character or one that counts as the same. A character that stands alone
    in the set may be any letter. -/
def inSet (negated : Bool) (fold : Fold) (items : List Item) (c : Char) : Bool :=
  let found := match items with
    | [.char code] => (fold.alike (fold.form c.toNat)).contains (fold.form code)
    | items => items.any (Item.has fold c)
  found != negated

/-- A set of items, each of which stands in it once. -/
def Node.ofItems (negated : Bool) (fold : Fold) (items : List Item) : Node :=
  .set negated fold items.eraseDups

/-- The nodes of a sequence. -/
def Node.parts : Node → List Node
  | .empty => []
  | .seq a b => a.parts ++ b.parts
  | n => [n]

/-- The sequence of nodes. -/
def Node.ofParts : List Node → Node
  | [] => .empty
  | [n] => n
  | n :: ns => .seq n (ofParts ns)

/-- Two nodes are written alike and have no nodes inside. -/
def Node.isLike : Node → Node → Bool
  | .set b f xs, .set b' f' ys => b = b' && f = f' && xs = ys
  | .any b, .any b' => b = b'
  | .place p, .place p' => p = p'
  | .same i f, .same i' f' => i = i' && f = f'
  | _, _ => false

/-- The nodes that alternatives begin with in common, and what is left of each alternative. -/
def Node.shared : List Node → List (List Node) → List Node × List (List Node)
  | [], branches => ([], [] :: branches)
  | n :: ns, branches =>
    if branches.all (·.head?.any n.isLike) then
      let (ps, rest) := shared ns (branches.map List.tail)
      (n :: ps, rest)
    else ([], (n :: ns) :: branches)

/-- The items of a set that is written as it is. -/
def Node.items? : List Node → Option (List Item)
  | [.set false _ items] => some items
  | _ => none

/-- Alternatives of one set each are one set together; others stay apart. -/
def Node.either (fold : Fold) (branches : List (List Node)) : Node :=
  match branches.mapM items? with
  | some sets => .ofItems false fold sets.flatten
  | none =>
    match branches.reverse with
    | [] => .empty
    | last :: before => before.foldl (fun n b => .alt (.ofParts b) n) (.ofParts last)

/-- The choice between alternatives, of which `first` comes first. What they all begin with
    is read before the choice. -/
def Node.choice (fold : Fold) (first : Node) (others : List Node) : Node :=
  if others.isEmpty then first
  else
    let (ps, rest) := shared first.parts (others.map parts)
    .ofParts (ps ++ [either fold rest])

end Regen.Pattern
