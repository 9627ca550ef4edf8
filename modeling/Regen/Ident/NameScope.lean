/-!
# Names taken inside one message type

A scope marks names as taken or as free again. `unique` hands out a name with the fewest
underscores behind it such that neither the name nor, for a member with a getter, the getter's
name is taken, and marks both.
-/

namespace Regen.Ident

/-- The marks of a scope, newest first: the newest mark of a name decides. -/
structure NameScope where
  marks : List (String × Bool)

namespace NameScope

/-- The method names of every generated message. -/
def methodNames : List String :=
  ["Reset", "String", "ProtoMessage", "Marshal", "Unmarshal", "ExtensionRangeArray",
   "ExtensionMap", "Descriptor"]

/-- The scope in which exactly the given names are taken. -/
def ofReserved (names : List String) : NameScope := ⟨names.map (·, true)⟩

/-- The scope of a fresh message type. -/
def fresh : NameScope := ofReserved methodNames

def getter (name : String) : String := "Get" ++ name

def taken (s : NameScope) (name : String) : Bool := (s.marks.lookup name).getD false

/-- The name may be handed out. -/
def admits (s : NameScope) (hasGetter : Bool) (name : String) : Bool :=
  !s.taken name && !(hasGetter && s.taken (getter name))

/-- The first admitted name among `name` with no underscore up to `n` of them behind it. -/
def pick (s : NameScope) (hasGetter : Bool) : Nat → String → String
  | 0, name => name
  | n + 1, name => if s.admits hasGetter name then name else s.pick hasGetter n (name ++ "_")

/-- Every refused name is a marked name or its getter is one, so as many tries as there are
    marks, twice over, are enough. -/
def choose (s : NameScope) (name : String) (hasGetter : Bool) : String :=
  s.pick hasGetter (2 * s.marks.length) name

def mark (s : NameScope) (name : String) (hasGetter : Bool) : NameScope :=
  ⟨(getter name, hasGetter) :: (name, true) :: s.marks⟩

/-- The name handed out for `name`, and the scope afterwards. -/
def unique (s : NameScope) (name : String) (hasGetter : Bool) : String × NameScope :=
  let n := s.choose name hasGetter
  (n, s.mark n hasGetter)

/-- The names handed out for a sequence of requests. -/
def uniques : NameScope → List (String × Bool) → List String
  | _, [] => []
  | s, (name, hasGetter) :: r =>
    let (n, s') := s.unique name hasGetter
    n :: uniques s' r

end NameScope
end Regen.Ident
