import Regen.Proofs.Corresponding
import Regen.Proofs.FieldTable.Blocks
import Regen.Proofs.Text.Integer
import Regen.Proofs.Text.Lines

/-!
# Tables are read back

A table is read without knowing its file (`read?`). Its lines are those behind the last empty line, whatever
the preamble is. A line that names a message opens a block. The first message is nested in no other, so all
of its name up to the last dot is the package, and what is left of a message's name gives the owner that
stands in front of each name in the block. What is read tells of each message of the file, in order, the
names, numbers, cardinalities and types of all its fields (`read?_render`).
-/

namespace Regen.FieldTable

/-- What a table tells of a message. -/
structure Listing where
  message : String
  entries : List Entry

/-! ### The reader -/

/-- The integer that digits stand for, perhaps behind a sign. -/
def readNumber : List Char → Int
  | '-' :: ds => -(Nat.ofDigitChars 10 ds 0 : Int)
  | ds => (Nat.ofDigitChars 10 ds 0 : Int)

def word (l : List Char) : List Char := l.takeWhile (· ≠ ' ')

def behindWord (l : List Char) : List Char := l.dropWhile (· ≠ ' ')

/-- The constant that a line declares; `owner` stands in front of its name. -/
def constant? (owner line : List Char) : Option Entry := do
  let named ← ('\t' :: owner ++ ['_']).isPrefixOf? line
  let numbered ← " = ".toList.isPrefixOf? (behindWord named)
  let described ← " // ".toList.isPrefixOf? (behindWord numbered)
  let kind ← " ".toList.isPrefixOf? (behindWord described)
  return ⟨.ofList (word named), readNumber (word numbered), .ofList (word described), .ofList kind⟩

/-- The constants between the lines that open and close a block. -/
def readBody? (owner : List Char) : List (List Char) → Option (List Entry)
  | [] => none
  | first :: rest =>
    if first = "const (".toList ∧ rest.getLast? = some ")".toList then rest.dropLast.mapM (constant? owner)
    else none

/-- The name of the message whose block a line opens. -/
def title? (line : List Char) : Option (List Char) :=
  ("// Field numbers for ".toList.isPrefixOf? line).map List.dropLast

/-- The lines in front of the first block, and the blocks' names with the lines behind them. -/
def grouped : List (List Char) → List (List Char) × List (List Char × List (List Char))
  | [] => ([], [])
  | line :: rest =>
    match title? line with
    | some name => ([], (name, (grouped rest).1) :: (grouped rest).2)
    | none => (line :: (grouped rest).1, (grouped rest).2)

/-- The lines behind the last empty one. -/
def tableLines (text : List Char) : List (List Char) :=
  (((Text.feedLines text).map List.dropLast).reverse.takeWhile (· ≠ [])).reverse

/-- A name up to its last dot. -/
def scopeOf (name : List Char) : List Char := (name.reverse.dropWhile (· ≠ '.')).reverse

/-- What a block tells of the message with the given name. -/
def readListing? (scope : List Char) (block : List Char × List (List Char)) : Option Listing := do
  let localName ← scope.isPrefixOf? block.1
  let entries ← readBody? (Ident.camelChars localName) block.2
  return ⟨.ofList block.1, entries⟩

/-- What a table tells of its messages. -/
def read? (text : String) : Option (List Listing) :=
  match grouped (tableLines text.toList) with
  | ([], blocks) => blocks.mapM (readListing? (scopeOf (blocks.head?.elim [] (·.1))))
  | _ => none

/-! ### Lines -/

theorem isPrefixOf?_append (p l : List Char) : p.isPrefixOf? (p ++ l) = some l :=
  List.isPrefixOf?_eq_some_iff_append_eq.2 rfl

theorem word_append {w : List Char} (plain : ' ' ∉ w) (r : List Char) : word (w ++ ' ' :: r) = w :=
  Text.takeWhile_append_head (fun c mem => by simpa using ne_of_mem_of_not_mem mem plain) (by simp)

theorem behindWord_append {w : List Char} (plain : ' ' ∉ w) (r : List Char) :
    behindWord (w ++ ' ' :: r) = ' ' :: r :=
  Text.dropWhile_append_head (fun c mem => by simpa using ne_of_mem_of_not_mem mem plain) (by simp)

theorem readNumber_repr (n : Int) : readNumber n.repr.toList = n := by
  have value : Nat.ofDigitChars 10 (Nat.toDigits 10 n.natAbs) 0 = n.natAbs := Nat.ofDigitChars_ten_toDigits
  rw [Text.toList_repr]
  split
  · next positive =>
    unfold readNumber
    split
    · next ds text =>
      have sign : ('-' : Char).isDigit = true := Text.isDigit_of_mem_toDigits (n := n.natAbs) (by simp [text])
      cases sign
    · rw [value]
      omega
  · next negative =>
    rw [readNumber, value]
    omega

theorem not_mem_repr {c : Char} (other : c.isDigit = false) (sign : c ≠ '-') (n : Int) :
    c ∉ n.repr.toList := by
  have digits : c ∉ Nat.toDigits 10 n.natAbs := by
    intro mem
    rw [Text.isDigit_of_mem_toDigits mem] at other
    cases other
  rw [Text.toList_repr]
  split
  · exact digits
  · simp [sign, digits]

/-- No blank stands where the reader looks for one, and no line is broken. -/
structure Entry.Plain (e : Entry) : Prop where
  name : ' ' ∉ e.name.toList ∧ '\n' ∉ e.name.toList
  cardinality : ' ' ∉ e.cardinality.toList ∧ '\n' ∉ e.cardinality.toList
  kind : '\n' ∉ e.kind.toList

structure Block.Plain (b : Block) : Prop where
  message : '\n' ∉ b.message.toList
  owner : '\n' ∉ b.owner.toList
  entries : ∀ e ∈ b.entries, e.Plain

theorem toList_line (owner : String) (e : Entry) : (e.line owner).toList =
    ('\t' :: owner.toList ++ ['_']) ++ (e.name.toList ++ (" = ".toList ++ (e.number.repr.toList ++
      (" // ".toList ++ (e.cardinality.toList ++ (" ".toList ++ e.kind.toList)))))) := by
  simp [Entry.line, toString]

theorem constant?_line (owner : String) {e : Entry} (plain : e.Plain) :
    constant? owner.toList (e.line owner).toList = some e := by
  have noBlank : ' ' ∉ e.number.repr.toList := not_mem_repr rfl (by decide) e.number
  have equals : ∀ r, " = ".toList ++ r = ' ' :: ("= ".toList ++ r) := fun _ => rfl
  have slashes : ∀ r, " // ".toList ++ r = ' ' :: ("// ".toList ++ r) := fun _ => rfl
  have blank : ∀ r, " ".toList ++ r = ' ' :: r := fun _ => rfl
  unfold constant?
  rw [toList_line, isPrefixOf?_append]
  simp only [Option.bind_eq_bind, Option.bind_some]
  rw [equals, word_append plain.name.1, behindWord_append plain.name.1, ← equals, isPrefixOf?_append]
  simp only [Option.bind_some]
  rw [slashes, word_append noBlank, behindWord_append noBlank, ← slashes, isPrefixOf?_append]
  simp only [Option.bind_some]
  rw [blank, word_append plain.cardinality.1, behindWord_append plain.cardinality.1, ← blank,
    isPrefixOf?_append]
  simp only [Option.bind_some, String.ofList_toList, readNumber_repr]
  rfl

theorem feed_not_mem_line {owner : String} {e : Entry} (noFeed : '\n' ∉ owner.toList) (plain : e.Plain) :
    '\n' ∉ (e.line owner).toList := by
  rw [toList_line]
  simp [noFeed, plain.name.2, plain.cardinality.2, plain.kind, not_mem_repr (c := '\n') rfl (by decide)]

/-! ### Blocks -/

/-- The lines of a block behind the one that opens it. -/
def body (b : Block) : List (List Char) :=
  "const (".toList :: (b.entries.map fun e => (e.line b.owner).toList) ++ [")".toList]

theorem lines_eq (b : Block) : b.lines.map String.toList =
    ("// Field numbers for ".toList ++ (b.message.toList ++ ".".toList)) :: body b := by
  simp [Block.lines, body, toString, Function.comp_def]

theorem readBody?_body {b : Block} (plain : b.Plain) : readBody? b.owner.toList (body b) = some b.entries := by
  have read : (b.entries.map fun e => (e.line b.owner).toList).mapM (constant? b.owner.toList) =
      some b.entries := by
    refine mapM_eq_some_of_forall₂ (List.forall₂_map_left_iff.2 (List.forall₂_same.2 fun e mem => ?_))
    exact constant?_line b.owner (plain.entries e mem)
  rw [body, List.cons_append, readBody?, if_pos ⟨rfl, List.getLast?_concat⟩, List.dropLast_concat, read]

theorem mem_body {b : Block} {line : List Char} (mem : line ∈ body b) :
    line = "const (".toList ∨ (∃ e ∈ b.entries, line = (e.line b.owner).toList) ∨ line = ")".toList := by
  rcases List.mem_append.1 mem with mem | last
  · rcases List.mem_cons.1 mem with first | mem
    · exact .inl first
    · obtain ⟨e, listed, same⟩ := List.mem_map.1 mem
      exact .inr (.inl ⟨e, listed, same.symm⟩)
  · exact .inr (.inr (List.mem_singleton.1 last))

theorem title?_body (b : Block) : ∀ line ∈ body b, title? line = none := by
  intro line mem
  rcases mem_body mem with rfl | ⟨e, -, rfl⟩ | rfl
  · rfl
  · rw [toList_line]
    rfl
  · rfl

theorem grouped_body {lines : List (List Char)} (plain : ∀ line ∈ lines, title? line = none)
    (rest : List (List Char)) :
    grouped (lines ++ rest) = (lines ++ (grouped rest).1, (grouped rest).2) := by
  induction lines with
  | nil => rfl
  | cons line lines ih =>
    rw [List.cons_append, grouped, plain line (by simp)]
    simp only [ih fun l mem => plain l (by simp [mem]), List.cons_append]

/-- Each block stands for itself. -/
theorem grouped_blocks (bs : List Block) :
    grouped ((bs.flatMap Block.lines).map String.toList) =
      ([], bs.map fun b => (b.message.toList, body b)) := by
  induction bs with
  | nil => rfl
  | cons b bs ih =>
    have title : title? ("// Field numbers for ".toList ++ (b.message.toList ++ ".".toList)) =
        some b.message.toList := by
      rw [title?, isPrefixOf?_append, Option.map_some]
      exact congrArg some List.dropLast_concat
    rw [List.flatMap_cons, List.map_append, lines_eq, List.cons_append, grouped, title,
      grouped_body (title?_body b), ih]
    simp

theorem feed_not_mem_lines {b : Block} (plain : b.Plain) : ∀ line ∈ b.lines.map String.toList, '\n' ∉ line := by
  intro line mem
  rw [lines_eq] at mem
  rcases List.mem_cons.1 mem with rfl | mem
  · simp [plain.message]
  · rcases mem_body mem with rfl | ⟨e, listed, rfl⟩ | rfl
    · decide
    · exact feed_not_mem_line plain.owner (plain.entries e listed)
    · decide

theorem line_ne_nil {b : Block} : ∀ line ∈ b.lines.map String.toList, line ≠ [] := by
  intro line mem
  rw [lines_eq] at mem
  rcases List.mem_cons.1 mem with rfl | mem
  · exact nofun
  · rcases mem_body mem with rfl | ⟨e, -, rfl⟩ | rfl
    · exact nofun
    · rw [toList_line]
      exact nofun
    · exact nofun

/-! ### Tables -/

/-- The lines of the blocks are those behind the last empty line. -/
theorem tableLines_blocks (preamble package : String) {bs : List Block} (plain : ∀ b ∈ bs, b.Plain) :
    tableLines (preamble ++ "\n".intercalate ([s!"package {package}", ""] ++ bs.flatMap Block.lines) ++
      "\n").toList = (bs.flatMap Block.lines).map String.toList := by
  have inBlock : ∀ l ∈ bs.flatMap Block.lines, ∃ b ∈ bs, l.toList ∈ b.lines.map String.toList := by
    intro l mem
    obtain ⟨b, listed, mem⟩ := List.mem_flatMap.1 mem
    exact ⟨b, listed, List.mem_map_of_mem mem⟩
  have noFeed : ∀ l ∈ bs.flatMap Block.lines, '\n' ∉ l.toList := fun l mem => by
    obtain ⟨b, listed, line⟩ := inBlock l mem
    exact feed_not_mem_lines (plain b listed) _ line
  have full : ∀ l ∈ bs.flatMap Block.lines, l.toList ≠ [] := fun l mem => by
    obtain ⟨b, -, line⟩ := inBlock l mem
    exact line_ne_nil _ line
  generalize bs.flatMap Block.lines = ls at noFeed full
  let behind := ['\n'] :: ls.map fun l => l.toList ++ ['\n']
  have lines : ∀ l ∈ behind, Text.IsLine l := by
    intro l mem
    rcases List.mem_cons.1 mem with rfl | mem
    · exact ⟨[], by simp, rfl⟩
    · obtain ⟨m, listed, rfl⟩ := List.mem_map.1 mem
      exact ⟨m.toList, noFeed m listed, rfl⟩
  have text : (preamble ++ "\n".intercalate ([s!"package {package}", ""] ++ ls) ++ "\n").toList =
      (preamble.toList ++ (s!"package {package}".toList ++ ['\n'])) ++ behind.flatten := by
    rw [String.append_assoc, String.toList_append, Text.toList_unlines (by simp)]
    simp [behind]
  have ended : Text.Ended (preamble.toList ++ (s!"package {package}".toList ++ ['\n'])) :=
    .inr (by rw [← List.append_assoc, List.getLast?_concat])
  have bodies : behind.map List.dropLast = [] :: ls.map String.toList := by
    simp [behind, Function.comp_def]
  rw [tableLines, text, Text.feedLines_append ended, Text.feedLines_flatten lines, List.map_append, bodies,
    List.reverse_append, List.reverse_cons, List.append_assoc,
    Text.takeWhile_append_head (fun l mem => ?_) (by simp), List.reverse_reverse]
  obtain ⟨m, listed, rfl⟩ := List.mem_map.1 (List.mem_reverse.1 mem)
  simpa using full m listed

/-- The name of a message that is nested in no other is its package's scope and its own name. -/
theorem scopeOf_append {scope name : List Char} (ended : scope = [] ∨ scope.getLast? = some '.')
    (plain : '.' ∉ name) : scopeOf (scope ++ name) = scope := by
  have first : ∀ c ∈ scope.reverse.head?, (decide (c ≠ '.')) = false := by
    intro c head
    rw [List.head?_reverse] at head
    rcases ended with none | dot
    · simp [none] at head
    · rw [dot] at head
      cases head
      rfl
  rw [scopeOf, List.reverse_append, Text.dropWhile_append_head (fun c mem => ?_) first, List.reverse_reverse]
  simpa using ne_of_mem_of_not_mem (List.mem_reverse.1 mem) plain

theorem readListing?_block {package : String} {m : String × Descriptor} {b : Block}
    (describes : Describes package m b) (plain : b.Plain) :
    readListing? (FileDescriptor.scope package).toList (b.message.toList, body b) =
      some ⟨b.message, b.entries⟩ := by
  obtain ⟨localName, full, owner⟩ := describes.owner
  have chars : Ident.camelChars localName.toList = b.owner.toList := by
    rw [owner, Ident.camel, String.toList_ofList]
  have name : b.message.toList = (FileDescriptor.scope package).toList ++ localName.toList := by
    rw [describes.message, full, String.toList_append]
  simp only [readListing?, name, isPrefixOf?_append, Option.bind_eq_bind, Option.bind_some, chars,
    readBody?_body plain]
  rw [← name, String.ofList_toList]
  rfl

/-! ### Legal files -/

/-- The field has an entry. -/
structure Shows (f : FieldDescriptor) (e : Entry) : Prop where
  number : e.number = f.number
  cardinality : e.cardinality = f.cardinality
  kind : e.kind = f.kind
  typeName : FieldDescriptor.isNamed f.type = true →
    Ident.IsDotted e.kind ∧ (f.typeName = e.kind ∨ f.typeName = "." ++ e.kind)

/-- A listing holds the full name of a message and, for each of its fields in order, the identifier, the
    number, the cardinality and the type. -/
structure Lists (m : String × Descriptor) (l : Listing) : Prop where
  message : l.message = m.1
  names : Ident.fieldNames m.2 = .ok (l.entries.map (·.name))
  fields : List.Forall₂ Shows m.2.fields l.entries

theorem forall₂_entries {R : FieldDescriptor → String → Prop} {fields : List FieldDescriptor}
    {names : List String} (named : List.Forall₂ R fields names) :
    List.Forall₂ (fun f e => R f e.name ∧ e.number = f.number ∧ e.cardinality = f.cardinality ∧ e.kind = f.kind)
      fields (entries fields names) ∧ (entries fields names).map (·.name) = names := by
  induction named with
  | nil => exact ⟨.nil, rfl⟩
  | cons first _ ih => exact ⟨.cons ⟨first, rfl, rfl, rfl⟩ ih.1, congrArg _ ih.2⟩

/-- A type that is told by a name is told without the dot in front of it. -/
theorem typeName_kind {f : FieldDescriptor} (legal : f.Legal) (named : FieldDescriptor.isNamed f.type = true) :
    Ident.IsDotted f.kind ∧ (f.typeName = f.kind ∨ f.typeName = "." ++ f.kind) := by
  obtain ⟨t, dotted, front⟩ := legal.type named
  obtain ⟨c, r, text, part, -⟩ := dotted.opens
  have other : c ≠ '.' := Ident.ne_of_isNamePart part rfl
  have kept : t.toList.dropWhile (· = '.') = t.toList := by
    rw [text, List.dropWhile_cons, if_neg (by simpa using other)]
  have kind : f.kind = t := by
    rw [FieldDescriptor.kind, if_pos named, ← String.toList_inj, String.toList_ofList]
    rcases front with same | dot
    · rw [same, kept]
    · rw [dot, String.toList_append]
      exact kept
  rw [kind]
  exact ⟨dotted, front⟩

theorem feed_not_mem_kind {f : FieldDescriptor} (legal : f.Legal) : '\n' ∉ f.kind.toList := by
  by_cases named : FieldDescriptor.isNamed f.type = true
  · intro mem
    rcases (typeName_kind legal named).1.isNamePart_or_dot _ mem with part | dot
    · cases part
    · cases dot
  · rw [FieldDescriptor.kind, if_neg named]
    have kinds : ∀ p ∈ FieldDescriptor.kindNames, '\n' ∉ p.2.toList := by decide
    cases found : FieldDescriptor.kindNames.lookup f.type with
    | none => exact nofun
    | some kind =>
      obtain ⟨before, after, listed, -⟩ := List.lookup_eq_some_iff.1 found
      exact kinds (f.type, kind) (by simp [listed])

theorem plain_cardinality (f : FieldDescriptor) :
    ' ' ∉ f.cardinality.toList ∧ '\n' ∉ f.cardinality.toList := by
  unfold FieldDescriptor.cardinality FieldDescriptor.labelName
  split
  · decide
  · split <;> decide

theorem not_mem_padded {c : Char} (other : Ident.isNamePart c = false) {name : String}
    (parts : ∀ d ∈ name.toList, Ident.isNamePart d = true) (k : Nat) : c ∉ (Ident.padded name k).toList := by
  intro mem
  rw [Ident.toList_padded] at mem
  rcases List.mem_append.1 mem with mem | mem
  · rw [parts c mem] at other
    cases other
  · rw [(List.mem_replicate.1 mem).2] at other
    cases other

theorem isNamePart_owner {package : String} {m : String × Descriptor} {b : Block} (full : Plain m.1)
    (describes : Describes package m b) : ∀ c ∈ b.owner.toList, Ident.isNamePart c = true := by
  obtain ⟨localName, parts, owner⟩ := describes.owner
  have plain : Plain localName := fun c mem => full c (by simp [parts, mem])
  rw [owner]
  exact Ident.isNamePart_camel plain

theorem plain_block {package : String} {m : String × Descriptor} {b : Block} (legal : m.2.Legal)
    (full : Plain m.1) (describes : Describes package m b) : b.Plain where
  message mem := by
    rw [describes.message] at mem
    rcases full _ mem with part | dot
    · cases part
    · cases dot
  owner mem := by cases isNamePart_owner full describes _ mem
  entries e mem := by
    obtain ⟨names, named, listed⟩ := describes.entries
    rw [listed] at mem
    have shown := (forall₂_entries (Ident.forall₂_fieldNames legal.oneofs named)).1
    obtain ⟨f, field, ⟨k, name⟩, -, cardinality, kind⟩ := (mem_of_forall₂ shown).2 e mem
    have parts := Ident.isNamePart_camel (legal.fields f field).name.isNamePart_or_dot
    exact {
      name := by
        rw [name]
        exact ⟨not_mem_padded rfl parts k, not_mem_padded rfl parts k⟩
      cardinality := by
        rw [cardinality]
        exact plain_cardinality f
      kind := by
        rw [kind]
        exact feed_not_mem_kind (legal.fields f field) }

theorem lists_block {package : String} {m : String × Descriptor} {b : Block} (legal : m.2.Legal)
    (describes : Describes package m b) : Lists m ⟨b.message, b.entries⟩ := by
  obtain ⟨names, named, listed⟩ := describes.entries
  obtain ⟨shown, same⟩ := forall₂_entries (Ident.forall₂_fieldNames legal.oneofs named)
  refine ⟨describes.message, by rw [named, listed, same], ?_⟩
  rw [listed]
  refine ((List.forall₂_and_left _ _).2 ⟨legal.fields, shown⟩).imp fun f e shown => ?_
  obtain ⟨legal, -, number, cardinality, kind⟩ := shown
  exact ⟨number, cardinality, kind, fun named => by
    rw [kind]
    exact typeName_kind legal named⟩

theorem read?_of_blocks {package : String} {ms : List (String × Descriptor)} {bs : List Block}
    (described : List.Forall₂ (Describes package) ms bs) (plain : ∀ b ∈ bs, b.Plain)
    (outermost : ∀ m ∈ ms.head?, scopeOf m.1.toList = (FileDescriptor.scope package).toList)
    {text : String} (lines : tableLines text.toList = (bs.flatMap Block.lines).map String.toList) :
    read? text = some (bs.map fun b => ⟨b.message, b.entries⟩) := by
  rw [read?, lines, grouped_blocks]
  cases described with
  | nil => rfl
  | @cons m b ms bs first rest =>
    have scope : scopeOf b.message.toList = (FileDescriptor.scope package).toList := by
      rw [first.message]
      exact outermost m rfl
    simp only [List.map_cons, List.head?_cons, Option.elim_some, scope]
    rw [← List.map_cons (f := fun b : Block => (b.message.toList, body b)),
      ← List.map_cons (f := fun b : Block => (⟨b.message, b.entries⟩ : Listing))]
    refine mapM_eq_some_of_forall₂ (List.forall₂_map_left_iff.2 (List.forall₂_map_right_iff.2
      (List.forall₂_same.2 fun b mem => ?_)))
    obtain ⟨m, -, describes⟩ := (mem_of_forall₂ (.cons first rest)).2 b mem
    exact readListing?_block describes (plain b mem)

theorem scopeOf_first {file : FileDescriptor} (legal : file.Legal) :
    ∀ m ∈ file.inOrder.head?, scopeOf m.1.toList = (FileDescriptor.scope file.package).toList := by
  intro m first
  have own := (legal.messages m (List.mem_of_mem_head? first)).name
  rw [head?_inOrder file m first, String.toList_append]
  refine scopeOf_append ?_ fun dot => ?_
  · unfold FileDescriptor.scope
    split
    · exact .inl rfl
    · rw [String.toList_append]
      exact .inr List.getLast?_concat
  · cases own.isNamePart _ dot

/-- The table of a legal file is read back as all its messages with all their fields. -/
theorem read?_render {file : FileDescriptor} (legal : file.Legal) (package preamble : String) :
    ∃ text listings, render file package preamble = .ok text ∧ read? text = some listings ∧
      List.Forall₂ Lists file.inOrder listings := by
  obtain ⟨bs, found, described⟩ := blocks_inOrder fun m mem => (legal.messages m mem).oneofs
  have both : List.Forall₂ (fun m b => m.2.Legal ∧ Describes file.package m b) file.inOrder bs :=
    (List.forall₂_and_left _ _).2 ⟨legal.messages, described⟩
  have full := plain_inOrderList (plain_scope legal.package) legal.messages
  have plain : ∀ b ∈ bs, b.Plain := by
    intro b mem
    obtain ⟨m, listed, legal, describes⟩ := (mem_of_forall₂ both).2 b mem
    exact plain_block legal (full m listed) describes
  have text : render file package preamble = .ok (preamble ++
      "\n".intercalate ([s!"package {package}", ""] ++ bs.flatMap Block.lines) ++ "\n") := by
    rw [render, found]
    rfl
  refine ⟨_, _, text, read?_of_blocks described plain (scopeOf_first legal)
    (tableLines_blocks preamble package plain), ?_⟩
  exact List.forall₂_map_right_iff.2 (both.imp fun m b both => lists_block both.1 both.2)

namespace Sample

theorem legal_scalar {name : String} {number : Int} {oneof : Option Int} (own : Ident.IsIdentifier name) :
    FieldDescriptor.Legal ⟨name, number, 1, 9, "", oneof⟩ := ⟨.one own, nofun⟩

def entry : Descriptor :=
  .mk "FieldsEntry" [⟨"key", 1, 1, 9, "", none⟩, ⟨"get_key", 2, 1, 11, "Value", none⟩] [] []

/-- A message with a map, whose entries are a message nested in it, and a oneof. -/
def struct : Descriptor :=
  .mk "Struct" [⟨"fields", 1, 3, 11, ".Struct.FieldsEntry", none⟩, ⟨"reset", -2, 1, 9, "", some 0⟩] [entry]
    ["kind"]

def file : FileDescriptor := ⟨"struct.proto", "google.protobuf", [struct, .mk "Empty" [] [] []]⟩

theorem fields_entry : ∀ f ∈ entry.fields,
    f = ⟨"key", 1, 1, 9, "", none⟩ ∨ f = ⟨"get_key", 2, 1, 11, "Value", none⟩ := by
  intro f mem
  simpa [entry, Descriptor.fields] using mem

theorem legal_entry : entry.Legal where
  name := by decide
  fields f mem := by
    rcases fields_entry f mem with rfl | rfl
    · exact legal_scalar (by decide)
    · exact ⟨.one (by decide), fun _ => ⟨"Value", .one (by decide), .inl rfl⟩⟩
  oneofs f mem i index := by rcases fields_entry f mem with rfl | rfl <;> cases index

theorem fields_struct : ∀ f ∈ struct.fields,
    f = ⟨"fields", 1, 3, 11, ".Struct.FieldsEntry", none⟩ ∨ f = ⟨"reset", -2, 1, 9, "", some 0⟩ := by
  intro f mem
  simpa [struct, Descriptor.fields] using mem

theorem legal_struct : struct.Legal where
  name := by decide
  fields f mem := by
    rcases fields_struct f mem with rfl | rfl
    · exact ⟨.one (by decide), fun _ => ⟨"Struct.FieldsEntry",
        .more (s := "Struct") (t := "FieldsEntry") (by decide) (.one (by decide)),
        .inr rfl⟩⟩
    · exact legal_scalar (by decide)
  oneofs f mem i index := by
    rcases fields_struct f mem with rfl | rfl <;> cases index
    decide

theorem legal : file.Legal where
  package := .inr (.more (s := "google") (t := "protobuf") (by decide)
    (.one (by decide)))
  messages m mem := by
    have messages : m.2 = struct ∨ m.2 = entry ∨ m.2 = .mk "Empty" [] [] [] := by
      simp [file, FileDescriptor.inOrder, struct, entry, Descriptor.inOrderList, Descriptor.inOrder] at mem
      rcases mem with rfl | rfl | rfl <;> simp [struct, entry]
    rcases messages with same | same | same <;> rw [same]
    · exact legal_struct
    · exact legal_entry
    · exact ⟨by decide, nofun, nofun⟩

end Sample

theorem read?_render_sample : Sample.file.Legal ∧
    ∃ text listings, render Sample.file "fieldnum" "// Code generated.\n\npackage clause:" = .ok text ∧
      read? text = some listings ∧ List.Forall₂ Lists Sample.file.inOrder listings :=
  ⟨Sample.legal, read?_render Sample.legal "fieldnum" "// Code generated.\n\npackage clause:"⟩

end Regen.FieldTable
