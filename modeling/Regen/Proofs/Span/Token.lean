import Regen.Proofs.Span.Legible
import Regen.Proofs.Span.Literal
import Regen.Proofs.Text.Integer
import Regen.Proofs.Text.Lines

/-!
# Tokens of written annotations

The written form of annotations is cut into lines and those into tokens as it was put together
(`tokens_print`): each field is its name, a colon and one token for its value.
-/

namespace Regen.Span

/-- A line is cut into the tokens `ts`, whatever the fuel above its length. -/
def Cuts (s : List Char) (ts : List Token) : Prop := ∀ fuel, s.length ≤ fuel → tokensWithin fuel s = ts

theorem Cuts.lineTokens {s : List Char} {ts : List Token} (cuts : Cuts s ts) : lineTokens s = ts :=
  cuts _ (Nat.le_refl _)

theorem Cuts.nil : Cuts [] [] := by
  intro fuel _
  cases fuel <;> rfl

theorem Cuts.blank {r : List Char} {ts : List Token} (rest : Cuts r ts) : Cuts (' ' :: r) ts := by
  rintro (_ | fuel) enough
  · simp at enough
  · rw [tokensWithin, if_neg (by decide), if_pos (by decide)]
    exact rest fuel (by simpa using enough)

theorem Cuts.token {c : Char} {t r : List Char} {ts : List Token} (mark : c ≠ '#')
    (dark : Text.isBlank c = false) (size : tokenLength c (t ++ r) = 1 + t.length) (rest : Cuts r ts) :
    Cuts (c :: t ++ r) ((c :: t) :: ts) := by
  rintro (_ | fuel) enough
  · simp at enough
  · have here : 1 + t.length = (c :: t).length := by rw [List.length_cons, Nat.add_comm]
    simp only [List.cons_append, List.length_cons, List.length_append] at enough
    rw [List.cons_append, tokensWithin, if_neg mark, if_neg (by simp [dark])]
    simp only [size]
    rw [← List.cons_append, here, List.take_left, List.drop_left, rest fuel (by omega)]

/-- A word from its first letter on. -/
structure IsName (w : List Char) : Prop where
  first : ∃ c ∈ w.head?, isLetter c = true ∧ c ≠ '#' ∧ Text.isBlank c = false
  others : ∀ c ∈ w, isWordChar c = true

instance (w : List Char) : Decidable (IsName w) :=
  decidable_of_iff ((w.head?.any fun c => isLetter c && decide (c ≠ '#') && !Text.isBlank c) = true ∧
    w.all isWordChar = true)
    ⟨fun ⟨first, others⟩ =>
      ⟨by simpa [Option.any_eq_true, and_assoc] using first, List.all_eq_true.1 others⟩,
      fun ⟨first, others⟩ =>
        ⟨by simpa [Option.any_eq_true, and_assoc] using first, List.all_eq_true.2 others⟩⟩

theorem Cuts.name {w r : List Char} {ts : List Token} (name : IsName w)
    (stop : ∀ c ∈ r.head?, isWordChar c = false) (rest : Cuts r ts) : Cuts (w ++ r) (w :: ts) := by
  obtain ⟨c, first, letter, mark, dark⟩ := name.first
  cases w with
  | nil => cases first
  | cons d t =>
    cases first
    refine Cuts.token mark dark ?_ rest
    have others : ∀ d ∈ t, isWordChar d = true := fun d hd => name.others d (by simp [hd])
    rw [tokenLength, if_pos letter, Text.takeWhile_append_head others stop]

/-- The fields of a written annotation: their name, and a value that is one token and no end of a line. -/
structure IsField (f : String × String) : Prop where
  name : IsName f.1.toList
  inner : '\n' ∉ f.2.toList
  value : Cuts f.2.toList [f.2.toList]

theorem cuts_number {c : Char} {t : List Char} (first : c.isDigit = true ∨ c = '-')
    (others : ∀ d ∈ t, d.isDigit = true) : Cuts (c :: t) [c :: t] := by
  have all : ∀ n < 58, 45 ≤ n →
      isLetter (Char.ofNat n) = false ∧ Char.ofNat n ≠ '#' ∧ Text.isBlank (Char.ofNat n) = false := by
    decide
  have code : 45 ≤ c.toNat ∧ c.toNat < 58 := by
    rcases first with digit | rfl
    · have := Text.isDigit_iff.1 digit
      omega
    · decide
  obtain ⟨letter, mark, dark⟩ := all c.toNat code.2 code.1
  rw [Char.ofNat_toNat] at letter mark dark
  have number : ∀ d ∈ t, isNumberChar d = true := fun d mem => by
    simp [isNumberChar, isWordChar, others d mem]
  have start : ∀ dot : Bool, (c.isDigit || c == '+' || c == '-' || dot) = true := by
    rcases first with digit | rfl
    · simp [digit]
    · simp
  have cuts := Cuts.token (r := []) mark dark (t := t) (by
    rw [tokenLength, letter, if_neg (by decide), if_pos (start _),
      Text.takeWhile_append_head number (by simp)]) Cuts.nil
  rwa [List.append_nil] at cuts

theorem cuts_repr (n : Int) : Cuts n.repr.toList [n.repr.toList] := by
  have digits : ∀ c ∈ Nat.toDigits 10 n.natAbs, c.isDigit = true := fun _ =>
    Text.isDigit_of_mem_toDigits
  rw [Text.toList_repr]
  split
  · cases text : Nat.toDigits 10 n.natAbs with
    | nil => exact absurd text Nat.toDigits_ne_nil
    | cons c t =>
      rw [text] at digits
      exact cuts_number (.inl (digits c (by simp))) fun d mem => digits d (by simp [mem])
  · exact cuts_number (.inr rfl) digits

theorem feed_not_mem_repr (n : Int) : '\n' ∉ n.repr.toList := by
  have digits : '\n' ∉ Nat.toDigits 10 n.natAbs := fun mem => by cases Text.isDigit_of_mem_toDigits mem
  rw [Text.toList_repr]
  split
  · exact digits
  · simp [digits]

/-! ### Quoted texts -/

theorem quotedLength_escaped {c : Char} {w : List Char} (form : Escaped c w) (r : List Char) :
    quotedLength '"' (w ++ r) = w.length + quotedLength '"' r := by
  have plain : ∀ {d : Char} (s : List Char), d ≠ '\\' → d ≠ '"' →
      quotedLength '"' (d :: s) = 1 + quotedLength '"' s := by
    intro d s mark quote
    simp [quotedLength, mark, quote]
  cases form with
  | letter => rfl
  | octal =>
    have digit := fun d : Nat => (octalDigit (Nat.mod_lt d (show 0 < 8 by decide))).kept
    simp only [octal, List.map_cons, List.map_nil, List.cons_append, List.nil_append, List.length_cons,
      List.length_nil, quotedLength]
    rw [plain _ (digit _).1 (digit _).2.1, plain _ (digit _).1 (digit _).2.1]
    omega
  | plain mark quote => exact plain r mark quote

theorem quotedLength_flatMap (s : List Char) :
    quotedLength '"' (s.flatMap escapedChar ++ ['"']) = (s.flatMap escapedChar).length + 1 := by
  induction s with
  | nil => rfl
  | cons c s ih =>
    rw [List.flatMap_cons, List.append_assoc, quotedLength_escaped (escaped_escapedChar c), ih,
      List.length_append, Nat.add_assoc]

theorem feed_not_mem_escaped {c : Char} {w : List Char} (form : Escaped c w) : '\n' ∉ w := by
  cases form with
  | letter letter =>
    rintro (_ | ⟨_, _ | ⟨_, mem⟩⟩)
    · cases letter
    · cases mem
  | octal =>
    have digit := fun d : Nat => (octalDigit (Nat.mod_lt d (show 0 < 8 by decide))).kept.2.2.1
    simpa [octal] using ⟨(digit _).symm, (digit _).symm, (digit _).symm⟩
  | plain _ _ feed => simpa using feed.symm

theorem isField_escaped (s : String) : IsField ("source_file", escaped s) where
  name := show IsName "source_file".toList by decide
  inner := by
    have inner : '\n' ∉ s.toList.flatMap escapedChar := by
      simpa using fun c _ => feed_not_mem_escaped (escaped_escapedChar c)
    simp [escaped, inner]
  value := by
    have cuts := Cuts.token (r := []) (c := '"') (t := s.toList.flatMap escapedChar ++ ['"']) (by decide)
      (by decide) (by
        rw [List.append_nil, List.length_append]
        exact congrArg (1 + ·) (quotedLength_flatMap s.toList)) Cuts.nil
    simpa [escaped] using cuts

theorem isField_repr {name : String} (isName : IsName name.toList) (n : Int) :
    IsField (name, toString n) :=
  ⟨isName, feed_not_mem_repr n, cuts_repr n⟩

theorem semantics_cases {n : Int} (known : Shape.semantics.contains n = true) : n = 0 ∨ n = 1 ∨ n = 2 := by
  simpa [Shape.semantics] using known

theorem isField_semantic {n : Int} (known : Shape.semantics.contains n = true) :
    IsField ("semantic", semanticName n) := by
  have word : ∀ {v : String}, IsName v.toList → '\n' ∉ v.toList → IsField ("semantic", v) := by
    intro v isName inner
    have cuts := Cuts.name (r := []) isName (by simp) Cuts.nil
    rw [List.append_nil] at cuts
    exact ⟨show IsName "semantic".toList by decide, inner, cuts⟩
  rcases semantics_cases known with rfl | rfl | rfl <;> exact word (by decide) (by decide)

theorem isField_of_mem_fields {a : Span} (legible : a.Legible) {f : String × String} (mem : f ∈ a.fields) :
    IsField f := by
  simp only [fields, List.mem_append, List.mem_map, Option.mem_toList,
    Option.map_eq_some_iff] at mem
  rcases mem with (((⟨n, -, rfl⟩ | ⟨s, -, rfl⟩) | ⟨n, -, rfl⟩) | ⟨n, -, rfl⟩) | ⟨n, set, rfl⟩
  · exact isField_repr (by decide) n
  · exact isField_escaped s
  · exact isField_repr (by decide) n
  · exact isField_repr (by decide) n
  · exact isField_semantic (legible.semantic n set)

/-! ### Lines -/

/-- The tokens of a field. -/
def fieldTokens (f : String × String) : List Token := [f.1.toList, [':'], f.2.toList]

/-- The tokens of an annotation. -/
def spanTokens (a : Span) : List Token :=
  "annotation".toList :: ['\x7b'] :: (a.fields.flatMap fieldTokens ++ [['\x7d']])

/-- The tokens of lines that are given without their ends. -/
theorem tokens_lines {bodies : List (List Char)} (plain : ∀ b ∈ bodies, '\n' ∉ b) :
    tokens (bodies.flatMap (· ++ ['\n'])) = bodies.flatMap lineTokens := by
  have lines : ∀ l ∈ bodies.map (· ++ ['\n']), Text.IsLine l := by
    intro l mem
    obtain ⟨b, hb, rfl⟩ := List.mem_map.1 mem
    exact ⟨b, plain b hb, rfl⟩
  have cut : Text.feedLines (bodies.flatMap (· ++ ['\n'])) = bodies.map (· ++ ['\n']) := by
    rw [List.flatMap_def, Text.feedLines_flatten lines]
  rw [tokens, cut, List.flatMap_map]
  refine List.flatMap_congr fun b hb => ?_
  have whole : (b ++ ['\n']).filter (· ≠ '\n') = b := by
    have kept : b.filter (· ≠ '\n') = b :=
      List.filter_eq_self.2 fun c hc => by simpa using fun e => plain b hb (by rwa [← e])
    simpa using kept
  rw [whole]

/-- The lines of an annotation without their ends. -/
def bodies (a : Span) : List (List Char) :=
  "annotation \x7b".toList :: (a.fields.map fun f => ' ' :: ' ' :: (f.1.toList ++ ':' :: ' ' :: f.2.toList)) ++
    [['\x7d']]

theorem toList_fieldLine (f : String × String) :
    (fieldLine f).toList = ' ' :: ' ' :: (f.1.toList ++ ':' :: ' ' :: f.2.toList) ++ ['\n'] := by
  simp [fieldLine]

theorem toList_print (a : Span) : a.print.toList = a.bodies.flatMap (· ++ ['\n']) := by
  have first : "annotation \x7b\n".toList = "annotation \x7b".toList ++ ['\n'] := by decide
  have last : "\x7d\n".toList = [['\x7d']].flatMap (· ++ ['\n']) := by decide
  simp only [print, bodies, String.toList_append, String.toList_join, List.flatMap_map, toList_fieldLine,
    List.flatMap_append, List.flatMap_cons, first, last]

theorem toList_printAll (info : CodeInfo) :
    info.print.toList = (info.spans.flatMap bodies).flatMap (· ++ ['\n']) := by
  simp only [CodeInfo.print, String.toList_join, List.flatMap_map, toList_print, List.flatMap_assoc]

theorem lineTokens_field {f : String × String} (field : IsField f) :
    lineTokens (' ' :: ' ' :: (f.1.toList ++ ':' :: ' ' :: f.2.toList)) = fieldTokens f := by
  have colon : Cuts ([':'] ++ ' ' :: f.2.toList) ([':'] :: [f.2.toList]) :=
    Cuts.token (t := []) (by decide) (by decide) rfl field.value.blank
  exact (Cuts.name field.name (by simp; decide) colon).blank.blank.lineTokens

theorem flatMap_bodies {a : Span} (legible : a.Legible) : a.bodies.flatMap lineTokens = a.spanTokens := by
  have first : lineTokens "annotation \x7b".toList = ["annotation".toList, ['\x7b']] := by decide
  have last : lineTokens ['\x7d'] = [['\x7d']] := by decide
  rw [bodies, List.flatMap_append, List.flatMap_cons, List.flatMap_map, List.flatMap_singleton, first, last,
    List.flatMap_congr fun f mem => lineTokens_field (isField_of_mem_fields legible mem)]
  rfl

theorem feed_not_mem_bodies {a : Span} (legible : a.Legible) : ∀ b ∈ a.bodies, '\n' ∉ b := by
  intro b mem
  simp only [bodies, List.cons_append, List.mem_cons, List.mem_append, List.mem_map, List.not_mem_nil,
    or_false] at mem
  rcases mem with rfl | ⟨f, mem, rfl⟩ | rfl
  · decide
  · have field := isField_of_mem_fields legible mem
    have name : '\n' ∉ f.1.toList := fun feed => by cases field.name.others _ feed
    simp [name, field.inner]
  · decide

/-- Written annotations are cut into the tokens they were put together from. -/
theorem tokens_print {info : CodeInfo} (legible : info.Legible) :
    tokens info.print.toList = info.spans.flatMap spanTokens := by
  have plain : ∀ b ∈ info.spans.flatMap bodies, '\n' ∉ b := by
    intro b mem
    obtain ⟨a, ha, hb⟩ := List.mem_flatMap.1 mem
    exact feed_not_mem_bodies (legible.spans a ha) b hb
  rw [toList_printAll, tokens_lines plain, List.flatMap_assoc]
  exact List.flatMap_congr fun a ha => flatMap_bodies (legible.spans a ha)

end Regen.Span
