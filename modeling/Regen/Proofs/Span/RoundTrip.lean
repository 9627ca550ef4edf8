import Regen.Proofs.Span.Token

/-!
# Reading written annotations

Annotations that have a written form are read back from it (`CodeInfo.read?_print`). A field that is
written changes one field of the annotation that is being read (`Reads`), and the fields of an annotation
are read one after the other (`Fills`).
-/

namespace Regen

namespace Span

theorem short_of_holds {n : Int} (holds : Shape.Kind.int32.holds n = true) :
    (Nat.toDigits 10 n.natAbs).length ≤ Text.maxDigits := by
  have bound := holds_int32_iff.1 holds
  have short : (Nat.toDigits 10 n.natAbs).length ≤ 10 :=
    (Nat.length_toDigits_le_iff (by decide) (by decide)).2 (by omega)
  exact Nat.le_trans short (by decide)

/-- Only digits behind a leading zero are read in another way. -/
theorem octalInteger?_eq {t : Token} (plain : ∀ c r, t ≠ '0' :: c :: r)
    (signed : ∀ c r, t ≠ '-' :: '0' :: c :: r) : octalInteger? t = integer? t := by
  unfold octalInteger?
  split
  next sign ds cut =>
    split
    · split at cut
      · cases cut
        exact absurd rfl (signed _ _)
      · cases cut
        exact absurd rfl (plain _ _)
    · rfl

theorem octalInteger?_repr {n : Int} (holds : Shape.Kind.int32.holds n = true) :
    octalInteger? n.repr.toList = some n := by
  have front := Text.toDigits_ne_zero_cons n.natAbs
  rw [octalInteger?_eq]
  · exact Text.readInt_repr (short_of_holds holds)
  · intro c r
    rw [Text.toList_repr]
    split
    · exact front c r
    · simp
  · intro c r
    rw [Text.toList_repr]
    split
    · intro text
      have digit : '-' ∈ Nat.toDigits 10 n.natAbs := by simp [text]
      cases Text.isDigit_of_mem_toDigits digit
    · simpa using front c r

/-- Behind a value stands nothing that could belong to it: a word or a closing brace. -/
def Closed (ts : List Token) : Prop := ∀ t ∈ ts.head?, IsName t ∨ t = ['\x7d']

theorem IsName.ne {t u : Token} (name : IsName t) (other : ¬ IsName u) : t ≠ u := by
  rintro rfl
  exact other name

theorem Closed.head {ts : List Token} (closed : Closed ts) {t : Token} (mem : t ∈ ts.head?) :
    t ≠ [','] ∧ t ≠ [';'] ∧ t.head?.any isQuote = false := by
  rcases closed t mem with name | rfl
  · refine ⟨name.ne (by decide), name.ne (by decide), ?_⟩
    obtain ⟨c, first, letter, -⟩ := name.first
    rw [Option.mem_def.1 first, Option.any_some, isQuote, Bool.or_eq_false_iff, beq_eq_false_iff_ne,
      beq_eq_false_iff_ne]
    refine ⟨?_, fun code => ?_⟩
    · rintro rfl
      cases letter
    · rw [← Char.ofNat_toNat c, code] at letter
      cases letter
  · decide

theorem skipSeparator_of_closed {ts : List Token} (closed : Closed ts) : skipSeparator ts = ts := by
  cases ts with
  | nil => rfl
  | cons t ts =>
    obtain ⟨comma, semicolon, -⟩ := closed.head rfl
    simp [skipSeparator, accept?, comma, semicolon]

/-- Reading the field `f` turns the annotation `a` into `b`. -/
def Reads (a : Span) (f : String × String) (b : Span) : Prop :=
  ∀ ts, Closed ts → readValue a f.1.toList (f.2.toList :: ts) = some (b, ts)

/-- Reading the fields one after the other turns the annotation `a` into the last one. -/
inductive Fills : Span → List (String × String) → Span → Prop
  | nil (a : Span) : Fills a [] a
  | cons {a b c : Span} {f : String × String} {fs : List (String × String)} :
      Reads a f b → Fills b fs c → Fills a (f :: fs) c

theorem Fills.append {a b c : Span} {fs gs : List (String × String)} (first : Fills a fs b)
    (rest : Fills b gs c) : Fills a (fs ++ gs) c := by
  induction first with
  | nil => exact rest
  | cons reads _ ih => exact .cons reads (ih rest)

theorem readInt_repr {n : Int} (holds : Shape.Kind.int32.holds n = true) (ts : List Token) :
    readInt (n.repr.toList :: ts) = some (n, ts) := by
  simp [readInt, octalInteger?_repr holds, holds]

theorem reads_path (a : Span) {n : Int} (holds : Shape.Kind.int32.holds n = true) :
    Reads a ("path", toString n) { a with path := a.path ++ [n] } := by
  intro ts _
  have bracket : n.repr.toList ≠ ['['] := by
    intro text
    have field := octalInteger?_repr holds
    rw [text] at field
    cases field
  simp [readValue, readRepeated, accept?, bracket, readInt_repr holds]

theorem quotedToken?_escaped (s : String) : quotedToken? (escaped s).toList = some (Text.bytes s) := by
  have quote : isQuote '"' = true := by decide
  have whole : unescape? (s.toList.flatMap escapedChar) = some (Text.bytes s) := unescape?_escaped s.toList
  simp [escaped, quotedToken?, quote, whole]

theorem readText_closed {ts : List Token} (closed : Closed ts) : readText false ts = some ([], ts) := by
  cases ts with
  | nil => rfl
  | cons t ts =>
    rw [readText, if_neg]
    simpa using (closed.head rfl).2.2

theorem readText_escaped {ts : List Token} (closed : Closed ts) (s : String) :
    readText true ((escaped s).toList :: ts) = some (Text.bytes s, ts) := by
  simp [readText, quotedToken?_escaped, readText_closed closed]

theorem reads_sourceFile {a : Span} (unset : a.sourceFile = none) (s : String) :
    Reads a ("source_file", escaped s) { a with sourceFile := some s } := by
  intro ts closed
  simp [readValue, unset, readText_escaped closed, Text.decode?_bytes]

theorem reads_beginAt {a : Span} (unset : a.beginAt = none) {n : Int}
    (holds : Shape.Kind.int32.holds n = true) :
    Reads a ("begin", toString n) { a with beginAt := some n } := by
  intro ts _
  simp [readValue, unset, readInt_repr holds]

theorem reads_endAt {a : Span} (unset : a.endAt = none) {n : Int}
    (holds : Shape.Kind.int32.holds n = true) :
    Reads a ("end", toString n) { a with endAt := some n } := by
  intro ts _
  simp [readValue, unset, readInt_repr holds]

theorem semanticOf?_semanticName {n : Int} (known : Shape.semantics.contains n = true) :
    semanticOf? (semanticName n).toList = some n := by
  rcases semantics_cases known with rfl | rfl | rfl <;> decide

theorem readSemantic_semanticName {n : Int} (known : Shape.semantics.contains n = true) (ts : List Token) :
    readSemantic ((semanticName n).toList :: ts) = some (n, ts) := by
  rw [readSemantic, semanticOf?_semanticName known, Option.bind_eq_bind, Option.bind_some, if_pos known]

theorem reads_semantic {a : Span} (unset : a.semantic = none) {n : Int}
    (known : Shape.semantics.contains n = true) :
    Reads a ("semantic", semanticName n) { a with semantic := some n } := by
  intro ts _
  simp [readValue, unset, readSemantic_semanticName known]

/-! ### The fields of an annotation -/

theorem fills_path (a : Span) {ns : List Int} (holds : ∀ n ∈ ns, Shape.Kind.int32.holds n = true) :
    Fills a (ns.map fun n => ("path", toString n)) { a with path := a.path ++ ns } := by
  induction ns generalizing a with
  | nil =>
    rw [List.append_nil]
    exact .nil a
  | cons n ns ih =>
    have here := holds n (by simp)
    have rest := ih { a with path := a.path ++ [n] } fun m hm => holds m (by simp [hm])
    simp only [List.append_assoc, List.singleton_append] at rest
    exact .cons (reads_path a here) rest

/-- A field that may not be set is written once or not at all. -/
theorem fills_option {α : Type} {value : Option α} {text : α → String × String}
    (filled : Option α → Span) (reads : ∀ v ∈ value, Reads (filled .none) (text v) (filled (some v))) :
    Fills (filled .none) (value.map text).toList (filled value) := by
  cases value with
  | none => exact .nil _
  | some v => exact .cons (reads v rfl) (.nil _)

/-- The fields of an annotation fill the empty one up to it. -/
theorem fills_fields {a : Span} (legible : a.Legible) : Fills empty a.fields a := by
  have whole : (⟨a.path, a.sourceFile, a.beginAt, a.endAt, a.semantic, [], []⟩ : Span) = a := by
    rw [← legible.octets, ← legible.unknown]
  have path := fills_path empty legible.path
  have source := fills_option (fun s => ⟨a.path, s, .none, .none, .none, [], []⟩)
    fun s (_ : s ∈ a.sourceFile) => reads_sourceFile rfl s
  have begins := fills_option (fun n => ⟨a.path, a.sourceFile, n, .none, .none, [], []⟩)
    fun n (set : n ∈ a.beginAt) => reads_beginAt rfl (legible.begins n set)
  have ends := fills_option (fun n => ⟨a.path, a.sourceFile, a.beginAt, n, .none, [], []⟩)
    fun n (set : n ∈ a.endAt) => reads_endAt rfl (legible.ends n set)
  have semantic := fills_option (fun n => ⟨a.path, a.sourceFile, a.beginAt, a.endAt, n, [], []⟩)
    fun n (set : n ∈ a.semantic) => reads_semantic rfl (legible.semantic n set)
  have all := (((path.append source).append begins).append ends).append semantic
  rwa [whole] at all

theorem readField_fieldTokens {a b : Span} {f : String × String} (reads : Reads a f b) {ts : List Token}
    (closed : Closed ts) : readField a (fieldTokens f ++ ts) = some (b, ts) := by
  have colon : accept? ":" ([':'] :: f.2.toList :: ts) = some (f.2.toList :: ts) := rfl
  simp [fieldTokens, readField, colon, reads ts closed, skipSeparator_of_closed closed]

theorem accept?_of_ne {t : String} {u : Token} {ts : List Token} (other : u ≠ t.toList) :
    accept? t (u :: ts) = none := if_neg other

/-- What stands behind a field: the next one, or the brace that closes the annotation. -/
theorem closed_fields {fs : List (String × String)} (fields : ∀ f ∈ fs, IsField f) (ts : List Token) :
    Closed (fs.flatMap fieldTokens ++ ['\x7d'] :: ts) := by
  intro t first
  cases fs with
  | nil =>
    cases first
    exact .inr rfl
  | cons f fs =>
    cases first
    exact .inl (fields f (by simp)).name

/-- The fields of an annotation are read up to the brace that closes it. -/
theorem readFields_of_fills {a b : Span} {fs : List (String × String)} (fills : Fills a fs b)
    (fields : ∀ f ∈ fs, IsField f) {fuel : Nat} (enough : fs.length < fuel) (ts : List Token) :
    readFields "\x7d" fuel a (fs.flatMap fieldTokens ++ ['\x7d'] :: ts) = some (b, ts) := by
  induction fills generalizing fuel with
  | nil a =>
    cases fuel with
    | zero => omega
    | succ fuel => rfl
  | @cons a b c f fs reads _ ih =>
    cases fuel with
    | zero => omega
    | succ fuel =>
      have others : ∀ g ∈ fs, IsField g := fun g hg => fields g (by simp [hg])
      have word : f.1.toList ≠ "\x7d".toList := (fields f (by simp)).name.ne (by decide)
      have open_ : accept? "\x7d" (fieldTokens f ++ (fs.flatMap fieldTokens ++ ['\x7d'] :: ts)) = .none :=
        accept?_of_ne word
      rw [List.flatMap_cons, List.append_assoc, readFields, open_]
      simp only [readField_fieldTokens reads (closed_fields others ts), Option.bind_eq_bind,
        Option.bind_some]
      exact ih others (by simpa using enough)

theorem length_fields_le (fs : List (String × String)) : fs.length ≤ (fs.flatMap fieldTokens).length := by
  induction fs with
  | nil => exact Nat.le_refl _
  | cons f fs ih =>
    simp only [List.flatMap_cons, List.length_append, List.length_cons, fieldTokens, List.length_nil]
    omega

/-- An annotation is read behind its name. -/
theorem readSpan_spanTokens {a : Span} (legible : a.Legible) (ts : List Token) :
    readSpan (['\x7b'] :: (a.fields.flatMap fieldTokens ++ ['\x7d'] :: ts)) = some (a, ts) := by
  have angle : accept? "<" (['\x7b'] :: (a.fields.flatMap fieldTokens ++ ['\x7d'] :: ts)) = .none := rfl
  have brace : accept? "\x7b" (['\x7b'] :: (a.fields.flatMap fieldTokens ++ ['\x7d'] :: ts)) =
    some (a.fields.flatMap fieldTokens ++ ['\x7d'] :: ts) := rfl
  have size := length_fields_le a.fields
  rw [readSpan, angle]
  simp only [brace, Option.bind_eq_bind, Option.bind_some]
  refine readFields_of_fills (fills_fields legible) (fun f mem => isField_of_mem_fields legible mem) ?_ ts
  rw [List.length_append]
  omega

theorem readAll_spanTokens {as : List Span} (legible : ∀ a ∈ as, a.Legible) {fuel : Nat}
    (enough : (as.flatMap spanTokens).length ≤ fuel) : readAll fuel (as.flatMap spanTokens) = some as := by
  induction as generalizing fuel with
  | nil => cases fuel <;> rfl
  | cons a as ih =>
    cases fuel with
    | zero => simp [spanTokens] at enough
    | succ fuel =>
      have others : ∀ b ∈ as, b.Legible := fun b hb => legible b (by simp [hb])
      have closed : Closed (as.flatMap spanTokens) := by
        intro t first
        cases as with
        | nil => cases first
        | cons b as =>
          cases first
          exact .inl (by decide)
      have tokens : (a :: as).flatMap spanTokens = "annotation".toList ::
          ['\x7b'] :: (a.fields.flatMap fieldTokens ++ ['\x7d'] :: as.flatMap spanTokens) := by
        simp [spanTokens]
      have whole := readSpan_spanTokens (legible a (by simp)) (as.flatMap spanTokens)
      rw [tokens, List.length_cons, List.length_cons, List.length_append, List.length_cons] at enough
      rw [tokens, readAll, if_neg (by simp), accept?_of_ne (by decide), Option.getD_none, readRepeated,
        accept?_of_ne (by decide)]
      simp only [whole, Option.bind_eq_bind, Option.bind_some, skipSeparator_of_closed closed]
      rw [ih others (by omega)]
      rfl

end Span

/-- Annotations that have a written form are read back from it. -/
theorem CodeInfo.read?_print {info : CodeInfo} (legible : info.Legible) :
    CodeInfo.read? info.print = some info := by
  rw [read?, Span.tokens_print legible, Span.readAll_spanTokens legible.spans (Nat.le_refl _),
    Option.map_some, ← legible.unknown]

end Regen
