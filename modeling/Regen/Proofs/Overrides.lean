import Mathlib.Data.List.Nodup
import Mathlib.Data.List.TakeWhile
import Regen.Generation.Local
import Regen.Proofs.Files.Sound
import Regen.Proofs.Sorting
import Regen.Proofs.Text.Lines

/-!
# Overrides are read back from options

A generator cuts its options at commas and reads each option `M<path>=<import>` up to its first `=`
(`ofOptionText`). Nothing is escaped, so it gets the table back exactly when no path has a comma or a `=` in it
and no import path a comma. The text does not depend on the order in which the table was filled, and the options
of a job's file hold the table's and nothing else but what the job asks for (`ofOptionText_optionText`).
-/

namespace Regen

namespace Assoc

variable {κ α : Type} [DecidableEq κ]

/-- Tables with the same entries in any order have the same values. -/
theorem get?_of_perm {t u : List (κ × α)} (distinct : (t.map (·.1)).Nodup) (perm : t.Perm u) (k : κ) :
    get? t k = get? u k := by
  have distinct' : (u.map (·.1)).Nodup := (perm.map _).nodup_iff.1 distinct
  refine Option.ext fun v => ⟨fun there => ?_, fun there => ?_⟩
  · exact get?_of_mem distinct' (perm.mem_iff.1 (mem_of_get? there))
  · exact get?_of_mem distinct (perm.mem_iff.2 (mem_of_get? there))

theorem put_of_fresh {t : List (κ × α)} {k : κ} (fresh : k ∉ t.map (·.1)) (v : α) :
    put t k v = t ++ [(k, v)] := by
  induction t with
  | nil => rfl
  | cons e t ih =>
    rw [List.map_cons, List.mem_cons, not_or] at fresh
    rw [put, if_neg fun same => fresh.1 same.symm, ih fresh.2, List.cons_append]

/-- Entries each of which has a key of its own are written one behind the other. -/
theorem putAll_of_distinct {t extra : List (κ × α)} (distinct : ((t ++ extra).map (·.1)).Nodup) :
    putAll t extra = t ++ extra := by
  induction extra generalizing t with
  | nil => exact (List.append_nil t).symm
  | cons e extra ih =>
    have split : t ++ e :: extra = (t ++ [e]) ++ extra := by simp
    have fresh : e.1 ∉ t.map (·.1) := by
      rw [List.map_append, List.map_cons] at distinct
      exact fun mem => (List.nodup_append.1 distinct).2.2 _ mem _ (by simp) rfl
    have first : putAll t (e :: extra) = putAll (put t e.1 e.2) extra := rfl
    rw [split] at distinct ⊢
    rw [first, put_of_fresh fresh, ih distinct]

theorem nodup_keys_putAll {t : List (κ × α)} (distinct : (t.map (·.1)).Nodup) (extra : List (κ × α)) :
    ((putAll t extra).map (·.1)).Nodup := by
  induction extra generalizing t with
  | nil => exact distinct
  | cons e extra ih =>
    refine ih (t := put t e.1 e.2) ?_
    rw [keys_put]
    split
    · exact distinct
    · next fresh => exact List.nodup_append_comm.1 (List.nodup_cons.2 ⟨fresh, distinct⟩)

theorem mem_putAll {t extra : List (κ × α)} {e : κ × α} (mem : e ∈ putAll t extra) :
    e ∈ t ∨ e ∈ extra := by
  induction extra generalizing t with
  | nil => exact .inl mem
  | cons d extra ih =>
    rcases ih mem with early | late
    · exact (mem_put early).symm.imp_right fun same => by simp [same]
    · exact .inr (by simp [late])

end Assoc

namespace Overrides

open Generation (optionsOf)

/-- No path has two import paths. -/
def Distinct (t : Overrides) : Prop := (t.entries.map (·.1)).Nodup

/-- No comma stands in an entry, and no `=` in its path. -/
def PlainEntry (e : String × String) : Prop := ',' ∉ e.1.toList ∧ '=' ∉ e.1.toList ∧ ',' ∉ e.2.toList

/-- No separators stand in the table. -/
def Plain (t : Overrides) : Prop := ∀ e ∈ t.entries, PlainEntry e

/-- Layering entries over a table leaves one import path for each path. -/
theorem Distinct.merged {t : Overrides} (distinct : t.Distinct) (extra : List (String × String)) :
    (t.merged extra).Distinct := Assoc.nodup_keys_putAll distinct extra

/-! ### The reader -/

/-- The options between the commas of a text; there are none in an empty one. -/
def options (text : String) : List String :=
  if text = "" then [] else (text.toList.splitOn ',').map String.ofList

/-- The override that an option stands for. Its path ends at the first `=`, and without one the import path is
empty. -/
def readOption? (option : String) : Option (String × String) :=
  match option.toList with
  | 'M' :: s => some (.ofList (s.takeWhile (· ≠ '=')), .ofList ((s.dropWhile (· ≠ '=')).drop 1))
  | _ => none

/-- The table that the options of a text make up; a later override replaces an earlier one for the same path. -/
def ofOptionText (text : String) : Overrides := ⟨Assoc.putAll [] ((options text).filterMap readOption?)⟩

/-- Options without commas are found again between the commas. -/
theorem options_intercalate {os : List String} (plain : ∀ o ∈ os, ',' ∉ o.toList)
    (first : os.head? ≠ some "") :
    options (",".intercalate os) = os := by
  cases os with
  | nil => rfl
  | cons o os =>
    have some : ",".intercalate (o :: os) ≠ "" := by
      intro empty
      have chars := congrArg String.toList empty
      rw [String.toList_intercalate] at chars
      cases os with
      | nil => simp_all
      | cons => simp at chars
    rw [options, if_neg some, String.toList_intercalate, show ",".toList = [','] from rfl,
      List.splitOn_intercalate ',' (by simpa using plain) (by simp), List.map_map]
    simp [Function.comp_def]

theorem toList_option (path importPath : String) :
    (option path importPath).toList = 'M' :: (path.toList ++ '=' :: importPath.toList) := by
  simp [option]

theorem option_ne_empty (path importPath : String) : option path importPath ≠ "" := by
  intro empty
  simpa [toList_option] using congrArg String.toList empty

/-- An option is read back where the path has no `=`. -/
theorem readOption?_option {path importPath : String} (plain : '=' ∉ path.toList) :
    readOption? (option path importPath) = some (path, importPath) := by
  have before : ∀ c ∈ path.toList, decide (c ≠ '=') = true := by
    intro c mem
    rw [decide_eq_true_iff]
    rintro rfl
    exact plain mem
  have stop : ∀ c ∈ ('=' :: importPath.toList).head?, decide (c ≠ '=') = false := by simp
  rw [readOption?, toList_option]
  simp only [Text.takeWhile_append_head before stop, Text.dropWhile_append_head before stop,
    List.drop_succ_cons, List.drop_zero, String.ofList_toList]

theorem comma_not_mem_splitOn {s cs : List Char} (part : cs ∈ s.splitOn ',') : ',' ∉ cs := by
  induction s generalizing cs with
  | nil => simp_all
  | cons c s ih =>
    obtain ⟨first, rest, split⟩ := List.exists_cons_of_ne_nil (List.splitOn_ne_nil ',' s)
    rw [List.splitOn_cons_eq_if_modifyHead, split] at part
    rw [split] at ih
    split at part
    · rcases List.mem_cons.1 part with rfl | later
      · simp
      · exact ih later
    · next other =>
      rcases List.mem_cons.1 part with rfl | later
      · rw [List.mem_cons, not_or]
        exact ⟨fun same => other (by simp [← same]), ih (by simp)⟩
      · exact ih (by simp [later])

theorem comma_not_mem_options {text o : String} (mem : o ∈ options text) : ',' ∉ o.toList := by
  unfold options at mem
  split at mem
  · cases mem
  · obtain ⟨cs, part, rfl⟩ := List.mem_map.1 mem
    rw [String.toList_ofList]
    exact comma_not_mem_splitOn part

/-- What is read from an option without commas holds no separators. -/
theorem plain_of_readOption? {o : String} {e : String × String} (plain : ',' ∉ o.toList)
    (read : readOption? o = some e) : PlainEntry e := by
  unfold readOption? at read
  split at read
  · next s text =>
    cases read
    rw [text] at plain
    have rest : ',' ∉ s := fun mem => plain (List.mem_cons_of_mem _ mem)
    simp only [PlainEntry, String.toList_ofList]
    refine ⟨fun mem => rest (List.takeWhile_subset _ mem), fun mem => ?_, fun mem => ?_⟩
    · simpa using List.mem_takeWhile_imp mem
    · exact rest (List.dropWhile_subset _ (List.drop_subset _ _ mem))
  · cases read

theorem plain_ofOptionText (text : String) : (ofOptionText text).Plain := by
  intro e mem
  obtain ⟨o, listed, read⟩ := List.mem_filterMap.1 ((Assoc.mem_putAll mem).resolve_left (by simp))
  exact plain_of_readOption? (comma_not_mem_options listed) read

/-! ### The order of the options -/

theorem weak_paths : Sorting.Weak fun a b : String × String => decide (a.1 ≤ b.1) where
  total a b := by simpa using String.le_total a.1 b.1
  trans a b c first second := by simpa using String.le_trans (of_decide_eq_true first) (of_decide_eq_true second)

variable {t u : Overrides}

theorem perm_sorted (t : Overrides) : t.sorted.Perm t.entries := Sorting.perm_sort _ _

theorem Plain.sorted (plain : t.Plain) : ∀ e ∈ t.sorted, PlainEntry e :=
  fun e mem => plain e (t.perm_sorted.mem_iff.1 mem)

section Distinct

variable (distinct : t.Distinct)

include distinct

theorem nodup_sorted : (t.sorted.map (·.1)).Nodup := (t.perm_sorted.map _).nodup_iff.2 distinct

theorem pairwise_sorted : t.sorted.Pairwise (·.1 < ·.1) := by
  have apart := List.pairwise_map.1 (nodup_sorted distinct)
  refine (List.Pairwise.and (Sorting.pairwise_sort weak_paths t.entries) apart).imp fun both => ?_
  exact Std.lt_of_le_of_ne (of_decide_eq_true both.1) both.2

theorem sorted_of_perm (perm : t.entries.Perm u.entries) : t.sorted = u.sorted := by
  refine Sorting.sort_eq_of_perm weak_paths perm fun a first b second le ge => ?_
  have same : a.1 = b.1 := String.le_antisymm (of_decide_eq_true le) (of_decide_eq_true ge)
  have here := Assoc.get?_of_mem distinct first
  rw [same, Assoc.get?_of_mem distinct second] at here
  exact Prod.ext same (Option.some.inj here).symm

end Distinct

/-! ### The trip -/

theorem comma_not_mem_option {e : String × String} (plain : PlainEntry e) : ',' ∉ (option e.1 e.2).toList := by
  simp [toList_option, plain.1, plain.2.2]

theorem readOptions_sorted (plain : t.Plain) :
    (t.sorted.map fun e => option e.1 e.2).filterMap readOption? = t.sorted := by
  rw [List.filterMap_map]
  have each : ∀ e ∈ t.sorted, (readOption? ∘ fun e => option e.1 e.2) e = some e := fun e mem =>
    readOption?_option (plain.sorted e mem).2.1
  rw [List.filterMap_congr each, List.filterMap_some]

theorem options_optionText (plain : t.Plain) : options t.optionText = t.sorted.map fun e => option e.1 e.2 := by
  refine options_intercalate (fun o mem => ?_) ?_
  · obtain ⟨e, listed, rfl⟩ := List.mem_map.1 mem
    exact comma_not_mem_option (plain.sorted e listed)
  · cases t.sorted <;> simp [option_ne_empty]

theorem optionText_eq_empty_iff (plain : t.Plain) : t.optionText = "" ↔ t.sorted = [] := by
  refine ⟨fun empty => ?_, fun none => by simp [optionText, none]⟩
  have cut := options_optionText plain
  rw [empty] at cut
  exact List.map_eq_nil_iff.1 cut.symm

/-- Options behind a first one, and perhaps a last one, with a comma before each. -/
theorem intercalate_first_last (first last : String) (os : List String) (p : Prop) [Decidable p] :
    ",".intercalate (first :: (os ++ if p then [last] else [])) =
      first ++ (if os = [] then "" else "," ++ ",".intercalate os) ++ if p then "," ++ last else "" := by
  by_cases none : os = []
  · subst none
    split <;> simp [String.append_assoc]
  · rw [if_neg none]
    split
    · rw [String.intercalate_cons_of_ne_nil (by simp), String.intercalate_append_of_ne_nil none (by simp),
        String.intercalate_singleton]
      simp only [String.append_assoc]
    · rw [List.append_nil, String.intercalate_cons_of_ne_nil none, String.append_empty, String.append_assoc]

/-- The options for a file of a job, in the order in which they are written. -/
theorem optionsOf_eq {config : Config} (plain : config.overrides.Plain) (job : Job) (file : String) :
    optionsOf config job file = ",".intercalate ("paths=source_relative" ::
      ((config.overrides.sorted.map fun e => option e.1 e.2) ++
        if file ∈ job.annotate then ["annotate_code"] else [])) := by
  have last : "," ++ "annotate_code" = ",annotate_code" := by decide
  rw [intercalate_first_last, last, ← optionText]
  unfold optionsOf
  simp only [optionText_eq_empty_iff plain, List.map_eq_nil_iff, List.contains_iff_mem]

theorem options_optionsOf {config : Config} (plain : config.overrides.Plain) (job : Job) (file : String) :
    options (optionsOf config job file) = "paths=source_relative" ::
      ((config.overrides.sorted.map fun e => option e.1 e.2) ++
        if file ∈ job.annotate then ["annotate_code"] else []) := by
  rw [optionsOf_eq plain]
  refine options_intercalate (fun o mem => ?_) (by simp)
  rw [List.mem_cons, List.mem_append] at mem
  obtain rfl | listed | annotated := mem
  · decide
  · obtain ⟨e, there, rfl⟩ := List.mem_map.1 listed
    exact comma_not_mem_option (plain.sorted e there)
  · split at annotated
    · obtain rfl := List.mem_singleton.1 annotated
      decide
    · cases annotated

/-- What options say of import paths, annotations apart, is the table alone. -/
theorem readOptions_optionsOf {config : Config} (plain : config.overrides.Plain) (job : Job) (file : String) :
    (options (optionsOf config job file)).filterMap readOption? = config.overrides.sorted := by
  have first : readOption? "paths=source_relative" = none := by decide
  have last : (if file ∈ job.annotate then ["annotate_code"] else []).filterMap readOption? = [] := by
    split <;> decide
  rw [options_optionsOf plain, List.filterMap_cons_none first, List.filterMap_append, last,
    readOptions_sorted plain, List.append_nil]

/-- A table is read back from its options exactly when no separator stands in it, and the order in which it was
filled does not matter. The options for a file of a job name how paths are read, the table in the order of its
paths, and the annotations of that file. -/
theorem ofOptionText_optionText (t : Overrides) (distinct : t.Distinct) :
    ((∀ path, (ofOptionText t.optionText).get? path = t.get? path) ↔ t.Plain) ∧
    (∀ u : Overrides, t.entries.Perm u.entries → u.optionText = t.optionText) ∧
    (t.Plain → ∀ (config : Config) (job : Job) (file : String), config.overrides = t →
      ∃ es, es.Perm t.entries ∧ es.Pairwise (·.1 < ·.1) ∧
        options (optionsOf config job file) = "paths=source_relative" ::
          ((es.map fun e => option e.1 e.2) ++ if file ∈ job.annotate then ["annotate_code"] else []) ∧
        (options (optionsOf config job file)).filterMap readOption? = es) := by
  refine ⟨⟨fun same e mem => ?_, fun plain path => ?_⟩, fun u perm => ?_, ?_⟩
  · have there := same e.1
    rw [get?, get?, Assoc.get?_of_mem distinct mem] at there
    exact plain_ofOptionText t.optionText e (Assoc.mem_of_get? there)
  · rw [ofOptionText, options_optionText plain, readOptions_sorted plain,
      Assoc.putAll_of_distinct (by simpa using nodup_sorted distinct), List.nil_append, get?, get?]
    exact Assoc.get?_of_perm (nodup_sorted distinct) t.perm_sorted path
  · rw [optionText, optionText, sorted_of_perm distinct perm]
  · rintro plain config job file rfl
    exact ⟨_, perm_sorted _, pairwise_sorted distinct, options_optionsOf plain job file,
      readOptions_optionsOf plain job file⟩

namespace Sample

/-- The first import path names its package, and the third path stands for all that was said of it before. -/
def table : Overrides :=
  empty.merged [("game/card.proto", "example.com/game;card"), ("ad.proto", "example.com/ad"),
    ("user.proto", "example.com/old"), ("user.proto", "example.com/user")]

theorem distinct_table : table.Distinct := Distinct.merged (t := empty) List.nodup_nil _

end Sample

theorem ofOptionText_optionText_sample : Sample.table.Distinct ∧
    (∀ path, (ofOptionText Sample.table.optionText).get? path = Sample.table.get? path) :=
  ⟨Sample.distinct_table, (ofOptionText_optionText Sample.table Sample.distinct_table).1.2 (by
    unfold Plain PlainEntry
    decide)⟩

end Overrides
end Regen
