import CorpusLint.Proofs.Text.Trimmed
import Mathlib.Data.List.Forall2

/-!
# The first declaration of a field

The lines of a header that declares a field are parted by its first declaration: the lines before
it, the list items directly below and the rest (`Declaration`). The value is read off these parts
(`Declaration.fieldValue?_eq`), so that nothing before the declaration and nothing behind its items
is looked at.

Main statement: `value_of_first_declaration`. Values and items have one form (`IsNormal`): they
are not empty, stand on one line and have no blank at either end.
-/

namespace CorpusLint

namespace Frontmatter

/-- The form of a value and of an item. -/
structure IsNormal (value : Text) : Prop where
  ne_nil : value ≠ []
  trimmed : value.IsTrimmed
  oneLine : '\n' ∉ value

instance (value : Text) : Decidable (IsNormal value) :=
  decidable_of_iff (value ≠ [] ∧ value.IsTrimmed ∧ '\n' ∉ value)
    ⟨fun h => ⟨h.1, h.2.1, h.2.2⟩, fun h => ⟨h.ne_nil, h.trimmed, h.oneLine⟩⟩

/-! ## Declarations and items -/

/-- The line begins with the name of the field and a colon. -/
def Declares (name line : Text) : Prop :=
  name ++ [':'] <+: line

/-- The line, trimmed, begins as a list item does. -/
def BeginsItem (line : Text) : Prop :=
  "- ".toList <+: line.trim

/-- The line, trimmed, is a hyphen, a space and a text that gives the item when it is trimmed. -/
def Holds (line item : Text) : Prop :=
  ∃ content, line.trim = "- ".toList ++ content ∧ content.trim = item

instance (name line : Text) : Decidable (Declares name line) :=
  inferInstanceAs (Decidable (_ <+: _))

instance (line : Text) : Decidable (BeginsItem line) :=
  inferInstanceAs (Decidable (_ <+: _))

variable {header name line item value : Text}

theorem declared?_eq_some_iff {written : Text} :
    declared? name line = some written ↔ line = name ++ ':' :: written := by
  rw [declared?, Text.dropStart?_eq_some_iff, List.append_assoc]
  rfl

theorem declares_iff : Declares name line ↔ ∃ written, line = name ++ ':' :: written := by
  simp [Declares, List.IsPrefix, eq_comm]

theorem declared?_eq_none_iff : declared? name line = none ↔ ¬ Declares name line := by
  rw [declares_iff, not_exists, Option.eq_none_iff_forall_ne_some]
  exact forall_congr' fun _ => not_congr declared?_eq_some_iff

theorem hasField_iff : hasField header name = true ↔ ∃ line ∈ header.lines, Declares name line := by
  rw [hasField, List.any_eq_true]
  refine exists_congr fun line => and_congr_right fun _ => ?_
  rw [Option.isSome_iff_exists, declares_iff]
  exact exists_congr fun _ => declared?_eq_some_iff

theorem item?_eq_some_iff : item? line = some item ↔ Holds line item := by
  rw [item?, Option.map_eq_some_iff]
  simp only [Text.dropStart?_eq_some_iff]
  rfl

theorem item?_eq_none_iff : item? line = none ↔ ¬ BeginsItem line := by
  rw [item?, Option.map_eq_none_iff, Option.eq_none_iff_forall_ne_some, BeginsItem, List.IsPrefix,
    not_exists]
  refine forall_congr' fun content => not_congr ?_
  rw [Text.dropStart?_eq_some_iff, eq_comm]

/-- An item is not empty: the line was trimmed before its hyphen was looked for, so that it does not
end with the space behind the hyphen. -/
theorem Holds.isNormal (h : Holds line item) (hline : '\n' ∉ line) : IsNormal item := by
  have hitem := item?_subset (item?_eq_some_iff.2 h)
  obtain ⟨content, hcontent, rfl⟩ := h
  refine ⟨fun hnil => ?_, Text.isTrimmed_trim content, fun hmem => hline (hitem hmem)⟩
  have htrimmed : Text.IsTrimmed (['-'] ++ ' ' :: content) := hcontent ▸ Text.isTrimmed_trim line
  have hblank : Text.isBlank (' ' :: content) = false :=
    htrimmed.isBlank_suffix (List.cons_ne_nil ' ' content)
  have hspace : Text.isBlank (' ' :: content) = content.isBlank := rfl
  rw [hspace, Text.trim_eq_nil_iff.1 hnil] at hblank
  cases hblank

theorem isNormal_of_mem_listItems (h : item ∈ listItems header) : IsNormal item := by
  obtain ⟨line, hline, hitem⟩ := List.mem_filterMap.1 h
  exact (item?_eq_some_iff.1 hitem).isNormal (Text.notMem_of_mem_lines hline)

theorem isNormal_joinWith {items : List Text} (hne : items ≠ [])
    (h : ∀ item ∈ items, IsNormal item) : IsNormal (Text.joinWith ", ".toList items) where
  ne_nil := Text.joinWith_ne_nil hne fun item hitem => (h item hitem).ne_nil
  trimmed := Text.isTrimmed_joinWith fun item hitem =>
    ⟨(h item hitem).ne_nil, (h item hitem).trimmed⟩
  oneLine := Text.notMem_joinWith (by decide) fun item hitem => (h item hitem).oneLine

/-! ## The lines around a declaration -/

/-- The lines of a header around the first one that declares a field. -/
structure Declaration (header name : Text) where
  before : List Text
  /-- What follows the colon. -/
  written : Text
  /-- The lines directly below that hold items. -/
  run : List Text
  /-- Their items. -/
  items : List Text
  rest : List Text
  lines_eq : header.lines = before ++ (name ++ ':' :: written) :: (run ++ rest)
  before_plain : ∀ line ∈ before, ¬ Declares name line
  run_holds : List.Forall₂ Holds run items
  rest_stops : ∀ line ∈ rest.head?, ¬ BeginsItem line

/-- Lines begin with a run of items, which may be empty, and the line behind it holds none. -/
theorem exists_run (lines : List Text) :
    ∃ run items rest, lines = run ++ rest ∧ List.Forall₂ Holds run items ∧
      ∀ line ∈ rest.head?, ¬ BeginsItem line := by
  induction lines with
  | nil => exact ⟨[], [], [], rfl, .nil, by rintro line ⟨⟩⟩
  | cons line lines ih =>
    cases hitem : item? line with
    | none =>
      refine ⟨[], [], line :: lines, rfl, .nil, ?_⟩
      rintro _ ⟨⟩
      exact item?_eq_none_iff.1 hitem
    | some item =>
      obtain ⟨run, items, rest, rfl, hrun, hrest⟩ := ih
      exact ⟨line :: run, item :: items, rest, rfl, .cons (item?_eq_some_iff.1 hitem) hrun, hrest⟩

theorem leadingItems_append {run items rest : List Text} (hrun : List.Forall₂ Holds run items)
    (hrest : ∀ line ∈ rest.head?, ¬ BeginsItem line) : leadingItems (run ++ rest) = items := by
  induction hrun with
  | nil =>
    cases rest with
    | nil => rfl
    | cons line rest =>
      simp only [List.nil_append, leadingItems, item?_eq_none_iff.2 (hrest line rfl)]
  | cons hline _ ih =>
    simp only [List.cons_append, leadingItems, item?_eq_some_iff.2 hline, ih]

theorem filterMap_item? {run items : List Text} (hrun : List.Forall₂ Holds run items) :
    run.filterMap item? = items := by
  induction hrun with
  | nil => rfl
  | cons hline _ ih => rw [List.filterMap_cons_some (item?_eq_some_iff.2 hline), ih]

theorem valueAmong_append {before : List Text} (h : ∀ line ∈ before, ¬ Declares name line)
    (lines : List Text) : valueAmong name (before ++ lines) = valueAmong name lines := by
  induction before with
  | nil => rfl
  | cons line before ih =>
    obtain ⟨hline, hbefore⟩ := List.forall_mem_cons.1 h
    simp only [List.cons_append, valueAmong, declared?_eq_none_iff.2 hline, ih hbefore]

namespace Declaration

/-- The value of a field is a matter of its first declaration and of the items below. -/
theorem fieldValue?_eq (d : Declaration header name) :
    fieldValue? header name =
      if d.written.isBlank then
        if d.items = [] then none else some (Text.joinWith ", ".toList d.items)
      else some d.written.trim := by
  have hdeclared : declared? name (name ++ ':' :: d.written) = some d.written :=
    declared?_eq_some_iff.2 rfl
  rw [fieldValue?, d.lines_eq, valueAmong_append d.before_plain]
  simp only [valueAmong, hdeclared, leadingItems_append d.run_holds d.rest_stops]
  cases d.written.isBlank with
  | false => rfl
  | true => cases d.items <;> rfl

theorem items_infix (d : Declaration header name) : d.items <:+: listItems header := by
  rw [listItems, d.lines_eq, List.filterMap_append, List.filterMap_cons, List.filterMap_append,
    filterMap_item? d.run_holds]
  -- the declaration may hold an item itself
  cases item? (name ++ ':' :: d.written) with
  | none => exact ⟨_, _, List.append_assoc _ _ _⟩
  | some item =>
    refine ⟨d.before.filterMap item? ++ [item], d.rest.filterMap item?, ?_⟩
    simp only [List.append_assoc, List.cons_append, List.nil_append]

theorem mem_lines (d : Declaration header name) : name ++ ':' :: d.written ∈ header.lines := by
  rw [d.lines_eq]
  exact List.mem_append_right _ List.mem_cons_self

theorem isNormal_written (d : Declaration header name) (h : d.written.isBlank = false) :
    IsNormal d.written.trim where
  ne_nil hnil := by
    rw [Text.trim_eq_nil_iff.1 hnil] at h
    cases h
  trimmed := Text.isTrimmed_trim d.written
  oneLine hmem := by
    apply Text.notMem_of_mem_lines d.mem_lines
    exact List.mem_append_right _ (List.mem_cons_of_mem _ (Text.trim_subset _ hmem))

theorem isNormal_of_mem_items (d : Declaration header name) (h : item ∈ d.items) : IsNormal item :=
  isNormal_of_mem_listItems (d.items_infix.subset h)

end Declaration

theorem nonempty_declaration_iff :
    Nonempty (Declaration header name) ↔ hasField header name = true := by
  rw [hasField_iff]
  constructor
  · rintro ⟨d⟩
    exact ⟨_, d.mem_lines, declares_iff.2 ⟨d.written, rfl⟩⟩
  · rintro ⟨line, hline, hdeclares⟩
    have hfind : (header.lines.find? (Declares name ·)).isSome := by
      rw [List.find?_isSome]
      exact ⟨line, hline, decide_eq_true hdeclares⟩
    obtain ⟨first, hfirst⟩ := Option.isSome_iff_exists.1 hfind
    obtain ⟨hdeclares, before, after, hlines, hbefore⟩ := List.find?_eq_some_iff_append.1 hfirst
    obtain ⟨written, rfl⟩ := declares_iff.1 (of_decide_eq_true hdeclares)
    obtain ⟨run, items, rest, rfl, hrun, hrest⟩ := exists_run after
    exact ⟨⟨before, written, run, items, rest, hlines, by simpa using hbefore, hrun, hrest⟩⟩

theorem fieldValue?_eq_none (h : hasField header name = false) :
    fieldValue? header name = none := by
  have hplain : ∀ line ∈ header.lines, ¬ Declares name line := by
    rintro line hline hdeclares
    rw [hasField_iff.2 ⟨line, hline, hdeclares⟩] at h
    cases h
  rw [fieldValue?, ← List.append_nil header.lines, valueAmong_append hplain]
  rfl

theorem isNormal_of_fieldValue? (h : fieldValue? header name = some value) : IsNormal value := by
  cases hfield : hasField header name with
  | false =>
    rw [fieldValue?_eq_none hfield] at h
    cases h
  | true =>
    obtain ⟨d⟩ := nonempty_declaration_iff.2 hfield
    rw [d.fieldValue?_eq] at h
    cases hblank : d.written.isBlank with
    | false =>
      rw [hblank, if_neg Bool.false_ne_true] at h
      obtain rfl := Option.some.inj h
      exact d.isNormal_written hblank
    | true =>
      rw [hblank, if_pos rfl] at h
      obtain ⟨hne, hvalue⟩ := Option.ite_none_left_eq_some.1 h
      obtain rfl := Option.some.inj hvalue
      exact isNormal_joinWith hne fun _ => d.isNormal_of_mem_items

/-- **The first declaration counts, and nothing else.** A field that no line declares has no value.
Otherwise the value is what stands behind the colon of the first line that does, trimmed, or where
that is blank, the items of the lines directly below, up to the first line that holds none. A value
is not empty, has no blank at either end and stands on one line; the items of the header are no
different, and those that make up a value stand together among them. -/
theorem value_of_first_declaration (header name : Text) :
    (hasField header name = true ↔ ∃ line ∈ header.lines, Declares name line) ∧
    (hasField header name = false → fieldValue? header name = none) ∧
    (hasField header name = true → Nonempty (Declaration header name)) ∧
    (∀ d : Declaration header name,
      fieldValue? header name =
        (if d.written.isBlank then
          if d.items = [] then none else some (Text.joinWith ", ".toList d.items)
        else some d.written.trim) ∧
      d.items <:+: listItems header) ∧
    (∀ value, fieldValue? header name = some value → IsNormal value) ∧
    ∀ item ∈ listItems header, IsNormal item :=
  ⟨hasField_iff, fieldValue?_eq_none, nonempty_declaration_iff.2,
    fun d => ⟨d.fieldValue?_eq, d.items_infix⟩, fun _ => isNormal_of_fieldValue?,
    fun _ => isNormal_of_mem_listItems⟩

/-- A hyphen alone is no item, and what follows it is not looked at. -/
example : fieldValue? "tools:\n  - a: b\n\t- \n- c\ntools: Write".toList "tools".toList =
    some "a: b".toList := by decide

end Frontmatter

end CorpusLint
