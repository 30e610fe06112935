import CorpusLint.Corpus
import CorpusLint.Proofs.Frontmatter.Field

/-!
# Two spellings of a field

A field may be written on one line, its items joined by commas, or as a list with one item on each
line below, indented in any way and with any blanks behind the item. Both declare the field in the
same place, and the trim of a line gives the item back from between its blanks
(`ListEntry.holds_line`). So the value is the same, whatever the header holds before and behind
(`value_of_spellings`).
-/

namespace CorpusLint

/-- A line without a blank at its end has no carriage return to lose. -/
theorem Text.lines_append_cons_of_last {line : Text} (rest : Text) (h : '\n' ∉ line)
    (hlast : ∀ c ∈ line.getLast?, CorpusLint.isBlank c = false) :
    lines (line ++ '\n' :: rest) = line :: lines rest := by
  rw [lines_append_cons rest h]
  cases hdrop : dropFinish? ['\r'] line with
  | none => rfl
  | some content =>
    obtain rfl := dropFinish?_eq_some_iff.1 hdrop
    have hreturn := hlast '\r' List.getLast?_concat
    cases hreturn

namespace Frontmatter

/-- A line of a list: an item between blanks. -/
structure ListEntry where
  indent : Text
  item : Text
  trailing : Text
  indent_blank : indent.isBlank = true
  indent_oneLine : '\n' ∉ indent
  item_normal : IsNormal item
  trailing_blank : trailing.isBlank = true
  trailing_oneLine : '\n' ∉ trailing

/-- The field with its items on one line. -/
def spelledInline (name : Text) (items : List Text) : Text :=
  name ++ ": ".toList ++ Text.joinWith ", ".toList items ++ ['\n']

namespace ListEntry

/-- The entry on its line, line feed included. -/
def text (e : ListEntry) : Text :=
  e.indent ++ "- ".toList ++ e.item ++ e.trailing ++ ['\n']

/-- The entry as the line that is read. -/
def line (e : ListEntry) : Text :=
  Text.dropLineEnding e.text

theorem isPiece_text (e : ListEntry) : Text.IsPiece e.text := by
  refine ⟨_, ?_, rfl⟩
  simp only [List.mem_append, not_or]
  exact ⟨⟨⟨e.indent_oneLine, by decide⟩, e.item_normal.oneLine⟩, e.trailing_oneLine⟩

theorem trim_line (e : ListEntry) : e.line.trim = "- ".toList ++ e.item := by
  have htrimmed : Text.IsTrimmed (['-'] ++ [' '] ++ e.item) :=
    Text.IsTrimmed.append (by decide) e.item_normal.trimmed (by decide) e.item_normal.ne_nil [' ']
  have hend : Text.isBlank (e.trailing ++ ['\n']) = true := by
    rw [Text.isBlank, List.all_append, Bool.and_eq_true]
    exact ⟨e.trailing_blank, rfl⟩
  have htext : e.text = e.indent ++ (['-'] ++ [' '] ++ e.item) ++ (e.trailing ++ ['\n']) := by
    simp [text]
  rw [line, Text.trim_dropLineEnding, htext, htrimmed.trim_surrounded e.indent_blank hend]
  rfl

theorem holds_line (e : ListEntry) : Holds e.line e.item :=
  ⟨e.item, e.trim_line, e.item_normal.trimmed.trim_eq⟩

end ListEntry

/-- The field with its items on lines of their own. -/
def spelledAsList (name : Text) (entries : List ListEntry) : Text :=
  name ++ ":\n".toList ++ entries.flatMap ListEntry.text

theorem lines_entries (entries : List ListEntry) (rest : Text) :
    Text.lines (entries.flatMap ListEntry.text ++ rest) =
      entries.map ListEntry.line ++ Text.lines rest := by
  rw [Text.lines, Text.pieces_flatMap_append fun e _ => e.isPiece_text, List.map_append,
    List.map_map]
  rfl

theorem forall₂_holds_entries (entries : List ListEntry) :
    List.Forall₂ Holds (entries.map ListEntry.line) (entries.map ListEntry.item) := by
  rw [List.forall₂_map_left_iff, List.forall₂_map_right_iff, List.forall₂_same]
  exact fun e _ => e.holds_line

/-! ## The value of a field that is written -/

section Written

variable {name front : Text} (hname : '\n' ∉ name) (hfront : front.IsWhole)

include hname hfront

/-- What follows the whole lines of `front` is a declaration and the lines below it. -/
theorem lines_declared {written : Text} (hwritten : '\n' ∉ written)
    (hlast : ∀ c ∈ (':' :: written).getLast?, isBlank c = false) (below : Text) :
    Text.lines (front ++ (name ++ ':' :: written ++ '\n' :: below)) =
      front.lines ++ (name ++ ':' :: written) :: below.lines := by
  have honeLine : '\n' ∉ name ++ ':' :: written := by simp [hname, hwritten]
  have hend : ∀ c ∈ (name ++ ':' :: written).getLast?, isBlank c = false := by
    rw [List.getLast?_append_of_ne_nil _ (List.cons_ne_nil ':' written)]
    exact hlast
  rw [hfront.lines_append, Text.lines_append_cons_of_last below honeLine hend]

variable (hfirst : ∀ line ∈ front.lines, ¬ Declares name line)

include hfirst

/-- A value on the line of its field is read back, whatever follows. -/
theorem fieldValue?_inline {value : Text} (hvalue : IsNormal value) (back : Text) :
    fieldValue? (front ++ (name ++ ": ".toList ++ value ++ ['\n']) ++ back) name = some value := by
  have honeLine : '\n' ∉ ' ' :: value := by simpa using hvalue.oneLine
  have hlast : ∀ c ∈ (':' :: ' ' :: value).getLast?, isBlank c = false := by
    have hend : (':' :: ' ' :: value).getLast? = value.getLast? :=
      List.getLast?_append_of_ne_nil [':', ' '] hvalue.ne_nil
    rw [hend]
    exact hvalue.trimmed.last
  have hheader : front ++ (name ++ ": ".toList ++ value ++ ['\n']) ++ back =
      front ++ (name ++ ':' :: ' ' :: value ++ '\n' :: back) := by simp
  have hlines := lines_declared hname hfront honeLine hlast back
  obtain ⟨run, items, rest, hback, hrun, hrest⟩ := exists_run back.lines
  rw [← hheader, hback] at hlines
  have hsome := hvalue.trimmed.isBlank_eq_false hvalue.ne_nil
  have hnotBlank : Text.isBlank (' ' :: value) = false := hsome
  have htrim : Text.trim (' ' :: value) = value :=
    (@Text.trim_blank_append [' '] rfl value).trans hvalue.trimmed.trim_eq
  rw [Declaration.fieldValue?_eq ⟨_, _, run, items, rest, hlines, hfirst, hrun, hrest⟩, hnotBlank,
    if_neg Bool.false_ne_true, htrim]

/-- The items of a list are read back up to the first line that holds none. -/
theorem fieldValue?_spelledAsList {entries : List ListEntry} (hne : entries ≠ []) {back : Text}
    (hback : ∀ line ∈ back.lines.head?, ¬ BeginsItem line) :
    fieldValue? (front ++ spelledAsList name entries ++ back) name =
      some (Text.joinWith ", ".toList (entries.map ListEntry.item)) := by
  have hheader : front ++ spelledAsList name entries ++ back = front ++
      (name ++ [':'] ++ '\n' :: (entries.flatMap ListEntry.text ++ back)) := by
    simp [spelledAsList]
  have hwritten : '\n' ∉ ([] : Text) := List.not_mem_nil
  have hlast : ∀ c ∈ [':'].getLast?, isBlank c = false := by
    rintro c ⟨⟩
    rfl
  have hlines := lines_declared hname hfront hwritten hlast
    (entries.flatMap ListEntry.text ++ back)
  rw [← hheader, lines_entries] at hlines
  have hitems : entries.map ListEntry.item ≠ [] := by simpa using hne
  rw [Declaration.fieldValue?_eq
    ⟨_, _, _, _, _, hlines, hfirst, forall₂_holds_entries entries, hback⟩]
  exact if_neg hitems

end Written

/-- **Both spellings of a field have the same value.** The field may stand anywhere in a header,
behind lines that do not declare it and, in a list, before a line that holds no item. So the class
of an agent does not depend on how its tools are written. -/
theorem value_of_spellings {name front back : Text} {entries : List ListEntry}
    (hname : '\n' ∉ name) (hentries : entries ≠ []) (hfront : front.IsWhole)
    (hfirst : ∀ line ∈ front.lines, ¬ Declares name line)
    (hback : ∀ line ∈ back.lines.head?, ¬ BeginsItem line) :
    let items := entries.map ListEntry.item
    let inline := front ++ spelledInline name items ++ back
    let asList := front ++ spelledAsList name entries ++ back
    fieldValue? inline name = some (Text.joinWith ", ".toList items) ∧
    fieldValue? asList name = some (Text.joinWith ", ".toList items) ∧
    (name = "tools".toList → ∀ capability,
      AgentClass.ofHeader capability inline = AgentClass.ofHeader capability asList) := by
  intro items inline asList
  have hne : items ≠ [] := by simpa [items] using hentries
  have hitems : ∀ item ∈ items, IsNormal item := by
    intro item hitem
    obtain ⟨e, -, rfl⟩ := List.mem_map.1 hitem
    exact e.item_normal
  have hinline : fieldValue? inline name = some (Text.joinWith ", ".toList items) :=
    fieldValue?_inline hname hfront hfirst (isNormal_joinWith hne hitems) back
  have hasList : fieldValue? asList name = some (Text.joinWith ", ".toList items) :=
    fieldValue?_spelledAsList hname hfront hfirst hentries hback
  refine ⟨hinline, hasList, ?_⟩
  rintro rfl capability
  rw [AgentClass.ofHeader, AgentClass.ofHeader, hinline, hasList]

/-- Tools that look like an item and like a declaration, indented in two ways, with a carriage
return behind one of them. -/
theorem value_of_spellings_indented :
    let first : ListEntry := ⟨"  ".toList, "- Read,".toList, " \r".toList, by decide, by decide,
      by decide, by decide, by decide⟩
    let second : ListEntry := ⟨"\t".toList, "tools: Write".toList, [], by decide, by decide,
      by decide, by decide, by decide⟩
    let front : Text := "name: x\n- tools:\n".toList
    let back : Text := " -\n- Bash\ntools: Grep".toList
    let inline := front ++ spelledInline "tools".toList ["- Read,".toList, "tools: Write".toList] ++
      back
    let asList := front ++ spelledAsList "tools".toList [first, second] ++ back
    '\n' ∉ "tools".toList ∧ [first, second] ≠ [] ∧ front.IsWhole ∧
      (∀ line ∈ front.lines, ¬ Declares "tools".toList line) ∧
      (∀ line ∈ back.lines.head?, ¬ BeginsItem line) ∧
      inline = front ++ "tools: - Read,, tools: Write\n".toList ++ back ∧
      asList = front ++ "tools:\n  - - Read, \r\n\t- tools: Write\n".toList ++ back ∧
      fieldValue? inline "tools".toList = some "- Read,, tools: Write".toList ∧
      fieldValue? asList "tools".toList = some "- Read,, tools: Write".toList ∧
      AgentClass.ofHeader "Write".toList inline = .fileWriting ∧
      AgentClass.ofHeader "Write".toList inline = AgentClass.ofHeader "Write".toList asList := by
  intro first second front back inline asList
  have hname : '\n' ∉ "tools".toList := by decide
  have hentries : [first, second] ≠ [] := List.cons_ne_nil first [second]
  have hfront : front.IsWhole := .inr ⟨"name: x\n- tools:".toList, rfl⟩
  have hfirst : ∀ line ∈ front.lines, ¬ Declares "tools".toList line := by decide
  have hback : ∀ line ∈ back.lines.head?, ¬ BeginsItem line := by decide
  obtain ⟨hinline, hasList, hclass⟩ := value_of_spellings hname hentries hfront hfirst hback
  exact ⟨hname, hentries, hfront, hfirst, hback, rfl, rfl, hinline, hasList, by decide,
    hclass rfl "Write".toList⟩

end Frontmatter

end CorpusLint
