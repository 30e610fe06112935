import CorpusLint.Frontmatter
import CorpusLint.Proofs.Text.Lines

/-!
# Texts on one line

What is taken from a line, by trimming it or by reading a list item or the line of a cursor, has no
line feed. A text that is printed in whole lines is cut into these lines again
(`pieces_flatMap_append`).
-/

namespace CorpusLint

namespace Text

theorem trim_subset (t : Text) : t.trim ⊆ t := by
  intro c hc
  have hend : c ∈ t.trimStart.reverse :=
    (List.dropWhile_sublist CorpusLint.isBlank).subset (List.mem_reverse.1 hc)
  exact (List.dropWhile_sublist CorpusLint.isBlank).subset (List.mem_reverse.1 hend)

theorem dropLineEnding_subset (piece : Text) : dropLineEnding piece ⊆ piece := by
  obtain ⟨ending, hpiece, -⟩ := exists_lineEnding piece
  intro c hc
  rw [hpiece]
  exact List.mem_append_left ending hc

theorem notMem_of_mem_lines {t line : Text} (h : line ∈ t.lines) : '\n' ∉ line := by
  -- A line ending is all that a line loses, so that only the line feed it stops at could be left.
  induction t using lineInduction with
  | last whole hwhole =>
    obtain ⟨piece, hpiece, rfl⟩ := List.mem_map.1 h
    cases whole with
    | nil => cases hpiece
    | cons c whole =>
      rw [pieces_of_notMem hwhole (List.cons_ne_nil c whole)] at hpiece
      obtain rfl := List.mem_singleton.1 hpiece
      exact fun hmem => hwhole (dropLineEnding_subset _ hmem)
  | next first rest hfirst ih =>
    rw [lines_append_cons rest hfirst] at h
    rcases List.mem_cons.1 h with rfl | h
    · cases hdrop : dropFinish? ['\r'] first with
      | none => exact hfirst
      | some content =>
        obtain rfl := dropFinish?_eq_some_iff.1 hdrop
        exact fun hmem => hfirst (List.mem_append_left _ hmem)
    · exact ih h

theorem notMem_of_mem_numberedLines {t : Text} {line : NumberedLine} (h : line ∈ t.numberedLines) :
    '\n' ∉ line.text :=
  notMem_of_mem_lines (List.mem_of_getElem? (mem_numberedLines.1 h).2)

/-- The text of a literal is checked as a list, so that no string has to be decoded for it. -/
theorem notMem_literal {c : Char} {t : Text} (h : c ∉ t) : c ∉ (String.ofList t).toList := by
  rwa [String.toList_ofList]

theorem lineFeed_notMem_ofNat (n : Nat) : '\n' ∉ ofNat n :=
  notMem_ofNat (by decide) n

theorem notMem_padTo {c : Char} (hspace : c ≠ ' ') {t : Text} (h : c ∉ t) (width : Nat) :
    c ∉ t.padTo width :=
  List.not_mem_append h fun hmem => hspace (List.eq_of_mem_replicate hmem)

theorem notMem_joinWith {c : Char} {separator : Text} {parts : List Text}
    (hseparator : c ∉ separator) (hparts : ∀ part ∈ parts, c ∉ part) :
    c ∉ joinWith separator parts := by
  induction parts with
  | nil => exact List.not_mem_nil
  | cons part parts ih =>
    obtain ⟨hpart, hrest⟩ := List.forall_mem_cons.1 hparts
    cases parts with
    | nil => rwa [joinWith_singleton]
    | cons next parts =>
      rw [joinWith_cons_cons, List.mem_append, List.mem_append]
      rintro ((hc | hc) | hc)
      · exact hpart hc
      · exact hseparator hc
      · exact ih hrest hc

end Text

theorem Frontmatter.item?_subset {line item : Text} (h : item? line = some item) : item ⊆ line := by
  obtain ⟨rest, hrest, rfl⟩ := Option.map_eq_some_iff.1 h
  intro c hc
  apply Text.trim_subset line
  rw [Text.dropStart?_eq_some_iff.1 hrest]
  exact List.mem_append_right _ (Text.trim_subset rest hc)

theorem Frontmatter.notMem_of_mem_listItems {header item : Text} (h : item ∈ listItems header) :
    '\n' ∉ item := by
  obtain ⟨line, hline, hitem⟩ := List.mem_filterMap.1 h
  exact fun hmem => Text.notMem_of_mem_lines hline (item?_subset hitem hmem)

theorem Cursor.notMem_line (place : Cursor) : '\n' ∉ place.line := by
  intro hmem
  have hwhole := (List.dropWhile_sublist _).subset (List.mem_reverse.1 hmem)
  rcases List.mem_append.1 (List.mem_reverse.1 hwhole) with hseen | hrest
  · exact Text.notMem_takeWhile_bne '\n' _ (List.mem_reverse.1 hseen)
  · exact Text.notMem_takeWhile_bne '\n' _ hrest

namespace Text

/-! ## Whole lines -/

/-- A line with its line feed, and nothing else. -/
def IsPiece (t : Text) : Prop :=
  ∃ line, '\n' ∉ line ∧ t = line ++ ['\n']

theorem isPiece_lineFeed : IsPiece ['\n'] :=
  ⟨[], List.not_mem_nil, rfl⟩

theorem IsPiece.pieces_eq {t : Text} (h : IsPiece t) : pieces t = [t] := by
  obtain ⟨line, hline, rfl⟩ := h
  exact pieces_append_cons [] hline

theorem IsPiece.pieces_append {t : Text} (h : IsPiece t) (rest : Text) :
    pieces (t ++ rest) = t :: pieces rest := by
  obtain ⟨line, hline, rfl⟩ := h
  rw [List.append_assoc]
  exact pieces_append_cons rest hline

theorem pieces_flatMap_append {α : Type} {items : List α} {print : α → Text}
    (h : ∀ a ∈ items, IsPiece (print a)) (rest : Text) :
    pieces (items.flatMap print ++ rest) = items.map print ++ pieces rest := by
  induction items with
  | nil => rfl
  | cons a items ih =>
    obtain ⟨ha, hitems⟩ := List.forall_mem_cons.1 h
    rw [List.flatMap_cons, List.append_assoc, ha.pieces_append, ih hitems]
    rfl

end Text

end CorpusLint
