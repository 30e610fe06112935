import CorpusLint.Proofs.Text.Lines
import CorpusLint.Proofs.Text.Slice

/-!
# The line of an offset

A byte offset cuts a text in two where a character begins or the text ends (`IsBoundary`), and of
two such offsets the greater one has the longer part before it (`prefix_of_byteSize_le`).

Main statement: counting line feeds up to an offset and slicing around it give the number and the
content of the line that the numbered lines have there (`lines_at_offsets`).
-/

namespace CorpusLint

namespace Text

variable {t : Text}

/-- A character begins at the byte offset, or the text ends there. -/
def IsBoundary (t : Text) (offset : Nat) : Prop :=
  ∃ before after, t = before ++ after ∧ before.byteSize = offset

theorem byteSize_eq_zero_iff : t.byteSize = 0 ↔ t = [] := by
  constructor
  · intro h
    have hlength := t.length_le_byteSize
    exact List.eq_nil_of_length_eq_zero (by omega)
  · rintro rfl
    rfl

theorem prefix_of_byteSize_le {before further : Text} (h : before <+: t) (hfurther : further <+: t)
    (hle : before.byteSize ≤ further.byteSize) : before <+: further := by
  rcases List.prefix_or_prefix_of_prefix h hfurther with hprefix | ⟨rest, rfl⟩
  · exact hprefix
  · have hrest : byteSize rest = 0 := by
      rw [byteSize_append] at hle
      omega
    obtain rfl := byteSize_eq_zero_iff.1 hrest
    exact ⟨[], (List.append_nil _).trans (List.append_nil _)⟩

theorem IsBoundary.exists_place {offset : Nat} (h : t.IsBoundary offset) :
    ∃ place : Cursor, place.text = t ∧ place.seen.byteSize = offset := by
  obtain ⟨before, after, rfl, rfl⟩ := h
  refine ⟨⟨before.reverse, after⟩, ?_, byteSize_reverse before⟩
  rw [Cursor.text, List.reverse_reverse]

end Text

namespace Cursor

theorem lineNumber_le_of_byteSize_le {place later : Cursor} (htext : place.text = later.text)
    (hle : place.seen.byteSize ≤ later.seen.byteSize) : place.lineNumber ≤ later.lineNumber := by
  have hplace : place.seen.reverse <+: later.text := by
    rw [← htext]
    exact List.prefix_append _ _
  have hlater : later.seen.reverse <+: later.text := List.prefix_append _ _
  rw [← Text.byteSize_reverse, ← Text.byteSize_reverse later.seen] at hle
  exact lineNumber_le_of_suffix
    (List.reverse_prefix.1 (Text.prefix_of_byteSize_le hplace hlater hle))

/-- Behind the last line feed there is an empty line. -/
theorem line_of_isWhole {t : Text} (h : t.IsWhole) : line ⟨t.reverse, []⟩ = [] := by
  rcases h with rfl | ⟨init, rfl⟩
  · rfl
  · rw [List.reverse_append]
    rfl

end Cursor

namespace Text

/-- **The line of an offset.** At each offset before the end, the line feeds up to there count the
lines up to one of the numbered lines, and the slice around the offset is the text of this line
less all carriage returns at its end. The number does not fall from an offset to a later one. At the
end of the text there is a line too, and behind a last line feed it is an empty one with a number
of its own. The slices exist at all these offsets, and give what a walk from there to both sides
gives. -/
theorem lines_at_offsets (t : Text) :
    (∀ offset, t.IsBoundary offset → offset < t.byteSize →
      ∃ k line, t.lineNumberAt? offset = some k ∧ 1 ≤ k ∧ k ≤ t.lines.length ∧
        t.numberedLines[k - 1]? = some ⟨k, line⟩ ∧
        t.lineAt? offset = some (line.rdropWhile (· == '\r'))) ∧
    (∀ offset later, t.IsBoundary offset → t.IsBoundary later → offset ≤ later →
      ∃ k m, t.lineNumberAt? offset = some k ∧ t.lineNumberAt? later = some m ∧ k ≤ m) ∧
    (∃ k line, t.lineNumberAt? t.byteSize = some k ∧ t.lineAt? t.byteSize = some line ∧
      (t.IsWhole → k = t.lines.length + 1 ∧ line = [])) ∧
    ∀ offset, t.lineNumberAt? offset = (Cursor.atByte? t offset).map Cursor.lineNumber ∧
      t.lineAt? offset = (Cursor.atByte? t offset).map Cursor.line := by
  refine ⟨?_, ?_, ?_, fun offset => ⟨lineNumberAt?_eq t offset, lineAt?_eq t offset⟩⟩
  · intro offset hoffset hlt
    obtain ⟨place, rfl, rfl⟩ := hoffset.exists_place
    have hrest : place.rest ≠ [] := by
      intro hnil
      rw [Cursor.text, hnil, List.append_nil, byteSize_reverse] at hlt
      exact Nat.lt_irrefl _ hlt
    obtain ⟨line, hget, hline⟩ := place.exists_getElem?_lines_rdropWhile hrest
    have hpos : 1 ≤ place.lineNumber := Nat.le_add_left 1 _
    refine ⟨place.lineNumber, line, place.lineNumberAt?_text, hpos,
      place.lineNumber_le_length_lines hrest, ?_, ?_⟩
    · rw [numberedLines, getElem?_numberFrom, hget, Option.map_some, Nat.add_sub_cancel' hpos]
    · rw [place.lineAt?_text, hline]
  · intro offset later hoffset hlater hle
    obtain ⟨place, hplace, rfl⟩ := hoffset.exists_place
    obtain ⟨further, hfurther, rfl⟩ := hlater.exists_place
    refine ⟨place.lineNumber, further.lineNumber, ?_, ?_,
      Cursor.lineNumber_le_of_byteSize_le (hplace.trans hfurther.symm) hle⟩
    · rw [← hplace, place.lineNumberAt?_text]
    · rw [← hfurther, further.lineNumberAt?_text]
  · have htext : Cursor.text ⟨t.reverse, []⟩ = t := by
      rw [Cursor.text, List.append_nil, List.reverse_reverse]
    have hnumber := Cursor.lineNumberAt?_text ⟨t.reverse, []⟩
    have hline := Cursor.lineAt?_text ⟨t.reverse, []⟩
    rw [htext, byteSize_reverse] at hnumber hline
    refine ⟨_, _, hnumber, hline, fun hwhole => ⟨?_, Cursor.line_of_isWhole hwhole⟩⟩
    rw [hwhole.length_lines, Cursor.lineNumber, List.count_reverse]

/-- Two carriage returns before a line feed, behind a character of two bytes. The line keeps the
first of them, and what is read at the line feed keeps neither. -/
theorem lines_at_offsets_returns :
    let t : Text := "é\r\r\nb".toList
    t.IsBoundary 4 ∧ 4 < t.byteSize ∧ t.numberedLines[0]? = some ⟨1, "é\r".toList⟩ ∧
      t.lineNumberAt? 4 = some 1 ∧ t.lineAt? 4 = some "é".toList := by
  intro t
  have hboundary : t.IsBoundary 4 := ⟨"é\r\r".toList, "\nb".toList, by decide, by decide⟩
  have hlt : 4 < t.byteSize := by decide
  have hfirst : t.numberedLines[0]? = some ⟨1, "é\r".toList⟩ := by decide
  obtain ⟨k, line, hnumber, -, -, hget, hline⟩ := (lines_at_offsets t).1 4 hboundary hlt
  have hk : k = 1 := by
    have hcount : t.lineNumberAt? 4 = some 1 := by decide
    rw [hcount] at hnumber
    exact (Option.some.inj hnumber).symm
  subst hk
  rw [hfirst] at hget
  obtain ⟨-, rfl⟩ := NumberedLine.mk.inj (Option.some.inj hget)
  exact ⟨hboundary, hlt, hfirst, hnumber, hline⟩

end Text

end CorpusLint
