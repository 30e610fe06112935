import CorpusLint.Proofs.Fence.Insertion
import CorpusLint.Proofs.Text.Trimmed

/-!
# The lines that a part stands in

A part of a text that has no line ending in it stands in one line, so that a search line by line
finds what a search of the whole text finds (`linesWith_eq_nil_iff`). Where it stands is written
out: the text is whole lines above, the line with its start and its finish around the part, and what
is left below (`Encloses`).

Main statement: every occurrence is enclosed by one of the lines (`exists_encloses`). Nothing
outside a line matters to it but the number of lines above (`IsWhole.linesWith_append`), and its
line ending does not matter at all (`map_trimmed_linesWith`).
-/

namespace CorpusLint

namespace NumberedLine

/-- The line without blanks at its ends. -/
def trimmed (line : NumberedLine) : NumberedLine :=
  ⟨line.number, line.text.trim⟩

/-- The part of a text between `before` and `after` stands in this line: `start` and `finish` are
what the line has around it. -/
def Encloses (line : NumberedLine) (before part after : Text) : Prop :=
  ∃ above start finish below, before = above ++ start ∧ after = finish ++ below ∧ above.IsWhole ∧
    line.number = above.lines.length + 1 ∧ line.text = start ++ part ++ finish

end NumberedLine

namespace Text

/-- The lines of a text that have `part` in them. -/
def linesWith (t part : Text) : List NumberedLine :=
  t.numberedLines.filter (·.text.includes part)

variable {part t : Text}

theorem mem_linesWith {line : NumberedLine} :
    line ∈ t.linesWith part ↔ line ∈ t.numberedLines ∧ part <:+: line.text := by
  rw [linesWith, List.mem_filter, includes_iff]

theorem pairwise_linesWith :
    (t.linesWith part).Pairwise fun line later => line.number < later.number :=
  (pairwise_numberFrom 1 t.lines).filter _

/-! ## Every occurrence is in a line -/

theorem exists_isWhole_append (t : Text) :
    ∃ above start, t = above ++ start ∧ above.IsWhole ∧ '\n' ∉ start := by
  induction t using lineInduction with
  | last line hline => exact ⟨[], line, rfl, .inl rfl, hline⟩
  | next line rest _ ih =>
    obtain ⟨above, start, rfl, hwhole, hstart⟩ := ih
    refine ⟨line ++ '\n' :: above, start, by simp, .inr ?_, hstart⟩
    rcases hwhole with rfl | hsuffix
    · exact ⟨line, rfl⟩
    · exact hsuffix.trans ((List.suffix_cons '\n' above).trans (List.suffix_append _ _))

/-- What a text begins with, up to no line ending, stands in its first line. -/
theorem exists_head?_lines {content : Text} (hne : content ≠ []) (hfeed : '\n' ∉ content)
    (hreturn : content.getLast? ≠ some '\r') (after : Text) :
    ∃ finish below, after = finish ++ below ∧
      (content ++ after).lines.head? = some (content ++ finish) := by
  by_cases hafter : '\n' ∈ after
  · obtain ⟨finish, rest, rfl, hfinish⟩ := List.eq_append_cons_of_mem hafter
    have hline : '\n' ∉ content ++ finish := by simp [hfeed, hfinish]
    rw [← List.append_assoc, lines_append_cons rest hline]
    cases hdrop : dropFinish? ['\r'] (content ++ finish) with
    | none => exact ⟨finish, '\n' :: rest, rfl, rfl⟩
    | some kept =>
      -- the carriage return that the line loses stands behind `content`
      have hkept : content ++ finish = kept ++ ['\r'] := dropFinish?_eq_some_iff.1 hdrop
      rcases List.eq_nil_or_concat' finish with rfl | ⟨init, last, rfl⟩
      · rw [List.append_nil] at hkept
        rw [hkept, List.getLast?_concat] at hreturn
        exact absurd rfl hreturn
      · rw [← List.append_assoc] at hkept
        obtain ⟨rfl, hlast⟩ := List.append_inj' hkept rfl
        exact ⟨init, last :: '\n' :: rest, by simp, rfl⟩
  · have hline : '\n' ∉ content ++ after := by simp [hfeed, hafter]
    refine ⟨after, [], (List.append_nil after).symm, ?_⟩
    rw [lines, pieces_of_notMem hline (by simp [hne]), List.map_singleton,
      dropLineEnding_of_notMem hline]
    rfl

theorem IsWhole.numberedLines_append {above : Text} (h : above.IsWhole) (below : Text) :
    (above ++ below).numberedLines =
      above.numberedLines ++ below.numberedLines.map (.shift above.lines.length) := by
  rw [numberedLines, h.lines_append, numberFrom_append, numberFrom_add]
  rfl

/-- An occurrence stands in one line: neither the line endings around it nor anything in between
can cut it. -/
theorem exists_encloses (hne : part ≠ []) (hfeed : '\n' ∉ part) (hreturn : '\r' ∉ part)
    (before after : Text) :
    ∃ line ∈ (before ++ part ++ after).linesWith part, line.Encloses before part after := by
  obtain ⟨above, start, rfl, hwhole, hstart⟩ := exists_isWhole_append before
  have hlast : (start ++ part).getLast? ≠ some '\r' := by
    rw [List.getLast?_append_of_ne_nil _ hne]
    exact fun h => hreturn (List.mem_of_getLast? h)
  obtain ⟨finish, below, rfl, hhead⟩ :=
    exists_head?_lines (by simp [hne]) (by simp [hstart, hfeed]) hlast after
  obtain ⟨others, hlines⟩ := List.head?_eq_some_iff.1 hhead
  refine ⟨⟨above.lines.length + 1, start ++ part ++ finish⟩,
    mem_linesWith.2 ⟨?_, start, finish, rfl⟩,
    above, start, finish, below, rfl, rfl, hwhole, rfl, rfl⟩
  have htext : above ++ start ++ part ++ (finish ++ below) =
      above ++ (start ++ part ++ (finish ++ below)) := by simp
  have hfirst : ⟨1, start ++ part ++ finish⟩ ∈
      numberedLines (start ++ part ++ (finish ++ below)) := by
    rw [numberedLines, hlines]
    exact List.mem_cons_self
  rw [htext, hwhole.numberedLines_append, List.mem_append]
  exact .inr (List.mem_map.2 ⟨_, hfirst, by rw [NumberedLine.shift, Nat.add_comm]⟩)

/-- No line has the part in it exactly when the text does not. -/
theorem linesWith_eq_nil_iff (hne : part ≠ []) (hfeed : '\n' ∉ part) (hreturn : '\r' ∉ part) :
    t.linesWith part = [] ↔ ¬ part <:+: t := by
  constructor
  · rintro hnil ⟨before, after, rfl⟩
    obtain ⟨line, hline, -⟩ := exists_encloses hne hfeed hreturn before after
    rw [hnil] at hline
    cases hline
  · intro h
    rw [List.eq_nil_iff_forall_not_mem]
    intro line hline
    obtain ⟨hmem, hpart⟩ := mem_linesWith.1 hline
    exact h (hpart.trans (infix_of_mem_lines (List.mem_of_getElem? (mem_numberedLines.1 hmem).2)))

/-! ## Nothing else matters -/

theorem IsWhole.linesWith_append {above : Text} (h : above.IsWhole) (part below : Text) :
    (above ++ below).linesWith part =
      above.linesWith part ++ (below.linesWith part).map (.shift above.lines.length) := by
  rw [linesWith, h.numberedLines_append, List.filter_append, List.filter_map]
  rfl

theorem map_trimmed_numberFrom (start : Nat) (ls : List Text) :
    (numberFrom start ls).map .trimmed = numberFrom start (ls.map trim) := by
  induction ls generalizing start with
  | nil => rfl
  | cons l ls ih =>
    rw [numberFrom, List.map_cons, ih]
    rfl

/-- The lines that have a trimmed part in them can be told when all lines are trimmed, and thus
without their line endings. -/
theorem map_trimmed_linesWith (h : part.IsTrimmed) (hne : part ≠ []) (t : Text) :
    (t.linesWith part).map .trimmed =
      (numberFrom 1 (t.pieces.map trim)).filter (·.text.includes part) := by
  have htrim : t.pieces.map trim = t.lines.map trim := by
    rw [lines, List.map_map]
    exact (List.map_congr_left fun piece _ => trim_dropLineEnding piece).symm
  have hpred : ∀ line ∈ t.numberedLines,
      line.text.includes part = line.trimmed.text.includes part := by
    intro line _
    rw [Bool.eq_iff_iff, includes_iff, includes_iff]
    exact (h.infix_trim_iff hne).symm
  rw [htrim, ← map_trimmed_numberFrom, List.filter_map, linesWith, List.filter_congr hpred]
  rfl

end Text

end CorpusLint
