import CorpusLint.Proofs.Text.Separator
import CorpusLint.Text.Cursor
import Mathlib.Data.List.DropRight

/-!
# The lines of a text

A text without a line feed is one piece at most, and what stands before the first line feed is the
first piece of any other (`pieces_append_cons`), so that facts about pieces and lines are proved
line by line (`lineInduction`).

Main statement: counting the line feeds before a cursor gives the place of its line among all lines,
and walking from the cursor to both ends of this line gives its text up to the blanks at the ends
(`Cursor.exists_getElem?_lines`).
-/

namespace CorpusLint

namespace Text

/-! ## Trimming -/

theorem trimEnd_eq (t : Text) : t.trimEnd = t.rdropWhile CorpusLint.isBlank := rfl

theorem trimEnd_append_of_blank {blanks : Text} (t : Text)
    (h : ∀ c ∈ blanks, CorpusLint.isBlank c = true) : (t ++ blanks).trimEnd = t.trimEnd := by
  rw [trimEnd, List.reverse_append, List.dropWhile_append_of_pos]
  · rfl
  · simpa using h

theorem trim_append_of_blank {blanks : Text} (t : Text)
    (h : ∀ c ∈ blanks, CorpusLint.isBlank c = true) : (t ++ blanks).trim = t.trim := by
  rw [trim, trimStart, List.dropWhile_append]
  split
  · next hnil =>
    have hblank : blanks.dropWhile CorpusLint.isBlank = [] := List.dropWhile_eq_nil_iff.2 h
    rw [hblank, trim, trimStart, List.isEmpty_iff.1 hnil]
  · exact trimEnd_append_of_blank _ h

/-- Dropping some kinds of blanks from the end does not matter before a trim. -/
theorem trim_rdropWhile {p : Char → Bool} (h : ∀ c, p c = true → CorpusLint.isBlank c = true)
    (t : Text) : trim (t.rdropWhile p) = t.trim := by
  have hblank : ∀ c ∈ t.rtakeWhile p, CorpusLint.isBlank c = true :=
    fun c hc => h c (List.mem_rtakeWhile_imp hc)
  rw [← trim_append_of_blank _ hblank, List.rdropWhile_append_rtakeWhile]

/-- Nothing is left of a blank text. -/
theorem trim_eq_nil_iff {t : Text} : t.trim = [] ↔ t.isBlank = true := by
  rw [trim, trimEnd_eq, trimStart, List.rdropWhile_eq_nil_iff, isBlank, List.all_eq_true]
  constructor
  · intro h c hc
    rw [← List.takeWhile_append_dropWhile (p := CorpusLint.isBlank) (l := t)] at hc
    rcases List.mem_append.1 hc with hc | hc
    · exact List.mem_takeWhile_imp hc
    · exact h c hc
  · intro h c hc
    exact h c ((List.dropWhile_sublist _).subset hc)

/-! ## Pieces -/

theorem pieces_append_cons {line : Text} (rest : Text) (h : '\n' ∉ line) :
    pieces (line ++ '\n' :: rest) = (line ++ ['\n']) :: pieces rest := by
  induction line with
  | nil => simp [pieces]
  | cons c line ih =>
    obtain ⟨hc, hline⟩ := List.ne_and_not_mem_of_not_mem_cons h
    simp [pieces, Ne.symm hc, ih hline]

theorem pieces_of_notMem {t : Text} (h : '\n' ∉ t) (hne : t ≠ []) : pieces t = [t] := by
  induction t with
  | nil => exact absurd rfl hne
  | cons c t ih =>
    obtain ⟨hc, ht⟩ := List.ne_and_not_mem_of_not_mem_cons h
    cases t with
    | nil => simp [pieces, Ne.symm hc]
    | cons d t => rw [pieces, if_neg (Ne.symm hc), ih ht (List.cons_ne_nil d t)]

/-- A text is a last line without a line feed, or a line, its line feed and a text. -/
theorem lineInduction {motive : Text → Prop} (last : ∀ line, '\n' ∉ line → motive line)
    (next : ∀ line rest, '\n' ∉ line → motive rest → motive (line ++ '\n' :: rest)) (t : Text) :
    motive t := by
  induction hn : t.length using Nat.strongRecOn generalizing t with
  | _ n ih =>
    subst hn
    by_cases h : '\n' ∈ t
    · obtain ⟨line, rest, rfl, hline⟩ := List.eq_append_cons_of_mem h
      refine next line rest hline (ih rest.length ?_ rest rfl)
      simp only [List.length_append, List.length_cons]
      omega
    · exact last t h

/-- A line feed cuts a text in two, whatever follows it. -/
theorem pieces_append_lineFeed (t rest : Text) :
    pieces (t ++ '\n' :: rest) = pieces (t ++ ['\n']) ++ pieces rest := by
  induction t using lineInduction with
  | last line hline => rw [pieces_append_cons rest hline, pieces_append_cons [] hline]; rfl
  | next line inner hline ih =>
    rw [List.append_assoc, List.append_assoc, List.cons_append, List.cons_append,
      pieces_append_cons _ hline, pieces_append_cons _ hline, ih]
    rfl

theorem pieces_append {t : Text} (h : ['\n'] <:+ t) (rest : Text) :
    pieces (t ++ rest) = pieces t ++ pieces rest := by
  obtain ⟨init, rfl⟩ := h
  rw [List.append_assoc]
  exact pieces_append_lineFeed init rest

/-- The text ends where a line ends. -/
def IsWhole (t : Text) : Prop :=
  t = [] ∨ ['\n'] <:+ t

instance (t : Text) : Decidable t.IsWhole :=
  inferInstanceAs (Decidable (_ ∨ _))

theorem IsWhole.pieces_append {t : Text} (h : t.IsWhole) (rest : Text) :
    pieces (t ++ rest) = pieces t ++ pieces rest := by
  rcases h with rfl | h
  · rfl
  · exact Text.pieces_append h rest

theorem of_pieces_eq_cons {t piece : Text} {after : List Text} (h : pieces t = piece :: after) :
    pieces piece = [piece] ∧ pieces after.flatten = after ∧ (after ≠ [] → ['\n'] <:+ piece) := by
  by_cases hfeed : '\n' ∈ t
  · obtain ⟨line, rest, rfl, hline⟩ := List.eq_append_cons_of_mem hfeed
    rw [pieces_append_cons rest hline] at h
    obtain ⟨rfl, rfl⟩ := List.cons.inj h
    exact ⟨pieces_append_cons [] hline, by rw [flatten_pieces], fun _ => List.suffix_append _ _⟩
  · have hne : t ≠ [] := by
      rintro rfl
      cases h
    have hpieces := pieces_of_notMem hfeed hne
    rw [hpieces] at h
    obtain ⟨rfl, rfl⟩ := List.cons.inj h
    exact ⟨hpieces, rfl, fun h => absurd rfl h⟩

/-- Pieces of a text are the pieces of what they make up, and those before others are whole
lines. -/
theorem of_pieces_eq_append {t : Text} {before after : List Text} (h : pieces t = before ++ after) :
    pieces before.flatten = before ∧ pieces after.flatten = after ∧
      (after ≠ [] → IsWhole before.flatten) := by
  induction before generalizing t with
  | nil =>
    rw [List.nil_append] at h
    rw [← h, flatten_pieces]
    exact ⟨rfl, rfl, fun _ => .inl rfl⟩
  | cons piece before ih =>
    obtain ⟨hpiece, hrest, hends⟩ := of_pieces_eq_cons h
    obtain ⟨hbefore, hafter, hwhole⟩ := ih hrest
    rw [List.flatten_cons]
    by_cases hnil : before ++ after = []
    · obtain ⟨rfl, rfl⟩ := List.append_eq_nil_iff.1 hnil
      exact ⟨by simpa using hpiece, rfl, fun h => absurd rfl h⟩
    · refine ⟨?_, hafter, ?_⟩
      · rw [pieces_append (hends hnil), hpiece, hbefore]
        rfl
      · intro hne
        right
        rcases hwhole hne with hempty | hsuffix
        · rw [hempty, List.append_nil]
          exact hends hnil
        · exact hsuffix.trans (List.suffix_append _ _)

theorem IsWhole.lines_append {t : Text} (h : t.IsWhole) (rest : Text) :
    lines (t ++ rest) = lines t ++ lines rest := by
  rw [lines, h.pieces_append, List.map_append]
  rfl

theorem dropLineEnding_append_cons {line : Text} :
    dropLineEnding (line ++ ['\n']) = (dropFinish? ['\r'] line).getD line := by
  have h : dropFinish? ['\n'] (line ++ ['\n']) = some line := dropFinish?_eq_some_iff.2 rfl
  simp [dropLineEnding, h]

theorem dropLineEnding_of_notMem {line : Text} (h : '\n' ∉ line) : dropLineEnding line = line := by
  unfold dropLineEnding
  split
  · rfl
  · next start hstart =>
    obtain rfl := dropFinish?_eq_some_iff.1 hstart
    exact absurd (List.mem_append_right start (List.mem_singleton.2 rfl)) h

/-- Where all carriage returns at the end are dropped, that of the line ending makes no
difference. -/
theorem rdropWhile_dropLineEnding {line : Text} :
    (dropLineEnding (line ++ ['\n'])).rdropWhile (· == '\r') = line.rdropWhile (· == '\r') := by
  rw [dropLineEnding_append_cons]
  cases hdrop : dropFinish? ['\r'] line with
  | none => rfl
  | some content =>
    obtain rfl := dropFinish?_eq_some_iff.1 hdrop
    exact (List.rdropWhile_concat_pos _ content '\r' rfl).symm

theorem lines_append_cons {line : Text} (rest : Text) (h : '\n' ∉ line) :
    lines (line ++ '\n' :: rest) = (dropFinish? ['\r'] line).getD line :: lines rest := by
  rw [lines, pieces_append_cons rest h, List.map_cons, dropLineEnding_append_cons]
  rfl

/-- What whole lines leave behind a line feed is whole lines again. -/
theorem IsWhole.of_append_cons {line rest : Text} (h : IsWhole (line ++ '\n' :: rest)) :
    rest.IsWhole := by
  rcases h with hnil | hsuffix
  · simp at hnil
  · have hend : rest <:+ line ++ '\n' :: rest :=
      (List.suffix_cons '\n' rest).trans (List.suffix_append _ _)
    rcases List.suffix_or_suffix_of_suffix hsuffix hend with hfeed | hshort
    · exact .inr hfeed
    · rcases List.suffix_cons_iff.1 hshort with rfl | hnil
      · exact .inr List.suffix_rfl
      · exact .inl (List.suffix_nil.1 hnil)

/-- Whole lines are as many as their line feeds. -/
theorem IsWhole.length_lines {t : Text} (h : t.IsWhole) : t.lines.length = t.count '\n' := by
  induction t using lineInduction with
  | last line hline =>
    rcases h with rfl | hsuffix
    · rfl
    · exact absurd (hsuffix.subset (List.mem_singleton.2 rfl)) hline
  | next line rest hline ih =>
    rw [lines_append_cons rest hline, List.length_cons, ih h.of_append_cons, List.count_append,
      List.count_eq_zero.2 hline, List.count_cons_self, Nat.zero_add]

/-- A part of a line without a carriage return is not in its line ending. -/
theorem infix_line {part line : Text} (hpart : '\r' ∉ part) (h : part <:+: line) :
    part <:+: (dropFinish? ['\r'] line).getD line := by
  cases hdrop : dropFinish? ['\r'] line with
  | none => exact h
  | some content =>
    obtain rfl := dropFinish?_eq_some_iff.1 hdrop
    rcases List.infix_concat_iff.1 h with hsuffix | hinfix
    · rcases List.suffix_concat_iff.1 hsuffix with rfl | ⟨start, rfl, -⟩
      · exact List.nil_infix
      · exact absurd (List.mem_append_right start (List.mem_singleton.2 rfl)) hpart
    · exact hinfix

/-- A piece is its line and a line ending, which is blank. -/
theorem exists_lineEnding (piece : Text) :
    ∃ ending, piece = dropLineEnding piece ++ ending ∧
      ∀ c ∈ ending, CorpusLint.isBlank c = true := by
  unfold dropLineEnding
  split
  · exact ⟨[], (List.append_nil piece).symm, by simp⟩
  · next line hline =>
    obtain rfl := dropFinish?_eq_some_iff.1 hline
    cases hreturn : dropFinish? ['\r'] line with
    | none => exact ⟨['\n'], rfl, List.forall_mem_singleton.2 rfl⟩
    | some content =>
      obtain rfl := dropFinish?_eq_some_iff.1 hreturn
      exact ⟨['\r', '\n'], by simp, List.forall_mem_cons.2 ⟨rfl, List.forall_mem_singleton.2 rfl⟩⟩

theorem infix_of_mem_lines {t line : Text} (h : line ∈ t.lines) : line <:+: t := by
  obtain ⟨piece, hpiece, rfl⟩ := List.mem_map.1 h
  obtain ⟨ending, hending, -⟩ := exists_lineEnding piece
  have hline : dropLineEnding piece <:+: piece := ⟨[], ending, hending.symm⟩
  have hwhole : piece <:+: t := flatten_pieces t ▸ List.infix_of_mem_flatten hpiece
  exact hline.trans hwhole

theorem trim_dropLineEnding (piece : Text) : (dropLineEnding piece).trim = piece.trim := by
  obtain ⟨ending, hpiece, hblank⟩ := exists_lineEnding piece
  rw [← trim_append_of_blank (dropLineEnding piece) hblank, ← hpiece]

/-! ## Numbered lines -/

theorem getElem?_numberFrom (start : Nat) (ls : List Text) (i : Nat) :
    (numberFrom start ls)[i]? = ls[i]?.map (⟨start + i, ·⟩) := by
  induction ls generalizing start i with
  | nil => rfl
  | cons l ls ih =>
    cases i with
    | zero => rfl
    | succ i =>
      rw [numberFrom, List.getElem?_cons_succ, List.getElem?_cons_succ, ih, Nat.add_right_comm]
      rfl

theorem mem_numberFrom {start : Nat} {ls : List Text} {line : NumberedLine} :
    line ∈ numberFrom start ls ↔ ∃ i, ls[i]? = some line.text ∧ line.number = start + i := by
  induction ls generalizing start with
  | nil => simp [numberFrom]
  | cons l ls ih =>
    rw [numberFrom, List.mem_cons, ih]
    constructor
    · rintro (rfl | ⟨i, hi, hnumber⟩)
      · exact ⟨0, rfl, rfl⟩
      · exact ⟨i + 1, by simpa using hi, by omega⟩
    · rintro ⟨i, hi, hnumber⟩
      cases i with
      | zero =>
        left
        obtain rfl : l = line.text := by simpa using hi
        rw [Nat.add_zero] at hnumber
        rw [← hnumber]
      | succ i => exact .inr ⟨i, by simpa using hi, by omega⟩

/-- The number of a line is its place in the text, counted from 1. -/
theorem mem_numberedLines {t : Text} {line : NumberedLine} :
    line ∈ t.numberedLines ↔ 1 ≤ line.number ∧ t.lines[line.number - 1]? = some line.text := by
  rw [numberedLines, mem_numberFrom]
  constructor
  · rintro ⟨i, hi, hnumber⟩
    have hindex : line.number - 1 = i := by omega
    rw [hindex]
    exact ⟨by omega, hi⟩
  · rintro ⟨hpos, hline⟩
    exact ⟨line.number - 1, hline, by omega⟩

theorem numberFrom_append (start : Nat) (ls more : List Text) :
    numberFrom start (ls ++ more) = numberFrom start ls ++ numberFrom (start + ls.length) more := by
  induction ls generalizing start with
  | nil => rfl
  | cons l ls ih =>
    have hstart : start + 1 + ls.length = start + (l :: ls).length := by
      rw [List.length_cons]
      omega
    rw [List.cons_append, numberFrom, ih, hstart]
    rfl

theorem pairwise_numberFrom (start : Nat) (ls : List Text) :
    (numberFrom start ls).Pairwise fun line later => line.number < later.number := by
  induction ls generalizing start with
  | nil => exact .nil
  | cons l ls ih =>
    refine List.pairwise_cons.2 ⟨fun later hlater => ?_, ih (start + 1)⟩
    obtain ⟨i, -, hnumber⟩ := mem_numberFrom.1 hlater
    rw [hnumber]
    change start < start + 1 + i
    omega

end Text

/-! ## The line of a cursor -/

namespace Cursor

/-- The line feeds before a cursor count the pieces before the one that it stands in. -/
theorem exists_getElem?_pieces (before : Text) {after : Text} (h : after ≠ []) :
    ∃ ending, (Text.pieces (before ++ after))[before.count '\n']? =
        some ((before.reverse.takeWhile (· != '\n')).reverse ++ after.takeWhile (· != '\n') ++
          ending) ∧
      (ending = [] ∨ ending = ['\n']) := by
  induction before using Text.lineInduction with
  | last line hline =>
    rw [List.count_eq_zero.2 hline, Text.takeWhile_bne_of_notMem (t := line.reverse)
      (fun hmem => hline (List.mem_reverse.1 hmem)), List.reverse_reverse]
    by_cases hafter : '\n' ∈ after
    · obtain ⟨finish, rest, rfl, hfinish⟩ := List.eq_append_cons_of_mem hafter
      have hwhole : '\n' ∉ line ++ finish := by simp [hline, hfinish]
      rw [Text.takeWhile_bne_append_cons hfinish, ← List.append_assoc,
        Text.pieces_append_cons rest hwhole]
      exact ⟨['\n'], rfl, .inr rfl⟩
    · have hwhole : '\n' ∉ line ++ after := by simp [hline, hafter]
      rw [Text.takeWhile_bne_of_notMem hafter, Text.pieces_of_notMem hwhole (by simp [h])]
      exact ⟨[], by simp, .inl rfl⟩
  | next line rest hline ih =>
    obtain ⟨ending, hpiece, hending⟩ := ih
    refine ⟨ending, ?_, hending⟩
    have hreverse : (line ++ '\n' :: rest).reverse = rest.reverse ++ '\n' :: line.reverse := by simp
    rw [hreverse, Text.takeWhile_bne_append, ← hpiece, List.append_assoc, List.cons_append,
      Text.pieces_append_cons _ hline, List.count_append, List.count_eq_zero.2 hline,
      List.count_cons_self, Nat.zero_add, List.getElem?_cons_succ]

/-- The line of a cursor before the end of its text is the line with the cursor's number, less the
carriage returns at its end. -/
theorem exists_getElem?_lines_rdropWhile (place : Cursor) (h : place.rest ≠ []) :
    ∃ line, place.text.lines[place.lineNumber - 1]? = some line ∧
      place.line = line.rdropWhile (· == '\r') := by
  obtain ⟨ending, hpiece, hending⟩ := exists_getElem?_pieces place.seen.reverse h
  rw [List.count_reverse, List.reverse_reverse] at hpiece
  refine ⟨Text.dropLineEnding ((place.seen.takeWhile (· != '\n')).reverse ++
    place.rest.takeWhile (· != '\n') ++ ending), ?_, ?_⟩
  · rw [Text.lines, List.getElem?_map, lineNumber, Nat.add_sub_cancel, text, hpiece,
      Option.map_some]
  · have hwhole : '\n' ∉ (place.seen.takeWhile (· != '\n')).reverse ++
        place.rest.takeWhile (· != '\n') := by
      rw [List.mem_append, List.mem_reverse]
      rintro (hseen | hrest)
      · exact Text.notMem_takeWhile_bne '\n' _ hseen
      · exact Text.notMem_takeWhile_bne '\n' _ hrest
    rcases hending with rfl | rfl
    · rw [List.append_nil, Text.dropLineEnding_of_notMem hwhole]
      rfl
    · rw [Text.rdropWhile_dropLineEnding]
      rfl

/-- **Both ways to find a line agree.** The line of a cursor before the end of its text is the line
with the cursor's number, up to blanks at the ends. -/
theorem exists_getElem?_lines (place : Cursor) (h : place.rest ≠ []) :
    ∃ line, place.text.lines[place.lineNumber - 1]? = some line ∧
      line.trim = place.line.trim := by
  obtain ⟨line, hget, hline⟩ := place.exists_getElem?_lines_rdropWhile h
  refine ⟨line, hget, ?_⟩
  rw [hline, Text.trim_rdropWhile (fun c hc => by rw [eq_of_beq hc]; rfl)]

/-- A place further down has no smaller number. -/
theorem lineNumber_le_of_suffix {place later : Cursor} (h : place.seen <:+ later.seen) :
    place.lineNumber ≤ later.lineNumber :=
  Nat.succ_le_succ (h.sublist.count_le _)

theorem lineNumber_le_length_lines (place : Cursor) (h : place.rest ≠ []) :
    place.lineNumber ≤ place.text.lines.length := by
  obtain ⟨line, hline, -⟩ := place.exists_getElem?_lines h
  have hlt := (List.getElem?_eq_some_iff.1 hline).1
  omega

end Cursor

end CorpusLint
