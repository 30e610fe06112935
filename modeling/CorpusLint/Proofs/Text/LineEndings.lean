import CorpusLint.Frontmatter
import CorpusLint.Proofs.Text.Lines

/-!
# Both kinds of line endings

`crlf` puts a carriage return in front of every line feed. A text without carriage returns keeps its
lines (`lines_crlf`) and its parts without line endings (`includes_crlf`). Header and body change as
the whole text does (`split_crlf`), and a cursor stays in its line (`Cursor.line_crlf`).
-/

namespace CorpusLint

namespace Text

/-- The text with a carriage return in front of every line feed. -/
def crlf (t : Text) : Text :=
  t.flatMap fun c => if c = '\n' then ['\r', '\n'] else [c]

@[simp] theorem crlf_nil : crlf [] = [] := rfl

@[simp] theorem crlf_append (a b : Text) : crlf (a ++ b) = crlf a ++ crlf b :=
  List.flatMap_append

theorem crlf_lineFeed_cons (t : Text) : crlf ('\n' :: t) = '\r' :: '\n' :: crlf t := rfl

theorem crlf_cons {c : Char} (t : Text) (h : c ≠ '\n') : crlf (c :: t) = c :: crlf t := by
  simp [crlf, h]

theorem crlf_of_notMem {t : Text} (h : '\n' ∉ t) : crlf t = t := by
  induction t with
  | nil => rfl
  | cons c t ih =>
    obtain ⟨hc, ht⟩ := List.ne_and_not_mem_of_not_mem_cons h
    rw [crlf_cons t (Ne.symm hc), ih ht]

theorem mem_crlf_iff {c : Char} (h : c ≠ '\r') {t : Text} : c ∈ crlf t ↔ c ∈ t := by
  induction t with
  | nil => rfl
  | cons d t ih =>
    by_cases hd : d = '\n'
    · subst hd
      simp [crlf_lineFeed_cons, h, ih]
    · simp [crlf_cons t hd, ih]

theorem count_lineFeed_crlf (t : Text) : (crlf t).count '\n' = t.count '\n' := by
  induction t with
  | nil => rfl
  | cons c t ih =>
    by_cases hc : c = '\n'
    · subst hc
      rw [crlf_lineFeed_cons, List.count_cons_of_ne (by decide), List.count_cons_self, ih,
        List.count_cons_self]
    · rw [crlf_cons t hc, List.count_cons_of_ne hc, List.count_cons_of_ne hc, ih]

theorem crlf_eq_nil_iff {t : Text} : crlf t = [] ↔ t = [] := by
  cases t with
  | nil => simp
  | cons c t =>
    by_cases hc : c = '\n'
    · simp [hc, crlf_lineFeed_cons]
    · simp [crlf_cons t hc]

/-- Where the changed text has a character that belongs to no line ending, the text had it too. -/
theorem exists_of_crlf_eq_append_cons {c : Char} (hfeed : c ≠ '\n') (hreturn : c ≠ '\r')
    {t x y : Text} (h : crlf t = x ++ c :: y) :
    ∃ a b, t = a ++ c :: b ∧ crlf a = x ∧ crlf b = y := by
  induction t generalizing x with
  | nil => simp at h
  | cons d t ih =>
    by_cases hd : d = '\n'
    · subst hd
      rw [crlf_lineFeed_cons] at h
      -- the carriage return and the line feed both stand before `c`
      cases x with
      | nil => exact absurd (List.cons.inj h).1.symm hreturn
      | cons r x =>
        obtain ⟨rfl, hfeeds⟩ := List.cons.inj h
        cases x with
        | nil => exact absurd (List.cons.inj hfeeds).1.symm hfeed
        | cons f x =>
          obtain ⟨rfl, hrest⟩ := List.cons.inj hfeeds
          obtain ⟨a, b, rfl, rfl, rfl⟩ := ih hrest
          exact ⟨'\n' :: a, b, rfl, rfl, rfl⟩
    · rw [crlf_cons t hd] at h
      cases x with
      | nil =>
        obtain ⟨rfl, rfl⟩ := List.cons.inj h
        exact ⟨[], t, rfl, rfl, rfl⟩
      | cons e x =>
        obtain ⟨rfl, hrest⟩ := List.cons.inj h
        obtain ⟨a, b, rfl, rfl, rfl⟩ := ih hrest
        exact ⟨d :: a, b, rfl, crlf_cons a hd, rfl⟩

/-! ## Lines and parts -/

theorem crlf_append_cons {line : Text} (rest : Text) (h : '\n' ∉ line) :
    crlf (line ++ '\n' :: rest) = (line ++ ['\r']) ++ '\n' :: crlf rest := by
  rw [crlf_append, crlf_of_notMem h, crlf_lineFeed_cons]
  simp

/-- **The lines stay.** -/
theorem lines_crlf {t : Text} (h : '\r' ∉ t) : lines (crlf t) = lines t := by
  induction t using lineInduction with
  | last line hline => rw [crlf_of_notMem hline]
  | next line rest hline ih =>
    have hreturn : '\n' ∉ line ++ ['\r'] := by simp [hline]
    have hnone : dropFinish? ['\r'] line = none := by
      cases hdrop : dropFinish? ['\r'] line with
      | none => rfl
      | some content =>
        rw [dropFinish?_eq_some_iff.1 hdrop] at h
        simp at h
    have hsome : dropFinish? ['\r'] (line ++ ['\r']) = some line := dropFinish?_eq_some_iff.2 rfl
    rw [crlf_append_cons rest hline, lines_append_cons _ hreturn, lines_append_cons _ hline, hnone,
      hsome, ih fun hmem => h (List.mem_append_right _ (List.mem_cons_of_mem _ hmem))]
    rfl

theorem filter_crlf {t : Text} (h : '\r' ∉ t) : (crlf t).filter (· != '\r') = t := by
  induction t with
  | nil => rfl
  | cons c t ih =>
    obtain ⟨hc, ht⟩ := List.ne_and_not_mem_of_not_mem_cons h
    by_cases hfeed : c = '\n'
    · subst hfeed
      simp [crlf_lineFeed_cons, ih ht]
    · simp [crlf_cons t hfeed, Ne.symm hc, ih ht]

/-- The parts without line endings stay. -/
theorem includes_crlf {t part : Text} (ht : '\r' ∉ t) (hreturn : '\r' ∉ part)
    (hfeed : '\n' ∉ part) : (crlf t).includes part = t.includes part := by
  rw [Bool.eq_iff_iff, includes_iff, includes_iff]
  constructor
  · rintro ⟨a, b, hab⟩
    have hpart : part.filter (· != '\r') = part := by
      rw [List.filter_eq_self]
      intro c hc
      have hne : c ≠ '\r' := fun e => hreturn (e ▸ hc)
      simpa using hne
    have hfilter := congrArg (List.filter (· != '\r')) hab
    rw [filter_crlf ht, List.filter_append, List.filter_append, hpart] at hfilter
    exact ⟨_, _, hfilter⟩
  · rintro ⟨a, b, rfl⟩
    exact ⟨crlf a, crlf b, by rw [crlf_append, crlf_append, crlf_of_notMem hfeed]⟩

/-! ## The header -/

theorem pieces_crlf (t : Text) : pieces (crlf t) = (pieces t).map crlf := by
  induction t using lineInduction with
  | last line hline =>
    rw [crlf_of_notMem hline]
    by_cases hne : line = []
    · subst hne
      rfl
    · rw [pieces_of_notMem hline hne, List.map_singleton, crlf_of_notMem hline]
  | next line rest hline ih =>
    have hreturn : '\n' ∉ line ++ ['\r'] := by simp [hline]
    rw [crlf_append_cons rest hline, pieces_append_cons _ hreturn, pieces_append_cons _ hline,
      List.map_cons, ih, crlf_append, crlf_of_notMem hline, List.append_assoc]
    rfl

/-- The trimmed pieces of a text stay when it gets carriage returns. -/
theorem map_trim_pieces_crlf (t : Text) :
    t.crlf.pieces.map trim = t.pieces.map trim := by
  induction t using lineInduction with
  | last line hline => rw [crlf_of_notMem hline]
  | next line rest hline ih =>
    have hreturn : '\n' ∉ line ++ ['\r'] := by simp [hline]
    have hblank : ∀ {c : Char}, CorpusLint.isBlank c = true → ∀ t, trim (t ++ [c]) = trim t :=
      fun hc t => trim_append_of_blank t (List.forall_mem_singleton.2 hc)
    have htrim : (line ++ ['\r'] ++ ['\n']).trim = (line ++ ['\n']).trim := by
      rw [hblank rfl, hblank rfl, hblank rfl]
    rw [crlf_append_cons rest hline, pieces_append_cons _ hreturn, pieces_append_cons rest hline,
      List.map_cons, List.map_cons, ih, htrim]

theorem trimEnd_crlf (t : Text) : (crlf t).trimEnd = crlf t.trimEnd := by
  induction t using List.reverseRecOn with
  | nil => rfl
  | append_singleton t c ih =>
    rw [crlf_append]
    by_cases hc : CorpusLint.isBlank c = true
    · have hblank : ∀ d ∈ crlf [c], CorpusLint.isBlank d = true := by
        intro d hd
        by_cases hreturn : d = '\r'
        · rw [hreturn]
          rfl
        · obtain rfl := List.mem_singleton.1 ((mem_crlf_iff hreturn).1 hd)
          exact hc
      rw [trimEnd_append_of_blank _ hblank, ih, trimEnd_append_of_blank t (by simpa using hc)]
    · have hfeed : c ≠ '\n' := by
        rintro rfl
        exact hc rfl
      rw [crlf_cons [] hfeed, crlf_nil, trimEnd_eq, trimEnd_eq,
        List.rdropWhile_concat_neg _ _ _ hc, List.rdropWhile_concat_neg _ _ _ hc, crlf_append,
        crlf_cons [] hfeed, crlf_nil]

theorem isDelimiter_crlf (line : Text) :
    Frontmatter.isDelimiter (crlf line) = Frontmatter.isDelimiter line := by
  have hdelimiter : '\n' ∉ "---".toList := by decide
  rw [Bool.eq_iff_iff, Frontmatter.isDelimiter, Frontmatter.isDelimiter, trimEnd_crlf, beq_iff_eq,
    beq_iff_eq]
  constructor
  · intro h
    have hfeed : '\n' ∉ line.trimEnd := by
      rw [← mem_crlf_iff (by decide), h]
      exact hdelimiter
    rwa [crlf_of_notMem hfeed] at h
  · intro h
    rw [h]
    rfl

theorem flatten_map_crlf (ts : List Text) : (ts.map crlf).flatten = crlf ts.flatten := by
  induction ts with
  | nil => rfl
  | cons t ts ih => rw [List.map_cons, List.flatten_cons, ih, List.flatten_cons, crlf_append]

/-- Header and body change as the whole text does. -/
theorem split_crlf (raw : Text) :
    Frontmatter.split (crlf raw) =
      ⟨crlf (Frontmatter.split raw).header, crlf (Frontmatter.split raw).body⟩ := by
  have hpred : ((fun piece => !Frontmatter.isDelimiter piece) ∘ crlf) =
      fun piece => !Frontmatter.isDelimiter piece :=
    funext fun piece => congrArg Bool.not (isDelimiter_crlf piece)
  unfold Frontmatter.split
  rw [pieces_crlf, List.dropWhile_map, hpred]
  cases raw.pieces.dropWhile fun piece => !Frontmatter.isDelimiter piece with
  | nil => rfl
  | cons first inner =>
    simp only [List.map_cons, List.dropWhile_map, List.takeWhile_map, hpred]
    cases inner.dropWhile fun piece => !Frontmatter.isDelimiter piece with
    | nil => rfl
    | cons second body => simp only [List.map_cons, flatten_map_crlf]

end Text

/-! ## Cursors -/

namespace Cursor

/-- The cursor between the same two characters of the changed text. -/
def crlf (place : Cursor) : Cursor :=
  ⟨(Text.crlf place.seen.reverse).reverse, Text.crlf place.rest⟩

theorem lineNumber_crlf (place : Cursor) : place.crlf.lineNumber = place.lineNumber := by
  rw [lineNumber, crlf, List.count_reverse, Text.count_lineFeed_crlf, List.count_reverse,
    lineNumber]

/-- What stands before a cursor in its line has no line ending. -/
theorem takeWhile_reverse_crlf (seen : Text) :
    (Text.crlf seen.reverse).reverse.takeWhile (· != '\n') = seen.takeWhile (· != '\n') := by
  induction seen with
  | nil => rfl
  | cons c seen ih =>
    rw [List.reverse_cons, Text.crlf_append, List.reverse_append]
    by_cases hc : c = '\n'
    · subst hc
      rfl
    · rw [Text.crlf_cons [] hc]
      simp [hc, ih]

/-- What stands behind a cursor in its line may get a carriage return at its end. -/
theorem exists_takeWhile_crlf (rest : Text) :
    ∃ returns, (Text.crlf rest).takeWhile (· != '\n') = rest.takeWhile (· != '\n') ++ returns ∧
      ∀ c ∈ returns, (c == '\r') = true := by
  by_cases h : '\n' ∈ rest
  · obtain ⟨line, below, rfl, hline⟩ := List.eq_append_cons_of_mem h
    have hreturn : '\n' ∉ line ++ ['\r'] := by simp [hline]
    rw [Text.crlf_append_cons below hline, Text.takeWhile_bne_append_cons hreturn,
      Text.takeWhile_bne_append_cons hline]
    exact ⟨['\r'], rfl, List.forall_mem_singleton.2 rfl⟩
  · rw [Text.crlf_of_notMem h]
    exact ⟨[], (List.append_nil _).symm, by simp⟩

/-- The line of a cursor loses every carriage return at its end, so that it stays. -/
theorem line_crlf (place : Cursor) : place.crlf.line = place.line := by
  obtain ⟨returns, hrest, hreturns⟩ := exists_takeWhile_crlf place.rest
  have hall : ∀ c ∈ returns.reverse, (c == '\r') = true :=
    fun c hc => hreturns c (List.mem_reverse.1 hc)
  simp only [line, crlf, takeWhile_reverse_crlf, hrest]
  rw [← List.append_assoc, List.reverse_append, List.dropWhile_append_of_pos hall]

end Cursor

end CorpusLint
