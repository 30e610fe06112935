import CorpusLint.Check.Heredoc
import CorpusLint.Proofs.Text.Lines

/-!
# The form of a heredoc

The checker goes through a line word by word, and what may stand between the words is either blank
or a single quote, which no word begins with. So it never has a choice, and accepts exactly the
lines that are put together from the words and what may stand between them (`writesByHeredoc_iff`).
-/

namespace CorpusLint

/-- The blanks before a character that is none can be told from the rest of the text. -/
theorem Text.trimStart_eq_cons_iff {t rest : Text} {c : Char} (hc : CorpusLint.isBlank c = false) :
    t.trimStart = c :: rest ↔ ∃ blanks, blanks.isBlank = true ∧ t = blanks ++ c :: rest := by
  constructor
  · intro h
    refine ⟨t.takeWhile CorpusLint.isBlank, List.all_eq_true.2 fun d => List.mem_takeWhile_imp, ?_⟩
    rw [← h]
    exact List.takeWhile_append_dropWhile.symm
  · rintro ⟨blanks, hblank, rfl⟩
    rw [trimStart, List.dropWhile_append_of_pos (List.all_eq_true.1 hblank)]
    simp [hc]

namespace Heredoc

/-- A single quote or nothing. -/
def IsQuote (t : Text) : Prop :=
  t = [] ∨ t = ['\'']

/-- The text begins with `cat`, blanks, `<<`, the word `EOF` and `>`. There may be blanks before the
word and before `>`, and within them a single quote on each side of the word. -/
def IsWriting (t : Text) : Prop :=
  ∃ gap inner opening closing outer rest,
    t = "cat".toList ++ gap ++ "<<".toList ++ inner ++ opening ++ "EOF".toList ++ closing ++
      outer ++ ">".toList ++ rest ∧
    gap ≠ [] ∧ gap.isBlank = true ∧ inner.isBlank = true ∧ IsQuote opening ∧ IsQuote closing ∧
    outer.isBlank = true

/-! ## Quotes -/

theorem skipQuote_eq_iff {t rest : Text} (h : rest.head? ≠ some '\'') :
    skipQuote t = rest ↔ ∃ quote, IsQuote quote ∧ t = quote ++ rest := by
  constructor
  · intro hskip
    unfold skipQuote at hskip
    split at hskip
    · subst hskip
      exact ⟨_, .inr rfl, rfl⟩
    · subst hskip
      exact ⟨[], .inl rfl, rfl⟩
  · rintro ⟨quote, rfl | rfl, rfl⟩
    · unfold skipQuote
      split
      · next tail hhead => exact absurd rfl h
      · rfl
    · rfl

variable {t rest : Text} {c : Char}

theorem skipQuote_trimStart_eq_iff (hc : isBlank c = false) (hquote : c ≠ '\'') :
    skipQuote t.trimStart = c :: rest ↔
      ∃ blanks quote, blanks.isBlank = true ∧ IsQuote quote ∧
        t = blanks ++ (quote ++ c :: rest) := by
  have hhead : (c :: rest).head? ≠ some '\'' := by simpa using hquote
  rw [skipQuote_eq_iff hhead]
  constructor
  · rintro ⟨quote, rfl | rfl, htrim⟩
    · obtain ⟨blanks, hblank, rfl⟩ := (Text.trimStart_eq_cons_iff hc).1 htrim
      exact ⟨blanks, [], hblank, .inl rfl, rfl⟩
    · obtain ⟨blanks, hblank, rfl⟩ := (Text.trimStart_eq_cons_iff rfl).1 htrim
      exact ⟨blanks, ['\''], hblank, .inr rfl, rfl⟩
  · rintro ⟨blanks, quote, hblank, rfl | rfl, rfl⟩
    · exact ⟨[], .inl rfl, (Text.trimStart_eq_cons_iff hc).2 ⟨blanks, hblank, rfl⟩⟩
    · exact ⟨['\''], .inr rfl, (Text.trimStart_eq_cons_iff rfl).2 ⟨blanks, hblank, rfl⟩⟩

theorem trimStart_skipQuote_eq_iff (hc : isBlank c = false) (hquote : c ≠ '\'') :
    (skipQuote t).trimStart = c :: rest ↔
      ∃ quote blanks, IsQuote quote ∧ blanks.isBlank = true ∧
        t = quote ++ (blanks ++ c :: rest) := by
  rw [Text.trimStart_eq_cons_iff hc]
  -- a blank is no quote, so that no quote is skipped in front of the blanks
  have hhead : ∀ blanks : Text, blanks.isBlank = true →
      (blanks ++ c :: rest).head? ≠ some '\'' := by
    intro blanks hblank
    cases blanks with
    | nil => simpa using hquote
    | cons d blanks =>
      have hd := List.all_eq_true.1 hblank d List.mem_cons_self
      rintro ⟨⟩
      cases hd
  constructor
  · rintro ⟨blanks, hblank, hskip⟩
    obtain ⟨quote, hq, rfl⟩ := (skipQuote_eq_iff (hhead blanks hblank)).1 hskip
    exact ⟨quote, blanks, hq, hblank, rfl⟩
  · rintro ⟨quote, blanks, hq, hblank, rfl⟩
    exact ⟨blanks, hblank, (skipQuote_eq_iff (hhead blanks hblank)).2 ⟨quote, hq, rfl⟩⟩

/-! ## The checker -/

/-- What the checker finds on its way through a line. -/
theorem writesByHeredoc_eq_true_iff {line : Text} :
    writesByHeredoc line = true ↔
      ∃ (c : Char) (afterName afterArrows afterWord rest : Text),
        line = "cat".toList ++ c :: afterName ∧ isBlank c = true ∧
        afterName.trimStart = '<' :: '<' :: afterArrows ∧
        skipQuote afterArrows.trimStart = 'E' :: 'O' :: 'F' :: afterWord ∧
        (skipQuote afterWord).trimStart = '>' :: rest := by
  have harrowsWord : ∀ {t rest : Text},
      Text.dropStart? "<<".toList t = some rest ↔ t = '<' :: '<' :: rest :=
    Text.dropStart?_eq_some_iff
  have hendWord : ∀ {t rest : Text},
      Text.dropStart? "EOF".toList t = some rest ↔ t = 'E' :: 'O' :: 'F' :: rest :=
    Text.dropStart?_eq_some_iff
  unfold writesByHeredoc
  constructor
  · intro h
    split at h
    · next c afterName hname =>
      obtain ⟨hblank, h⟩ := Bool.and_eq_true_iff.1 h
      split at h
      · next afterArrows harrows =>
        split at h
        · next afterWord hword =>
          obtain ⟨rest, hrest⟩ := List.isPrefixOf_iff_prefix.1 h
          exact ⟨c, afterName, afterArrows, afterWord, rest, Text.dropStart?_eq_some_iff.1 hname,
            hblank, harrowsWord.1 harrows, hendWord.1 hword, hrest.symm⟩
        · cases h
      · cases h
    · cases h
  · rintro ⟨c, afterName, afterArrows, afterWord, rest, hline, hblank, harrows, hword, hrest⟩
    simp only [Text.dropStart?_eq_some_iff.2 hline, harrowsWord.2 harrows, hendWord.2 hword, hblank,
      hrest, Bool.true_and]
    exact List.isPrefixOf_iff_prefix.2 ⟨rest, rfl⟩

/-- **The checker accepts the form and nothing else.** -/
theorem writesByHeredoc_iff {line : Text} : writesByHeredoc line = true ↔ IsWriting line := by
  rw [writesByHeredoc_eq_true_iff]
  constructor
  · rintro ⟨c, afterName, afterArrows, afterWord, rest, rfl, hc, harrows, hword, hrest⟩
    obtain ⟨blanks, hblanks, rfl⟩ := (Text.trimStart_eq_cons_iff (by decide)).1 harrows
    obtain ⟨inner, opening, hinner, hopening, rfl⟩ :=
      (skipQuote_trimStart_eq_iff (by decide) (by decide)).1 hword
    obtain ⟨closing, outer, hclosing, houter, rfl⟩ :=
      (trimStart_skipQuote_eq_iff (by decide) (by decide)).1 hrest
    have hgap : Text.isBlank (c :: blanks) = true :=
      List.all_eq_true.2 (List.forall_mem_cons.2 ⟨hc, List.all_eq_true.1 hblanks⟩)
    exact ⟨c :: blanks, inner, opening, closing, outer, rest, by simp, List.cons_ne_nil c blanks,
      hgap, hinner, hopening, hclosing, houter⟩
  · rintro ⟨gap, inner, opening, closing, outer, rest, rfl, hne, hgap, hinner, hopening, hclosing,
      houter⟩
    obtain ⟨c, blanks, rfl⟩ := List.exists_cons_of_ne_nil hne
    obtain ⟨hc, hblanks⟩ := List.forall_mem_cons.1 (List.all_eq_true.1 hgap)
    have harrows : ∀ afterArrows : Text,
        Text.trimStart (blanks ++ '<' :: '<' :: afterArrows) = '<' :: '<' :: afterArrows :=
      fun _ => (Text.trimStart_eq_cons_iff (by decide)).2
        ⟨blanks, List.all_eq_true.2 hblanks, rfl⟩
    have hword : ∀ afterWord : Text,
        skipQuote (Text.trimStart (inner ++ (opening ++ 'E' :: 'O' :: 'F' :: afterWord))) =
          'E' :: 'O' :: 'F' :: afterWord :=
      fun _ => (skipQuote_trimStart_eq_iff (by decide) (by decide)).2
        ⟨inner, opening, hinner, hopening, rfl⟩
    have hrest : (skipQuote (closing ++ (outer ++ '>' :: rest))).trimStart = '>' :: rest :=
      (trimStart_skipQuote_eq_iff (by decide) (by decide)).2
        ⟨closing, outer, hclosing, houter, rfl⟩
    exact ⟨c, _, _, _, rest, by simp, hc, harrows _, hword _, hrest⟩

/-- One quote without its partner, and blanks of two kinds. -/
example : writesByHeredoc "cat\t\u3000<<'EOF  > x".toList = true := by decide

/-- There is no blank between the quote and the word. -/
example : writesByHeredoc "cat <<' EOF' > x".toList = false := by decide

end Heredoc

end CorpusLint
