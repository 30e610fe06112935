import CorpusLint.Proofs.Text.Trimmed
import Mathlib.Data.List.Chain

/-!
# Words and compact lines

The words of a text are spelled by the text from left to right, over its blanks (`Spells`). Joined
by single spaces they make up a *spaced* text (`isSpaced_joinWith`), and a spaced text is what its
own words make up (`Spells.joinWith_eq`). A cut with three dots behind it leaves a text spaced
(`IsSpaced.take_append_dots`), wherever the cut is, so that a compact line is compact.

Main statement: `compact_spells`.
-/

namespace CorpusLint

namespace Text

/-! ## The words that a text spells -/

/-- Some characters, none of them blank. -/
structure IsWord (word : Text) : Prop where
  ne_nil : word ≠ []
  plain : ∀ c ∈ word, CorpusLint.isBlank c = false

/-- The text consists of these words and of blanks, with a blank behind each word but one that the
text ends with. -/
inductive Spells : Text → List Text → Prop
  | nil : Spells [] []
  | blank {c : Char} {rest : Text} {words : List Text} (hc : CorpusLint.isBlank c = true)
      (hrest : Spells rest words) : Spells (c :: rest) words
  | last {word : Text} (hword : IsWord word) : Spells word [word]
  | next {word rest : Text} {c : Char} {words : List Text} (hword : IsWord word)
      (hc : CorpusLint.isBlank c = true) (hrest : Spells rest words) :
      Spells (word ++ c :: rest) (word :: words)

theorem isWord_singleton {c : Char} (h : CorpusLint.isBlank c = false) : IsWord [c] :=
  ⟨List.cons_ne_nil c [], List.forall_mem_singleton.2 h⟩

theorem IsWord.cons {c : Char} {word : Text} (h : word.IsWord) (hc : CorpusLint.isBlank c = false) :
    IsWord (c :: word) :=
  ⟨List.cons_ne_nil c word, List.forall_mem_cons.2 ⟨hc, h.plain⟩⟩

theorem exists_spells (t : Text) : ∃ words, Spells t words := by
  induction t with
  | nil => exact ⟨[], .nil⟩
  | cons c t ih =>
    obtain ⟨words, hwords⟩ := ih
    cases hc : CorpusLint.isBlank c with
    | true => exact ⟨words, .blank hc hwords⟩
    | false =>
      -- the character is a word of its own or the first one of the word behind it
      cases hwords with
      | nil => exact ⟨_, .last (isWord_singleton hc)⟩
      | blank hd hrest => exact ⟨_, .next (isWord_singleton hc) hd hrest⟩
      | last hword => exact ⟨_, .last (hword.cons hc)⟩
      | next hword hd hrest => exact ⟨_, .next (hword.cons hc) hd hrest⟩

theorem words_append_cons {c : Char} (h : CorpusLint.isBlank c = true) (before after : Text) :
    words (before ++ c :: after) = before.words ++ after.words := by
  rw [words, List.splitOnP_append_cons before after h, List.filter_append]
  rfl

theorem IsWord.words_eq {word : Text} (h : word.IsWord) : word.words = [word] := by
  rw [words, List.splitOnP_eq_singleton h.plain]
  simp [h.ne_nil]

/-- A text spells one list of words. -/
theorem Spells.words_eq {t : Text} {ws : List Text} (h : Spells t ws) : t.words = ws := by
  induction h with
  | nil => rfl
  | @blank c rest _ hc _ ih =>
    have hsplit := words_append_cons hc [] rest
    rw [List.nil_append] at hsplit
    rw [hsplit, ih]
    rfl
  | last hword => exact hword.words_eq
  | next hword hc _ ih =>
    rw [words_append_cons hc, hword.words_eq, ih]
    rfl

theorem spells_iff {t : Text} {ws : List Text} : Spells t ws ↔ ws = t.words := by
  constructor
  · exact fun h => h.words_eq.symm
  · rintro rfl
    obtain ⟨ws, h⟩ := exists_spells t
    exact h.words_eq ▸ h

theorem Spells.isWord {t word : Text} {ws : List Text} (h : Spells t ws) (hmem : word ∈ ws) :
    word.IsWord := by
  induction h with
  | nil => cases hmem
  | blank _ _ ih => exact ih hmem
  | last hword =>
    obtain rfl := List.mem_singleton.1 hmem
    exact hword
  | next hword _ _ ih =>
    rcases List.mem_cons.1 hmem with rfl | hmem
    · exact hword
    · exact ih hmem

/-! ## Spaced texts -/

/-- The only blanks are spaces between other characters, one at a time. -/
structure IsSpaced (t : Text) : Prop where
  trimmed : t.IsTrimmed
  blanks : ∀ c ∈ t, CorpusLint.isBlank c = true → c = ' '
  single : t.IsChain fun c d => c = ' ' → d ≠ ' '

theorem isBlank_space : CorpusLint.isBlank ' ' = true := rfl

theorem isSpaced_nil : IsSpaced [] :=
  ⟨⟨by rintro c ⟨⟩, by rintro c ⟨⟩⟩, by rintro c ⟨⟩, .nil⟩

theorem IsWord.isSpaced {word : Text} (h : word.IsWord) : word.IsSpaced where
  trimmed := ⟨fun c hc => h.plain c (List.mem_of_mem_head? hc),
    fun c hc => h.plain c (List.mem_of_getLast? hc)⟩
  blanks c hc hblank := by
    rw [h.plain c hc] at hblank
    cases hblank
  single := by
    refine (List.pairwise_iff_forall_sublist.2 fun {c d} hsub hspace => ?_).isChain
    have hblank := h.plain c (hsub.subset List.mem_cons_self)
    rw [hspace, isBlank_space] at hblank
    cases hblank

/-- A space between two texts that do not have one there. -/
theorem IsSpaced.append {a b : Text} (ha : a.IsSpaced) (hb : b.IsSpaced) (hane : a ≠ [])
    (hbne : b ≠ []) : (a ++ [' '] ++ b).IsSpaced where
  trimmed := ha.trimmed.append hb.trimmed hane hbne [' ']
  blanks c hc hblank := by
    rcases List.mem_append.1 hc with hc | hc
    · rcases List.mem_append.1 hc with hc | hc
      · exact ha.blanks c hc hblank
      · exact List.mem_singleton.1 hc
    · exact hb.blanks c hc hblank
  single := by
    refine (ha.single.append (.singleton ' ') ?_).append hb.single ?_
    · rintro c hc d - rfl
      have hblank := ha.trimmed.last _ hc
      cases hblank
    · rintro c - d hd - rfl
      have hblank := hb.trimmed.head _ hd
      cases hblank

theorem isSpaced_joinWith {ws : List Text} (h : ∀ word ∈ ws, word.IsWord) :
    (joinWith [' '] ws).IsSpaced := by
  induction ws with
  | nil => exact isSpaced_nil
  | cons word ws ih =>
    obtain ⟨hword, hws⟩ := List.forall_mem_cons.1 h
    cases ws with
    | nil =>
      rw [joinWith_singleton]
      exact hword.isSpaced
    | cons next ws =>
      have hne : joinWith [' '] (next :: ws) ≠ [] :=
        joinWith_ne_nil (List.cons_ne_nil next ws) fun word hmem => (hws word hmem).ne_nil
      rw [joinWith_cons_cons]
      exact hword.isSpaced.append (ih hws) hword.ne_nil hne

/-- What follows a space of a spaced text is spaced. -/
theorem IsSpaced.of_append_cons {a b : Text} (h : (a ++ ' ' :: b).IsSpaced) (hne : b ≠ []) :
    b.IsSpaced where
  trimmed := by
    have hchain := h.single.right_of_append
    refine ⟨fun c hc => ?_, fun c hc => h.trimmed.last c ?_⟩
    · obtain ⟨rest, rfl⟩ := List.head?_eq_some_iff.1 hc
      rw [← Bool.not_eq_true]
      intro hblank
      have hspace : c = ' ' := h.blanks c (by simp) hblank
      exact (List.isChain_cons_cons.1 hchain).1 rfl hspace
    · rw [List.getLast?_append_of_ne_nil _ (List.cons_ne_nil ' ' b),
        List.getLast?_cons_of_ne_nil hne]
      exact hc
  blanks c hc := h.blanks c (List.mem_append_right a (List.mem_cons_of_mem ' ' hc))
  single := h.single.right_of_append.tail

/-- A spaced text is what its words make up. -/
theorem Spells.joinWith_eq {t : Text} {ws : List Text} (h : Spells t ws) (hspaced : t.IsSpaced) :
    joinWith [' '] ws = t := by
  induction h with
  | nil => rfl
  | blank hc _ _ =>
    rw [hspaced.trimmed.head _ rfl] at hc
    cases hc
  | last _ => exact joinWith_singleton _ _
  | @next word rest c ws hword hc _ ih =>
    obtain rfl : c = ' ' := hspaced.blanks c (by simp) hc
    have hne : rest ≠ [] := by
      rintro rfl
      have hblank := hspaced.trimmed.last ' ' (by simp)
      cases hblank
    have hrest := ih (hspaced.of_append_cons hne)
    cases ws with
    | nil => exact absurd hrest.symm hne
    | cons next ws =>
      rw [joinWith_cons_cons, hrest]
      simp

/-- The cut may fall behind a space: the dots are a word of their own then. -/
theorem IsSpaced.take_append_dots {t : Text} (h : t.IsSpaced) (n : Nat) :
    IsSpaced (t.take n ++ "...".toList) where
  trimmed := by
    constructor
    · intro c hc
      cases n with
      | zero =>
        obtain rfl : '.' = c := Option.some.inj hc
        rfl
      | succ n =>
        cases t with
        | nil =>
          obtain rfl : '.' = c := Option.some.inj hc
          rfl
        | cons d t => exact h.trimmed.head c hc
    · intro c hc
      rw [List.getLast?_append_of_ne_nil _ (by decide)] at hc
      obtain rfl : '.' = c := Option.some.inj hc
      rfl
  blanks c hc hblank := by
    rcases List.mem_append.1 hc with hc | hc
    · exact h.blanks c (List.mem_of_mem_take hc) hblank
    · obtain rfl : c = '.' := by simpa using hc
      cases hblank
  single := by
    refine (h.single.take n).append (by decide) ?_
    rintro c - d hd - rfl
    cases hd

/-! ## Compact lines -/

theorem Spells.compact_eq {t : Text} {ws : List Text} (h : Spells t ws) (limit : Nat) :
    compact limit t = if (joinWith [' '] ws).length ≤ limit then joinWith [' '] ws
      else (joinWith [' '] ws).take limit ++ "...".toList := by
  rw [compact, h.words_eq]

/-- A spaced text is shortened as it is. -/
theorem IsSpaced.compact_eq {t : Text} (h : t.IsSpaced) (limit : Nat) :
    compact limit t = if t.length ≤ limit then t else t.take limit ++ "...".toList := by
  have hspells : Spells t t.words := spells_iff.2 rfl
  rw [hspells.compact_eq, hspells.joinWith_eq h]

theorem isSpaced_compact (limit : Nat) (t : Text) : (compact limit t).IsSpaced := by
  have hspells : Spells t t.words := spells_iff.2 rfl
  have hline := isSpaced_joinWith fun _ hword => hspells.isWord hword
  rw [hspells.compact_eq]
  split
  · exact hline
  · exact hline.take_append_dots limit

/-- A compact line that was cut is longer than the limit, and is cut at the same place again. -/
theorem compact_compact (limit : Nat) (t : Text) :
    compact limit (compact limit t) = compact limit t := by
  rw [(isSpaced_compact limit t).compact_eq]
  split
  · rfl
  · next hlong =>
    rw [compact] at hlong ⊢
    split at hlong
    · next hshort => exact absurd hshort hlong
    · next hcut =>
      rw [if_neg hcut, List.take_append_of_le_length (by simp; omega), List.take_take, Nat.min_self]

/-- **A compact line is short, has single spaces only, and stays as it is.** A text spells one list
of words, and all that a compact line keeps of it is this list: where the words with one space
between them have no more characters than the limit, they are the line, and otherwise the first
characters of them are, up to the limit, with three dots. To make it compact again does nothing,
although a cut line is longer than the limit. -/
theorem compact_spells (limit : Nat) (t : Text) :
    ∃ words, (∀ ws, Spells t ws ↔ ws = words) ∧
      let line := joinWith [' '] words
      let short := compact limit t
      short.IsSpaced ∧ short.length ≤ limit + 3 ∧
      (line.length ≤ limit → short = line) ∧
      (limit < line.length → short = line.take limit ++ "...".toList) ∧
      (∀ other, Spells other words → compact limit other = short) ∧
      compact limit short = short := by
  have hspells : Spells t t.words := spells_iff.2 rfl
  refine ⟨t.words, fun ws => spells_iff, isSpaced_compact limit t, ?_, fun hline => ?_,
    fun hline => ?_, fun other hother => ?_, compact_compact limit t⟩
  · rw [hspells.compact_eq]
    split
    · omega
    · have hdots : "...".toList.length = 3 := rfl
      rw [List.length_append, hdots]
      exact Nat.add_le_add_right (List.length_take_le _ _) 3
  · rw [hspells.compact_eq, if_pos hline]
  · rw [hspells.compact_eq, if_neg (Nat.not_le.2 hline)]
  · rw [hspells.compact_eq, hother.compact_eq]

/-- A cut behind a space, in a text with blanks of several kinds. -/
theorem compact_spells_cut :
    let t : Text := "\u3000a\tb\n\u00a0 cd ".toList
    let other : Text := "a b cd".toList
    let words := ["a".toList, "b".toList, "cd".toList]
    Spells t words ∧ Spells other words ∧ 2 < (joinWith [' '] words).length ∧
      compact 2 t = "a ...".toList ∧ compact 2 other = compact 2 t ∧
      compact 6 t = "a b cd".toList ∧ compact 2 "a ...".toList = "a ...".toList := by
  intro t other words
  have hspells : Spells t words := spells_iff.2 (by decide +kernel)
  have hother : Spells other words := spells_iff.2 (by decide +kernel)
  have hlong : 2 < (joinWith [' '] words).length := by decide
  obtain ⟨ws, hws, -, -, -, hcut, hsame, hagain⟩ := compact_spells 2 t
  obtain rfl := (hws words).1 hspells
  obtain ⟨ws, hws, -, -, hwhole, -, -, -⟩ := compact_spells 6 t
  obtain rfl := (hws words).1 hspells
  have hline : compact 2 t = "a ...".toList := hcut hlong
  refine ⟨hspells, hother, hlong, hline, hsame other hother, hwhole (by decide), ?_⟩
  rw [← hline]
  exact hagain

end Text

end CorpusLint
