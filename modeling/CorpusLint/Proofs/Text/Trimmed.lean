import CorpusLint.Proofs.Text.SingleLine

/-!
# Trimmed texts

A text is *trimmed* when it has no blank at either end. That is what a trim gives
(`isTrimmed_trim`), and a trim gives it back from between any blanks
(`IsTrimmed.trim_surrounded`). A trim keeps the trimmed parts of a text
(`IsTrimmed.infix_trim_iff`), and trimmed parts make up a trimmed text (`isTrimmed_joinWith`).
-/

namespace CorpusLint

namespace Text

/-- Neither the first nor the last character is a blank. -/
structure IsTrimmed (t : Text) : Prop where
  head : ∀ c ∈ t.head?, CorpusLint.isBlank c = false
  last : ∀ c ∈ t.getLast?, CorpusLint.isBlank c = false

theorem isTrimmed_iff {t : Text} :
    t.IsTrimmed ↔ (t.head?.all fun c => !CorpusLint.isBlank c) = true ∧
      (t.getLast?.all fun c => !CorpusLint.isBlank c) = true := by
  simp only [Option.all_eq_true, Bool.not_eq_true']
  exact ⟨fun h => ⟨h.head, h.last⟩, fun h => ⟨h.1, h.2⟩⟩

instance (t : Text) : Decidable t.IsTrimmed :=
  decidable_of_iff' _ isTrimmed_iff

/-! ## What a trim gives -/

theorem isTrimmed_trim (t : Text) : t.trim.IsTrimmed := by
  rw [trim, trimEnd_eq]
  constructor
  · intro c hc
    obtain ⟨rest, hrest⟩ := List.head?_eq_some_iff.1 hc
    -- the end is trimmed last, so that the first character is still that of the trimmed start
    have hstart : c :: rest <+: t.trimStart := hrest ▸ List.rdropWhile_prefix _ _
    obtain ⟨after, hafter⟩ := hstart
    have hhead := List.head?_dropWhile_not CorpusLint.isBlank t
    rw [← trimStart, ← hafter] at hhead
    exact hhead
  · intro c hc
    obtain ⟨hne, rfl⟩ := List.mem_getLast?_eq_getLast hc
    rw [← Bool.not_eq_true]
    exact List.rdropWhile_last_not _ _ hne

variable {t : Text}

theorem IsTrimmed.trim_eq (h : t.IsTrimmed) : t.trim = t := by
  have hstart : t.trimStart = t := by
    cases t with
    | nil => rfl
    | cons c rest => exact List.dropWhile_cons_of_neg (by simp [h.head c rfl])
  rw [trim, hstart, trimEnd_eq, List.rdropWhile_eq_self_iff]
  intro hne
  simp [h.last _ (List.getLast?_eq_some_getLast hne)]

theorem trim_blank_append {blanks : Text} (hblank : blanks.isBlank = true) (t : Text) :
    (blanks ++ t).trim = t.trim := by
  rw [trim, trimStart, List.dropWhile_append_of_pos (List.all_eq_true.1 hblank)]
  rfl

/-- A trim takes the blanks around a trimmed text away and nothing else. -/
theorem IsTrimmed.trim_surrounded (h : t.IsTrimmed) {before after : Text}
    (hbefore : before.isBlank = true) (hafter : after.isBlank = true) :
    (before ++ t ++ after).trim = t := by
  rw [trim_append_of_blank _ (List.all_eq_true.1 hafter), trim_blank_append hbefore, h.trim_eq]

/-! ## A trimmed part of a text -/

theorem trim_isInfix (t : Text) : t.trim <:+: t :=
  (List.rdropWhile_prefix _ _).isInfix.trans (List.dropWhile_suffix _).isInfix

theorem trimStart_append_cons {c : Char} (h : CorpusLint.isBlank c = false) (before after : Text) :
    trimStart (before ++ c :: after) = before.trimStart ++ c :: after := by
  rw [trimStart, List.dropWhile_append]
  split
  · next hnil =>
    rw [List.dropWhile_cons_of_neg (by simp [h]), trimStart, List.isEmpty_iff.1 hnil]
    rfl
  · rfl

theorem trimEnd_append_cons {c : Char} (h : CorpusLint.isBlank c = false) (before after : Text) :
    trimEnd (before ++ c :: after) = before ++ c :: after.trimEnd := by
  have hstart := trimStart_append_cons h after.reverse before.reverse
  rw [trimStart, trimStart] at hstart
  simp [trimEnd, hstart]

/-- A trim leaves a trimmed part where it is. -/
theorem IsTrimmed.trim_append_append {part : Text} (h : part.IsTrimmed) (hne : part ≠ [])
    (before after : Text) :
    trim (before ++ part ++ after) = before.trimStart ++ part ++ after.trimEnd := by
  have hstart : trimStart (before ++ part ++ after) = before.trimStart ++ part ++ after := by
    obtain ⟨c, rest, rfl⟩ := List.exists_cons_of_ne_nil hne
    simpa using trimStart_append_cons (h.head c rfl) before (rest ++ after)
  obtain ⟨init, c, rfl⟩ := (List.eq_nil_or_concat' part).resolve_left hne
  have hend := trimEnd_append_cons (h.last c List.getLast?_concat) (before.trimStart ++ init) after
  rw [trim, hstart]
  simpa using hend

theorem IsTrimmed.infix_trim_iff {part : Text} (h : part.IsTrimmed) (hne : part ≠ []) :
    part <:+: t.trim ↔ part <:+: t := by
  refine ⟨fun hpart => hpart.trans (trim_isInfix t), ?_⟩
  rintro ⟨before, after, rfl⟩
  rw [h.trim_append_append hne]
  exact List.infix_append _ _ _

/-! ## Parts of trimmed texts -/

/-- The end of a trimmed text is not blank. -/
theorem IsTrimmed.isBlank_suffix {start finish : Text} (h : (start ++ finish).IsTrimmed)
    (hne : finish ≠ []) : finish.isBlank = false := by
  rw [← Bool.not_eq_true, isBlank, List.all_eq_true]
  intro hblank
  have hwhole : (start ++ finish).getLast? = some (finish.getLast hne) := by
    rw [List.getLast?_append_of_ne_nil _ hne, List.getLast?_eq_some_getLast hne]
  have hlast := h.last _ hwhole
  rw [hblank _ (List.getLast_mem hne)] at hlast
  cases hlast

theorem IsTrimmed.isBlank_eq_false (h : t.IsTrimmed) (hne : t ≠ []) : t.isBlank = false :=
  @isBlank_suffix [] t h hne

/-- What stands between two trimmed texts does not matter. -/
theorem IsTrimmed.append {a b : Text} (ha : a.IsTrimmed) (hb : b.IsTrimmed) (hane : a ≠ [])
    (hbne : b ≠ []) (middle : Text) : (a ++ middle ++ b).IsTrimmed := by
  constructor
  · rw [List.append_assoc, List.head?_append_of_ne_nil _ hane]
    exact ha.head
  · rw [List.getLast?_append_of_ne_nil _ hbne]
    exact hb.last

theorem joinWith_ne_nil {separator : Text} {parts : List Text} (hne : parts ≠ [])
    (hparts : ∀ part ∈ parts, part ≠ []) : joinWith separator parts ≠ [] := by
  cases parts with
  | nil => exact absurd rfl hne
  | cons part parts =>
    have hpart : part ≠ [] := hparts part List.mem_cons_self
    cases parts with
    | nil => rwa [joinWith_singleton]
    | cons next parts => simp [joinWith_cons_cons, hpart]

theorem isTrimmed_joinWith {separator : Text} {parts : List Text}
    (hparts : ∀ part ∈ parts, part ≠ [] ∧ part.IsTrimmed) :
    (joinWith separator parts).IsTrimmed := by
  induction parts with
  | nil => exact ⟨by rintro c ⟨⟩, by rintro c ⟨⟩⟩
  | cons part parts ih =>
    obtain ⟨⟨hne, htrimmed⟩, hrest⟩ := List.forall_mem_cons.1 hparts
    cases parts with
    | nil => rwa [joinWith_singleton]
    | cons next parts =>
      have hjoin : joinWith separator (next :: parts) ≠ [] :=
        joinWith_ne_nil (List.cons_ne_nil next parts) fun part hpart => (hrest part hpart).1
      rw [joinWith_cons_cons]
      exact htrimmed.append (ih hrest) hne hjoin separator

end Text

end CorpusLint
