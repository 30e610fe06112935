import CorpusLint.Proofs.Text.Lines

/-!
# Escape sequences

A terminal takes an escape sequence for an instruction and shows what is left: the text without its
sequences (`withoutEscapes`). A sequence is an escape character, a bracket, parameters and one final
character, so that it ends where its first final character stands (`escapeLength?_eq_some_iff`).

Main statement: a sequence is on one line, so that a text without its escapes has the lines of the
text, each without its own (`IsWhole.pieces_withoutEscapes`).
-/

namespace CorpusLint

namespace Text

/-! ## Sequences -/

/-- The character that a sequence begins with. -/
def escape : Char :=
  '\x1b'

/-- The characters from the space to the question mark. -/
def isParameter (c : Char) : Bool :=
  0x20 ≤ c.toNat && c.toNat ≤ 0x3F

/-- The characters from the at sign to the tilde. -/
def isFinal (c : Char) : Bool :=
  0x40 ≤ c.toNat && c.toNat ≤ 0x7E

/-- An escape sequence, and nothing behind it. -/
def IsEscape (s : Text) : Prop :=
  ∃ parameters final, s = escape :: '[' :: (parameters ++ [final]) ∧
    (∀ c ∈ parameters, isParameter c = true) ∧ isFinal final = true

theorem escape_notMem_ofNat (n : Nat) : escape ∉ ofNat n :=
  notMem_ofNat (by decide) n

/-- The length of the sequence that a text begins with. -/
def escapeLength? : Text → Option Nat
  | first :: '[' :: t =>
    match first == escape, t.dropWhile isParameter with
    | true, final :: _ =>
      if isFinal final then some ((t.takeWhile isParameter).length + 3) else none
    | _, _ => none
  | _ => none

theorem isParameter_eq_false {c : Char} (h : isFinal c = true) : isParameter c = false := by
  simp only [isFinal, isParameter, Bool.and_eq_true, decide_eq_true_eq, Bool.and_eq_false_iff,
    decide_eq_false_iff_not] at h ⊢
  omega

theorem lineFeed_notMem_of_isEscape {s : Text} (h : IsEscape s) : '\n' ∉ s := by
  obtain ⟨parameters, final, rfl, hparameters, hfinal⟩ := h
  simp only [List.mem_cons, List.mem_append, List.not_mem_nil, or_false]
  rintro (hfeed | hfeed | hfeed | rfl)
  · exact absurd hfeed (by decide)
  · exact absurd hfeed (by decide)
  · exact absurd (hparameters _ hfeed) (by decide)
  · exact absurd hfinal (by decide)

theorem escapeLength?_append {s : Text} (h : IsEscape s) (rest : Text) :
    escapeLength? (s ++ rest) = some s.length := by
  obtain ⟨parameters, final, rfl, hparameters, hfinal⟩ := h
  have hplain : ¬ isParameter final = true := by simp [isParameter_eq_false hfinal]
  have htake : (parameters ++ final :: rest).takeWhile isParameter = parameters := by
    rw [List.takeWhile_append_of_pos hparameters, List.takeWhile_cons_of_neg hplain,
      List.append_nil]
  have hdrop : (parameters ++ final :: rest).dropWhile isParameter = final :: rest := by
    rw [List.dropWhile_append_of_pos hparameters, List.dropWhile_cons_of_neg hplain]
  have htext : escape :: '[' :: (parameters ++ [final]) ++ rest =
      escape :: '[' :: (parameters ++ final :: rest) := by simp
  rw [htext, escapeLength?, htake, hdrop]
  simp [hfinal]

/-- Where a text begins with a sequence, there is one such sequence. -/
theorem escapeLength?_eq_some_iff {t : Text} {n : Nat} :
    escapeLength? t = some n ↔ ∃ s rest, t = s ++ rest ∧ IsEscape s ∧ s.length = n := by
  constructor
  · intro h
    unfold escapeLength? at h
    split at h
    · next first t =>
      split at h
      · next final rest hfirst hdrop =>
        obtain ⟨hfinal, rfl⟩ := Option.ite_none_right_eq_some.1 h |>.imp_right Option.some.inj
        obtain rfl := eq_of_beq hfirst
        refine ⟨escape :: '[' :: (t.takeWhile isParameter ++ [final]), rest, ?_,
          ⟨_, final, rfl, fun _ => List.mem_takeWhile_imp, hfinal⟩, by simp⟩
        have ht := List.takeWhile_append_dropWhile (p := isParameter) (l := t)
        rw [hdrop] at ht
        simp [ht]
      · cases h
    · cases h
  · rintro ⟨s, rest, rfl, hs, rfl⟩
    exact escapeLength?_append hs rest

theorem escapeLength?_cons_of_ne {c : Char} (h : c ≠ escape) (t : Text) :
    escapeLength? (c :: t) = none := by
  rw [Option.eq_none_iff_forall_ne_some]
  intro n hn
  obtain ⟨s, rest, hs, ⟨parameters, final, rfl, -⟩, -⟩ := escapeLength?_eq_some_iff.1 hn
  exact h (List.cons.inj hs).1

/-- What stands behind a line feed is no part of a sequence before it. -/
theorem escapeLength?_append_lineFeed (line rest : Text) :
    escapeLength? (line ++ '\n' :: rest) = escapeLength? line := by
  apply Option.ext
  intro n
  rw [escapeLength?_eq_some_iff, escapeLength?_eq_some_iff]
  constructor
  · rintro ⟨s, after, hs, hescape, rfl⟩
    have hfeed := lineFeed_notMem_of_isEscape hescape
    rcases List.append_eq_append_iff.1 hs with ⟨middle, rfl, hmiddle⟩ | ⟨middle, rfl, -⟩
    · cases middle with
      | nil => exact ⟨line, [], by simp, by simpa using hescape, by simp⟩
      | cons c middle =>
        obtain ⟨rfl, -⟩ := List.cons.inj hmiddle
        exact absurd (List.mem_append_right line List.mem_cons_self) hfeed
    · exact ⟨s, middle, rfl, hescape, rfl⟩
  · rintro ⟨s, after, rfl, hescape, rfl⟩
    exact ⟨s, after ++ '\n' :: rest, List.append_assoc _ _ _, hescape, rfl⟩

/-! ## Texts without their sequences -/

/-- What is left of a text without the first `skip` characters and without escape sequences. -/
def withoutEscapesFrom (skip : Nat) : Text → Text
  | [] => []
  | c :: t =>
    match skip with
    | k + 1 => withoutEscapesFrom k t
    | 0 =>
      match escapeLength? (c :: t) with
      | some length => withoutEscapesFrom (length - 1) t
      | none => c :: withoutEscapesFrom 0 t

/-- What is left of a text without its escape sequences. -/
def withoutEscapes (t : Text) : Text :=
  withoutEscapesFrom 0 t

theorem withoutEscapesFrom_length (s rest : Text) :
    withoutEscapesFrom s.length (s ++ rest) = withoutEscapes rest := by
  induction s with
  | nil => rfl
  | cons c s ih => exact ih

/-- A sequence is deleted. -/
theorem IsEscape.withoutEscapes_append {s : Text} (h : IsEscape s) (rest : Text) :
    withoutEscapes (s ++ rest) = withoutEscapes rest := by
  have hlength := escapeLength?_append h rest
  obtain ⟨parameters, final, rfl, -⟩ := h
  rw [List.cons_append] at hlength ⊢
  rw [withoutEscapes, withoutEscapesFrom, hlength]
  exact withoutEscapesFrom_length ('[' :: (parameters ++ [final])) rest

/-- Any other character is kept. -/
theorem withoutEscapes_cons {c : Char} (h : c ≠ escape) (t : Text) :
    withoutEscapes (c :: t) = c :: withoutEscapes t := by
  rw [withoutEscapes, withoutEscapesFrom, escapeLength?_cons_of_ne h]
  rfl

theorem withoutEscapes_append {t : Text} (h : escape ∉ t) (rest : Text) :
    withoutEscapes (t ++ rest) = t ++ withoutEscapes rest := by
  induction t with
  | nil => rfl
  | cons c t ih =>
    obtain ⟨hc, ht⟩ := List.ne_and_not_mem_of_not_mem_cons h
    rw [List.cons_append, withoutEscapes_cons (Ne.symm hc), ih ht, List.cons_append]

/-! ## Lines -/

theorem withoutEscapesFrom_append_lineFeed {skip : Nat} {line : Text} (h : skip ≤ line.length)
    (rest : Text) :
    withoutEscapesFrom skip (line ++ '\n' :: rest) =
      withoutEscapesFrom skip line ++ '\n' :: withoutEscapes rest := by
  induction line generalizing skip with
  | nil =>
    obtain rfl : skip = 0 := Nat.le_zero.1 h
    exact withoutEscapes_cons (by decide) rest
  | cons c line ih =>
    cases skip with
    | succ k => exact ih (Nat.le_of_succ_le_succ h)
    | zero =>
      have hsame := escapeLength?_append_lineFeed (c :: line) rest
      rw [List.cons_append] at hsame ⊢
      rw [withoutEscapesFrom, withoutEscapesFrom, hsame]
      cases hlength : escapeLength? (c :: line) with
      | none => exact congrArg (c :: ·) (ih (Nat.zero_le _))
      | some length =>
        obtain ⟨s, after, hs, -, rfl⟩ := escapeLength?_eq_some_iff.1 hlength
        have hle : s.length ≤ line.length + 1 := by
          rw [← List.length_cons, hs, List.length_append]
          exact Nat.le_add_right _ _
        exact ih (Nat.sub_le_of_le_add hle)

theorem withoutEscapes_append_lineFeed (line rest : Text) :
    withoutEscapes (line ++ '\n' :: rest) = withoutEscapes line ++ '\n' :: withoutEscapes rest :=
  withoutEscapesFrom_append_lineFeed (Nat.zero_le _) rest

theorem withoutEscapesFrom_subset (skip : Nat) (t : Text) : withoutEscapesFrom skip t ⊆ t := by
  induction t generalizing skip with
  | nil => exact List.Subset.refl []
  | cons c t ih =>
    cases skip with
    | succ k => exact List.subset_cons_of_subset c (ih k)
    | zero =>
      rw [withoutEscapesFrom]
      cases escapeLength? (c :: t) with
      | none => exact List.cons_subset_cons c (ih 0)
      | some length => exact List.subset_cons_of_subset c (ih _)

/-- No sequence runs over the end of a line. -/
theorem IsWhole.pieces_withoutEscapes {t : Text} (h : t.IsWhole) :
    pieces t.withoutEscapes = t.pieces.map withoutEscapes := by
  induction t using lineInduction with
  | last line hline =>
    rcases h with rfl | hsuffix
    · rfl
    · exact absurd (hsuffix.subset (List.mem_singleton.2 rfl)) hline
  | next line rest hline ih =>
    have hfeed : '\n' ∉ line.withoutEscapes :=
      fun hmem => hline (withoutEscapesFrom_subset 0 line hmem)
    rw [withoutEscapes_append_lineFeed, pieces_append_cons _ hfeed, pieces_append_cons _ hline,
      List.map_cons, withoutEscapes_append_lineFeed, ih h.of_append_cons]
    rfl

/-! ## What a text shows -/

/-- What is left of `coloured` without its sequences is `plain`, whatever stands behind it. -/
def Shows (coloured plain : Text) : Prop :=
  ∀ rest, withoutEscapes (coloured ++ rest) = plain ++ withoutEscapes rest

theorem shows_refl {t : Text} (h : escape ∉ t) : Shows t t :=
  withoutEscapes_append h

variable {a b c d : Text}

theorem Shows.append (h : Shows a b) (hnext : Shows c d) : Shows (a ++ c) (b ++ d) := by
  intro rest
  rw [List.append_assoc, h, hnext, List.append_assoc]

theorem Shows.append_same (h : Shows a b) {t : Text} (ht : escape ∉ t) :
    Shows (a ++ t) (b ++ t) :=
  h.append (shows_refl ht)

theorem shows_flatMap {α : Type} {items : List α} {coloured plain : α → Text}
    (h : ∀ x ∈ items, Shows (coloured x) (plain x)) :
    Shows (items.flatMap coloured) (items.flatMap plain) := by
  induction items with
  | nil => exact shows_refl List.not_mem_nil
  | cons x items ih =>
    obtain ⟨hx, hitems⟩ := List.forall_mem_cons.1 h
    exact hx.append (ih hitems)

theorem Shows.withoutEscapes_eq (h : Shows a b) : withoutEscapes a = b := by
  have hrest := h []
  rw [List.append_nil] at hrest
  exact hrest.trans (List.append_nil b)

/-- Line for line. -/
theorem Shows.pieces_eq (h : Shows a b) (hwhole : a.IsWhole) :
    a.pieces.map withoutEscapes = b.pieces := by
  rw [← hwhole.pieces_withoutEscapes, h.withoutEscapes_eq]

end Text

end CorpusLint
