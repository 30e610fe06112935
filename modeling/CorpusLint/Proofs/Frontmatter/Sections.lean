import CorpusLint.Frontmatter
import CorpusLint.Proofs.Text.Lines

/-!
# Header and body as parts of the text

A text has a header or it is all body (`parting_or_lt`): the pieces of a text with two delimiter
lines are parted by them (`Parting`), and its sections are read off the parts (`Parting.split_eq`).
The cut is made at the second delimiter line and nothing after it is looked at, so that a text may
grow at its end without any effect on its header (`split_append`), and one that ends with its header
leaves the body to what follows (`EndsHeader.split_append`).
-/

namespace CorpusLint

namespace Frontmatter

/-! ## Pieces around a delimiter -/

section Pieces

variable {before after pieces : List Text} {piece : Text}

theorem countP_plain (h : ∀ piece ∈ pieces, isDelimiter piece = false) :
    pieces.countP isDelimiter = 0 := by
  rw [List.countP_eq_zero]
  intro piece hpiece
  rw [h piece hpiece]
  exact Bool.false_ne_true

theorem dropWhile_plain (h : ∀ piece ∈ pieces, isDelimiter piece = false) :
    (pieces.dropWhile fun piece => !isDelimiter piece) = [] := by
  rw [List.dropWhile_eq_nil_iff]
  intro piece hpiece
  rw [h piece hpiece]
  rfl

theorem dropWhile_parted (hbefore : ∀ piece ∈ before, isDelimiter piece = false)
    (hpiece : isDelimiter piece = true) :
    ((before ++ piece :: after).dropWhile fun piece => !isDelimiter piece) = piece :: after := by
  rw [List.dropWhile_append, dropWhile_plain hbefore]
  simp [hpiece]

theorem takeWhile_parted (hbefore : ∀ piece ∈ before, isDelimiter piece = false)
    (hpiece : isDelimiter piece = true) :
    ((before ++ piece :: after).takeWhile fun piece => !isDelimiter piece) = before := by
  rw [List.takeWhile_append_of_pos]
  · simp [hpiece]
  · intro piece hmem
    rw [hbefore piece hmem]
    rfl

/-- The first delimiter line stands in one place. -/
theorem parted_inj {others rest : List Text} {first : Text}
    (hbefore : ∀ piece ∈ before, isDelimiter piece = false) (hpiece : isDelimiter piece = true)
    (hothers : ∀ piece ∈ others, isDelimiter piece = false) (hfirst : isDelimiter first = true)
    (h : before ++ piece :: after = others ++ first :: rest) :
    before = others ∧ piece = first ∧ after = rest := by
  have hsame : before = others := by
    rw [← takeWhile_parted hbefore hpiece, h, takeWhile_parted hothers hfirst]
  subst hsame
  exact ⟨rfl, List.cons.inj (List.append_cancel_left h)⟩

theorem plain_or_parted (pieces : List Text) :
    (∀ piece ∈ pieces, isDelimiter piece = false) ∨
      ∃ before piece after, pieces = before ++ piece :: after ∧
        (∀ piece ∈ before, isDelimiter piece = false) ∧ isDelimiter piece = true := by
  cases hfind : pieces.find? isDelimiter with
  | none =>
    refine .inl fun piece hpiece => ?_
    simpa using List.find?_eq_none.1 hfind piece hpiece
  | some piece =>
    obtain ⟨hpiece, before, after, hpieces, hbefore⟩ := List.find?_eq_some_iff_append.1 hfind
    exact .inr ⟨before, piece, after, hpieces, by simpa using hbefore, hpiece⟩

end Pieces

/-! ## The sections of a text -/

/-- The pieces of a text around its first two delimiter lines. -/
structure Parting (raw : Text) where
  before : List Text
  opening : Text
  inner : List Text
  closing : Text
  after : List Text
  pieces_eq : raw.pieces = before ++ opening :: (inner ++ closing :: after)
  before_plain : ∀ piece ∈ before, isDelimiter piece = false
  opening_delimits : isDelimiter opening = true
  inner_plain : ∀ piece ∈ inner, isDelimiter piece = false
  closing_delimits : isDelimiter closing = true

namespace Parting

variable {raw : Text}

theorem split_eq (p : Parting raw) : split raw = ⟨p.inner.flatten, p.after.flatten⟩ := by
  rw [split, p.pieces_eq, dropWhile_parted p.before_plain p.opening_delimits]
  simp only [dropWhile_parted p.inner_plain p.closing_delimits,
    takeWhile_parted p.inner_plain p.closing_delimits]

theorem countP_pieces (p : Parting raw) :
    raw.pieces.countP isDelimiter = p.after.countP isDelimiter + 2 := by
  rw [p.pieces_eq, List.countP_append, List.countP_cons_of_pos p.opening_delimits,
    List.countP_append, List.countP_cons_of_pos p.closing_delimits, countP_plain p.before_plain,
    countP_plain p.inner_plain]
  omega

theorem getLast?_pieces (p : Parting raw) (h : p.after ≠ []) :
    raw.pieces.getLast? = p.after.getLast? := by
  have hpieces : raw.pieces = (p.before ++ p.opening :: (p.inner ++ [p.closing])) ++ p.after := by
    rw [p.pieces_eq]
    simp
  rw [hpieces, List.getLast?_append_of_ne_nil _ h]

/-- The delimiter lines part a text in one way. -/
theorem unique (d e : Parting raw) : d = e := by
  have hpieces := d.pieces_eq.symm.trans e.pieces_eq
  obtain ⟨hbefore, hopening, hrest⟩ :=
    parted_inj d.before_plain d.opening_delimits e.before_plain e.opening_delimits hpieces
  obtain ⟨hinner, hclosing, hafter⟩ :=
    parted_inj d.inner_plain d.closing_delimits e.inner_plain e.closing_delimits hrest
  cases d
  cases e
  cases hbefore
  cases hopening
  cases hinner
  cases hclosing
  cases hafter
  rfl

theorem flatten_eq (p : Parting raw) :
    raw = p.before.flatten ++ p.opening ++ (split raw).header ++
      (p.closing ++ (split raw).body) := by
  have hraw := Text.flatten_pieces raw
  rw [p.pieces_eq, List.flatten_append, List.flatten_cons, List.flatten_append, List.flatten_cons]
    at hraw
  rw [p.split_eq, List.append_assoc, List.append_assoc]
  exact hraw.symm

/-- What is added behind the last line feed of a text goes to the end. -/
def append (p : Parting raw) (h : ['\n'] <:+ raw) (more : Text) : Parting (raw ++ more) where
  before := p.before
  opening := p.opening
  inner := p.inner
  closing := p.closing
  after := p.after ++ more.pieces
  pieces_eq := by simp [Text.pieces_append h, p.pieces_eq]
  before_plain := p.before_plain
  opening_delimits := p.opening_delimits
  inner_plain := p.inner_plain
  closing_delimits := p.closing_delimits

end Parting

/-- A text has two delimiter lines or more, or no header. -/
theorem parting_or_lt (raw : Text) :
    Nonempty (Parting raw) ∨ raw.pieces.countP isDelimiter < 2 ∧ split raw = ⟨[], raw⟩ := by
  rcases plain_or_parted raw.pieces with
    hplain | ⟨before, opening, rest, hpieces, hbefore, hopening⟩
  · refine .inr ⟨?_, ?_⟩
    · rw [countP_plain hplain]
      omega
    · rw [split, dropWhile_plain hplain]
  · rcases plain_or_parted rest with hplain | ⟨inner, closing, after, rfl, hinner, hclosing⟩
    · refine .inr ⟨?_, ?_⟩
      · rw [hpieces, List.countP_append, List.countP_cons_of_pos hopening, countP_plain hbefore,
          countP_plain hplain]
        omega
      · rw [split, hpieces, dropWhile_parted hbefore hopening]
        simp only [dropWhile_plain hplain]
    · exact .inl ⟨⟨before, opening, inner, closing, after, hpieces, hbefore, hopening, hinner,
        hclosing⟩⟩

theorem nonempty_parting {raw : Text} (h : 2 ≤ raw.pieces.countP isDelimiter) :
    Nonempty (Parting raw) := by
  rcases parting_or_lt raw with hparting | ⟨hlt, -⟩
  · exact hparting
  · omega

theorem nonempty_parting_of_header_ne {raw : Text} (h : (split raw).header ≠ []) :
    Nonempty (Parting raw) := by
  rcases parting_or_lt raw with hparting | ⟨-, hsplit⟩
  · exact hparting
  · rw [hsplit] at h
    exact absurd rfl h

/-- The header is a part of the text: it stands between the first two delimiter lines. -/
theorem infix_header (raw : Text) : (split raw).header <:+: raw := by
  by_cases h : (split raw).header = []
  · rw [h]
    exact List.nil_infix
  · obtain ⟨p⟩ := nonempty_parting_of_header_ne h
    exact ⟨_, _, p.flatten_eq.symm⟩

/-! ## Texts that grow -/

/-- **The header is settled by the second delimiter line.** What comes after the last line feed of a
text with a header goes to the body. -/
theorem split_append {raw : Text} (hparting : Nonempty (Parting raw)) (h : ['\n'] <:+ raw)
    (more : Text) : split (raw ++ more) = ⟨(split raw).header, (split raw).body ++ more⟩ := by
  obtain ⟨p⟩ := hparting
  rw [(p.append h more).split_eq, p.split_eq]
  simp [Parting.append, Text.flatten_pieces]

/-- The text ends with its second delimiter line, line feed included. -/
structure EndsHeader (front : Text) : Prop where
  delimiters : front.pieces.countP isDelimiter = 2
  last : front.pieces.getLast?.any isDelimiter = true
  terminated : ['\n'] <:+ front

namespace EndsHeader

variable {front : Text}

theorem nonempty_parting (h : EndsHeader front) : Nonempty (Parting front) :=
  Frontmatter.nonempty_parting (Nat.le_of_eq h.delimiters.symm)

theorem body_eq_nil (h : EndsHeader front) : (split front).body = [] := by
  obtain ⟨p⟩ := h.nonempty_parting
  have hcount : p.after.countP isDelimiter = 0 := by
    have := p.countP_pieces
    have := h.delimiters
    omega
  have hafter : p.after = [] := by
    by_contra hne
    -- the last piece would stand behind the second delimiter and be a third one
    have hlast := h.last
    rw [p.getLast?_pieces hne, List.getLast?_eq_some_getLast hne, Option.any_some] at hlast
    exact List.countP_eq_zero.1 hcount _ (List.getLast_mem hne) hlast
  rw [p.split_eq, hafter]
  rfl

/-- What follows the second delimiter line is the body, whatever it looks like. -/
theorem split_append (h : EndsHeader front) (body : Text) :
    split (front ++ body) = ⟨(split front).header, body⟩ := by
  rw [Frontmatter.split_append h.nonempty_parting h.terminated, h.body_eq_nil, List.nil_append]

end EndsHeader

end Frontmatter

end CorpusLint
