import CorpusLint.Proofs.Frontmatter.Sections
import CorpusLint.Proofs.Text.Slice

/-!
# The one way to cut a text

A text with two delimiter lines is written in one way as five parts that fit together, and its
header and its body are two of them. What the parts are can be read off the pieces of the text
(`Parting.parts`), and the pieces off the parts (`Parts.Fits.parting`). The loop that counts offsets
stands at the size of what it has passed (`splitFrom?_append`), so that both of its slices exist.

Main statement: `split_decomposition`.
-/

namespace CorpusLint

namespace Frontmatter

/-! ## Five parts -/

/-- A text in five parts. -/
structure Parts where
  before : Text
  opening : Text
  header : Text
  closing : Text
  body : Text

/-- A line that is a delimiter. -/
structure IsDelimiterLine (line : Text) : Prop where
  pieces_eq : line.pieces = [line]
  delimits : isDelimiter line = true

/-- Whole lines, none of which is a delimiter. -/
structure IsPlain (t : Text) : Prop where
  whole : t.IsWhole
  plain : ∀ piece ∈ t.pieces, isDelimiter piece = false

namespace Parts

def text (p : Parts) : Text :=
  p.before ++ p.opening ++ p.header ++ p.closing ++ p.body

/-- The parts are those around the first two delimiter lines of their text. -/
structure Fits (p : Parts) : Prop where
  before : IsPlain p.before
  opening : IsDelimiterLine p.opening
  opening_ends : ['\n'] <:+ p.opening
  header : IsPlain p.header
  closing : IsDelimiterLine p.closing
  closing_ends : ['\n'] <:+ p.closing ∨ p.body = []

variable {p : Parts}

theorem Fits.pieces_text (h : p.Fits) : p.text.pieces =
    p.before.pieces ++ p.opening :: (p.header.pieces ++ p.closing :: p.body.pieces) := by
  have hbody : Text.pieces (p.closing ++ p.body) = p.closing :: p.body.pieces := by
    rcases h.closing_ends with hends | hnil
    · rw [Text.pieces_append hends, h.closing.pieces_eq]
      rfl
    · rw [hnil, List.append_nil, h.closing.pieces_eq]
      rfl
  rw [text, List.append_assoc, List.append_assoc, List.append_assoc,
    h.before.whole.pieces_append, Text.pieces_append h.opening_ends, h.opening.pieces_eq,
    h.header.whole.pieces_append, hbody]
  rfl

/-- The pieces around the delimiter lines. -/
def Fits.parting (h : p.Fits) : Parting p.text where
  before := p.before.pieces
  opening := p.opening
  inner := p.header.pieces
  closing := p.closing
  after := p.body.pieces
  pieces_eq := h.pieces_text
  before_plain := h.before.plain
  opening_delimits := h.opening.delimits
  inner_plain := h.header.plain
  closing_delimits := h.closing.delimits

end Parts

namespace Parting

variable {raw : Text}

/-- The parts that the pieces make up. -/
def parts (d : Parting raw) : Parts where
  before := d.before.flatten
  opening := d.opening
  header := d.inner.flatten
  closing := d.closing
  body := d.after.flatten

theorem text_parts (d : Parting raw) : d.parts.text = raw := by
  have hraw := Text.flatten_pieces raw
  rw [d.pieces_eq] at hraw
  simpa [Parts.text, parts] using hraw

theorem fits_parts (d : Parting raw) : d.parts.Fits := by
  obtain ⟨hbefore, hrest, hbeforeWhole⟩ := Text.of_pieces_eq_append d.pieces_eq
  obtain ⟨hopening, htail, hopeningEnds⟩ := Text.of_pieces_eq_cons hrest
  obtain ⟨hinner, hlast, hinnerWhole⟩ := Text.of_pieces_eq_append htail
  obtain ⟨hclosing, -, hclosingEnds⟩ := Text.of_pieces_eq_cons hlast
  exact {
    before := ⟨hbeforeWhole (List.cons_ne_nil _ _), hbefore.symm ▸ d.before_plain⟩
    opening := ⟨hopening, d.opening_delimits⟩
    opening_ends := hopeningEnds (by simp)
    header := ⟨hinnerWhole (List.cons_ne_nil _ _), hinner.symm ▸ d.inner_plain⟩
    closing := ⟨hclosing, d.closing_delimits⟩
    closing_ends := by
      by_cases hnil : d.after = []
      · exact .inr (congrArg List.flatten hnil)
      · exact .inl (hclosingEnds hnil) }

end Parting

namespace Parts

variable {p q : Parts}

theorem Fits.parts_parting (h : p.Fits) : h.parting.parts = p := by
  simp only [Parting.parts, Fits.parting, Text.flatten_pieces]

theorem Fits.text_inj (hp : p.Fits) (hq : q.Fits) (h : p.text = q.text) : p = q := by
  obtain ⟨d, hd⟩ : ∃ d : Parting q.text, d.parts = p := h ▸ ⟨hp.parting, hp.parts_parting⟩
  rw [← hd, d.unique hq.parting, hq.parts_parting]

theorem Fits.split_text (h : p.Fits) : split p.text = ⟨p.header, p.body⟩ := by
  rw [h.parting.split_eq]
  simp only [Fits.parting, Text.flatten_pieces]

end Parts

/-! ## Offsets -/

section Offsets

variable {raw piece : Text} {rest : List Text} {opened : Option Nat} {start offset : Nat}

theorem splitFrom?_cons_plain (h : isDelimiter piece = false) :
    splitFrom? raw opened offset (piece :: rest) =
      splitFrom? raw opened (offset + Text.byteSize piece) rest := by
  simp [splitFrom?.eq_def raw opened offset (piece :: rest), h]

theorem splitFrom?_cons_opening (h : isDelimiter piece = true) :
    splitFrom? raw none offset (piece :: rest) =
      splitFrom? raw (some (offset + Text.byteSize piece)) (offset + Text.byteSize piece) rest := by
  simp [splitFrom?.eq_def raw none offset (piece :: rest), h]

theorem splitFrom?_cons_closing (h : isDelimiter piece = true) :
    splitFrom? raw (some start) offset (piece :: rest) =
      (raw.slice? start offset).bind fun header =>
        (raw.slice? (offset + Text.byteSize piece) raw.byteSize).map fun body =>
          ⟨header, body⟩ := by
  simp [splitFrom?.eq_def raw (some start) offset (piece :: rest), h]

/-- Lines that are no delimiters only move the offset. -/
theorem splitFrom?_append {before : List Text} (rest : List Text)
    (h : ∀ piece ∈ before, isDelimiter piece = false) :
    splitFrom? raw opened offset (before ++ rest) =
      splitFrom? raw opened (offset + Text.byteSize before.flatten) rest := by
  induction before generalizing offset with
  | nil => rfl
  | cons piece before ih =>
    obtain ⟨hpiece, hbefore⟩ := List.forall_mem_cons.1 h
    rw [List.cons_append, splitFrom?_cons_plain hpiece, ih hbefore, List.flatten_cons,
      Text.byteSize_append, Nat.add_assoc]

theorem splitFrom?_of_countP_lt {pieces : List Text}
    (h : pieces.countP isDelimiter + opened.toList.length < 2) :
    splitFrom? raw opened offset pieces = some ⟨[], raw⟩ := by
  induction pieces generalizing opened offset with
  | nil => rfl
  | cons piece pieces ih =>
    by_cases hpiece : isDelimiter piece = true
    · rw [List.countP_cons_of_pos hpiece] at h
      cases opened with
      | none =>
        rw [splitFrom?_cons_opening hpiece]
        exact ih h
      | some start =>
        rw [Option.toList_some, List.length_singleton] at h
        omega
    · rw [List.countP_cons_of_neg hpiece] at h
      rw [splitFrom?_cons_plain (Bool.eq_false_iff.2 hpiece)]
      exact ih h

end Offsets

/-- The slices of the header and of the body exist, whatever characters the text has. -/
theorem splitBySlice?_eq (raw : Text) : splitBySlice? raw = some (split raw) := by
  rcases parting_or_lt raw with ⟨⟨d⟩⟩ | ⟨hlt, hsplit⟩
  · have htext : raw = d.before.flatten ++ d.opening ++ d.inner.flatten ++ d.closing ++
        d.after.flatten := d.text_parts.symm
    have hheader : raw.slice? (0 + Text.byteSize d.before.flatten + Text.byteSize d.opening)
        (0 + Text.byteSize d.before.flatten + Text.byteSize d.opening +
          Text.byteSize d.inner.flatten) = some d.inner.flatten := by
      refine Text.slice?_eq_some_iff.2
        ⟨d.before.flatten ++ d.opening, d.closing ++ d.after.flatten, ?_, ?_, ?_⟩
      · simpa using htext
      · simp
      · simp [Nat.add_assoc]
    have hbody : raw.slice? (0 + Text.byteSize d.before.flatten + Text.byteSize d.opening +
        Text.byteSize d.inner.flatten + Text.byteSize d.closing) raw.byteSize =
          some d.after.flatten := by
      refine Text.slice?_eq_some_iff.2
        ⟨d.before.flatten ++ d.opening ++ d.inner.flatten ++ d.closing, [], ?_, ?_, ?_⟩
      · simpa using htext
      · simp [Nat.add_assoc]
      · exact congrArg Text.byteSize htext.symm
    rw [splitBySlice?, d.pieces_eq, splitFrom?_append _ d.before_plain,
      splitFrom?_cons_opening d.opening_delimits, splitFrom?_append _ d.inner_plain,
      splitFrom?_cons_closing d.closing_delimits, hheader, hbody, d.split_eq]
    rfl
  · rw [hsplit]
    exact splitFrom?_of_countP_lt hlt

/-- **A text is cut in one way.** A text with fewer than two delimiter lines is all body. Any other
is written in exactly one way as five parts that fit, and its sections are the third of them and the
last. So they are for any parts that fit, and the slices that give them always exist. -/
theorem split_decomposition :
    (∀ raw : Text, raw.pieces.countP isDelimiter < 2 → split raw = ⟨[], raw⟩) ∧
    (∀ raw : Text, 2 ≤ raw.pieces.countP isDelimiter →
      ∃ p : Parts, (p.Fits ∧ p.text = raw) ∧ (∀ q : Parts, q.Fits → q.text = raw → q = p) ∧
        split raw = ⟨p.header, p.body⟩) ∧
    (∀ p : Parts, p.Fits → split p.text = ⟨p.header, p.body⟩) ∧
    ∀ raw : Text, splitBySlice? raw = some (split raw) := by
  refine ⟨?_, ?_, fun p hp => hp.split_text, splitBySlice?_eq⟩
  · intro raw hlt
    rcases parting_or_lt raw with ⟨⟨d⟩⟩ | ⟨-, hsplit⟩
    · have hcount := d.countP_pieces
      omega
    · exact hsplit
  · intro raw hle
    obtain ⟨d⟩ := nonempty_parting hle
    refine ⟨d.parts, ⟨d.fits_parts, d.text_parts⟩, ?_, d.split_eq⟩
    intro q hq htext
    exact hq.text_inj d.fits_parts (htext.trans d.text_parts.symm)

/-- One delimiter line ends with a wide blank, the other with the text. -/
theorem split_decomposition_unterminated :
    split "---\nname: a\n".toList = ⟨[], "---\nname: a\n".toList⟩ ∧
    split "intro\n---\u2003\nname: a\n---".toList = ⟨"name: a\n".toList, []⟩ ∧
    ∀ q : Parts, q.Fits → q.text = "intro\n---\u2003\nname: a\n---".toList →
      q = ⟨"intro\n".toList, "---\u2003\n".toList, "name: a\n".toList, "---".toList, []⟩ := by
  obtain ⟨hall, hone, hsplit, -⟩ := split_decomposition
  have hfits : Parts.Fits
      ⟨"intro\n".toList, "---\u2003\n".toList, "name: a\n".toList, "---".toList, []⟩ :=
    ⟨⟨by decide, by decide⟩, ⟨by decide, by decide⟩, by decide, ⟨by decide, by decide⟩,
      ⟨by decide, by decide⟩, by decide⟩
  obtain ⟨p, -, hunique, -⟩ := hone "intro\n---\u2003\nname: a\n---".toList (by decide)
  refine ⟨hall _ (by decide), hsplit _ hfits, ?_⟩
  intro q hq htext
  rw [hunique q hq htext, hunique _ hfits rfl]

end Frontmatter

end CorpusLint
