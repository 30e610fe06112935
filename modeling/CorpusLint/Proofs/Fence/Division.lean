import CorpusLint.Fence
import CorpusLint.Proofs.Text.Lines

/-!
# The blocks of a text

The scan keeps the block that is open as its only state (`Fence.next`, `Fence.run`). It can
therefore be stopped at any line and taken up again (`outside_append`), and lines that are added at
the end of a text have no effect on those before them (`Text.IsWhole.unfencedLines_append`).

The lines of a text divide into plain lines, closed blocks and at most one block at the end that is
never closed (`Division`). A scan that keeps the lines of the block it stands in makes such a
division (`divideFrom`), and no other has the same lines (`divideFrom_lines`). The scan for the
lines outside fenced blocks goes along with it line by line (`outside_eq_plainLines`).

Main statement: `Text.unfencedLines_division`.
-/

namespace CorpusLint

/-! ## The scan -/

namespace Fence

/-- The block that is open after a line. -/
def next (current : Option Fence) (line : NumberedLine) : Option Fence :=
  match current with
  | some fence => if fence.closedBy line.text then none else some fence
  | none => opening? line.text

/-- The block that is open after some lines. -/
def run (current : Option Fence) (ls : List NumberedLine) : Option Fence :=
  ls.foldl next current

theorem outside_cons (current : Option Fence) (line : NumberedLine) (ls : List NumberedLine) :
    outside current (line :: ls) = outside current [line] ++ outside (next current line) ls := by
  cases current with
  | some fence => simp only [outside, next, List.nil_append]
  | none =>
    cases hopen : opening? line.text with
    | some fence => simp only [outside, next, hopen, List.nil_append]
    | none => simp only [outside, next, hopen, List.cons_append, List.nil_append]

theorem outside_append (current : Option Fence) (ls more : List NumberedLine) :
    outside current (ls ++ more) = outside current ls ++ outside (run current ls) more := by
  induction ls generalizing current with
  | nil => rfl
  | cons line ls ih =>
    rw [List.cons_append, outside_cons, ih, ← List.append_assoc, ← outside_cons]
    rfl

theorem outside_sublist (current : Option Fence) (ls : List NumberedLine) :
    (outside current ls).Sublist ls := by
  induction ls generalizing current with
  | nil => exact .slnil
  | cons line ls ih =>
    cases current with
    | some fence => exact (ih _).cons line
    | none =>
      cases hopen : opening? line.text with
      | some fence =>
        simp only [outside, hopen]
        exact (ih _).cons line
      | none =>
        simp only [outside, hopen]
        exact (ih _).cons_cons line

end Fence

theorem Text.IsWhole.unfencedLines_append {t : Text} (h : t.IsWhole) (more : Text) :
    (t ++ more).unfencedLines =
      t.unfencedLines ++ Fence.outside (Fence.run none t.numberedLines)
        (numberFrom (1 + t.lines.length) more.lines) := by
  rw [unfencedLines, numberedLines, h.lines_append, numberFrom_append, Fence.outside_append]
  rfl

namespace Fence

/-! ## What a line does -/

/-- The line begins, after blanks, with a run of exactly this length. -/
structure Opens (fence : Fence) (line : Text) : Prop where
  marker : isMarker fence.marker = true
  length : 3 ≤ fence.length
  run : ∃ rest, line.trimStart = List.replicate fence.length fence.marker ++ rest ∧
    rest.head? ≠ some fence.marker

/-- Between blanks, the line is a run of the marker that is long enough, and nothing else. -/
def Closes (fence : Fence) (line : Text) : Prop :=
  ∃ n, fence.length ≤ n ∧ line.trim = List.replicate n fence.marker

/-- The line does not begin, after blanks, with three backticks or three tildes. -/
def IsPlain (line : Text) : Prop :=
  ∀ c ∈ ['\x60', '~'], ¬ List.replicate 3 c <+: line.trimStart

variable {line rest : Text} {fence : Fence}

theorem mem_markers_iff {c : Char} : c ∈ ['\x60', '~'] ↔ isMarker c = true := by
  simp [isMarker]

theorem isBlank_eq_false_of_isMarker {c : Char} (h : isMarker c = true) : isBlank c = false := by
  rcases Bool.or_eq_true_iff.1 h with h | h
  · rw [eq_of_beq h]
    rfl
  · rw [eq_of_beq h]
    rfl

theorem takeWhile_eq_replicate (c : Char) (t : Text) :
    t.takeWhile (· == c) = List.replicate (t.takeWhile (· == c)).length c := by
  refine List.eq_replicate_of_mem fun d hd => ?_
  have heq := List.mem_takeWhile_imp hd
  exact eq_of_beq heq

theorem head?_dropWhile_ne (c : Char) (t : Text) : (t.dropWhile (· == c)).head? ≠ some c := by
  intro hhead
  have hnot := List.head?_dropWhile_not (· == c) t
  rw [hhead] at hnot
  simp at hnot

theorem takeWhile_replicate_append {c : Char} (n : Nat) (h : rest.head? ≠ some c) :
    (List.replicate n c ++ rest).takeWhile (· == c) = List.replicate n c ∧
      (List.replicate n c ++ rest).dropWhile (· == c) = rest := by
  have hrun : ∀ d ∈ List.replicate n c, (d == c) = true := by
    intro d hd
    rw [List.eq_of_mem_replicate hd, beq_self_eq_true]
  rw [List.takeWhile_append_of_pos hrun, List.dropWhile_append_of_pos hrun]
  cases rest with
  | nil => exact ⟨List.append_nil _, rfl⟩
  | cons d rest =>
    have hd : (d == c) = false := by simpa using h
    simp [hd]

theorem run?_eq_some_iff :
    run? line = some (fence, rest) ↔ isMarker fence.marker = true ∧ 3 ≤ fence.length ∧
      line.trimStart = List.replicate fence.length fence.marker ++ rest ∧
        rest.head? ≠ some fence.marker := by
  unfold run?
  constructor
  · intro h
    split at h
    · cases h
    · next c t htrim =>
      dsimp only at h
      split at h
      · next hrun =>
        obtain ⟨rfl, rfl⟩ := Prod.mk.inj (Option.some.inj h)
        obtain ⟨hmarker, hlength⟩ := Bool.and_eq_true_iff.1 hrun
        refine ⟨hmarker, of_decide_eq_true hlength, ?_, head?_dropWhile_ne c t⟩
        rw [htrim, List.replicate_succ, List.cons_append, ← takeWhile_eq_replicate,
          List.takeWhile_append_dropWhile]
      · cases h
  · rintro ⟨hmarker, hlength, htrim, hhead⟩
    obtain ⟨c, n⟩ := fence
    obtain ⟨k, rfl⟩ : ∃ k, n = k + 1 := ⟨n - 1, by dsimp only at hlength; omega⟩
    obtain ⟨htake, hdrop⟩ := takeWhile_replicate_append k hhead
    rw [htrim, List.replicate_succ, List.cons_append]
    dsimp only at hmarker hlength ⊢
    rw [htake, hdrop, List.length_replicate]
    simp [hmarker, hlength]

theorem opening?_eq_some_iff : opening? line = some fence ↔ fence.Opens line := by
  rw [opening?, Option.map_eq_some_iff]
  constructor
  · rintro ⟨⟨fence, rest⟩, hrun, rfl⟩
    obtain ⟨hmarker, hlength, htrim, hhead⟩ := run?_eq_some_iff.1 hrun
    exact ⟨hmarker, hlength, rest, htrim, hhead⟩
  · rintro ⟨hmarker, hlength, rest, htrim, hhead⟩
    exact ⟨(fence, rest), run?_eq_some_iff.2 ⟨hmarker, hlength, htrim, hhead⟩, rfl⟩

theorem opening?_eq_none_iff : opening? line = none ↔ IsPlain line := by
  rw [Option.eq_none_iff_forall_ne_some]
  constructor
  · rintro h c hc ⟨t, ht⟩
    -- the three markers are the beginning of a run, which goes on as far as it can
    have hrun : line.trimStart = List.replicate (3 + (t.takeWhile (· == c)).length) c ++
        t.dropWhile (· == c) := by
      rw [← List.replicate_append_replicate, ← takeWhile_eq_replicate, List.append_assoc,
        List.takeWhile_append_dropWhile, ht]
    exact h ⟨c, 3 + (t.takeWhile (· == c)).length⟩ (opening?_eq_some_iff.2
      ⟨mem_markers_iff.1 hc, Nat.le_add_right _ _, _, hrun, head?_dropWhile_ne c t⟩)
  · intro h fence hopen
    obtain ⟨hmarker, hlength, rest, htrim, -⟩ := opening?_eq_some_iff.1 hopen
    apply h fence.marker (mem_markers_iff.2 hmarker)
    rw [htrim, ← Nat.add_sub_cancel' hlength, ← List.replicate_append_replicate, List.append_assoc]
    exact List.prefix_append _ _

theorem trimEnd_replicate {c : Char} (h : isBlank c = false) (n : Nat) :
    Text.trimEnd (List.replicate n c) = List.replicate n c := by
  rw [Text.trimEnd_eq, List.rdropWhile_eq_self_iff]
  intro hne
  rw [List.getLast_replicate, h]
  exact Bool.false_ne_true

theorem Opens.closedBy_iff {opening : Text} (h : fence.Opens opening) :
    fence.closedBy line = true ↔ fence.Closes line := by
  have hblank := isBlank_eq_false_of_isMarker h.marker
  unfold closedBy
  constructor
  · intro hclosed
    split at hclosed
    · next other rest hrun =>
      simp only [Bool.and_eq_true, beq_iff_eq, decide_eq_true_eq] at hclosed
      obtain ⟨⟨hmarker, hlength⟩, hrest⟩ := hclosed
      obtain ⟨-, -, htrim, -⟩ := run?_eq_some_iff.1 hrun
      refine ⟨other.length, hlength, ?_⟩
      rw [Text.trim, htrim, Text.trimEnd_append_of_blank _ (List.all_eq_true.1 hrest), hmarker,
        trimEnd_replicate hblank]
    · cases hclosed
  · rintro ⟨n, hlength, htrim⟩
    have hline : line.trimStart =
        List.replicate n fence.marker ++ line.trimStart.rtakeWhile isBlank := by
      rw [← htrim]
      exact List.rdropWhile_append_rtakeWhile.symm
    have hrest : ∀ c ∈ line.trimStart.rtakeWhile isBlank, isBlank c = true :=
      fun c hc => List.mem_rtakeWhile_imp hc
    have hrun : run? line = some (⟨fence.marker, n⟩, line.trimStart.rtakeWhile isBlank) := by
      refine run?_eq_some_iff.2 ⟨h.marker, h.length.trans hlength, hline, ?_⟩
      intro hhead
      rw [hrest _ (List.mem_of_head? hhead)] at hblank
      cases hblank
    rw [hrun]
    simp only [beq_self_eq_true, Bool.true_and, Bool.and_eq_true, decide_eq_true_eq]
    exact ⟨hlength, List.all_eq_true.2 hrest⟩

theorem closes_iff : fence.Closes line ↔
    fence.length ≤ line.trim.length ∧
      line.trim = List.replicate line.trim.length fence.marker := by
  constructor
  · rintro ⟨n, hlength, htrim⟩
    rw [htrim, List.length_replicate]
    exact ⟨hlength, rfl⟩
  · rintro ⟨hlength, htrim⟩
    exact ⟨_, hlength, htrim⟩

instance : Decidable (fence.Opens line) :=
  decidable_of_iff _ opening?_eq_some_iff

instance : Decidable (fence.Closes line) :=
  decidable_of_iff _ closes_iff.symm

instance : Decidable (IsPlain line) :=
  decidable_of_iff _ opening?_eq_none_iff

/-! ## Divisions -/

/-- Lines in blocks. -/
inductive Division
  | done
  | plain (line : Text) (rest : Division)
  | block (opening : Text) (interior : List Text) (closing : Text) (rest : Division)
  | unclosed (opening : Text) (interior : List Text)

namespace Division

def lines : Division → List Text
  | done => []
  | plain line rest => line :: rest.lines
  | block opening interior closing rest => opening :: (interior ++ closing :: rest.lines)
  | unclosed opening interior => opening :: interior

/-- Each block begins with a line that opens it and ends with the first line that closes it. -/
def IsValid : Division → Prop
  | done => True
  | plain line rest => IsPlain line ∧ rest.IsValid
  | block opening interior closing rest =>
    (∃ fence : Fence, fence.Opens opening ∧ (∀ line ∈ interior, ¬ fence.Closes line) ∧
      fence.Closes closing) ∧ rest.IsValid
  | unclosed opening interior =>
    ∃ fence : Fence, fence.Opens opening ∧ ∀ line ∈ interior, ¬ fence.Closes line

/-- The plain lines, where the first line of all has the number `start`. -/
def plainLines (start : Nat) : Division → List NumberedLine
  | done => []
  | plain line rest => ⟨start, line⟩ :: rest.plainLines (start + 1)
  | block _ interior _ rest => rest.plainLines (start + (interior.length + 2))
  | unclosed _ _ => []

end Division

/-! ## The scan as a division -/

/-- A block without a closing line as yet. -/
structure OpenBlock where
  fence : Fence
  opening : Text
  interior : List Text

/-- The division of some lines, where the first of them stands in the block `current`. -/
def divideFrom : Option OpenBlock → List Text → Division
  | none, [] => .done
  | some current, [] => .unclosed current.opening current.interior
  | none, line :: rest =>
    match opening? line with
    | some fence => divideFrom (some ⟨fence, line, []⟩) rest
    | none => .plain line (divideFrom none rest)
  | some current, line :: rest =>
    if current.fence.closedBy line then
      .block current.opening current.interior line (divideFrom none rest)
    else
      divideFrom (some { current with interior := current.interior ++ [line] }) rest

namespace OpenBlock

structure IsValid (b : OpenBlock) : Prop where
  opens : b.fence.Opens b.opening
  stays_open : ∀ line ∈ b.interior, ¬ b.fence.Closes line

/-- The lines that a scan has taken into the block that it stands in. -/
def heldLines (current : Option OpenBlock) : List Text :=
  current.elim [] fun b => b.opening :: b.interior

end OpenBlock

variable {current : Option OpenBlock} {ls : List Text}

theorem lines_divideFrom (current : Option OpenBlock) (ls : List Text) :
    (divideFrom current ls).lines = OpenBlock.heldLines current ++ ls := by
  -- No line is left, outside a block and in one; a line opens a block, or it is plain; a line
  -- closes the block that it stands in, or it is held with the others.
  fun_induction divideFrom current ls with
  | case1 => rfl
  | case2 b => simp [Division.lines, OpenBlock.heldLines]
  | case3 line rest fence hopen ih => rw [ih]; rfl
  | case4 line rest hopen ih => rw [Division.lines, ih]; rfl
  | case5 b line rest hclosed ih => rw [Division.lines, ih]; rfl
  | case6 b line rest hclosed ih => rw [ih]; simp [OpenBlock.heldLines]

theorem isValid_divideFrom (h : ∀ b ∈ current, b.IsValid) : (divideFrom current ls).IsValid := by
  fun_induction divideFrom current ls with
  | case1 => trivial
  | case2 b =>
    obtain ⟨hopens, hopen⟩ := h b rfl
    exact ⟨b.fence, hopens, hopen⟩
  | case3 line rest fence hopen ih =>
    apply ih
    rintro b ⟨⟩
    exact ⟨opening?_eq_some_iff.1 hopen, List.forall_mem_nil _⟩
  | case4 line rest hopen ih =>
    exact ⟨opening?_eq_none_iff.1 hopen, ih nofun⟩
  | case5 b line rest hclosed ih =>
    obtain ⟨hopens, hopen⟩ := h b rfl
    exact ⟨⟨b.fence, hopens, hopen, hopens.closedBy_iff.1 hclosed⟩, ih nofun⟩
  | case6 b line rest hclosed ih =>
    obtain ⟨hopens, hopen⟩ := h b rfl
    apply ih
    rintro _ ⟨⟩
    refine ⟨hopens, List.forall_mem_append.2 ⟨hopen, List.forall_mem_singleton.2 ?_⟩⟩
    rwa [hopens.closedBy_iff] at hclosed

/-- Both scans stand in the same block after every line. -/
theorem outside_eq_plainLines (current : Option OpenBlock) (ls : List Text) (start : Nat) :
    outside (current.map OpenBlock.fence)
        (Text.numberFrom (start + (OpenBlock.heldLines current).length) ls) =
      (divideFrom current ls).plainLines start := by
  fun_induction divideFrom current ls generalizing start with
  | case1 => rfl
  | case2 b => rfl
  | case3 line rest fence hopen ih =>
    rw [← ih]
    simp only [Text.numberFrom, Option.map_none, outside, hopen]
    rfl
  | case4 line rest hopen ih =>
    rw [Division.plainLines, ← ih]
    simp only [Text.numberFrom, Option.map_none, outside, hopen]
    rfl
  | case5 b line rest hclosed ih =>
    rw [Division.plainLines, ← ih]
    simp only [Text.numberFrom, Option.map_some, outside, hclosed, if_true]
    rfl
  | case6 b line rest hclosed ih =>
    rw [← ih]
    simp only [Text.numberFrom, Option.map_some, outside, hclosed]
    simp [OpenBlock.heldLines, Nat.add_assoc]

section Interior

variable {opening : Text} {interior : List Text} (hopens : fence.Opens opening)
  (hinterior : ∀ line ∈ interior, ¬ fence.Closes line)

include hopens hinterior

/-- The interior of a block only adds to the lines that are held. -/
theorem divideFrom_interior (held rest : List Text) :
    divideFrom (some ⟨fence, opening, held⟩) (interior ++ rest) =
      divideFrom (some ⟨fence, opening, held ++ interior⟩) rest := by
  induction interior generalizing held with
  | nil => rw [List.append_nil, List.nil_append]
  | cons line interior ih =>
    obtain ⟨hline, hinterior⟩ := List.forall_mem_cons.1 hinterior
    rw [← hopens.closedBy_iff] at hline
    rw [List.cons_append, divideFrom, if_neg hline, ih hinterior, List.append_assoc]
    rfl

theorem divideFrom_block (rest : List Text) :
    divideFrom none (opening :: (interior ++ rest)) =
      divideFrom (some ⟨fence, opening, interior⟩) rest := by
  rw [divideFrom, opening?_eq_some_iff.2 hopens]
  exact divideFrom_interior hopens hinterior [] rest

end Interior

/-- No other division has the same lines. -/
theorem divideFrom_lines {d : Division} (h : d.IsValid) : divideFrom none d.lines = d := by
  induction d with
  | done => rfl
  | plain line rest ih =>
    obtain ⟨hplain, hrest⟩ := h
    rw [Division.lines, divideFrom, opening?_eq_none_iff.2 hplain]
    exact congrArg _ (ih hrest)
  | block opening interior closing rest ih =>
    obtain ⟨⟨fence, hopens, hinterior, hcloses⟩, hrest⟩ := h
    rw [Division.lines, divideFrom_block hopens hinterior, divideFrom,
      if_pos (hopens.closedBy_iff.2 hcloses), ih hrest]
  | unclosed opening interior =>
    obtain ⟨fence, hopens, hinterior⟩ := h
    have hblock := divideFrom_block hopens hinterior []
    rw [List.append_nil] at hblock
    exact hblock

/-- Of lines that are divided already, the scan gives the plain ones. -/
theorem outside_lines {d : Division} (h : d.IsValid) (start : Nat) :
    outside none (Text.numberFrom start d.lines) = d.plainLines start := by
  rw [← congrArg (Division.plainLines start) (divideFrom_lines h)]
  exact outside_eq_plainLines none d.lines start

end Fence

open Fence (Division)

theorem Text.mem_unfencedLines_iff {t : Text} {line : NumberedLine} :
    line ∈ t.unfencedLines ↔
      ∃ d : Division, d.IsValid ∧ d.lines = t.lines ∧ line ∈ d.plainLines 1 := by
  constructor
  · intro h
    have hplain : t.unfencedLines = (Fence.divideFrom none t.lines).plainLines 1 :=
      Fence.outside_eq_plainLines none t.lines 1
    rw [hplain] at h
    have hvalid : (Fence.divideFrom none t.lines).IsValid := Fence.isValid_divideFrom nofun
    exact ⟨_, hvalid, Fence.lines_divideFrom none t.lines, h⟩
  · rintro ⟨d, hvalid, hlines, hplain⟩
    rw [unfencedLines, numberedLines, ← hlines, Fence.outside_lines hvalid]
    exact hplain

/-- **The lines outside fenced blocks.** The lines of a text are divided in exactly one way into
plain lines, blocks from a line that opens them to the first line that closes them, and perhaps one
block at the end that nothing closes. The scan gives the plain lines, each once and in order, with
its number in the text. -/
theorem Text.unfencedLines_division (t : Text) :
    ∃ d : Division, (d.IsValid ∧ d.lines = t.lines) ∧
      (∀ e : Division, e.IsValid → e.lines = t.lines → e = d) ∧
      t.unfencedLines = d.plainLines 1 ∧ t.unfencedLines.Sublist t.numberedLines := by
  refine ⟨Fence.divideFrom none t.lines, ⟨?_, ?_⟩, ?_, ?_, Fence.outside_sublist _ _⟩
  · exact Fence.isValid_divideFrom nofun
  · exact Fence.lines_divideFrom none t.lines
  · intro e hvalid hlines
    rw [← hlines, Fence.divideFrom_lines hvalid]
  · exact Fence.outside_eq_plainLines none t.lines 1

/-- A run of another marker closes no block, nor does a shorter one. -/
theorem Text.unfencedLines_division_unclosed :
    Text.unfencedLines "a\n~~~~ sh\n~~~\n\x60\x60\x60\n ~~~~~\nb\n\x60\x60\x60\nc".toList =
      [⟨1, "a".toList⟩, ⟨6, "b".toList⟩] := by
  obtain ⟨d, -, hunique, hlines, -⟩ := Text.unfencedLines_division
    "a\n~~~~ sh\n~~~\n\x60\x60\x60\n ~~~~~\nb\n\x60\x60\x60\nc".toList
  have hvalid : Division.IsValid (.plain "a".toList
      (.block "~~~~ sh".toList ["~~~".toList, "\x60\x60\x60".toList] " ~~~~~".toList
        (.plain "b".toList (.unclosed "\x60\x60\x60".toList ["c".toList])))) :=
    ⟨by decide, ⟨⟨'~', 4⟩, by decide, by decide, by decide⟩, by decide, ⟨'\x60', 3⟩, by decide,
      by decide⟩
  rw [hlines, ← hunique _ hvalid rfl]
  rfl

end CorpusLint
