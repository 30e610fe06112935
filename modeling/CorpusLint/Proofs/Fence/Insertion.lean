import CorpusLint.Proofs.Fence.Division

/-!
# A block put into a text

Lines that close every block they open leave the scan as they found it (`Fence.run_lines`), so that
it takes what follows as a text of its own, further down (`unfencedLines_append`). A block has no
line outside it.

Main statement: where a block is put in between two parts of a text, the lines outside blocks stay
and those behind it move down (`unfencedLines_insert`, `unfencedLines_renumber`).
-/

namespace CorpusLint

/-- The number of a line after `count` lines have been put in behind the line with the number
`above`. -/
def renumber (above count n : Nat) : Nat :=
  if n ≤ above then n else n + count

namespace NumberedLine

/-- The line with `count` more lines above it. -/
def shift (count : Nat) (line : NumberedLine) : NumberedLine :=
  ⟨line.number + count, line.text⟩

def renumber (above count : Nat) (line : NumberedLine) : NumberedLine :=
  ⟨CorpusLint.renumber above count line.number, line.text⟩

theorem shift_shift (m n : Nat) (line : NumberedLine) :
    (line.shift m).shift n = line.shift (n + m) := by
  simp only [shift, Nat.add_assoc, Nat.add_comm m n]

theorem renumber_of_le {above count : Nat} {line : NumberedLine} (h : line.number ≤ above) :
    line.renumber above count = line := by
  rw [renumber, CorpusLint.renumber, if_pos h]

theorem renumber_of_lt {above count : Nat} {line : NumberedLine} (h : above < line.number) :
    line.renumber above count = line.shift count := by
  rw [renumber, CorpusLint.renumber, if_neg (Nat.not_le.2 h), shift]

end NumberedLine

theorem Text.numberFrom_add (start count : Nat) (ls : List Text) :
    numberFrom (start + count) ls = (numberFrom start ls).map (.shift count) := by
  induction ls generalizing start with
  | nil => rfl
  | cons l ls ih =>
    rw [numberFrom, Nat.add_right_comm, ih]
    rfl

namespace Fence

/-- The scan does not look at the numbers. -/
theorem outside_map_shift (current : Option Fence) (count : Nat) (ls : List NumberedLine) :
    outside current (ls.map (.shift count)) = (outside current ls).map (.shift count) := by
  induction ls generalizing current with
  | nil => rfl
  | cons line ls ih =>
    cases current with
    | some fence => exact ih _
    | none =>
      simp only [List.map_cons, outside, NumberedLine.shift]
      split
      · exact ih _
      · rw [List.map_cons, ← ih none]
        rfl

/-! ## Lines that close their blocks -/

/-- No block is left open at the end. -/
def Division.IsClosed : Division → Prop
  | done => True
  | plain _ rest | block _ _ _ rest => rest.IsClosed
  | unclosed _ _ => False

theorem run_interior {fence : Fence} {opening : Text} {interior : List Text}
    (hopens : fence.Opens opening) (hinterior : ∀ line ∈ interior, ¬ fence.Closes line)
    (start : Nat) : run (some fence) (Text.numberFrom start interior) = some fence := by
  induction interior generalizing start with
  | nil => rfl
  | cons line interior ih =>
    obtain ⟨hline, hrest⟩ := List.forall_mem_cons.1 hinterior
    rw [← hopens.closedBy_iff] at hline
    have hnext : next (some fence) ⟨start, line⟩ = some fence := if_neg hline
    rw [Text.numberFrom, run, List.foldl_cons, hnext]
    exact ih hrest _

theorem run_lines {d : Division} (hvalid : d.IsValid) (hclosed : d.IsClosed) (start : Nat) :
    run none (Text.numberFrom start d.lines) = none := by
  induction d generalizing start with
  | done => rfl
  | plain line rest ih =>
    have hnext : next none ⟨start, line⟩ = none := opening?_eq_none_iff.2 hvalid.1
    rw [Division.lines, Text.numberFrom, run, List.foldl_cons, hnext]
    exact ih hvalid.2 hclosed _
  | block opening interior closing rest ih =>
    obtain ⟨⟨fence, hopens, hinterior, hcloses⟩, hrest⟩ := hvalid
    have hopen : next none ⟨start, opening⟩ = some fence := opening?_eq_some_iff.2 hopens
    have hclose : ∀ n, next (some fence) ⟨n, closing⟩ = none :=
      fun _ => if_pos (hopens.closedBy_iff.2 hcloses)
    have hrun := run_interior hopens hinterior (start + 1)
    rw [run] at hrun
    rw [Division.lines, Text.numberFrom, run, List.foldl_cons, hopen, Text.numberFrom_append,
      List.foldl_append, hrun, Text.numberFrom, List.foldl_cons, hclose]
    exact ih hrest hclosed _
  | unclosed opening interior => exact hclosed.elim

end Fence

namespace Text

open Fence (Division)

variable {a block t : Text}

/-- Every block that the text opens is closed in it. -/
def ClosesBlocks (t : Text) : Prop :=
  ∃ d : Division, d.IsValid ∧ d.lines = t.lines ∧ d.IsClosed

/-- The text is one block of whole lines: a line that opens it, lines that do not close it, and one
that does. -/
def IsBlock (t : Text) : Prop :=
  ['\n'] <:+ t ∧ ∃ opening interior closing,
    (Division.block opening interior closing .done).IsValid ∧
      (Division.block opening interior closing .done).lines = t.lines

theorem IsBlock.isWhole (h : t.IsBlock) : t.IsWhole :=
  .inr h.1

theorem IsBlock.closesBlocks (h : t.IsBlock) : t.ClosesBlocks := by
  obtain ⟨-, opening, interior, closing, hvalid, hlines⟩ := h
  exact ⟨_, hvalid, hlines, trivial⟩

theorem IsBlock.unfencedLines_eq (h : t.IsBlock) : t.unfencedLines = [] := by
  obtain ⟨-, opening, interior, closing, hvalid, hlines⟩ := h
  rw [unfencedLines, numberedLines, ← hlines, Fence.outside_lines hvalid]
  rfl

theorem ClosesBlocks.unfencedLines_append (hclosed : t.ClosesBlocks) (hwhole : t.IsWhole)
    (more : Text) : (t ++ more).unfencedLines =
      t.unfencedLines ++ more.unfencedLines.map (.shift t.lines.length) := by
  obtain ⟨d, hvalid, hlines, hd⟩ := hclosed
  have hrun : Fence.run none t.numberedLines = none := by
    rw [numberedLines, ← hlines, Fence.run_lines hvalid hd]
  rw [hwhole.unfencedLines_append, hrun, numberFrom_add, Fence.outside_map_shift]
  rfl

/-! ## A block in between -/

section Insert

variable (hclosed : a.ClosesBlocks) (hwhole : a.IsWhole) (hblock : block.IsBlock) (b : Text)

include hclosed hwhole hblock

theorem unfencedLines_insert : (a ++ block ++ b).unfencedLines =
    a.unfencedLines ++ b.unfencedLines.map (.shift (a ++ block).lines.length) := by
  have hshift : NumberedLine.shift a.lines.length ∘ .shift block.lines.length =
      .shift (a.lines.length + block.lines.length) := by
    funext line
    exact line.shift_shift _ _
  rw [List.append_assoc, hclosed.unfencedLines_append hwhole,
    hblock.closesBlocks.unfencedLines_append hblock.isWhole, hblock.unfencedLines_eq,
    List.nil_append, List.map_map, hshift, hwhole.lines_append, List.length_append]

theorem unfencedLines_renumber : (a ++ block ++ b).unfencedLines =
    (a ++ b).unfencedLines.map (.renumber a.lines.length block.lines.length) := by
  have habove : ∀ line ∈ a.unfencedLines,
      line.renumber a.lines.length block.lines.length = line := by
    intro line hline
    obtain ⟨-, hget⟩ := mem_numberedLines.1 ((Fence.outside_sublist none _).subset hline)
    have hlt := (List.getElem?_eq_some_iff.1 hget).1
    exact NumberedLine.renumber_of_le (by omega)
  have hbelow : ∀ line ∈ b.unfencedLines,
      (line.shift a.lines.length).renumber a.lines.length block.lines.length =
        line.shift (a ++ block).lines.length := by
    intro line hline
    obtain ⟨hpos, -⟩ := mem_numberedLines.1 ((Fence.outside_sublist none _).subset hline)
    have hlt : a.lines.length < (line.shift a.lines.length).number :=
      Nat.lt_add_of_pos_left hpos
    rw [NumberedLine.renumber_of_lt hlt, NumberedLine.shift_shift, hwhole.lines_append,
      List.length_append, Nat.add_comm]
  rw [unfencedLines_insert hclosed hwhole hblock, hclosed.unfencedLines_append hwhole,
    List.map_append, List.map_map, List.map_congr_left habove, List.map_id']
  exact congrArg (a.unfencedLines ++ ·) (List.map_congr_left hbelow).symm

end Insert

end Text

end CorpusLint
