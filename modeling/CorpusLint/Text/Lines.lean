import CorpusLint.Text.Blank

/-!
# Lines

A *piece* of a text runs up to and including its line feed; the last piece may lack one. A *line*
is a piece without its line ending, which is a line feed or a carriage return before a line feed.
A last piece that has no line feed keeps a carriage return at its end.

Main statement: the pieces of a text, written one after another, are the text (`flatten_pieces`).
-/

namespace CorpusLint

namespace Text

/-- The text cut after each line feed. No piece is empty. -/
def pieces : Text → List Text
  | [] => []
  | c :: t =>
    if c = '\n' then [c] :: pieces t
    else
      match pieces t with
      | [] => [[c]]
      | piece :: rest => (c :: piece) :: rest

theorem flatten_pieces (t : Text) : (pieces t).flatten = t := by
  induction t with
  | nil => rfl
  | cons c t ih =>
    by_cases h : c = '\n'
    · simp [pieces, h, ih]
    · cases hp : pieces t with
      | nil =>
        rw [hp] at ih
        simpa [pieces, h, hp] using ih
      | cons piece rest =>
        rw [hp] at ih
        simpa [pieces, h, hp] using ih

/-- A piece without its line ending: the line feed, and one carriage return before it. -/
def dropLineEnding (piece : Text) : Text :=
  match dropFinish? ['\n'] piece with
  | none => piece
  | some line => (dropFinish? ['\r'] line).getD line

def lines (t : Text) : List Text :=
  (pieces t).map dropLineEnding

end Text

structure NumberedLine where
  /-- The line's place in its text, the first line being 1. -/
  number : Nat
  /-- The line without its line ending. -/
  text : Text
deriving DecidableEq, Repr

namespace Text

/-- The lines, counted on from `start`. -/
def numberFrom (start : Nat) : List Text → List NumberedLine
  | [] => []
  | line :: rest => ⟨start, line⟩ :: numberFrom (start + 1) rest

/-- The lines of a text with their numbers, from 1. -/
def numberedLines (t : Text) : List NumberedLine :=
  numberFrom 1 (lines t)

end Text

end CorpusLint
