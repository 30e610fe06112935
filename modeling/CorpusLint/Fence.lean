import CorpusLint.Text.Cursor
import CorpusLint.Text.Lines

/-!
# Fenced blocks

A line that begins, after blanks, with at least three backticks or at least three tildes opens a
fenced block. A line that holds nothing but a run of the same marker, at least as long, closes it.
Neither these two lines nor those between them are read as instructions. A block that is never
closed takes the rest of the text.
-/

namespace CorpusLint

/-- The run of markers that opens a block. -/
structure Fence where
  /-- The backtick or the tilde. -/
  marker : Char
  length : Nat
deriving DecidableEq, Repr

namespace Fence

def isMarker (c : Char) : Bool :=
  c == '\x60' || c == '~'

/-- The fence that a line begins with, and the rest of the line. -/
def run? (line : Text) : Option (Fence × Text) :=
  match line.trimStart with
  | [] => none
  | c :: t =>
    let length := (t.takeWhile (· == c)).length + 1
    if isMarker c && 3 ≤ length then some (⟨c, length⟩, t.dropWhile (· == c)) else none

/-- The fence that a line begins with and the rest of the line, taken from the stored form: the run
is measured in bytes, and the rest is the slice behind it. The outer answer is missing where this
slice does not exist. -/
def runBySlice? (line : Text) : Option (Option (Fence × Text)) :=
  let trimmed := line.trimStart
  match trimmed.head?.filter isMarker with
  | none => some none
  | some marker =>
    let length := trimmed.byteSize - Text.byteSize (trimmed.dropWhile (· == marker))
    if 3 ≤ length then
      (trimmed.slice? length trimmed.byteSize).map fun rest => some (⟨marker, length⟩, rest)
    else some none

def opening? (line : Text) : Option Fence :=
  (run? line).map (·.1)

/-- Whether a line closes the block that the fence has opened. -/
def closedBy (fence : Fence) (line : Text) : Bool :=
  match run? line with
  | some (other, rest) =>
    other.marker == fence.marker && fence.length ≤ other.length && rest.isBlank
  | none => false

/-- The lines outside fenced blocks, where `current` is the block that the first line stands in. -/
def outside (current : Option Fence) : List NumberedLine → List NumberedLine
  | [] => []
  | line :: rest =>
    match current with
    | some fence => outside (if fence.closedBy line.text then none else some fence) rest
    | none =>
      match opening? line.text with
      | some fence => outside (some fence) rest
      | none => line :: outside none rest

end Fence

/-- The lines of a text that stand outside its fenced blocks, each with its number in the text. -/
def Text.unfencedLines (t : Text) : List NumberedLine :=
  Fence.outside none (numberedLines t)

end CorpusLint
