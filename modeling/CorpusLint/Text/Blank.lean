import CorpusLint.Text.Basic

/-!
# Blank characters

The characters with the Unicode property White_Space, and what is done with them: trimming the
ends of a text, asking whether anything else is in it, and cutting it into words.
-/

namespace CorpusLint

/-- Whether a character has the Unicode property White_Space. -/
def isBlank (c : Char) : Bool :=
  let n := c.toNat
  (0x09 ≤ n && n ≤ 0x0D) || n == 0x20 || n == 0x85 || n == 0xA0 || n == 0x1680 ||
    (0x2000 ≤ n && n ≤ 0x200A) || n == 0x2028 || n == 0x2029 || n == 0x202F || n == 0x205F ||
    n == 0x3000

namespace Text

/-- The text without the blanks it begins with. -/
def trimStart (t : Text) : Text :=
  t.dropWhile isBlank

/-- The text without the blanks it ends with. -/
def trimEnd (t : Text) : Text :=
  (t.reverse.dropWhile isBlank).reverse

def trim (t : Text) : Text :=
  trimEnd (trimStart t)

def isBlank (t : Text) : Bool :=
  t.all CorpusLint.isBlank

/-- The maximal runs of characters that are not blank, in order. -/
def words (t : Text) : List Text :=
  (t.splitOnP CorpusLint.isBlank).filter (fun word => !word.isEmpty)

/-- The text on one line of at most `limit` characters and a mark: its words with one space between
them, cut after `limit` characters and closed by three dots where that is longer. -/
def compact (limit : Nat) (t : Text) : Text :=
  let line := joinWith [' '] (words t)
  if line.length ≤ limit then line else line.take limit ++ "...".toList

end Text

end CorpusLint
