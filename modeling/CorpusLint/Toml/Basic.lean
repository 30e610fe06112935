import CorpusLint.Decimal.Binary64
import CorpusLint.Text.Basic

/-!
# TOML

The values that a document defines, the spaces, comments and line breaks that stand between the
parts of a document, and why a text defines no table. A date or a time is kept as it is written. A
number may be written in a way that is allowed and yet stands for none: such a value can be passed
over, but nothing can be made of it.

A line ends with a line feed or with a carriage return and a line feed. Other control characters
have no place in a comment, which ends before them, and none in a string.
-/

namespace CorpusLint

/-! ## Refused documents -/

namespace Toml

/-- Why a text defines no table. -/
inductive Fault where
  /-- The text is not well-formed. -/
  | malformed
  /-- A key has a value already, or a table takes no additions. -/
  | redefined
  /-- A key runs through too many tables. -/
  | deepKey
deriving DecidableEq, Repr

/-- What is printed of the fault. A key that runs too deep has a message of its own, which ends its
line. -/
def Fault.message : Fault → Text
  | malformed | redefined => "TOML parse error".toList
  | deepKey => "recursion limit\n".toList

end Toml

/-! ## Values -/

namespace Toml

inductive Value where
  | string (t : Text)
  /-- An integer of any size. -/
  | integer (n : Int)
  | float (x : Binary64)
  /-- A number without a value: `0x` has no digits, `1_f` has one too large, and `1e999` is too
  large itself. -/
  | valueless
  | boolean (b : Bool)
  /-- A date, a time, or both. -/
  | moment (written : Text)
  | array (items : List Value)
  /-- A table. No two entries have the same key. -/
  | table (entries : List (Text × Value))
deriving Repr

end Toml

/-! ## Layout -/

namespace Toml

/-- Whether a character can belong to a comment or to a string on one line: a control character
cannot, apart from the tab. -/
def isPlain (c : Char) : Bool :=
  c == '\t' || (0x20 ≤ c.toNat && c.toNat != 0x7F)

def isSpace (c : Char) : Bool :=
  c == ' ' || c == '\t'

/-- The text without the spaces at its beginning. -/
def skipSpaces (t : Text) : Text :=
  t.dropWhile isSpace

/-- The text without the line break at its beginning, if there is one. -/
def dropBreak? : Text → Option Text
  | '\n' :: t => some t
  | '\r' :: '\n' :: t => some t
  | _ => none

/-- The text without the spaces and the comment at its beginning. What is left of a well-formed
line is its break. -/
def skipComment (t : Text) : Text :=
  match skipSpaces t with
  | '#' :: t => t.dropWhile isPlain
  | t => t

/-- The text without the spaces, comments and line breaks at its beginning. At most `fuel` lines
are passed over. -/
def skipLines : Nat → Text → Text
  | 0, t => t
  | fuel + 1, t =>
    match dropBreak? (skipComment t) with
    | some rest => skipLines fuel rest
    | none => skipComment t

/-- The text from the first character that is neither space nor comment nor line break. -/
def skipLayout (t : Text) : Text :=
  skipLines (t.length + 1) t

end Toml

end CorpusLint
