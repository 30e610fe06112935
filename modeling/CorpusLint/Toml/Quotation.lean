import CorpusLint.Toml.Basic

/-!
# Strings

A basic string stands between double quotes and knows escapes; a literal string stands between
single quotes and does not. Either may be written with three quotes at both ends and then run over
several lines. Such a string begins after the line break that follows its quotes, and one or two
quotes may stand right before the closing ones. In a basic string of this kind a backslash at the
end of a line hides all spaces and line breaks up to the next character. No string holds a control
character as it is, apart from the tab and from line breaks where there may be several lines.

Each reader takes the text after the opening quotes, and gives the string and what follows it.
-/

namespace CorpusLint

namespace Toml

def hexValue? (c : Char) : Option Nat :=
  if '0' ≤ c && c ≤ '9' then some (c.toNat - '0'.toNat)
  else if 'a' ≤ c && c ≤ 'f' then some (c.toNat - 'a'.toNat + 10)
  else if 'A' ≤ c && c ≤ 'F' then some (c.toNat - 'A'.toNat + 10)
  else none

/-- The number of exactly `count` hexadecimal digits, after those that make up `value`. -/
def hexNumber? (value : Nat) : Nat → Text → Option (Nat × Text)
  | 0, t => some (value, t)
  | _ + 1, [] => none
  | count + 1, c :: t =>
    match hexValue? c with
    | some digit => hexNumber? (16 * value + digit) count t
    | none => none

/-- The character whose code point is written with `count` hexadecimal digits. -/
def codePoint? (count : Nat) (t : Text) : Option (Char × Text) :=
  match hexNumber? 0 count t with
  | some (n, rest) => if n.isValidChar then some (Char.ofNat n, rest) else none
  | none => none

/-- The character that an escape stands for, after its backslash. -/
def escaped? : Text → Option (Char × Text)
  | 'b' :: t => some ('\x08', t)
  | 't' :: t => some ('\t', t)
  | 'n' :: t => some ('\n', t)
  | 'f' :: t => some ('\x0c', t)
  | 'r' :: t => some ('\r', t)
  | 'e' :: t => some ('\x1b', t)
  | '\"' :: t => some ('\"', t)
  | '\\' :: t => some ('\\', t)
  | 'x' :: t => codePoint? 2 t
  | 'u' :: t => codePoint? 4 t
  | 'U' :: t => codePoint? 8 t
  | _ => none

/-- A string on one line that knows escapes, after its opening quote. The fuel is the number of
steps that may be taken. -/
def basicFrom : Nat → Text → Option (Text × Text)
  | 0, _ => none
  | fuel + 1, t =>
    match t with
    | [] => none
    | '\"' :: rest => some ([], rest)
    | '\\' :: rest =>
      match escaped? rest with
      | none => none
      | some (c, rest) => (basicFrom fuel rest).map fun (s, rest) => (c :: s, rest)
    | c :: rest =>
      if isPlain c then (basicFrom fuel rest).map fun (s, rest) => (c :: s, rest) else none

/-- A string on one line without escapes, after its opening quote. -/
def literalFrom : Text → Option (Text × Text)
  | [] => none
  | c :: rest =>
    if c = '\'' then some ([], rest)
    else if isPlain c then (literalFrom rest).map fun (s, rest) => (c :: s, rest)
    else none

/-- The end of a string over several lines, at a place where `quote` stands: three of them close it,
and up to two before these belong to it. Where fewer stand, the string goes on. -/
def closing? (quote : Char) (t : Text) : Option (Text × Text) :=
  let run := (t.takeWhile (· == quote)).length
  if run < 3 then none
  else
    let kept := min (run - 3) 2
    some (List.replicate kept quote, t.drop (kept + 3))

/-- Whether a text begins with a character or a line break that can belong to a string over several
lines. -/
def beginsPlain : Text → Bool
  | [] => false
  | '\r' :: '\n' :: _ => true
  | c :: _ => isPlain c || c == '\n'

/-- The text without the spaces and line breaks at its beginning. -/
def skipBlanks : Text → Text
  | [] => []
  | '\r' :: '\n' :: t => skipBlanks t
  | c :: t => if isSpace c || c == '\n' then skipBlanks t else c :: t

/-- What follows a backslash at the end of a line: nothing is left of the spaces and line breaks. -/
def hiddenBreak? (t : Text) : Option Text :=
  (dropBreak? (skipSpaces t)).map skipBlanks

/-- A string over several lines that knows escapes. The fuel is the number of steps that may be
taken. -/
def longBasicFrom : Nat → Text → Option (Text × Text)
  | 0, _ => none
  | fuel + 1, t =>
    match t with
    | [] => none
    | '\\' :: rest =>
      match hiddenBreak? rest with
      | some rest => longBasicFrom fuel rest
      | none =>
        match escaped? rest with
        | none => none
        | some (c, rest) => (longBasicFrom fuel rest).map fun (s, rest) => (c :: s, rest)
    | c :: rest =>
      match closing? '\"' t with
      | some ending => some ending
      | none =>
        if beginsPlain t then (longBasicFrom fuel rest).map fun (s, rest) => (c :: s, rest)
        else none

/-- A string over several lines without escapes. -/
def longLiteralFrom : Text → Option (Text × Text)
  | [] => none
  | c :: rest =>
    match closing? '\'' (c :: rest) with
    | some ending => some ending
    | none =>
      if beginsPlain (c :: rest) then (longLiteralFrom rest).map fun (s, rest) => (c :: s, rest)
      else none

/-- The text after the line break that may follow three opening quotes. -/
def afterOpening (t : Text) : Text :=
  (dropBreak? t).getD t

/-- The string on one line that a text begins with. -/
def shortString? : Text → Option (Text × Text)
  | '\"' :: t => basicFrom (t.length + 1) t
  | '\'' :: t => literalFrom t
  | _ => none

def string? : Text → Option (Text × Text)
  | '\"' :: '\"' :: '\"' :: t => longBasicFrom (t.length + 1) (afterOpening t)
  | '\'' :: '\'' :: '\'' :: t => longLiteralFrom (afterOpening t)
  | t => shortString? t

end Toml

end CorpusLint
