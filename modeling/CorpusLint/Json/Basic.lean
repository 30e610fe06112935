import CorpusLint.Text.Basic

/-!
# JSON values and their printed form

The values that reports and inventories are made of, and the form in which they are printed: one
element or field on a line, two spaces for each level, and only those characters escaped that JSON
forbids in a string.
-/

namespace CorpusLint

/-- A JSON value. The fields of an object stand in the order in which they are printed. -/
inductive Json where
  /-- A natural number. -/
  | number (n : Nat)
  | text (t : Text)
  | array (items : List Json)
  | object (fields : List (Text × Json))
deriving Repr

namespace Json

/-- The object without the fields of these names. Other values are kept. -/
def without (names : List Text) : Json → Json
  | object fields => object (fields.filter (!names.contains ·.1))
  | value => value

/-- A character inside a string. -/
def escape (c : Char) : Text :=
  match c with
  | '\"' => "\\\"".toList
  | '\\' => "\\\\".toList
  | '\x08' => "\\b".toList
  | '\x0c' => "\\f".toList
  | '\n' => "\\n".toList
  | '\r' => "\\r".toList
  | '\t' => "\\t".toList
  | c =>
    if c.toNat < 0x20 then
      "\\u00".toList ++ [Nat.digitChar (c.toNat / 16), Nat.digitChar (c.toNat % 16)]
    else [c]

/-- A string between its quotes. -/
def quote (t : Text) : Text :=
  '\"' :: t.flatMap escape ++ ['\"']

/-- The beginning of a line at this level. -/
def indent (level : Nat) : Text :=
  '\n' :: List.replicate (2 * level) ' '

mutual

/-- The printed form of a value that begins on a line at this level. -/
def pretty (level : Nat) : Json → Text
  | number n => Text.ofNat n
  | text t => quote t
  | array [] => "[]".toList
  | array items =>
    '[' :: prettyItems (level + 1) items ++ indent level ++ [']']
  | object [] => "\x7b\x7d".toList
  | object fields =>
    '\x7b' :: prettyFields (level + 1) fields ++ indent level ++ ['\x7d']

/-- The elements of an array, each on a line of its own. -/
def prettyItems (level : Nat) : List Json → Text
  | [] => []
  | [item] => indent level ++ pretty level item
  | item :: rest => indent level ++ pretty level item ++ ',' :: prettyItems level rest

/-- The fields of an object, each on a line of its own. -/
def prettyFields (level : Nat) : List (Text × Json) → Text
  | [] => []
  | [(name, value)] => indent level ++ quote name ++ ": ".toList ++ pretty level value
  | (name, value) :: rest =>
    indent level ++ quote name ++ ": ".toList ++ pretty level value ++
      ',' :: prettyFields level rest

end

/-- The printed form of a value. -/
def render (value : Json) : Text :=
  pretty 0 value

end Json

end CorpusLint
