import CorpusLint.Toml.Draft
import CorpusLint.Toml.Scalar

/-!
# Documents

A document is a sequence of lines: headers, which say what table the following lines add to, and
keys with their values. Arrays and tables may be written in brackets and braces, nested to some
depth. Within these there may be a comma after the last element, and line breaks and comments
between all parts but those of a key.

The readers of statements only cut a text. They do not ask whether a key is defined twice. The
statements of a document build its table one after another, and the first that cannot be followed
decides why there is none. A table in braces is built in the same way before its key gets it.
-/

namespace CorpusLint

/-! ## Statements -/

namespace Toml

/-! ## Keys -/

/-- Whether a character can belong to a key that is written without quotes. -/
def isBareChar (c : Char) : Bool :=
  c.isAlphanum || c == '_' || c == '-'

/-- The single key that a text begins with, and what follows it. -/
def simpleKey? (t : Text) : Option (Text × Text) :=
  match t with
  | '\"' :: '\"' :: '\"' :: _ | '\'' :: '\'' :: '\'' :: _ => none
  | '\"' :: _ | '\'' :: _ => shortString? t
  | t =>
    let key := t.takeWhile isBareChar
    if key.isEmpty then none else some (key, t.dropWhile isBareChar)

/-- The keys that dots join at the beginning of a text, and what follows them and the spaces after
them. The fuel is the number of keys that may be read. -/
def keysFrom : Nat → Text → Option (List Text × Text)
  | 0, _ => none
  | fuel + 1, t =>
    match simpleKey? (skipSpaces t) with
    | none => none
    | some (key, rest) =>
      match skipSpaces rest with
      | '.' :: rest => (keysFrom fuel rest).map fun (keys, rest) => (key :: keys, rest)
      | rest => some ([key], rest)

/-- The path that a text begins with, and what follows it and the spaces after it. -/
def path? (t : Text) : Option (Path × Text) :=
  match keysFrom (t.length + 1) t with
  | none => none
  | some (keys, rest) => keys.getLast?.map fun last => (⟨keys.dropLast, last⟩, rest)

/-! ## Values -/

/-- A value as it is written. -/
inductive Expr where
  /-- A value without brackets or braces. -/
  | scalar (v : Value)
  /-- An array in brackets. -/
  | array (items : List Expr)
  /-- A table in braces. -/
  | table (fields : List (Path × Expr))

/-- The elements of an array up to its closing bracket, and what follows that. -/
def itemsFrom (expr : Text → Option (Expr × Text)) : Nat → Text → Option (List Expr × Text)
  | 0, _ => none
  | fuel + 1, t =>
    match skipLayout t with
    | ']' :: rest => some ([], rest)
    | t =>
      match expr t with
      | none => none
      | some (item, rest) =>
        match skipLayout rest with
        | ',' :: rest =>
          (itemsFrom expr fuel rest).map fun (items, rest) => (item :: items, rest)
        | ']' :: rest => some ([item], rest)
        | _ => none

/-- A path, an equals sign and a value, and what follows them. On both sides of the equals sign
`skip` passes over what may stand there. -/
def assignment? (skip : Text → Text) (expr : Text → Option (Expr × Text)) (t : Text) :
    Option ((Path × Expr) × Text) :=
  match path? t with
  | none => none
  | some (path, rest) =>
    match skip rest with
    | '=' :: rest => (expr (skip rest)).map fun (e, rest) => ((path, e), rest)
    | _ => none

/-- The fields of a table up to its closing brace, and what follows that. -/
def fieldsFrom (expr : Text → Option (Expr × Text)) :
    Nat → Text → Option (List (Path × Expr) × Text)
  | 0, _ => none
  | fuel + 1, t =>
    match skipLayout t with
    | '\x7d' :: rest => some ([], rest)
    | t =>
      match assignment? skipLayout expr t with
      | none => none
      | some (field, rest) =>
        match skipLayout rest with
        | ',' :: rest =>
          (fieldsFrom expr fuel rest).map fun (fields, rest) => (field :: fields, rest)
        | '\x7d' :: rest => some ([field], rest)
        | _ => none

/-- The value that a text begins with, and what follows it. Brackets and braces are nested at most
`depth` times. -/
def expr? : Nat → Text → Option (Expr × Text)
  | 0, t => (scalar? t).map fun (v, rest) => (.scalar v, rest)
  | depth + 1, t =>
    match t with
    | '[' :: t => (itemsFrom (expr? depth) (t.length + 1) t).map fun (items, rest) =>
        (.array items, rest)
    | '\x7b' :: t => (fieldsFrom (expr? depth) (t.length + 1) t).map fun (fields, rest) =>
        (.table fields, rest)
    | t => (scalar? t).map fun (v, rest) => (.scalar v, rest)

/-! ## Lines -/

inductive Statement where
  /-- The following lines add to this table. -/
  | header (path : Path)
  /-- The following lines add to a new element of this array. -/
  | element (path : Path)
  /-- The key has this value. -/
  | assignment (path : Path) (e : Expr)

/-- The statement that a text begins with, and what follows it. -/
def statement? (t : Text) : Option (Statement × Text) :=
  match t with
  | '[' :: '[' :: t =>
    match path? t with
    | some (path, ']' :: ']' :: rest) => some (.element path, rest)
    | _ => none
  | '[' :: t =>
    match path? t with
    | some (path, ']' :: rest) => some (.header path, rest)
    | _ => none
  | t =>
    (assignment? skipSpaces (expr? maxDepth) t).map fun ((path, e), rest) =>
      (.assignment path e, rest)

/-- The statements of a text. Each takes a line of its own, and the fuel is the number of lines that
may be read. -/
def statementsFrom : Nat → Text → Option (List Statement)
  | 0, _ => none
  | fuel + 1, t =>
    match skipLayout t with
    | [] => some []
    | t =>
      match statement? t with
      | none => none
      | some (statement, rest) =>
        match skipComment rest with
        | [] => some [statement]
        | rest =>
          match dropBreak? rest with
          | none => none
          | some rest => (statementsFrom fuel rest).map (statement :: ·)

/-- The statements of a document. A byte order mark at its beginning is passed over. -/
def statements? (t : Text) : Option (List Statement) :=
  statementsFrom (t.length + 1) ((Text.dropStart? ['\ufeff'] t).getD t)

end Toml

/-! ## Documents -/

namespace Toml

mutual

/-- The value that is written. -/
def Expr.value : Expr → Except Fault Value
  | .scalar v => .ok v
  | .array items => (itemValues items).map .array
  | .table fields => (assignAll [] fields).map fun entries => .table (finishEntries entries)

/-- The values that are written as the elements of an array. -/
def itemValues : List Expr → Except Fault (List Value)
  | [] => .ok []
  | e :: rest => e.value.bind fun v => (itemValues rest).map (v :: ·)

/-- The entries that fields make up, after those of `entries`. -/
def assignAll (entries : Entries) : List (Path × Expr) → Except Fault Entries
  | [] => .ok entries
  | (path, e) :: rest =>
    e.value.bind fun v =>
      (entries.assign path v .declared).bind fun entries => assignAll entries rest

end

/-- The entries that statements build, after those of `entries`; `current` is the path of the table
that they add to. -/
def build (current : List Text) (entries : Entries) : List Statement → Except Fault Entries
  | [] => .ok entries
  | .header path :: rest =>
    (entries.openTable path).bind fun entries => build (path.tables ++ [path.last]) entries rest
  | .element path :: rest =>
    (entries.openElement path).bind fun entries => build (path.tables ++ [path.last]) entries rest
  | .assignment path e :: rest =>
    e.value.bind fun v =>
      (entries.descend false (fun origin inner => inner.assign path v origin) current
        .declared).bind fun entries => build current entries rest

/-- The entries of the table that a document defines. -/
def parse (t : Text) : Except Fault (List (Text × Value)) :=
  match statements? t with
  | none => .error .malformed
  | some statements => (build [] [] statements).map finishEntries

end Toml

end CorpusLint
