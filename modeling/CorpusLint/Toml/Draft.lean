import CorpusLint.Toml.Basic

/-!
# Tables under construction

The statements of a document add to its tables one after another. Whether a statement may add to a
table depends on how the table came about, so that a draft remembers this until the document ends.
A value that was written as such, a table in braces included, is closed and takes no additions.
-/

namespace CorpusLint

namespace Toml

/-- How deep tables and arrays may be nested in a value. A key runs through fewer tables. -/
def maxDepth : Nat := 80

/-- A key: the keys of the tables on the way, and the last one. -/
structure Path where
  /-- The keys of the tables on the way. -/
  tables : List Text
  last : Text
deriving DecidableEq, Repr

/-- How a table came about. -/
inductive Origin where
  /-- It is the document itself or has a header of its own. -/
  | declared
  /-- A header of one of its parts runs through it. -/
  | passed
  /-- A dotted key runs through it. -/
  | dotted
deriving DecidableEq, Repr

/-- A value under construction. -/
inductive Draft where
  /-- A value that takes no additions. -/
  | closed (v : Value)
  | table (origin : Origin) (entries : List (Text × Draft))
  /-- An array of tables, each with a header of its own. The last one takes the additions. -/
  | tables (elements : List (List (Text × Draft)))

/-- The entries of a table under construction. -/
abbrev Entries := List (Text × Draft)

namespace Entries

/-- The entries with the draft under the key: in the place of the old one, or at the end. -/
def put (key : Text) (d : Draft) : Entries → Entries
  | [] => [(key, d)]
  | (k, e) :: rest => if k = key then (k, d) :: rest else (k, e) :: put key d rest

/-- Applies `change` to the table that a path leads to from a table of the given origin. A missing
table is made on the way, as one that a header or a dotted key runs through. A dotted key does not
run through a table with a header of its own, and makes any other table one of its kind. -/
def descend (dotted : Bool) (change : Origin → Entries → Except Fault Entries) :
    List Text → Origin → Entries → Except Fault Entries
  | [], origin, entries => change origin entries
  | key :: path, _, entries =>
    match entries.lookup key with
    | none =>
      let origin := if dotted then .dotted else .passed
      (descend dotted change path origin []).map fun inner => put key (.table origin inner) entries
    | some (.closed _) => .error .redefined
    | some (.table origin inner) =>
      if dotted && origin == .declared then .error .redefined
      else
        let origin := if dotted then .dotted else origin
        (descend dotted change path origin inner).map fun inner =>
          put key (.table origin inner) entries
    | some (.tables elements) =>
      match elements.getLast? with
      | none => .error .redefined
      | some last =>
        (descend dotted change path .declared last).map fun last =>
          put key (.tables (elements.dropLast ++ [last])) entries

/-- Applies `change` to the table in which a path ends. A path through too many tables is refused
before any of them is looked at. -/
def follow (dotted : Bool) (change : Origin → Entries → Except Fault Entries) (path : Path)
    (origin : Origin) (entries : Entries) : Except Fault Entries :=
  if path.tables.length < maxDepth then descend dotted change path.tables origin entries
  else .error .deepKey

/-- The entries with one more value. A dotted key ends in a table that dotted keys have made, a
plain one in a table that they have not. No key is given a value twice. -/
def assign (path : Path) (v : Value) (origin : Origin) (entries : Entries) :
    Except Fault Entries :=
  follow true (fun origin inner =>
    if (origin == .dotted) == path.tables.isEmpty || (inner.lookup path.last).isSome then
      .error .redefined
    else .ok (inner ++ [(path.last, .closed v)])) path origin entries

/-- The entries after the header of a table. The table may only have been passed through before. -/
def openTable (path : Path) (entries : Entries) : Except Fault Entries :=
  follow false (fun _ inner =>
    match inner.lookup path.last with
    | none => .ok (put path.last (.table .declared []) inner)
    | some (.table .passed own) => .ok (put path.last (.table .declared own) inner)
    | some _ => .error .redefined) path .declared entries

/-- The entries after the header of one more element of an array of tables. -/
def openElement (path : Path) (entries : Entries) : Except Fault Entries :=
  follow false (fun _ inner =>
    match inner.lookup path.last with
    | none => .ok (put path.last (.tables [[]]) inner)
    | some (.tables elements) => .ok (put path.last (.tables (elements ++ [[]])) inner)
    | some _ => .error .redefined) path .declared entries

end Entries

mutual

def Draft.finish : Draft → Value
  | .closed v => v
  | .table _ entries => .table (finishEntries entries)
  | .tables elements => .array (finishElements elements)

def finishEntries : List (Text × Draft) → List (Text × Value)
  | [] => []
  | (key, d) :: rest => (key, d.finish) :: finishEntries rest

def finishElements : List (List (Text × Draft)) → List Value
  | [] => []
  | entries :: rest => .table (finishEntries entries) :: finishElements rest

end

end Toml

end CorpusLint
