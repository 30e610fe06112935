import CorpusLint.Corpus
import CorpusLint.Digest.Sha256
import CorpusLint.Json.Basic
import CorpusLint.Terminal
import CorpusLint.Text.Cursor

/-!
# The inventory of agents

What there is to know about the agents of a corpus: their names and classes, where they were read
from, the skills that they refer to, and a digest that changes with the text. It is printed as a
table with one row for each agent and a line of totals, or as a JSON value.

The column of names is as wide as the longest name has bytes; a name never has more characters than
that, so the next column begins at the same place in every row. With a name that is too long for any
column there is no table: `render?` takes the steps that can fail, and `render` is the table where
none of them does, as for all names that are read from a disk.
-/

namespace CorpusLint

/-! ## Entries -/

/-- What the inventory holds of an agent. -/
structure InventoryEntry where
  name : Text
  kind : AgentClass
  path : Text
  skills : List Text
  /-- The digest of its text. -/
  hash : Text
deriving DecidableEq, Repr

/-- The entry of an agent. -/
def InventoryEntry.ofAgent (a : Agent) : InventoryEntry :=
  ⟨a.name, a.kind, a.document.path, a.document.skills, Sha256.hex a.document.raw⟩

/-- The inventory of a corpus, in its order. -/
def Corpus.inventory (corpus : Corpus) : List InventoryEntry :=
  corpus.agents.map InventoryEntry.ofAgent

/-! ## Printed inventories -/

namespace InventoryEntry

/-- The colour of a class. -/
def tint : AgentClass → Tint
  | .fileWriting => .yellow
  | .readOnly => .cyan

/-- The row of an agent, whose name takes `width` characters. -/
def renderRow (colours : Bool) (width : Nat) (e : InventoryEntry) : Text :=
  e.name.padTo width ++ "  ".toList ++ (tint e.kind).paint colours (e.kind.name.padTo 12) ++
    "  ".toList ++ e.hash.take 12 ++ "  ".toList ++ Text.joinWith [','] e.skills ++ ['\n']

/-- The row of an agent. The column of names may be too wide, and the digest is cut as bytes. -/
def renderRow? (colours : Bool) (width : Nat) (e : InventoryEntry) : Option Text :=
  (e.name.padTo? width).bind fun name =>
    (e.hash.slice? 0 12).map fun start =>
      name ++ "  ".toList ++ (tint e.kind).paint colours (e.kind.name.padTo 12) ++
        "  ".toList ++ start ++ "  ".toList ++ Text.joinWith [','] e.skills ++ ['\n']

/-- An agent in the JSON form. -/
def toJson (e : InventoryEntry) : Json :=
  .object [("class".toList, .text e.kind.name), ("hash".toList, .text e.hash),
    ("name".toList, .text e.name), ("path".toList, .text e.path),
    ("skills".toList, .array (e.skills.map .text))]

end InventoryEntry

namespace Inventory

/-- The width of the column of names: the bytes of the longest one. -/
def nameWidth (entries : List InventoryEntry) : Nat :=
  entries.foldr (fun e width => max e.name.byteSize width) 0

/-- The line of the totals. -/
def renderTotals (entries : List InventoryEntry) : Text :=
  let writers := entries.countP (·.kind == .fileWriting)
  '\n' :: Text.ofNat entries.length ++ " agents: ".toList ++ Text.ofNat writers ++
    " file-writing, ".toList ++ Text.ofNat (entries.length - writers) ++ " read-only\n".toList

/-- The inventory as a table. -/
def render (colours : Bool) (entries : List InventoryEntry) : Text :=
  entries.flatMap (InventoryEntry.renderRow colours (nameWidth entries)) ++ renderTotals entries

/-- The line of the totals. One count is subtracted from another, and must not be greater. -/
def renderTotals? (entries : List InventoryEntry) : Option Text :=
  let writers := entries.countP (·.kind == .fileWriting)
  if writers ≤ entries.length then some (renderTotals entries) else none

/-- The inventory as a table, if there is one. -/
def render? (colours : Bool) (entries : List InventoryEntry) : Option Text :=
  (entries.mapM (InventoryEntry.renderRow? colours (nameWidth entries))).bind fun rows =>
    (renderTotals? entries).map (rows.flatten ++ ·)

/-- The inventory as a JSON value. -/
def toJson (entries : List InventoryEntry) : Json :=
  .object [("agents".toList, .array (entries.map InventoryEntry.toJson))]

end Inventory

end CorpusLint
