import CorpusLint.Frontmatter

/-!
# Documents

A document belongs to one of three collections and has a name within it. Together they are the
document's identifier, so that a workflow and a command of one name stay apart. Header and body are
functions of the text: a document cannot disagree with its own raw form.
-/

namespace CorpusLint

inductive Collection where
  | agent
  | workflow
  | command
deriving DecidableEq, Repr

/-- The word for a member of the collection. -/
def Collection.name : Collection → Text
  | .agent => "agent".toList
  | .workflow => "workflow".toList
  | .command => "command".toList

structure Document where
  collection : Collection
  /-- Its name: the file's name without the extension. -/
  name : Text
  /-- Where it was read from. -/
  path : Text
  raw : Text
deriving DecidableEq, Repr

namespace Document

/-- The part of the text between its delimiter lines. -/
def header (d : Document) : Text :=
  (Frontmatter.split d.raw).header

/-- The part of the text after its delimiter lines. -/
def body (d : Document) : Text :=
  (Frontmatter.split d.raw).body

/-- The name that verdicts give the document: its collection, a colon and its name. -/
def id (d : Document) : Text :=
  d.collection.name ++ ':' :: d.name

end Document

end CorpusLint
