import CorpusLint.Corpus
import CorpusLint.Disk
import CorpusLint.Failure
import CorpusLint.Settings.Basic

/-!
# Reading a corpus

A collection is the files of one directory whose names have the right beginning and extension. They
are read in the order of their names, whatever the order in which the directory lists them.
-/

namespace CorpusLint

/-- Where a collection lies and how its members are named. -/
structure CollectionSource where
  collection : Collection
  root : Text
  /-- What the file names begin with. -/
  start : Option Text
  /-- The extension of the file names, without the dot. -/
  extension : Text
  /-- Whether a run needs the directory. -/
  required : Bool
deriving DecidableEq, Repr

namespace CollectionSource

/-- The name of the document in a file: the file's name without dot and extension. A file that is
named otherwise is no member. -/
def memberName? (source : CollectionSource) (fileName : Text) : Option Text :=
  if source.start.all (List.isPrefixOf · fileName) then
    match Text.dropFinish? ('.' :: source.extension) fileName with
    | none | some [] => none
    | some stem => some stem
  else none

/-- The members among the entries of the directory: the name of each with the file's name and
bytes. -/
def members (source : CollectionSource) (entries : List (Text × FileTree)) :
    List (Text × Text × ByteArray) :=
  entries.filterMap fun (fileName, node) =>
    match node with
    | .file bytes => (source.memberName? fileName).map (·, fileName, bytes)
    | .directory _ => none

/-- The document in a member. It has to be UTF-8. -/
def read (source : CollectionSource) (member : Text × Text × ByteArray) :
    Except Failure Document :=
  let (name, fileName, bytes) := member
  match Text.ofUtf8? bytes with
  | some raw => .ok ⟨source.collection, name, Path.join source.root fileName, raw⟩
  | none => .error .invalidUtf8

/-- The documents of a collection, by name. -/
def load (disk : Disk) (source : CollectionSource) : Except Failure (List Document) :=
  match disk.directory? source.root with
  | some entries =>
    ((source.members entries).mapM source.read).map
      (List.mergeSort · (fun d e => d.name.le e.name))
  | none =>
    if source.required then .error (.missingDirectory source.collection source.root) else .ok []

end CollectionSource

namespace CollectionSettings

def agentSource (s : CollectionSettings) (root : Text) : CollectionSource :=
  ⟨.agent, Path.join root s.agents, some s.agentStart, s.extension, true⟩

def workflowSource (s : CollectionSettings) (root : Text) : CollectionSource :=
  ⟨.workflow, Path.join root s.workflows, none, s.extension, false⟩

def commandSource (s : CollectionSettings) (root : Text) : CollectionSource :=
  ⟨.command, Path.join root s.commands, none, s.extension, false⟩

def directories (s : CollectionSettings) (root : Text) : List Text :=
  [(s.agentSource root).root, (s.workflowSource root).root, (s.commandSource root).root]

end CollectionSettings

/-- The corpus below a root directory: the agents, then the workflows, then the commands. -/
def Corpus.load (disk : Disk) (root : Text) (settings : Settings) : Except Failure Corpus :=
  match (settings.collections.agentSource root).load disk with
  | .error failure => .error failure
  | .ok agents =>
    match (settings.collections.workflowSource root).load disk with
    | .error failure => .error failure
    | .ok workflows =>
      match (settings.collections.commandSource root).load disk with
      | .error failure => .error failure
      | .ok commands =>
        .ok (Corpus.ofDocuments root agents workflows commands settings.rules.writeCapability)

end CorpusLint
