import CorpusLint.Document
import CorpusLint.Frontmatter

/-!
# The corpus

All documents of one run: the agents with their classes, the workflows and the commands. An agent is
a document of the first collection together with its class. The class is decided once, from the
tools that the header declares and the capability that stands for writing files.
-/

namespace CorpusLint

/-! ## Agents -/

/-- What an agent may do to files. -/
inductive AgentClass where
  /-- It declares the write capability. -/
  | fileWriting
  /-- It does not. -/
  | readOnly
deriving DecidableEq, Repr

namespace AgentClass

def name : AgentClass → Text
  | .fileWriting => "file-writing".toList
  | .readOnly => "read-only".toList

/-- The class of an agent with this header: file-writing when the value of its field `tools` has
`capability` in it. -/
def ofHeader (capability header : Text) : AgentClass :=
  match Frontmatter.fieldValue? header "tools".toList with
  | some tools => if tools.includes capability then .fileWriting else .readOnly
  | none => .readOnly

end AgentClass

/-- An agent: its document and its class. -/
structure Agent where
  document : Document
  kind : AgentClass
deriving DecidableEq, Repr

namespace Agent

/-- The agent that a document defines. -/
def ofDocument (capability : Text) (d : Document) : Agent :=
  ⟨d, .ofHeader capability d.header⟩

def name (a : Agent) : Text :=
  a.document.name

end Agent

namespace Document

/-- What the names of skills begin with. -/
def skillStart : Text :=
  "gsd-".toList

/-- The skills that a document refers to: the list items of its header with the name of a skill. -/
def skills (d : Document) : List Text :=
  (Frontmatter.listItems d.header).filter (skillStart.isPrefixOf ·)

end Document

/-! ## The corpus -/

structure Corpus where
  /-- The directory that the collections were read from. -/
  root : Text
  agents : List Agent
  workflows : List Document
  commands : List Document
deriving DecidableEq, Repr

namespace Corpus

/-- The corpus of documents already read; each agent is classified by `capability`. -/
def ofDocuments (root : Text) (agents workflows commands : List Document) (capability : Text) :
    Corpus :=
  ⟨root, agents.map (Agent.ofDocument capability), workflows, commands⟩

/-- The corpus with one more document at the end of its collection. -/
def add (corpus : Corpus) (capability : Text) (d : Document) : Corpus :=
  match d.collection with
  | .agent => { corpus with agents := corpus.agents ++ [Agent.ofDocument capability d] }
  | .workflow => { corpus with workflows := corpus.workflows ++ [d] }
  | .command => { corpus with commands := corpus.commands ++ [d] }

def agentsOf (corpus : Corpus) (kind : AgentClass) : List Agent :=
  corpus.agents.filter (·.kind == kind)

/-- The documents that spawn agents: the workflows, then the commands. -/
def orchestration (corpus : Corpus) : List Document :=
  corpus.workflows ++ corpus.commands

def workflow? (corpus : Corpus) (name : Text) : Option Document :=
  corpus.workflows.find? (·.name == name)

def agentNames (corpus : Corpus) : List Text :=
  corpus.agents.map Agent.name

/-- The names of the agents, each once and in the order of texts. -/
def sortedAgentNames (corpus : Corpus) : List Text :=
  corpus.agentNames.eraseDups.mergeSort Text.le

end Corpus

end CorpusLint
