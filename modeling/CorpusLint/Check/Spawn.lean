import CorpusLint.Corpus
import CorpusLint.Settings.Basic
import CorpusLint.Text.Cursor
import CorpusLint.Verdict

/-!
# Spawned agents

A workflow or a command *spawns* an agent where it says `subagent_type="…"`. The spawns of a text
are found from left to right, and none begins inside another. What stands between the quotes, any
character but a quote and at least one, is the target; it may run over several lines.

A pinned route says that a certain workflow spawns a certain agent. The workflow has to be there:
without it the rule cannot be evaluated at all.
-/

namespace CorpusLint

/-! ## Spawns -/

/-- A place where a text spawns an agent. -/
structure Spawn where
  place : Cursor
  target : Text
deriving DecidableEq, Repr

namespace Spawn

/-- What a spawn begins with, up to its first quote. -/
def label : Text :=
  "subagent_type=".toList

/-- What a spawn begins with, the first quote included. -/
def opening : Text :=
  label ++ ['\"']

def written (target : Text) : Text :=
  opening ++ target ++ ['\"']

/-- The target of the spawn that a text begins with. -/
def target? (t : Text) : Option Text :=
  match Text.dropStart? opening t with
  | none => none
  | some inner =>
    let target := inner.takeWhile (· != '\"')
    if target.isEmpty || target.length == inner.length then none else some target

/-- The spawns that begin in a text, after the characters `seen`. The next `skip` characters belong
to the spawn before and are passed over. -/
def scanFrom (seen : Text) (skip : Nat) : Text → List Spawn
  | [] => []
  | c :: t =>
    match skip with
    | k + 1 => scanFrom (c :: seen) k t
    | 0 =>
      match target? (c :: t) with
      | some target =>
        ⟨⟨seen, c :: t⟩, target⟩ :: scanFrom (c :: seen) ((written target).length - 1) t
      | none => scanFrom (c :: seen) 0 t

def scan (t : Text) : List Spawn :=
  scanFrom [] 0 t

/-- The target that stands for any agent. -/
def generalPurpose : Text :=
  "general-purpose".toList

/-- The names that a spawn may have as its target. -/
def knownTargets (corpus : Corpus) : List Text :=
  generalPurpose :: corpus.agentNames

/-- What is wrong with the spawn of an unknown agent that begins in this line. -/
def complaint (target line : Text) : Text :=
  "unknown agent type \"".toList ++ target ++ "\": ".toList ++ line.trim

/-- What is wrong with a spawn whose target is unknown. -/
def unknownTarget (spawn : Spawn) : Violation :=
  ⟨some spawn.place.lineNumber, complaint spawn.target spawn.place.line⟩

/-- The spawns of a document whose target is not among the known ones. -/
def unresolved (known : List Text) (d : Document) : List Violation :=
  ((scan d.raw).filter (!known.contains ·.target)).map unknownTarget

/-- How a document spawns an agent without naming it. -/
def legacyOpening : Text :=
  "First, read ~/.claude/agents/gsd-".toList

/-- What is wrong with such a line. -/
def legacyViolation (line : NumberedLine) : Violation :=
  ⟨some line.number,
    "legacy \"First, read agent .md\" workaround, use a named subagent_type instead: ".toList ++
      line.text.trim⟩

/-- The lines of a document that spawn an agent without naming it. -/
def legacy (d : Document) : List Violation :=
  (d.raw.numberedLines.filter (·.text.includes legacyOpening)).map legacyViolation

end Spawn

/-! ## Pinned routes -/

namespace PinnedRoute

def verdict (route : PinnedRoute) (d : Document) : Verdict :=
  if d.raw.includes (Spawn.written route.agent) then
    ⟨.pinnedRoutes, .pass, d.id, none, "spawns ".toList ++ route.agent⟩
  else
    ⟨.pinnedRoutes, .fail, d.id, none, "should spawn ".toList ++ route.agent ++ ", not ".toList ++
      Spawn.generalPurpose ++ " (expected ".toList ++ Spawn.written route.agent ++ ")".toList⟩

/-- One verdict for each route, in order. The first route without its workflow ends the
evaluation. -/
def verdicts (corpus : Corpus) : List PinnedRoute → Except Failure (List Verdict)
  | [] => .ok []
  | route :: rest =>
    match corpus.workflow? route.workflow with
    | none => .error (.missingWorkflow route.workflow corpus.root)
    | some d =>
      match verdicts corpus rest with
      | .error failure => .error failure
      | .ok others => .ok (route.verdict d :: others)

end PinnedRoute

end CorpusLint
