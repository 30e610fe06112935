import CorpusLint.Check.Header
import CorpusLint.Check.Heredoc
import CorpusLint.Check.Spawn

/-!
# Evaluating a rule

A rule is evaluated in a loop over documents. Some rules ask one thing of a document and give it
one verdict (`askEach`). Others go through the lines, the skills or the spawns of a document and
push a failure for each that they object to onto one list of verdicts; where the list is no longer
than before, they push a pass (`pushEach`). The rule on pinned routes goes through the routes
instead, and is the only one that can fail to be evaluated.

What the loops give is the verdicts on each document of the scope (`verdictsOn`), one document after
another.
-/

namespace CorpusLint

namespace Rule

/-! ## Loops -/

/-- What a rule says of a document that passes. -/
def praise : Rule → Text
  | antiHeredocInstruction => "anti-heredoc instruction present".toList
  | noActiveHeredoc => "no active heredoc writes".toList
  | skillsField => "skills: declared".toList
  | skillNaming => "skill references well-formed".toList
  | hooksCommented => "hooks commented out".toList
  | readOnlyParses => "frontmatter parses".toList
  | noLegacySpawn => "no legacy spawn workaround".toList
  | spawnTargets => "all spawn targets resolve".toList
  | pinnedRoutes => []
  | requiredFields => "required fields present".toList

/-- One verdict for each document: it passes, or the first thing that is wrong with it counts. -/
def askEach (r : Rule) (wrong : Document → List Violation) (documents : List Document) :
    List Verdict :=
  documents.map fun d =>
    match wrong d with
    | [] => ⟨r, .pass, d.id, none, r.praise⟩
    | v :: _ => ⟨r, .fail, d.id, v.line, v.message⟩

section

variable {α : Type} (r : Rule) (items : Document → List α) (objects : α → Bool)
  (violation : α → Violation)

/-- The verdicts so far and, if the rule objects to this item, one failure more. -/
def pushItem (d : Document) (verdicts : Array Verdict) (item : α) : Array Verdict :=
  if objects item then
    verdicts.push ⟨r, .fail, d.id, (violation item).line, (violation item).message⟩
  else verdicts

/-- The verdicts so far and those on one document more. If none of its items has added a verdict,
the document passes. -/
def pushDocument (verdicts : Array Verdict) (d : Document) : Array Verdict :=
  let before := verdicts.size
  let verdicts := (items d).foldl (pushItem r objects violation d) verdicts
  if verdicts.size = before then verdicts.push ⟨r, .pass, d.id, none, r.praise⟩ else verdicts

/-- The verdicts on all documents, pushed onto one list. -/
def pushEach (documents : List Document) : List Verdict :=
  (documents.foldl (pushDocument r items objects violation) #[]).toList

end

/-- The verdicts of a rule on a corpus. -/
def evaluate (corpus : Corpus) (settings : RuleSettings) (r : Rule) :
    Except Failure (List Verdict) :=
  let agents := corpus.agents.map Agent.document
  let writers := (corpus.agentsOf .fileWriting).map Agent.document
  let readers := (corpus.agentsOf .readOnly).map Agent.document
  match r with
  | antiHeredocInstruction => .ok (r.askEach Heredoc.missingWarning writers)
  | noActiveHeredoc =>
    .ok (r.pushEach (·.raw.unfencedLines) (Heredoc.isOffence ·.text) Heredoc.offence agents)
  | skillsField => .ok (r.askEach Header.missingSkills agents)
  | skillNaming =>
    .ok (r.pushEach Document.skills (!Header.isSkillName ·) Header.misnaming agents)
  | hooksCommented => .ok (r.askEach Header.missingHooks writers)
  | readOnlyParses => .ok (r.askEach Header.missingName readers)
  | noLegacySpawn =>
    .ok (r.pushEach (·.raw.numberedLines) (·.text.includes Spawn.legacyOpening)
      Spawn.legacyViolation corpus.orchestration)
  | spawnTargets =>
    let known := Spawn.knownTargets corpus
    .ok (r.pushEach (Spawn.scan ·.raw) (!known.contains ·.target) Spawn.unknownTarget
      corpus.orchestration)
  | pinnedRoutes => PinnedRoute.verdicts corpus settings.pinnedRoutes
  | requiredFields => .ok (r.askEach (Header.missingFields settings.requiredFields) agents)

end Rule

/-! ## Document by document -/

/-- The documents of a scope that a rule looks at one by one, in the order of the corpus. -/
def Scope.documents (corpus : Corpus) : Scope → List Document
  | .fileWritingAgents => (corpus.agentsOf .fileWriting).map Agent.document
  | .readOnlyAgents => (corpus.agentsOf .readOnly).map Agent.document
  | .allAgents => corpus.agents.map Agent.document
  | .orchestration => corpus.orchestration
  | .pinnedWorkflows => []

namespace Rule

/-- What a rule finds wrong with one document. -/
def violations (corpus : Corpus) (settings : RuleSettings) : Rule → Document → List Violation
  | antiHeredocInstruction => Heredoc.missingWarning
  | noActiveHeredoc => Heredoc.violations
  | skillsField => Header.missingSkills
  | skillNaming => Header.misnamedSkills
  | hooksCommented => Header.missingHooks
  | readOnlyParses => Header.missingName
  | noLegacySpawn => Spawn.legacy
  | spawnTargets => Spawn.unresolved (Spawn.knownTargets corpus)
  | pinnedRoutes => fun _ => []
  | requiredFields => Header.missingFields settings.requiredFields

/-- The verdicts of a rule on one document. -/
def verdictsOn (corpus : Corpus) (settings : RuleSettings) (r : Rule) (d : Document) :
    List Verdict :=
  Verdict.group r d r.praise (r.violations corpus settings d)

end Rule

end CorpusLint
