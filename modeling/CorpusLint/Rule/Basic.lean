import CorpusLint.Failure

/-!
# The catalog of rules

Ten rules, each with an identifier, a title and a scope. The order of the catalog is the order in
which a report lists them.

Main statement: an identifier names the rule that it belongs to and nothing else does
(`parse_eq_ok_iff`).
-/

namespace CorpusLint

/-- The documents that a rule looks at. -/
inductive Scope where
  | fileWritingAgents
  | readOnlyAgents
  | allAgents
  /-- The workflows, then the commands. -/
  | orchestration
  | pinnedWorkflows
deriving DecidableEq, Repr

def Scope.name : Scope → Text
  | .fileWritingAgents => "file-writing agents".toList
  | .readOnlyAgents => "read-only agents".toList
  | .allAgents => "all agents".toList
  | .orchestration => "workflows and commands".toList
  | .pinnedWorkflows => "pinned workflows".toList

inductive Rule where
  /-- A file-writing agent carries the warning against heredocs. -/
  | antiHeredocInstruction
  /-- No agent tells its reader to write a file by a heredoc. -/
  | noActiveHeredoc
  /-- An agent declares its skills. -/
  | skillsField
  /-- The skills of an agent are named by the convention. -/
  | skillNaming
  /-- A file-writing agent has its hooks commented out. -/
  | hooksCommented
  /-- A read-only agent has a header with a name. -/
  | readOnlyParses
  /-- Agents are not spawned by telling a general one to read a definition. -/
  | noLegacySpawn
  /-- Every agent that is spawned exists. -/
  | spawnTargets
  /-- The pinned workflows spawn their agents. -/
  | pinnedRoutes
  /-- An agent declares the required fields. -/
  | requiredFields
deriving DecidableEq, Repr

namespace Rule

def id : Rule → Text
  | antiHeredocInstruction => "anti-heredoc-instruction".toList
  | noActiveHeredoc => "no-active-heredoc".toList
  | skillsField => "skills-field".toList
  | skillNaming => "skill-naming".toList
  | hooksCommented => "hooks-commented".toList
  | readOnlyParses => "read-only-parses".toList
  | noLegacySpawn => "no-legacy-spawn".toList
  | spawnTargets => "spawn-targets".toList
  | pinnedRoutes => "pinned-routes".toList
  | requiredFields => "required-fields".toList

def title : Rule → Text
  | antiHeredocInstruction => "Anti-heredoc instruction present".toList
  | noActiveHeredoc => "No active heredoc file writes".toList
  | skillsField => "Skills field present".toList
  | skillNaming => "Skill references follow naming convention".toList
  | hooksCommented => "Hooks commented out for file-writing agents".toList
  | readOnlyParses => "Read-only agents parse".toList
  | noLegacySpawn => "No legacy spawn workaround".toList
  | spawnTargets => "Spawn targets name known agents".toList
  | pinnedRoutes => "Pinned workflow routes".toList
  | requiredFields => "Required frontmatter fields".toList

def scope : Rule → Scope
  | antiHeredocInstruction | hooksCommented => .fileWritingAgents
  | readOnlyParses => .readOnlyAgents
  | noActiveHeredoc | skillsField | skillNaming | requiredFields => .allAgents
  | noLegacySpawn | spawnTargets => .orchestration
  | pinnedRoutes => .pinnedWorkflows

/-- All rules, in the order in which a report lists them. -/
def catalog : List Rule :=
  [antiHeredocInstruction, noActiveHeredoc, skillsField, skillNaming, hooksCommented,
    readOnlyParses, noLegacySpawn, spawnTargets, pinnedRoutes, requiredFields]

def position (r : Rule) : Nat :=
  catalog.idxOf r

theorem mem_catalog (r : Rule) : r ∈ catalog := by
  cases r <;> decide

/-- The rule with this identifier. -/
def parse (id : Text) : Except Failure Rule :=
  match catalog.find? (fun r => r.id == id) with
  | some r => .ok r
  | none => .error (.unknownRule id)

theorem parse_id (r : Rule) : parse r.id = .ok r := by
  cases r <;> rfl

theorem id_injective {r s : Rule} (h : r.id = s.id) : r = s := by
  have hr := parse_id r
  rw [h, parse_id] at hr
  exact (Except.ok.inj hr).symm

theorem parse_eq_ok_iff {id : Text} {r : Rule} : parse id = .ok r ↔ r.id = id := by
  constructor
  · intro h
    unfold parse at h
    split at h
    · rename_i s hs
      obtain rfl := Except.ok.inj h
      simpa using List.find?_some hs
    · simp at h
  · rintro rfl
    exact parse_id r

end Rule

end CorpusLint
