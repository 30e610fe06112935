import CorpusLint.Proofs.Evaluation.Growth
import CorpusLint.Proofs.Frontmatter.Sections

/-!
# Agents without a header

A text with fewer than two delimiter lines has no header, whatever looks like one in it. Its agent
is read-only, since it declares no tools, and it declares nothing else either: of what the rules ask
of a header, all is missing. The rules on file-writing agents do not look at it.

Main statement: `Rule.evaluate_headerless`. It says what each rule gives the agent among any other
agents (`Rule.GivesAmong`).
-/

namespace CorpusLint

theorem Document.header_eq_nil {d : Document}
    (h : d.raw.pieces.countP Frontmatter.isDelimiter < 2) : d.header = [] := by
  rcases Frontmatter.parting_or_lt d.raw with ⟨⟨parting⟩⟩ | ⟨-, hsplit⟩
  · have hcount := parting.countP_pieces
    omega
  · rw [header, hsplit]

theorem AgentClass.ofHeader_nil (capability : Text) : ofHeader capability [] = .readOnly :=
  rfl

/-! ## What is missing -/

namespace Header

theorem absentFields_nil (required : List Text) :
    absentFields required [] = required.map (· ++ [':']) := by
  rw [absentFields, List.filter_eq_self]
  intro key hkey
  obtain ⟨field, -, rfl⟩ := List.mem_map.1 hkey
  rw [Bool.not_eq_true', ← Bool.not_eq_true, Text.includes_iff, List.infix_nil]
  exact List.append_ne_nil_of_right_ne_nil field (List.cons_ne_nil _ _)

variable {d : Document} (hheader : d.header = [])

include hheader

theorem missingSkills_of_header_eq_nil :
    missingSkills d = [⟨none, "missing skills: in frontmatter".toList⟩] := by
  rw [missingSkills, hheader]
  rfl

theorem misnamedSkills_of_header_eq_nil : misnamedSkills d = [] := by
  rw [misnamedSkills, Document.skills, hheader]
  rfl

theorem missingName_of_header_eq_nil :
    missingName d = [⟨none, "frontmatter has no name: (malformed or missing header)".toList⟩] := by
  rw [missingName, hheader]
  rfl

/-- All required fields are absent, an empty name among them too: each is looked for with its
colon. -/
theorem missingFields_of_header_eq_nil {required : List Text} (hrequired : required ≠ []) :
    missingFields required d =
      [⟨none, "missing ".toList ++ Text.joinWith ", ".toList (required.map (· ++ [':']))⟩] := by
  rw [missingFields, hheader, absentFields_nil]
  split
  · next hnone => exact absurd (List.map_eq_nil_iff.1 hnone) hrequired
  · rfl

end Header

namespace Rule

/-! ## One agent among others -/

section Among

variable (r : Rule) (corpus : Corpus) (settings : RuleSettings) (before : List Agent) (a : Agent)
  (after : List Agent)

/-- The verdicts that a rule gives an agent stand behind those on the agents before it, and in front
of those on the agents after it. -/
def GivesAmong (verdicts : List Verdict) : Prop :=
  ∃ front back,
    r.evaluate { corpus with agents := before } settings = .ok front ∧
    r.evaluate { corpus with agents := after } settings = .ok back ∧
    r.evaluate { corpus with agents := before ++ a :: after } settings =
      .ok (front ++ verdicts ++ back)

variable {r}

theorem LooksAtAgents.evaluate_agents (h : r.LooksAtAgents) (agents : List Agent) :
    r.evaluate { corpus with agents := agents } settings =
      .ok (r.agentVerdicts corpus settings agents) := by
  rw [h.evaluate_eq]
  exact congrArg Except.ok (h.agentVerdicts_eq corpus _ agents)

theorem LooksAtAgents.givesAmong (h : r.LooksAtAgents) :
    r.GivesAmong corpus settings before a after
      (if r.scope.covers a.kind then r.verdictsOn corpus settings a.document else []) := by
  refine ⟨_, _, h.evaluate_agents corpus settings before, h.evaluate_agents corpus settings after,
    ?_⟩
  rw [h.evaluate_agents, agentVerdicts_append, agentVerdicts_cons, List.append_assoc]

theorem LooksAtAgents.givesAmong_of_covers (h : r.LooksAtAgents)
    (hcovers : r.scope.covers a.kind = true) :
    r.GivesAmong corpus settings before a after (r.verdictsOn corpus settings a.document) := by
  have hgives := h.givesAmong corpus settings before a after
  rwa [if_pos hcovers] at hgives

theorem LooksAtAgents.givesAmong_nil (h : r.LooksAtAgents)
    (hcovers : r.scope.covers a.kind = false) : r.GivesAmong corpus settings before a after [] := by
  have hgives := h.givesAmong corpus settings before a after
  rwa [hcovers, if_neg Bool.false_ne_true] at hgives

end Among

/-- **Without a header every field is missing.** An agent whose text has fewer than two delimiter
lines is read-only. The rules on skills, on readable headers and on required fields fail it once
each, the last of them with all required fields in their order. The rule on the names of skills lets
it pass, and those on file-writing agents say nothing of it. -/
theorem evaluate_headerless {d : Document}
    (hdelimiters : d.raw.pieces.countP Frontmatter.isDelimiter < 2) (capability : Text)
    (corpus : Corpus) (settings : RuleSettings) (hrequired : settings.requiredFields ≠ [])
    (before after : List Agent) :
    let a := Agent.ofDocument capability d
    a.kind = .readOnly ∧
    skillsField.GivesAmong corpus settings before a after
      [⟨.skillsField, .fail, d.id, none, "missing skills: in frontmatter".toList⟩] ∧
    readOnlyParses.GivesAmong corpus settings before a after
      [⟨.readOnlyParses, .fail, d.id, none,
        "frontmatter has no name: (malformed or missing header)".toList⟩] ∧
    requiredFields.GivesAmong corpus settings before a after
      [⟨.requiredFields, .fail, d.id, none, "missing ".toList ++
        Text.joinWith ", ".toList (settings.requiredFields.map (· ++ ":".toList))⟩] ∧
    skillNaming.GivesAmong corpus settings before a after
      [⟨.skillNaming, .pass, d.id, none, "skill references well-formed".toList⟩] ∧
    antiHeredocInstruction.GivesAmong corpus settings before a after [] ∧
    hooksCommented.GivesAmong corpus settings before a after [] := by
  intro a
  have hheader : d.header = [] := d.header_eq_nil hdelimiters
  have hkind : a.kind = .readOnly := by
    change AgentClass.ofHeader capability d.header = .readOnly
    rw [hheader, AgentClass.ofHeader_nil]
  -- the rules on agents of either class, and those that leave read-only agents alone
  have hgives : ∀ (r : Rule) (violations : List Violation), r.LooksAtAgents →
      r.scope.covers .readOnly = true → r.violations corpus settings d = violations →
        r.GivesAmong corpus settings before a after (Verdict.group r d r.praise violations) := by
    rintro r _ hlooks hcovers rfl
    exact hlooks.givesAmong_of_covers corpus settings before a after (hkind ▸ hcovers)
  have hsilent : ∀ r : Rule, r.LooksAtAgents → r.scope.covers .readOnly = false →
      r.GivesAmong corpus settings before a after [] := by
    intro r hlooks hcovers
    exact hlooks.givesAmong_nil corpus settings before a after (hkind ▸ hcovers)
  refine ⟨hkind, ?_, ?_, ?_, ?_, ?_, ?_⟩
  · exact hgives .skillsField _ trivial rfl (Header.missingSkills_of_header_eq_nil hheader)
  · exact hgives .readOnlyParses _ trivial rfl (Header.missingName_of_header_eq_nil hheader)
  · exact hgives .requiredFields _ trivial rfl
      (Header.missingFields_of_header_eq_nil hheader hrequired)
  · exact hgives .skillNaming _ trivial rfl (Header.misnamedSkills_of_header_eq_nil hheader)
  · exact hsilent .antiHeredocInstruction trivial rfl
  · exact hsilent .hooksCommented trivial rfl

/-- Nothing but its end is missing from this header. -/
theorem evaluate_headerless_unclosed :
    let raw := "---\nname: gsd-a\ntools: Write\nskills:\n- gsd-x\n# hooks:\n".toList
    let d : Document := ⟨.agent, "gsd-a".toList, [], raw⟩
    let a := Agent.ofDocument "Write".toList d
    let closed := Agent.ofDocument "Write".toList { d with raw := raw ++ "---".toList }
    let settings : RuleSettings := { requiredFields := ["tools".toList, "name".toList] }
    closed.kind = .fileWriting ∧ d.raw.pieces.countP Frontmatter.isDelimiter < 2 ∧
      settings.requiredFields ≠ [] ∧ a.kind = .readOnly ∧
      requiredFields.GivesAmong ⟨[], [], [], []⟩ settings [closed] a []
        [⟨.requiredFields, .fail, "agent:gsd-a".toList, none, "missing tools:, name:".toList⟩] ∧
      hooksCommented.GivesAmong ⟨[], [], [], []⟩ settings [closed] a [] [] := by
  intro raw d a closed settings
  have hdelimiters : d.raw.pieces.countP Frontmatter.isDelimiter < 2 := by decide
  have hrequired : settings.requiredFields ≠ [] := by decide
  obtain ⟨hkind, -, -, hfields, -, -, hhooks⟩ :=
    evaluate_headerless hdelimiters "Write".toList ⟨[], [], [], []⟩ settings hrequired [closed] []
  exact ⟨by decide +kernel, hdelimiters, hrequired, hkind, hfields, hhooks⟩

end Rule

end CorpusLint
