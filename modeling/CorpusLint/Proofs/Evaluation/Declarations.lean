import CorpusLint.Proofs.Evaluation.Groups
import CorpusLint.Proofs.Frontmatter.Field

/-!
# Declared fields are found

Whether a header has a field is asked in three ways: by how its lines begin (`hasField`), by the
value of the first declaration (`fieldValue?`), and by a search of the whole header for the name and
its colon. The search is the most permissive. A line is a contiguous part of its header, so that
a field with a declaration is found by the search (`infix_of_hasField`), and a value comes from a
declaration (`hasField_of_fieldValue?`).

Main statement: `evaluate_declarations`. Rules and classes of agents that ask in different ways do
not contradict each other.
-/

namespace CorpusLint

namespace Frontmatter

variable {header name value : Text}

theorem Declares.isInfix {line : Text} (h : Declares name line) (hline : line ∈ header.lines) :
    name ++ [':'] <:+: header :=
  List.IsInfix.trans (List.IsPrefix.isInfix h) (Text.infix_of_mem_lines hline)

theorem infix_of_hasField (h : hasField header name = true) : name ++ [':'] <:+: header := by
  obtain ⟨line, hline, hdeclares⟩ := hasField_iff.1 h
  exact hdeclares.isInfix hline

theorem hasField_of_fieldValue? (h : fieldValue? header name = some value) :
    hasField header name = true := by
  cases hfield : hasField header name with
  | true => rfl
  | false =>
    rw [fieldValue?_eq_none hfield] at h
    cases h

end Frontmatter

theorem AgentClass.hasField_of_ofHeader {capability header : Text}
    (h : ofHeader capability header = .fileWriting) :
    Frontmatter.hasField header "tools".toList = true := by
  unfold ofHeader at h
  split at h
  · next tools htools => exact Frontmatter.hasField_of_fieldValue? htools
  · cases h

namespace Header

variable {required : List Text} {header name : Text} {d : Document}

/-- A required field is reported when the search does not find it. -/
theorem mem_absentFields :
    name ++ [':'] ∈ absentFields required header ↔
      name ∈ required ∧ ¬ name ++ [':'] <:+: header := by
  have hmem : name ++ [':'] ∈ required.map (· ++ [':']) ↔ name ∈ required :=
    List.mem_map_of_injective (List.append_left_injective [':'])
  rw [absentFields, List.mem_filter, hmem, Bool.not_eq_true', ← Bool.not_eq_true, Text.includes_iff]

theorem notMem_absentFields (h : Frontmatter.hasField header name = true) :
    name ++ [':'] ∉ absentFields required header := by
  intro hmem
  exact (mem_absentFields.1 hmem).2 (Frontmatter.infix_of_hasField h)

theorem hasField_of_missingSkills (h : missingSkills d = []) :
    Frontmatter.hasField d.header "skills".toList = true := by
  by_contra hfield
  rw [missingSkills, if_neg hfield] at h
  cases h

theorem missingName_eq_nil (h : Frontmatter.hasField d.header "name".toList = true) :
    missingName d = [] :=
  if_pos (Text.includes_iff.2 (Frontmatter.infix_of_hasField h))

end Header

namespace Rule

theorem verdictsOn_requiredFields (corpus : Corpus) (settings : RuleSettings) (d : Document) :
    let absent := Header.absentFields settings.requiredFields d.header
    requiredFields.verdictsOn corpus settings d =
      [if absent = [] then ⟨.requiredFields, .pass, d.id, none, "required fields present".toList⟩
      else ⟨.requiredFields, .fail, d.id, none,
        "missing ".toList ++ Text.joinWith ", ".toList absent⟩] := by
  intro absent
  change Verdict.group _ d _ (Header.missingFields settings.requiredFields d) = _
  unfold Header.missingFields
  split
  · next h => exact congrArg (fun v => [v]) (if_pos h).symm
  · next h => exact congrArg (fun v => [v]) (if_neg h).symm

/-- **Strict and permissive tests for a field do not contradict each other.** A field that a line of
a header declares, or that has a value, is found when the header is searched for its name and a
colon. So the rule on required fields, which searches, never reports a field that the agent
declares, nor the tools of an agent that counts as file-writing, nor the skills of one that passes
the rule on skills; and a read-only agent that declares its name passes the rule on readable
headers. -/
theorem evaluate_declarations (root : Text) (agents workflows commands : List Document)
    (capability : Text) (settings : RuleSettings) :
    let corpus := Corpus.ofDocuments root agents workflows commands capability
    (∀ header name : Text,
      (Frontmatter.hasField header name = true ∨ ∃ value,
        Frontmatter.fieldValue? header name = some value) → name ++ [':'] <:+: header) ∧
    requiredFields.evaluate corpus settings =
      .ok (corpus.agents.flatMap fun a => requiredFields.verdictsOn corpus settings a.document) ∧
    skillsField.evaluate corpus settings =
      .ok (corpus.agents.flatMap fun a => skillsField.verdictsOn corpus settings a.document) ∧
    readOnlyParses.evaluate corpus settings =
      .ok ((corpus.agentsOf .readOnly).flatMap fun a =>
        readOnlyParses.verdictsOn corpus settings a.document) ∧
    (∀ a ∈ corpus.agents,
      let absent := Header.absentFields settings.requiredFields a.document.header
      requiredFields.verdictsOn corpus settings a.document =
        [if absent = [] then
          ⟨.requiredFields, .pass, a.document.id, none, "required fields present".toList⟩
        else ⟨.requiredFields, .fail, a.document.id, none,
          "missing ".toList ++ Text.joinWith ", ".toList absent⟩] ∧
      (∀ name, name ++ [':'] ∈ absent ↔
        name ∈ settings.requiredFields ∧ ¬ name ++ [':'] <:+: a.document.header) ∧
      (∀ name, ∀ line ∈ a.document.header.lines, Frontmatter.Declares name line →
        name ++ [':'] ∉ absent) ∧
      (a.kind = .fileWriting → "tools:".toList ∉ absent) ∧
      ((∀ v ∈ skillsField.verdictsOn corpus settings a.document, v.isFailure = false) →
        "skills:".toList ∉ absent)) ∧
    ∀ a ∈ corpus.agentsOf .readOnly, ∀ line ∈ a.document.header.lines,
      Frontmatter.Declares "name".toList line →
        readOnlyParses.verdictsOn corpus settings a.document =
          [⟨.readOnlyParses, .pass, a.document.id, none, "frontmatter parses".toList⟩] := by
  intro corpus
  refine ⟨fun header name h => ?_, evaluate_agents settings (by decide) rfl,
    evaluate_agents settings (by decide) rfl, evaluate_agents settings (by decide) rfl,
    fun a ha => ?_, fun a _ line hline hdeclares => ?_⟩
  · rcases h with hfield | ⟨value, hvalue⟩
    · exact Frontmatter.infix_of_hasField hfield
    · exact Frontmatter.infix_of_hasField (Frontmatter.hasField_of_fieldValue? hvalue)
  · refine ⟨verdictsOn_requiredFields corpus settings a.document, fun _ => Header.mem_absentFields,
      fun name line hline hdeclares => ?_, fun hkind => ?_, fun hskills => ?_⟩
    · exact Header.notMem_absentFields (Frontmatter.hasField_iff.2 ⟨line, hline, hdeclares⟩)
    · -- the class of an agent of such a corpus is that of its header
      obtain ⟨d, -, rfl⟩ := List.mem_map.1 ha
      exact Header.notMem_absentFields (AgentClass.hasField_of_ofHeader hkind)
    · have hnone : Header.missingSkills a.document = [] :=
        Verdict.violations_eq_nil_of_group hskills
      exact Header.notMem_absentFields (Header.hasField_of_missingSkills hnone)
  · have hfield := Frontmatter.hasField_iff.2 ⟨line, hline, hdeclares⟩
    exact Verdict.group_eq_pass_iff.2 (Header.missingName_eq_nil hfield)

/-- A file-writing agent with its tools in a list, under lines of both endings, and a read-only
agent: the first lacks nothing but a colour, and the second has a readable header. -/
theorem evaluate_declarations_toolsList :
    let writer : Document := ⟨.agent, "gsd-a".toList, [],
      "---\r\nname: a\ntools:\r\n- Read\r\n- Write\r\nskills: x\n---\n".toList⟩
    let reader : Document := ⟨.agent, "gsd-b".toList, [], "---\nname: b\r\n---\n".toList⟩
    let corpus := Corpus.ofDocuments [] [writer, reader] [] [] "Write".toList
    let settings : RuleSettings :=
      { requiredFields := ["name".toList, "tools".toList, "skills".toList, "color".toList] }
    let absent := Header.absentFields settings.requiredFields writer.header
    (corpus.agents.map Agent.kind = [.fileWriting, .readOnly] ∧
      Frontmatter.fieldValue? writer.header "tools".toList = some "Read, Write".toList ∧
      "tools:".toList <:+: writer.header) ∧
    (absent = ["color:".toList] ∧ "name:".toList ∉ absent ∧ "tools:".toList ∉ absent ∧
      "skills:".toList ∉ absent) ∧
    requiredFields.verdictsOn corpus settings writer =
      [⟨.requiredFields, .fail, "agent:gsd-a".toList, none, "missing color:".toList⟩] ∧
    readOnlyParses.verdictsOn corpus settings reader =
      [⟨.readOnlyParses, .pass, "agent:gsd-b".toList, none, "frontmatter parses".toList⟩] := by
  intro writer reader corpus settings absent
  obtain ⟨hfound, -, -, -, hagents, hreaders⟩ :=
    evaluate_declarations [] [writer, reader] [] [] "Write".toList settings
  have hvalue : Frontmatter.fieldValue? writer.header "tools".toList =
      some "Read, Write".toList := by decide +kernel
  obtain ⟨hverdicts, -, hdeclared, htools, hskills⟩ :=
    hagents (Agent.ofDocument "Write".toList writer) List.mem_cons_self
  have habsent : absent = ["color:".toList] := by decide +kernel
  refine ⟨⟨by decide +kernel, hvalue, hfound _ _ (.inr ⟨_, hvalue⟩)⟩,
    ⟨habsent, ?_, htools (by decide +kernel), hskills (by decide +kernel)⟩, ?_, ?_⟩
  · exact hdeclared "name".toList "name: a".toList (by decide +kernel) (by decide)
  · refine hverdicts.trans ?_
    change [if absent = [] then _ else _] = _
    rw [habsent]
    rfl
  · exact hreaders (Agent.ofDocument "Write".toList reader) (by decide +kernel) "name: b".toList
      (by decide +kernel) (by decide)

end Rule

end CorpusLint
