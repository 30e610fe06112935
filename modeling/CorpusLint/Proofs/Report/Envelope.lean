import CorpusLint.Proofs.Report.Totals

/-!
# Reading an envelope

The envelope of a report can be read back: field by field a verdict, verdict by verdict an outcome,
and outcome by outcome the report, with the command that made it (`Report.ofJson?_toJson`). A reader
finds the rules by the identifiers in the fields, whether it looks these up or spells them from the
words that name the rules (`Rule.hyphenated_word`). So two envelopes that differ in nothing but
their stamps are those of one command and one report.

Main statement: `Report.toJson_lossless`.
-/

namespace CorpusLint

/-! ## The names of rules -/

/-- A word that marks its parts by capitals, in lower case and with hyphens between the parts. -/
def Text.hyphenated : Text → Text
  | [] => []
  | c :: t => c.toLower :: t.flatMap fun d => if d.isUpper then ['-', d.toLower] else [d.toLower]

namespace Rule

/-- The name of a rule in one word. -/
def word : Rule → Text
  | antiHeredocInstruction => "AntiHeredocInstruction".toList
  | noActiveHeredoc => "NoActiveHeredoc".toList
  | skillsField => "SkillsField".toList
  | skillNaming => "SkillNaming".toList
  | hooksCommented => "HooksCommented".toList
  | readOnlyParses => "ReadOnlyParses".toList
  | noLegacySpawn => "NoLegacySpawn".toList
  | spawnTargets => "SpawnTargets".toList
  | pinnedRoutes => "PinnedRoutes".toList
  | requiredFields => "RequiredFields".toList

theorem hyphenated_word (r : Rule) : Text.hyphenated r.word = r.id := by
  cases r <;> decide

end Rule

/-! ## Reading -/

namespace Json

/-- The text in a field. -/
def text? (name : Text) (value : Json) : Option Text :=
  match value.field? name with
  | some (text t) => some t
  | _ => none

/-- The number in a field. -/
def number? (name : Text) (value : Json) : Option Nat :=
  match value.field? name with
  | some (number n) => some n
  | _ => none

end Json

/-- The rule that the field `rule` of a value names. -/
def Rule.ofJson? (value : Json) : Option Rule :=
  (value.text? "rule".toList).bind fun id => (parse id).toOption

/-- The status of this name. -/
def Status.ofName? (name : Text) : Option Status :=
  [pass, fail].find? (·.name == name)

def Verdict.ofJson? (value : Json) : Option Verdict := do
  let rule ← Rule.ofJson? value
  let status ← (value.text? "status".toList).bind Status.ofName?
  let document ← value.text? "document".toList
  let message ← value.text? "message".toList
  return ⟨rule, status, document, value.number? "line".toList, message⟩

def Outcome.ofJson? (value : Json) : Option Outcome := do
  let rule ← Rule.ofJson? value
  let duration ← value.number? "duration_ms".toList
  let verdicts ← (value.itemsOf "verdicts".toList).mapM Verdict.ofJson?
  return ⟨rule, duration, verdicts⟩

/-- The command and the report of an envelope. The summary, the status and the stamp are not
read. -/
def Report.ofJson? (envelope : Json) : Option (Text × Report) := do
  let command ← envelope.text? "cmd".toList
  let outcomes ← (envelope.itemsOf "rules".toList).mapM Outcome.ofJson?
  return (command, ⟨outcomes⟩)

/-! ## What is read -/

/-- Values that are read back one by one are read back together. -/
theorem mapM_map_of_leftInverse {α β : Type} {write : α → β} {read : β → Option α}
    (h : ∀ a, read (write a) = some a) (l : List α) : (l.map write).mapM read = some l := by
  have hread : read ∘ write = fun a => pure a := funext h
  rw [List.mapM_map, hread, List.mapM_pure, List.map_id']
  rfl

theorem Rule.ofJson?_eq_some {value : Json} {r : Rule}
    (h : value.text? "rule".toList = some r.id) : ofJson? value = some r := by
  rw [ofJson?, h, Option.bind_some, parse_id]
  rfl

theorem Status.ofName?_name (status : Status) : ofName? status.name = some status := by
  cases status <;> rfl

namespace Verdict

variable (v : Verdict)

/-- The fields of a verdict. A line that it does not have makes no field. -/
theorem fields_toJson :
    v.toJson.text? "rule".toList = some v.rule.id ∧
      v.toJson.text? "status".toList = some v.status.name ∧
      v.toJson.text? "document".toList = some v.document ∧
      v.toJson.text? "message".toList = some v.message ∧
      v.toJson.number? "line".toList = v.line := by
  unfold toJson
  cases v.line with
  | none => exact ⟨rfl, rfl, rfl, rfl, rfl⟩
  | some n => exact ⟨rfl, rfl, rfl, rfl, rfl⟩

theorem ofJson?_toJson : ofJson? v.toJson = some v := by
  obtain ⟨hrule, hstatus, hdocument, hmessage, hline⟩ := v.fields_toJson
  rw [ofJson?, Rule.ofJson?_eq_some hrule, hstatus, hdocument, hmessage, hline, Option.bind_some,
    Status.ofName?_name]
  rfl

end Verdict

theorem Outcome.ofJson?_toJson (o : Outcome) : ofJson? o.toJson = some o := by
  have hrule : Rule.ofJson? o.toJson = some o.rule := Rule.ofJson?_eq_some rfl
  have hduration : o.toJson.number? "duration_ms".toList = some o.duration := rfl
  rw [ofJson?, hrule, hduration, o.itemsOf_toJson, mapM_map_of_leftInverse Verdict.ofJson?_toJson]
  rfl

namespace Report

/-- The fields of an envelope that tell runs apart. -/
def stampFields : List Text :=
  ["ts".toList, "run_id".toList]

theorem without_stampFields (command : Text) (stamp other : Stamp) (report : Report) :
    (report.toJson command stamp).without stampFields =
      (report.toJson command other).without stampFields :=
  rfl

theorem ofJson?_toJson (command : Text) (stamp : Stamp) (report : Report) :
    ofJson? ((report.toJson command stamp).without stampFields) = some (command, report) := by
  have hcommand : ((report.toJson command stamp).without stampFields).text? "cmd".toList =
      some command := rfl
  have houtcomes : ((report.toJson command stamp).without stampFields).itemsOf "rules".toList =
      report.outcomes.map Outcome.toJson := rfl
  rw [ofJson?, hcommand, houtcomes, mapM_map_of_leftInverse Outcome.ofJson?_toJson]
  rfl

end Report

/-! ## Identifiers -/

/-- The field `rule` of a value is the word for the rule in lower case, and is the identifier of the
rule. -/
structure Rule.NamedIn (r : Rule) (value : Json) : Prop where
  text_eq : value.text? "rule".toList = some (Text.hyphenated r.word)
  parse_eq : parse (Text.hyphenated r.word) = .ok r

theorem Rule.namedIn_of_text {r : Rule} {value : Json}
    (h : value.text? "rule".toList = some r.id) : r.NamedIn value where
  text_eq := by rw [h, hyphenated_word]
  parse_eq := by rw [hyphenated_word, parse_id]

/-- A value names the rule of an outcome, and its verdicts name those of the verdicts. -/
structure Outcome.NamedIn (o : Outcome) (value : Json) : Prop where
  rule : o.rule.NamedIn value
  verdicts : List.Forall₂ (fun v item => Rule.NamedIn v.rule item) o.verdicts
    (value.itemsOf "verdicts".toList)

theorem Outcome.namedIn_toJson (o : Outcome) : o.NamedIn o.toJson where
  rule := Rule.namedIn_of_text rfl
  verdicts := by
    rw [o.itemsOf_toJson, List.forall₂_map_right_iff, List.forall₂_same]
    exact fun v _ => Rule.namedIn_of_text v.fields_toJson.1

namespace Report

/-- **An envelope loses nothing.** Envelopes that are equal without their stamps are those of one
command and of reports with the same outcomes, down to the last verdict. Command and report can be
read from the envelope, and each identifier in it is that of the rule which stands there. -/
theorem toJson_lossless (command : Text) (stamp : Stamp) (outcomes : List Outcome) :
    let report := ofOutcomes outcomes
    let envelope := report.toJson command stamp
    (∀ (otherCommand : Text) (otherStamp : Stamp) (others : List Outcome),
      envelope.without stampFields =
          ((ofOutcomes others).toJson otherCommand otherStamp).without stampFields →
        command = otherCommand ∧ report.outcomes = (ofOutcomes others).outcomes) ∧
    ofJson? (envelope.without stampFields) = some (command, report) ∧
    List.Forall₂ Outcome.NamedIn report.outcomes (envelope.itemsOf "rules".toList) := by
  intro report envelope
  have hread := ofJson?_toJson command stamp report
  refine ⟨?_, hread, ?_⟩
  · intro otherCommand otherStamp others h
    rw [h, ofJson?_toJson] at hread
    obtain ⟨hcommand, hreport⟩ := Prod.mk.inj (Option.some.inj hread)
    exact ⟨hcommand.symm, congrArg Report.outcomes hreport.symm⟩
  · rw [itemsOf_toJson, List.forall₂_map_right_iff, List.forall₂_same]
    exact fun o _ => o.namedIn_toJson

/-- Two runs of one rule each, put together in both orders and under two stamps. -/
theorem toJson_lossless_stamps :
    let skills : Outcome := ⟨.skillsField, 3, [⟨.skillsField, .pass, "agent:a".toList, none, []⟩]⟩
    let spawns : Outcome :=
      ⟨.spawnTargets, 0, [⟨.spawnTargets, .fail, "workflow:b".toList, some 9, "x".toList⟩]⟩
    let report := ofOutcomes [spawns, skills]
    let other := ofOutcomes [skills, spawns]
    let envelope := report.toJson "validate".toList ⟨"1Z".toList, "01A".toList⟩
    let otherEnvelope := other.toJson "validate".toList ⟨"2Z".toList, "01B".toList⟩
    envelope.without stampFields = otherEnvelope.without stampFields ∧
      report.outcomes = other.outcomes ∧
      ofJson? (envelope.without stampFields) = some ("validate".toList, ⟨[skills, spawns]⟩) := by
  intro skills spawns report other envelope otherEnvelope
  have hbefore : skills.rule.position ≤ spawns.rule.position := by decide
  have hafter : ¬ spawns.rule.position ≤ skills.rule.position := by decide
  have hreport : report = ⟨[skills, spawns]⟩ := by
    simp [report, ofOutcomes, List.mergeSort, hafter]
  have hother : other = ⟨[skills, spawns]⟩ := by
    simp [other, ofOutcomes, List.mergeSort, hbefore]
  have hsame : envelope.without stampFields = otherEnvelope.without stampFields := by
    unfold envelope otherEnvelope
    rw [hreport, hother]
    exact without_stampFields _ _ _ _
  obtain ⟨hlossless, hread, -⟩ :=
    toJson_lossless "validate".toList ⟨"1Z".toList, "01A".toList⟩ [spawns, skills]
  refine ⟨hsame, (hlossless _ _ [skills, spawns] hsame).2, hread.trans ?_⟩
  rw [← hreport]

end Report

end CorpusLint
