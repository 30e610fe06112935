import CorpusLint.Proofs.Report.Selection
import CorpusLint.Report

/-!
# The totals of a report

Whether a run succeeds is read off a report in three ways: the sum of the failures of its outcomes,
the question whether all its verdicts pass, and the objects in its envelope whose status is a
failure. All three are the number of failures among the verdicts.
-/

namespace CorpusLint

namespace Report

/-- Counting outcome by outcome counts the verdicts of the report. -/
theorem foldr_countP (p : Verdict → Bool) (outcomes : List Outcome) :
    outcomes.foldr (fun o n => o.verdicts.countP p + n) 0 =
      (outcomes.flatMap Outcome.verdicts).countP p := by
  induction outcomes with
  | nil => rfl
  | cons o outcomes ih => rw [List.foldr_cons, ih, List.flatMap_cons, List.countP_append]

theorem failed_summary (report : Report) :
    report.summary.failed = report.verdicts.countP Verdict.isFailure :=
  foldr_countP Verdict.isFailure report.outcomes

theorem passed_summary (report : Report) :
    report.summary.passed = report.verdicts.countP (·.status == .pass) :=
  foldr_countP (·.status == .pass) report.outcomes

/-- A verdict passes or fails. -/
theorem passed_add_failed_summary (report : Report) :
    report.summary.passed + report.summary.failed = report.verdicts.length := by
  have hpass : ∀ v : Verdict, (v.status == .pass) = !v.isFailure := by
    intro v
    rw [Verdict.isFailure]
    cases v.status <;> rfl
  rw [passed_summary, failed_summary, Nat.add_comm,
    List.length_eq_countP_add_countP Verdict.isFailure]
  simp only [hpass, decide_not, Bool.decide_eq_true]

theorem failed_eq_zero_iff {report : Report} :
    report.summary.failed = 0 ↔ ∀ v ∈ report.verdicts, v.isFailure = false := by
  simp only [failed_summary, List.countP_eq_zero, Bool.not_eq_true]

theorem isSuccess_iff {report : Report} : report.isSuccess = true ↔ report.summary.failed = 0 := by
  rw [failed_eq_zero_iff, isSuccess, List.all_eq_true]
  simp only [Bool.not_eq_true']

theorem failed_summary_of_findings {report other : Report} (h : other.findings = report.findings) :
    other.summary.failed = report.summary.failed := by
  have hverdicts : ∀ r : Report, r.verdicts = r.findings.flatMap Prod.snd := by
    intro r
    rw [findings, List.flatMap_map]
    rfl
  rw [failed_summary, failed_summary, hverdicts, hverdicts, h]

theorem failed_pos_iff {report : Report} :
    0 < report.summary.failed ↔ ∃ v ∈ report.verdicts, v.isFailure = true := by
  rw [failed_summary, List.countP_pos_iff]

end Report

/-! ## The envelope -/

namespace Json

/-- The field of an object with this name. -/
def field? (name : Text) : Json → Option Json
  | object fields => fields.lookup name
  | _ => none

/-- The elements of an array. -/
def items : Json → List Json
  | array items => items
  | _ => []

/-- The elements of the array in a field. -/
def itemsOf (name : Text) (value : Json) : List Json :=
  ((value.field? name).map items).getD []

/-- Whether a field is this text. -/
def hasText (name t : Text) (value : Json) : Bool :=
  match value.field? name with
  | some (text u) => u == t
  | _ => false

end Json

theorem Outcome.itemsOf_toJson (o : Outcome) :
    o.toJson.itemsOf "verdicts".toList = o.verdicts.map Verdict.toJson :=
  rfl

theorem Verdict.hasText_toJson (v : Verdict) (status : Status) :
    v.toJson.hasText "status".toList status.name = (v.status == status) := by
  have hfield : v.toJson.field? "status".toList = some (.text v.status.name) := by
    unfold toJson
    cases v.line <;> rfl
  rw [Json.hasText, hfield]
  cases v.status <;> cases status <;> rfl

namespace Report

/-- The verdicts in the rules of an envelope. -/
def verdictsIn (envelope : Json) : List Json :=
  (envelope.itemsOf "rules".toList).flatMap (Json.itemsOf "verdicts".toList)

/-- How many verdicts in the rules of an envelope have this status. -/
def countIn (status : Status) (envelope : Json) : Nat :=
  (verdictsIn envelope).countP (Json.hasText "status".toList status.name)

/-- How many verdicts in an envelope have the status of a failure. -/
def failedIn (envelope : Json) : Nat :=
  (verdictsIn envelope).countP (Json.hasText "status".toList Status.fail.name)

variable (command : Text) (stamp : Stamp) (report : Report)

theorem itemsOf_toJson :
    (report.toJson command stamp).itemsOf "rules".toList = report.outcomes.map Outcome.toJson :=
  rfl

theorem verdictsIn_toJson :
    verdictsIn (report.toJson command stamp) = report.verdicts.map Verdict.toJson := by
  rw [verdictsIn, itemsOf_toJson, verdicts, List.flatMap_map, List.map_flatMap]
  rfl

theorem countIn_toJson (status : Status) :
    countIn status (report.toJson command stamp) =
      report.verdicts.countP (·.status == status) := by
  rw [countIn, verdictsIn_toJson, List.countP_map]
  apply List.countP_congr
  intro v _
  rw [Function.comp_apply, v.hasText_toJson status]

theorem failedIn_toJson : failedIn (report.toJson command stamp) = report.summary.failed := by
  rw [failed_summary]
  exact countIn_toJson command stamp report .fail

theorem hasText_ok_toJson :
    (report.toJson command stamp).hasText "status".toList "ok".toList = report.isSuccess := by
  have hfield : (report.toJson command stamp).field? "status".toList =
      some (.text (if report.isSuccess then "ok".toList else "fail".toList)) := rfl
  rw [Json.hasText, hfield]
  cases report.isSuccess <;> rfl

theorem failed_field_toJson :
    ((report.toJson command stamp).field? "summary".toList).bind (Json.field? "failed".toList) =
      some (.number report.summary.failed) :=
  rfl

end Report

end CorpusLint
