import CorpusLint.Proofs.Report.Failures
import CorpusLint.Proofs.Report.Totals
import CorpusLint.Proofs.Text.Utf8
import Mathlib.Order.WithBot
import Mathlib.Tactic.TFAE

/-!
# A report agrees with itself

The order of the outcomes, the list of failures, the totals, the answer whether the run succeeds and
the envelope are each made from the outcomes, and none from another. They fit together for any
outcomes, also where rules are repeated and verdicts stand under a rule that they are not of.

Main statement: `Report.ofOutcomes_consistent`.
-/

namespace CorpusLint

open Sorting

/-! ## The order of failures -/

namespace Verdict

/-- Where a verdict stands in a list of failures: by the place of its rule in the catalog, then by
the bytes of its document, then by its line. A verdict without a line precedes those with one. -/
def rank (v : Verdict) : ℕ ×ₗ List ℕ ×ₗ WithBot ℕ :=
  toLex (v.rule.position, toLex (v.document.byteNumbers, v.line.elim ⊥ WithBot.some))

theorem rank_le_rank_iff {v w : Verdict} : v.rank ≤ w.rank ↔ v.key ≤ w.key := by
  have hline : v.line.elim ⊥ WithBot.some ≤ (w.line.elim ⊥ WithBot.some : WithBot ℕ) ↔
      v.place ≤ w.place := by
    rw [place, place]
    cases v.line with
    | none => simp
    | some m => cases w.line <;> simp
  rw [rank, rank, key, key]
  simp only [Prod.Lex.toLex_le_toLex, Text.strictMono_byteNumbers.lt_iff_lt,
    Text.strictMono_byteNumbers.injective.eq_iff, hline]

theorem precedes_eq_rank : precedes = fun v w => decide (v.rank ≤ w.rank) := by
  funext v w
  rw [Bool.eq_iff_iff, precedes_iff, decide_eq_true_eq, rank_le_rank_iff]

end Verdict

namespace Report

variable (report : Report)

theorem isStableSort_ofOutcomes (outcomes : List Outcome) :
    IsStableSort (fun o : Outcome => o.rule.position) outcomes (ofOutcomes outcomes).outcomes :=
  isStableSort_mergeSort _ outcomes

theorem isStableSort_failures :
    IsStableSort Verdict.rank (report.verdicts.filter (·.status == .fail)) report.failures := by
  rw [failures, Verdict.precedes_eq_rank]
  exact isStableSort_mergeSort Verdict.rank _

/-! ## Counts -/

theorem length_failures : report.failures.length = report.summary.failed := by
  rw [failures, List.length_mergeSort, ← List.countP_eq_length_filter, failed_summary]

theorem length_verdicts_ofOutcomes (outcomes : List Outcome) :
    (ofOutcomes outcomes).verdicts.length = (outcomes.flatMap Outcome.verdicts).length :=
  ((isStableSort_ofOutcomes outcomes).perm.flatMap_right Outcome.verdicts).length_eq

/-- The field of this name in the summary of an envelope. -/
def summaryField? (name : Text) (envelope : Json) : Option Json :=
  (envelope.field? "summary".toList).bind (Json.field? name)

variable (command : Text) (stamp : Stamp)

/-- The summary of an envelope can be counted again from its rules. -/
theorem summaryField?_toJson :
    let envelope := report.toJson command stamp
    summaryField? "rules".toList envelope =
        some (.number (envelope.itemsOf "rules".toList).length) ∧
      summaryField? "passed".toList envelope = some (.number (countIn .pass envelope)) ∧
      summaryField? "failed".toList envelope = some (.number (countIn .fail envelope)) := by
  intro envelope
  have hlength : (envelope.itemsOf "rules".toList).length = report.summary.rules :=
    List.length_map Outcome.toJson
  have hpassed : countIn .pass envelope = report.summary.passed := by
    rw [countIn_toJson, passed_summary]
  have hfailed : countIn .fail envelope = report.summary.failed :=
    failedIn_toJson command stamp report
  rw [hlength, hpassed, hfailed]
  exact ⟨rfl, rfl, rfl⟩

/-- **A report agrees with itself**, whatever outcomes it is made of. It holds each of them once, in
the order of the catalog and otherwise as they came. The totals count the outcomes and their
verdicts. The failures are the failing verdicts by rule, document and line, and otherwise as the
report has them; there are as many as the totals say. Whether there is none can be told in four
ways. The summary in the envelope counts the rules and the verdicts beside it. -/
theorem ofOutcomes_consistent (outcomes : List Outcome) (command : Text) (stamp : Stamp) :
    let report := ofOutcomes outcomes
    let envelope := report.toJson command stamp
    IsStableSort (fun o : Outcome => o.rule.position) outcomes report.outcomes ∧
    report.summary.rules = outcomes.length ∧
    report.summary.passed + report.summary.failed = (outcomes.flatMap Outcome.verdicts).length ∧
    IsStableSort Verdict.rank (report.verdicts.filter (·.status == .fail)) report.failures ∧
    report.failures.length = report.summary.failed ∧
    [report.isSuccess = true, report.summary.failed = 0, report.failures = [],
      envelope.hasText "status".toList "ok".toList = true].TFAE ∧
    summaryField? "rules".toList envelope =
      some (.number (envelope.itemsOf "rules".toList).length) ∧
    summaryField? "passed".toList envelope = some (.number (countIn .pass envelope)) ∧
    summaryField? "failed".toList envelope = some (.number (countIn .fail envelope)) := by
  intro report envelope
  have hsorted := isStableSort_ofOutcomes outcomes
  refine ⟨hsorted, hsorted.perm.length_eq, ?_, report.isStableSort_failures,
    report.length_failures, ?_, report.summaryField?_toJson command stamp⟩
  · rw [passed_add_failed_summary, length_verdicts_ofOutcomes]
  · tfae_have 1 ↔ 2 := isSuccess_iff
    tfae_have 2 ↔ 3 := by rw [← report.length_failures, List.length_eq_zero_iff]
    tfae_have 4 ↔ 1 := by rw [hasText_ok_toJson]
    tfae_finish

end Report

end CorpusLint
