import CorpusLint.Proofs.Report.Selection
import CorpusLint.Proofs.Text.Separator
import CorpusLint.Proofs.Text.Utf8
import Mathlib.Data.Prod.Lex

/-!
# The list of failures

The failures of a report are sorted by what they point at: the place of the rule in the catalog, the
document and the line, a verdict on a whole document coming before those on its lines
(`Verdict.key`). Failures of one key keep the order in which they were found. So reports whose
verdicts agree on the key list the same failures in the same order, and have the same totals
(`Report.tallies_eq`).
-/

namespace CorpusLint

/-! ## What a verdict points at -/

namespace Verdict

/-- The place of a verdict within its document: 0 for the whole document, then line by line. -/
def place (v : Verdict) : Nat :=
  v.line.elim 0 (· + 1)

/-- What a verdict points at, in the order in which failures are listed. -/
def key (v : Verdict) : ℕ ×ₗ Text ×ₗ ℕ :=
  toLex (v.rule.position, toLex (v.document, v.place))

/-- The document in a key. -/
def keyDocument (k : ℕ ×ₗ Text ×ₗ ℕ) : Text :=
  (ofLex (ofLex k).2).1

/-- Failures are listed by their keys. -/
theorem precedes_iff {v w : Verdict} : v.precedes w = true ↔ v.key ≤ w.key := by
  rw [key, key, Prod.Lex.toLex_le_toLex, Prod.Lex.toLex_le_toLex, precedes]
  by_cases hrule : v.rule = w.rule
  · rw [if_pos hrule]
    by_cases hdocument : v.document = w.document
    · rw [if_pos hdocument, place, place]
      cases v.line with
      | none => simp [hrule, hdocument]
      | some m => cases w.line <;> simp [hrule, hdocument]
    · rw [if_neg hdocument, Text.le_iff, le_iff_lt_or_eq]
      simp [hrule, hdocument]
  · have hposition : v.rule.position ≠ w.rule.position :=
      fun h => hrule (Rule.position_injective h)
    rw [if_neg hrule, decide_eq_true_eq, le_iff_lt_or_eq]
    simp [hposition]

theorem precedes_eq : precedes = fun v w => decide (v.key ≤ w.key) := by
  funext v w
  rw [Bool.eq_iff_iff, precedes_iff, decide_eq_true_eq]

/-- What a printed place adds to the document is a colon and digits. -/
theorem notMem_location {c : Char} (hcolon : c ≠ ':') (hdigit : c.isDigit = false) {v : Verdict}
    (h : c ∉ v.document) : c ∉ v.location := by
  unfold location
  split
  · rw [List.mem_append, List.mem_cons, not_or, not_or]
    exact ⟨h, hcolon, Text.notMem_ofNat hdigit _⟩
  · exact h

end Verdict

/-! ## Reports that agree on their verdicts -/

namespace Report

open Sorting

theorem mem_failures {report : Report} {v : Verdict} :
    v ∈ report.failures ↔ v ∈ report.verdicts ∧ v.isFailure = true := by
  rw [failures, List.mem_mergeSort, List.mem_filter]

theorem failures_eq {report other : Report}
    (h : Agree Verdict.key report.verdicts other.verdicts) : report.failures = other.failures := by
  rw [failures, failures, Verdict.precedes_eq]
  exact mergeSort_eq_iff.2 (h.filter Verdict.isFailure)

theorem isSuccess_eq {report other : Report}
    (h : Agree Verdict.key report.verdicts other.verdicts) :
    report.isSuccess = other.isSuccess := by
  rw [Bool.eq_iff_iff, isSuccess, isSuccess, List.all_eq_true, List.all_eq_true]
  exact forall_congr' fun v => imp_congr_left (h.mem_iff v)

variable {corpus changed : Corpus} {settings : RuleSettings} {clock clock' : Clock}
  {rules : List Rule}

/-- The verdicts of a report are those of its rules. -/
theorem exists_rule_of_mem_verdicts {report : Report}
    (h : evaluate corpus settings clock rules = .ok report) {v : Verdict}
    (hv : v ∈ report.verdicts) :
    ∃ r ∈ rules, ∃ found, r.evaluate corpus settings = .ok found ∧ v ∈ found := by
  have hfails : ∀ failure, evaluate corpus settings clock rules ≠ .error failure := by
    intro failure hfail
    rw [h] at hfail
    cases hfail
  obtain ⟨other, hother, hrules, -, hfound⟩ := exists_report hfails
  rw [h] at hother
  obtain rfl := Except.ok.inj hother
  obtain ⟨o, ho, hv⟩ := List.mem_flatMap.1 hv
  exact ⟨o.rule, hrules.subset (List.mem_map_of_mem ho), o.verdicts, hfound o ho, hv⟩

theorem verdicts_mk_map (rules : List Rule) :
    verdicts ⟨rules.map (Rule.outcome corpus settings clock)⟩ =
      rules.flatMap (Rule.verdicts corpus settings) :=
  List.flatMap_map _ _ rules

theorem summary_eq
    (h : ∀ r ∈ rules, (r.verdicts corpus settings).Perm (r.verdicts changed settings)) :
    summary ⟨rules.map (Rule.outcome corpus settings clock)⟩ =
      summary ⟨rules.map (Rule.outcome changed settings clock')⟩ := by
  induction rules with
  | nil => rfl
  | cons r rules ih =>
    obtain ⟨hr, hrest⟩ := List.forall_mem_cons.1 h
    have hpassed : (Rule.outcome corpus settings clock r).passed =
        (Rule.outcome changed settings clock' r).passed := hr.countP_eq _
    have hfailed : (Rule.outcome corpus settings clock r).failed =
        (Rule.outcome changed settings clock' r).failed := hr.countP_eq _
    have hsums := ih hrest
    simp only [summary, Summary.mk.injEq] at hsums ⊢
    obtain ⟨hlength, hpassedRest, hfailedRest⟩ := hsums
    simp only [List.map_cons, List.length_cons, List.foldr_cons]
    rw [hlength, hpassed, hpassedRest, hfailed, hfailedRest]
    exact ⟨rfl, rfl, rfl⟩

/-- Two reports of the same rules, where the verdicts of each rule agree on what they point at, have
the same failures and the same totals. -/
theorem tallies_eq
    (h : ∀ r ∈ rules,
      Agree Verdict.key (r.verdicts corpus settings) (r.verdicts changed settings)) :
    let report : Report := ⟨rules.map (Rule.outcome corpus settings clock)⟩
    let other : Report := ⟨rules.map (Rule.outcome changed settings clock')⟩
    report.failures = other.failures ∧ report.summary = other.summary ∧
      report.isSuccess = other.isSuccess := by
  intro report other
  have hverdicts : Agree Verdict.key report.verdicts other.verdicts := by
    rw [verdicts_mk_map, verdicts_mk_map]
    exact Agree.flatMap h
  exact ⟨failures_eq hverdicts, summary_eq fun r hr => (h r hr).perm, isSuccess_eq hverdicts⟩

end Report

end CorpusLint
