import CorpusLint.Proofs.Evaluation.Groups
import CorpusLint.Proofs.Sorting
import CorpusLint.Validation
import Mathlib.Data.List.Sort

/-!
# The report of a selection

The rule on pinned routes is the only one that may not be evaluated, so that a run fails exactly
when it is selected and fails (`evaluate_eq_error_iff`). Every other run reports the selected rules
in the order of the catalog, each as it is evaluated alone (`evaluate_eq_ok`). The order is one of
the rules and not of the selection: `inOrder` sees no more of a list of rules than which rules it
holds, and how often (`inOrder_eq_of_perm`).

Main statement: `evaluate_selection`.
-/

namespace CorpusLint

/-! ## The order of the catalog -/

namespace Rule

theorem position_injective {r s : Rule} (h : r.position = s.position) : r = s :=
  (List.idxOf_inj (mem_catalog r)).1 h

/-- Rules in the order of the catalog. -/
def inOrder (rules : List Rule) : List Rule :=
  rules.mergeSort (fun r s => r.position ≤ s.position)

theorem inOrder_perm (rules : List Rule) : (inOrder rules).Perm rules :=
  List.mergeSort_perm rules _

theorem pairwise_inOrder (rules : List Rule) :
    (inOrder rules).Pairwise fun r s => r.position ≤ s.position :=
  Sorting.pairwise_mergeSort rules

/-- The order of the catalog leaves no choice. -/
theorem inOrder_eq {rules ordered : List Rule} (hperm : ordered.Perm rules)
    (hordered : ordered.Pairwise fun r s => r.position ≤ s.position) : inOrder rules = ordered := by
  refine List.Perm.eq_of_pairwise (fun r s _ _ hrs hsr => ?_) (pairwise_inOrder rules) hordered
    ((inOrder_perm rules).trans hperm.symm)
  exact position_injective (Nat.le_antisymm hrs hsr)

theorem inOrder_eq_of_perm {rules others : List Rule} (h : rules.Perm others) :
    inOrder others = inOrder rules :=
  inOrder_eq ((inOrder_perm rules).trans h) (pairwise_inOrder rules)

theorem pairwise_lt_catalog : catalog.Pairwise fun r s => r.position < s.position := by
  decide

theorem pairwise_catalog : catalog.Pairwise fun r s => r.position ≤ s.position :=
  pairwise_lt_catalog.imp le_of_lt

theorem inOrder_catalog : inOrder catalog = catalog :=
  inOrder_eq (List.Perm.refl catalog) pairwise_catalog

/-- Rules without repetition are a part of the catalog. -/
theorem inOrder_of_nodup {rules : List Rule} (h : rules.Nodup) :
    inOrder rules = catalog.filter (· ∈ rules) := by
  have hcatalog : catalog.Nodup := by decide
  refine inOrder_eq ?_ (pairwise_catalog.sublist List.filter_sublist)
  rw [List.perm_ext_iff_of_nodup (hcatalog.sublist List.filter_sublist) h]
  intro r
  simp [mem_catalog]

/-! ## Each rule alone -/

variable (corpus : Corpus) (settings : RuleSettings)

/-- The verdicts of a rule; there are none where it cannot be evaluated. -/
def verdicts (r : Rule) : List Verdict :=
  match r.evaluate corpus settings with
  | .ok verdicts => verdicts
  | .error _ => []

/-- The outcome of a rule that is evaluated alone. -/
def outcome (clock : Clock) (r : Rule) : Outcome :=
  ⟨r, clock r, r.verdicts corpus settings⟩

variable {corpus settings}

theorem verdicts_of_evaluate {r : Rule} {found : List Verdict}
    (h : r.evaluate corpus settings = .ok found) : r.verdicts corpus settings = found := by
  rw [verdicts, h]

end Rule

/-! ## All rules of a selection -/

namespace Report

variable {corpus : Corpus} {settings : RuleSettings} {clock : Clock}

theorem outcomesOf_eq_error_iff {rules : List Rule} {failure : Failure} :
    outcomesOf corpus settings clock rules = .error failure ↔
      .pinnedRoutes ∈ rules ∧ Rule.pinnedRoutes.evaluate corpus settings = .error failure := by
  induction rules with
  | nil => simp [outcomesOf]
  | cons r rules ih =>
    cases heval : r.evaluate corpus settings with
    | error cause =>
      obtain rfl := Rule.eq_pinnedRoutes_of_error heval
      simp [outcomesOf, heval]
    | ok found =>
      have hmem : .pinnedRoutes ∈ r :: rules ∧
          Rule.pinnedRoutes.evaluate corpus settings = .error failure ↔
            .pinnedRoutes ∈ rules ∧
              Rule.pinnedRoutes.evaluate corpus settings = .error failure := by
        constructor
        · rintro ⟨hmem, hfail⟩
          rcases List.mem_cons.1 hmem with rfl | hmem
          · rw [heval] at hfail
            cases hfail
          · exact ⟨hmem, hfail⟩
        · rintro ⟨hmem, hfail⟩
          exact ⟨List.mem_cons_of_mem r hmem, hfail⟩
      rw [hmem, ← ih]
      cases hrest : outcomesOf corpus settings clock rules with
      | error cause => simp [outcomesOf, heval, hrest]
      | ok others => simp [outcomesOf, heval, hrest]

theorem eq_map_of_outcomesOf {rules : List Rule} {outcomes : List Outcome}
    (h : outcomesOf corpus settings clock rules = .ok outcomes) :
    outcomes = rules.map (Rule.outcome corpus settings clock) ∧
      ∀ r ∈ rules, r.evaluate corpus settings = .ok (r.verdicts corpus settings) := by
  induction rules generalizing outcomes with
  | nil =>
    obtain rfl := Except.ok.inj h
    exact ⟨rfl, fun r hr => absurd hr List.not_mem_nil⟩
  | cons r rules ih =>
    unfold outcomesOf at h
    split at h
    · cases h
    · rename_i found heval
      split at h
      · cases h
      · rename_i others hothers
        obtain rfl := Except.ok.inj h
        obtain ⟨rfl, hrest⟩ := ih hothers
        have hfound := Rule.verdicts_of_evaluate heval
        rw [List.map_cons, Rule.outcome, hfound]
        refine ⟨rfl, List.forall_mem_cons.2 ⟨?_, hrest⟩⟩
        rw [hfound, heval]

theorem evaluate_eq_error_iff {rules : List Rule} {failure : Failure} :
    evaluate corpus settings clock rules = .error failure ↔
      .pinnedRoutes ∈ rules ∧ Rule.pinnedRoutes.evaluate corpus settings = .error failure := by
  have houtcomes := @outcomesOf_eq_error_iff corpus settings clock rules failure
  rw [← houtcomes, evaluate]
  cases outcomesOf corpus settings clock rules <;> simp [Except.map]

theorem ofOutcomes_map (rules : List Rule) :
    ofOutcomes (rules.map (Rule.outcome corpus settings clock)) =
      ⟨(Rule.inOrder rules).map (Rule.outcome corpus settings clock)⟩ := by
  have hsort := List.map_mergeSort (l := rules) (f := Rule.outcome corpus settings clock)
    (r := fun r s => r.position ≤ s.position) (s := fun o p => o.rule.position ≤ p.rule.position)
    fun r _ s _ => rfl
  rw [ofOutcomes, ← hsort, Rule.inOrder]

/-- A run that does not fail reports each rule as it is evaluated alone. -/
theorem evaluate_eq_ok {rules : List Rule}
    (h : ∀ failure, evaluate corpus settings clock rules ≠ .error failure) :
    evaluate corpus settings clock rules =
        .ok ⟨(Rule.inOrder rules).map (Rule.outcome corpus settings clock)⟩ ∧
      ∀ r ∈ rules, r.evaluate corpus settings = .ok (r.verdicts corpus settings) := by
  cases houtcomes : outcomesOf corpus settings clock rules with
  | error failure =>
    have hfail : evaluate corpus settings clock rules = .error failure := by
      rw [evaluate, houtcomes]
      rfl
    exact absurd hfail (h failure)
  | ok outcomes =>
    obtain ⟨rfl, hrules⟩ := eq_map_of_outcomesOf houtcomes
    refine ⟨?_, hrules⟩
    rw [evaluate, houtcomes, ← ofOutcomes_map]
    rfl

theorem evaluate_ne_error {rules : List Rule}
    (h : ∀ failure, ¬ (.pinnedRoutes ∈ rules ∧
      Rule.pinnedRoutes.evaluate corpus settings = .error failure)) (failure : Failure) :
    evaluate corpus settings clock rules ≠ .error failure :=
  fun hfail => h failure (evaluate_eq_error_iff.1 hfail)

/-- Two runs in which the rule on pinned routes fares alike fail alike, or both have a report. -/
theorem evaluate_error_or_ok {changed : Corpus} {clock' : Clock} {rules others : List Rule}
    (h : ∀ failure,
      .pinnedRoutes ∈ rules ∧ Rule.pinnedRoutes.evaluate corpus settings = .error failure ↔
        .pinnedRoutes ∈ others ∧ Rule.pinnedRoutes.evaluate changed settings = .error failure) :
    (∃ failure, evaluate corpus settings clock rules = .error failure ∧
      evaluate changed settings clock' others = .error failure) ∨
    evaluate corpus settings clock rules =
        .ok ⟨(Rule.inOrder rules).map (Rule.outcome corpus settings clock)⟩ ∧
      evaluate changed settings clock' others =
        .ok ⟨(Rule.inOrder others).map (Rule.outcome changed settings clock')⟩ := by
  by_cases hfails : ∃ failure, .pinnedRoutes ∈ rules ∧
      Rule.pinnedRoutes.evaluate corpus settings = .error failure
  · obtain ⟨failure, hfail⟩ := hfails
    exact .inl ⟨failure, evaluate_eq_error_iff.2 hfail,
      evaluate_eq_error_iff.2 ((h failure).1 hfail)⟩
  · have hrules := not_exists.1 hfails
    have hothers : ∀ failure, ¬ (.pinnedRoutes ∈ others ∧
        Rule.pinnedRoutes.evaluate changed settings = .error failure) := by
      intro failure hfail
      exact hrules failure ((h failure).2 hfail)
    exact .inr ⟨(evaluate_eq_ok (evaluate_ne_error hrules)).1,
      (evaluate_eq_ok (evaluate_ne_error hothers)).1⟩

/-- The outcomes of a run are those of its rules, in the order of the catalog. -/
theorem exists_report {rules : List Rule}
    (h : ∀ failure, evaluate corpus settings clock rules ≠ .error failure) :
    ∃ report, evaluate corpus settings clock rules = .ok report ∧
      (report.outcomes.map Outcome.rule).Perm rules ∧
      (report.outcomes.map Outcome.rule).Pairwise (fun r s => r.position ≤ s.position) ∧
      ∀ o ∈ report.outcomes, o.rule.evaluate corpus settings = .ok o.verdicts := by
  obtain ⟨heval, hrules⟩ := evaluate_eq_ok h
  have hnames : ((Rule.inOrder rules).map (Rule.outcome corpus settings clock)).map Outcome.rule =
      Rule.inOrder rules := by
    rw [List.map_map]
    exact List.map_id _
  refine ⟨_, heval, ?_, ?_, fun o ho => ?_⟩
  · rw [hnames]
    exact Rule.inOrder_perm rules
  · rw [hnames]
    exact Rule.pairwise_inOrder rules
  · obtain ⟨r, hr, rfl⟩ := List.mem_map.1 ho
    exact hrules r ((Rule.inOrder_perm rules).subset hr)

theorem exists_outcome {rules : List Rule} {report : Report}
    (h : evaluate corpus settings clock rules = .ok report) {r : Rule} (hr : r ∈ rules) :
    ∃ o ∈ report.outcomes, o.rule = r ∧ r.evaluate corpus settings = .ok o.verdicts := by
  have hne : ∀ failure, evaluate corpus settings clock rules ≠ .error failure := by
    intro failure hfail
    rw [h] at hfail
    cases hfail
  obtain ⟨same, hsame, hperm, -, hevaluated⟩ := exists_report hne
  rw [h] at hsame
  obtain rfl := Except.ok.inj hsame
  obtain ⟨o, ho, rfl⟩ := List.mem_map.1 (hperm.mem_iff.2 hr)
  exact ⟨o, ho, rfl, hevaluated o ho⟩

/-! ## What a report finds -/

/-- What a report finds: its rules with their verdicts, whatever time they took. -/
def findings (report : Report) : List (Rule × List Verdict) :=
  report.outcomes.map fun o => (o.rule, o.verdicts)

theorem findings_mk_map (rules : List Rule) :
    findings ⟨rules.map (Rule.outcome corpus settings clock)⟩ =
      rules.map fun r => (r, r.verdicts corpus settings) :=
  List.map_map

/-- The order in which rules are selected does not show. -/
theorem map_findings_evaluate {rules others : List Rule} (hperm : rules.Perm others)
    (clock' : Clock) :
    (evaluate corpus settings clock' others).map findings =
      (evaluate corpus settings clock rules).map findings := by
  have hmem : .pinnedRoutes ∈ rules ↔ .pinnedRoutes ∈ others := hperm.mem_iff
  rcases evaluate_error_or_ok (fun _ => and_congr_left' hmem) with
    ⟨failure, hrules, hothers⟩ | ⟨hrules, hothers⟩
  · rw [hrules, hothers]
  · rw [hrules, hothers, Rule.inOrder_eq_of_perm hperm]
    exact congrArg Except.ok ((findings_mk_map _).trans (findings_mk_map _).symm)

/-- A run over rules without repetition finds what the run over the whole catalog finds of them. -/
theorem findings_of_catalog {clock' : Clock} {full : Report} {rules : List Rule}
    (hfull : evaluate corpus settings clock' Rule.catalog = .ok full) (hnodup : rules.Nodup) :
    ∃ report, evaluate corpus settings clock rules = .ok report ∧
      report.findings = full.findings.filter (·.1 ∈ rules) := by
  have hcatalog : ∀ failure, evaluate corpus settings clock' Rule.catalog ≠ .error failure := by
    intro failure hfail
    rw [hfull] at hfail
    cases hfail
  have hrules : ∀ failure, evaluate corpus settings clock rules ≠ .error failure := by
    intro failure hfail
    obtain ⟨-, hcause⟩ := evaluate_eq_error_iff.1 hfail
    exact hcatalog failure (evaluate_eq_error_iff.2 ⟨Rule.mem_catalog _, hcause⟩)
  have hreport := (evaluate_eq_ok hcatalog).1
  rw [hfull, Rule.inOrder_catalog] at hreport
  obtain rfl := Except.ok.inj hreport
  refine ⟨_, (evaluate_eq_ok hrules).1, ?_⟩
  rw [findings_mk_map, findings_mk_map, Rule.inOrder_of_nodup hnodup, List.filter_map]
  rfl

/-- **Rules are independent, and their order does not show.** A run fails exactly when the rule on
pinned routes is selected and fails, and in the same way. Any other run has the outcomes of the
selected rules in the order of the catalog, each with the verdicts of the rule alone. So the order
of the selection does not matter, and a selection without repetition is reported as it is within the
whole catalog. -/
theorem evaluate_selection (corpus : Corpus) (settings : RuleSettings) (clock : Clock)
    (rules : List Rule) :
    (∀ failure, evaluate corpus settings clock rules = .error failure ↔
      .pinnedRoutes ∈ rules ∧ Rule.pinnedRoutes.evaluate corpus settings = .error failure) ∧
    ((∀ failure, ¬ (.pinnedRoutes ∈ rules ∧
        Rule.pinnedRoutes.evaluate corpus settings = .error failure)) →
      ∃ report, evaluate corpus settings clock rules = .ok report ∧
        (report.outcomes.map Outcome.rule).Perm rules ∧
        (report.outcomes.map Outcome.rule).Pairwise (fun r s => r.position ≤ s.position) ∧
        ∀ o ∈ report.outcomes, o.rule.evaluate corpus settings = .ok o.verdicts) ∧
    (∀ (others : List Rule) (clock' : Clock), rules.Perm others →
      (evaluate corpus settings clock' others).map findings =
        (evaluate corpus settings clock rules).map findings) ∧
    ∀ (clock' : Clock) (full : Report),
      evaluate corpus settings clock' Rule.catalog = .ok full → rules.Nodup →
        ∃ report, evaluate corpus settings clock rules = .ok report ∧
          report.findings = full.findings.filter (·.1 ∈ rules) := by
  refine ⟨?_, ?_, ?_, ?_⟩
  · intro failure
    exact evaluate_eq_error_iff
  · intro hfails
    exact exists_report (evaluate_ne_error hfails)
  · intro others clock' hperm
    exact map_findings_evaluate hperm clock'
  · intro clock' full hfull hnodup
    exact findings_of_catalog hfull hnodup

/-- Two rules, selected against the order of the catalog, on a corpus with the pinned workflow. The
report has them in the order of the catalog, with the verdicts of the run over all rules. -/
theorem evaluate_selection_reversed :
    let corpus := Corpus.ofDocuments [] [⟨.agent, "gsd-a".toList, [], "text".toList⟩]
      [⟨.workflow, "diagnose-issues".toList, [], "subagent_type=\"gsd-b\"".toList⟩] []
      "Write".toList
    let rules : List Rule := [.pinnedRoutes, .skillsField]
    let clock : Clock := fun _ => 0
    (∀ failure, ¬ (.pinnedRoutes ∈ rules ∧
      Rule.pinnedRoutes.evaluate corpus {} = .error failure)) ∧
    rules.Perm [.skillsField, .pinnedRoutes] ∧ rules.Nodup ∧
    ∃ full report, evaluate corpus {} clock Rule.catalog = .ok full ∧
      evaluate corpus {} clock rules = .ok report ∧
      (evaluate corpus {} clock [.skillsField, .pinnedRoutes]).map findings =
        .ok report.findings ∧
      report.findings = full.findings.filter (·.1 ∈ rules) ∧
      report.outcomes.map Outcome.rule = [.skillsField, .pinnedRoutes] := by
  intro corpus rules clock
  have hpinned : Rule.pinnedRoutes.evaluate corpus {} = .ok _ := rfl
  have hfails : ∀ selected : List Rule, ∀ failure, ¬ (.pinnedRoutes ∈ selected ∧
      Rule.pinnedRoutes.evaluate corpus {} = .error failure) := by
    rintro selected failure ⟨-, hfail⟩
    rw [hpinned] at hfail
    cases hfail
  have hperm : rules.Perm [.skillsField, .pinnedRoutes] := by decide
  have hnodup : rules.Nodup := by decide
  obtain ⟨full, hfull, -⟩ :=
    (evaluate_selection corpus {} clock Rule.catalog).2.1 (hfails Rule.catalog)
  obtain ⟨-, hok, hsame, hpart⟩ := evaluate_selection corpus {} clock rules
  obtain ⟨report, hreport, hrules, hordered, -⟩ := hok (hfails rules)
  obtain ⟨again, hagain, hfindings⟩ := hpart clock full hfull hnodup
  rw [hreport] at hagain
  obtain rfl := Except.ok.inj hagain
  refine ⟨hfails rules, hperm, hnodup, full, report, hfull, hreport, ?_, hfindings, ?_⟩
  · rw [hsame _ clock hperm, hreport]
    rfl
  · have hinOrder := Rule.inOrder_eq hrules hordered
    rw [← hinOrder]
    exact Rule.inOrder_eq (by decide) (by decide)

end Report

end CorpusLint
