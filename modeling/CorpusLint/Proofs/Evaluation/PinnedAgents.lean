import CorpusLint.Proofs.Evaluation.SpawnTargets
import CorpusLint.Proofs.Report.Selection

/-!
# Pinned agents exist

The rule on pinned routes asks whether the words that spawn an agent are a part of the workflow,
and not whether there is such an agent. The rule on spawn targets knows the agents, but looks at the
spawns that its scan finds. A spawn that is written where the scan does not look was swallowed by
another one, whose target is unknown then, so that between them the two rules leave no gap.
-/

namespace CorpusLint

namespace Rule

variable {corpus : Corpus} {settings : RuleSettings}

theorem workflow_spawns_of_clean {found : List Verdict}
    (h : pinnedRoutes.evaluate corpus settings = .ok found)
    (hclean : ∀ v ∈ found, v.isFailure = false) {route : PinnedRoute}
    (hroute : route ∈ settings.pinnedRoutes) :
    ∃ d, corpus.workflow? route.workflow = some d ∧ Spawn.written route.agent <:+: d.raw := by
  obtain ⟨d, hworkflow, hmem⟩ := PinnedRoute.exists_verdict_of_mem_routes h hroute
  exact ⟨d, hworkflow, PinnedRoute.isFailure_verdict.1 (hclean _ hmem)⟩

theorem targets_known_of_clean {found : List Verdict}
    (hnames : ∀ name ∈ corpus.agentNames, ¬ Spawn.label <:+ name)
    (h : spawnTargets.evaluate corpus settings = .ok found)
    (hclean : ∀ v ∈ found, v.isFailure = false) {d : Document} (hd : d ∈ corpus.orchestration)
    {target : Text} (htarget : Spawn.IsTarget target) (hpart : Spawn.written target <:+: d.raw) :
    target ∈ Spawn.knownTargets corpus := by
  rw [evaluate_eq corpus settings (by decide)] at h
  obtain rfl := Except.ok.inj h
  have hnil : Spawn.unresolved (Spawn.knownTargets corpus) d = [] := by
    apply Verdict.violations_eq_nil_of_group
    intro v hv
    exact hclean v (List.mem_flatMap.2 ⟨d, hd, hv⟩)
  have hknown : ∀ name ∈ Spawn.knownTargets corpus, ¬ Spawn.label <:+ name :=
    List.forall_mem_cons.2 ⟨by decide, hnames⟩
  exact (Spawn.unresolved_eq_nil_iff_written hknown).1 hnil target htarget hpart

end Rule

namespace Report

/-- **The rules on pinned routes and on spawn targets close each other's gaps.** Where a run has
evaluated both and neither has found a failure, the workflow of every route is there and spawns the
agent of the route, and there is such an agent, or it is the general one. -/
theorem evaluate_pinnedAgents {corpus : Corpus} {settings : RuleSettings} {clock : Clock}
    {rules : List Rule} {report : Report}
    (hnames : ∀ name ∈ corpus.agentNames, ¬ Spawn.label <:+ name)
    (hroutes : ∀ route ∈ settings.pinnedRoutes, route.agent ≠ [] ∧ '\"' ∉ route.agent)
    (hpinned : .pinnedRoutes ∈ rules) (hspawn : .spawnTargets ∈ rules)
    (hrun : evaluate corpus settings clock rules = .ok report)
    (hclean : ∀ o ∈ report.outcomes, o.rule = .pinnedRoutes ∨ o.rule = .spawnTargets →
      ∀ v ∈ o.verdicts, v.isFailure = false) :
    ∀ route ∈ settings.pinnedRoutes, ∃ d, corpus.workflow? route.workflow = some d ∧
      Spawn.written route.agent <:+: d.raw ∧
      (route.agent ∈ corpus.agentNames ∨ route.agent = Spawn.generalPurpose) := by
  intro route hroute
  obtain ⟨pinned, hmem, hrule, heval⟩ := exists_outcome hrun hpinned
  obtain ⟨d, hworkflow, hpart⟩ :=
    Rule.workflow_spawns_of_clean heval (hclean pinned hmem (.inl hrule)) hroute
  obtain ⟨spawned, hmem, hrule, heval⟩ := exists_outcome hrun hspawn
  have hd : d ∈ corpus.orchestration :=
    List.mem_append_left _ (List.mem_of_find?_eq_some hworkflow)
  have hknown := Rule.targets_known_of_clean hnames heval (hclean spawned hmem (.inr hrule)) hd
    (hroutes route hroute) hpart
  refine ⟨d, hworkflow, hpart, ?_⟩
  rcases List.mem_cons.1 hknown with hgeneral | hagent
  · exact .inr hgeneral
  · exact .inl hagent

/-- A workflow with two routes, one of them to the general agent. Its first quote opens nothing that
the scan would take for a target. -/
theorem evaluate_pinnedAgents_twoRoutes :
    let corpus := Corpus.ofDocuments [] [⟨.agent, "gsd-a".toList, [], []⟩]
      [⟨.workflow, "flow".toList, [],
        "subagent_type=\"\" subagent_type=\"gsd-a\"\nsubagent_type=\"general-purpose\"".toList⟩] []
      "Write".toList
    let settings : RuleSettings :=
      { pinnedRoutes := [⟨"flow".toList, "gsd-a".toList⟩, ⟨"flow".toList, Spawn.generalPurpose⟩] }
    let rules : List Rule := [.spawnTargets, .pinnedRoutes]
    (∀ name ∈ corpus.agentNames, ¬ Spawn.label <:+ name) ∧
    (∀ route ∈ settings.pinnedRoutes, route.agent ≠ [] ∧ '\"' ∉ route.agent) ∧
    ∃ report, evaluate corpus settings (fun _ => 0) rules = .ok report ∧
      (∀ o ∈ report.outcomes, o.rule = .pinnedRoutes ∨ o.rule = .spawnTargets →
        ∀ v ∈ o.verdicts, v.isFailure = false) ∧
      ∀ route ∈ settings.pinnedRoutes, ∃ d, corpus.workflow? route.workflow = some d ∧
        Spawn.written route.agent <:+: d.raw ∧
        (route.agent ∈ corpus.agentNames ∨ route.agent = Spawn.generalPurpose) := by
  intro corpus settings rules
  have hnames : ∀ name ∈ corpus.agentNames, ¬ Spawn.label <:+ name := by decide
  have hroutes : ∀ route ∈ settings.pinnedRoutes, route.agent ≠ [] ∧ '\"' ∉ route.agent := by
    decide
  have hpinned : Rule.pinnedRoutes.evaluate corpus settings = .ok _ := rfl
  have hspawn : Rule.spawnTargets.evaluate corpus settings = .ok _ := rfl
  have hne : ∀ failure, evaluate corpus settings (fun _ => 0) rules ≠ .error failure := by
    apply evaluate_ne_error
    rintro failure ⟨-, hfail⟩
    rw [hpinned] at hfail
    cases hfail
  obtain ⟨report, hrun, -, -, hevaluated⟩ := exists_report hne
  have hclean : ∀ o ∈ report.outcomes, o.rule = .pinnedRoutes ∨ o.rule = .spawnTargets →
      ∀ v ∈ o.verdicts, v.isFailure = false := by
    intro o ho hrule
    have heval := hevaluated o ho
    rcases hrule with hrule | hrule
    · rw [hrule, hpinned] at heval
      rw [← Except.ok.inj heval]
      decide +kernel
    · rw [hrule, hspawn] at heval
      rw [← Except.ok.inj heval]
      decide +kernel
  exact ⟨hnames, hroutes, report, hrun, hclean,
    evaluate_pinnedAgents hnames hroutes (by decide) (by decide) hrun hclean⟩

end Report

end CorpusLint
