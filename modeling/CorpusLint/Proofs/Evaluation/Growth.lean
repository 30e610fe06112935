import CorpusLint.Proofs.Evaluation.Dependence

/-!
# Adding agents

A rule that looks at agents takes them one by one, so that the agents of a larger corpus have the
verdicts that they have in a corpus of their own. The rule on spawn targets knows no more of them
than their names: further agents settle the spawns of these names and no others
(`Spawn.strays_eq_filter`).

Main statement: `Rule.evaluate_withAgents`.
-/

namespace CorpusLint

/-! ## Larger corpora -/

namespace Corpus

variable {corpus : Corpus}

/-- The corpus with further agents behind its own. -/
def withAgents (corpus : Corpus) (added : List Agent) : Corpus :=
  { corpus with agents := corpus.agents ++ added }

/-- The corpus that holds these agents and nothing else. -/
def ofAgents (root : Text) (agents : List Agent) : Corpus :=
  ⟨root, agents, [], []⟩

theorem mem_agentNames_withAgents (added : List Agent) (name : Text) :
    name ∈ (corpus.withAgents added).agentNames ↔
      name ∈ corpus.agentNames ∨ name ∈ added.map Agent.name := by
  unfold agentNames withAgents
  rw [List.map_append, List.mem_append]

theorem mem_agentNames_around {before after : List Agent} {a : Agent}
    (hagents : corpus.agents = before ++ a :: after) (name : Text) :
    name ∈ corpus.agentNames ↔
      name ∈ agentNames { corpus with agents := before ++ after } ∨ name ∈ [a.name] := by
  unfold agentNames
  rw [hagents]
  simp only [List.map_append, List.map_cons, List.mem_append, List.mem_cons, List.not_mem_nil,
    or_false]
  tauto

end Corpus

/-! ## Spawns of unknown agents -/

namespace Spawn

variable {corpus changed : Corpus} {settings : RuleSettings}

/-- The spawns of a document whose target is not known. -/
def strays (known : List Text) (d : Document) : List Spawn :=
  (scan d.raw).filter (!known.contains ·.target)

/-- What the rule on spawn targets says of a spawn whose target is not known. -/
def failure (d : Document) (s : Spawn) : Verdict :=
  ⟨.spawnTargets, .fail, d.id, some s.place.lineNumber, complaint s.target s.place.line⟩

/-- The verdicts on a document with these spawns of unknown agents. -/
def verdicts (d : Document) : List Spawn → List Verdict
  | [] => [⟨.spawnTargets, .pass, d.id, none, Rule.spawnTargets.praise⟩]
  | found => found.map (failure d)

theorem verdicts_eq_group (d : Document) (found : List Spawn) :
    verdicts d found = Verdict.group .spawnTargets d Rule.spawnTargets.praise
      (found.map fun s => ⟨some s.place.lineNumber, complaint s.target s.place.line⟩) := by
  cases found with
  | nil => rfl
  | cons s found => simp [Verdict.group, verdicts, failure]

theorem verdictsOn_spawnTargets (d : Document) :
    Rule.spawnTargets.verdictsOn corpus settings d =
      verdicts d (strays (knownTargets corpus) d) := by
  rw [Rule.verdictsOn, verdicts_eq_group]
  rfl

theorem evaluate_spawnTargets_eq (corpus : Corpus) (settings : RuleSettings) :
    Rule.spawnTargets.evaluate corpus settings =
      .ok (corpus.orchestration.flatMap fun d =>
        verdicts d (strays (knownTargets corpus) d)) := by
  have hpinned : Rule.spawnTargets ≠ .pinnedRoutes := by decide
  rw [Rule.evaluate_eq corpus settings hpinned]
  apply congrArg Except.ok
  exact List.flatMap_congr fun d _ => verdictsOn_spawnTargets d

theorem filter_isFailure_verdicts (d : Document) (found : List Spawn) :
    (verdicts d found).filter Verdict.isFailure = found.map (failure d) := by
  rw [verdicts_eq_group, Verdict.filter_isFailure_group, List.map_map]
  rfl

/-- The failures on some documents are their spawns of unknown agents. -/
theorem filter_isFailure_flatMap (documents : List Document) (found : Document → List Spawn) :
    (documents.flatMap fun d => verdicts d (found d)).filter Verdict.isFailure =
      documents.flatMap fun d => (found d).map (failure d) := by
  rw [List.filter_flatMap]
  simp only [filter_isFailure_verdicts]

/-- Where further names are known, the spawns of these names are settled. -/
theorem strays_eq_filter {names : List Text}
    (hnames : ∀ name, name ∈ changed.agentNames ↔ name ∈ corpus.agentNames ∨ name ∈ names)
    (d : Document) :
    strays (knownTargets changed) d =
      (strays (knownTargets corpus) d).filter (·.target ∉ names) := by
  unfold strays
  rw [List.filter_filter]
  apply List.filter_congr
  intro s _
  have hknown : s.target ∈ knownTargets changed ↔
      s.target ∈ knownTargets corpus ∨ s.target ∈ names := by
    unfold knownTargets
    rw [List.mem_cons, List.mem_cons, hnames, or_assoc]
  rw [Bool.eq_iff_iff]
  simp [hknown, and_comm]

theorem failures_sublist (documents : List Document) (names : List Text)
    (found : Document → List Spawn) :
    (documents.flatMap fun d => ((found d).filter (·.target ∉ names)).map (failure d)).Sublist
      (documents.flatMap fun d => (found d).map (failure d)) := by
  induction documents with
  | nil => exact .slnil
  | cons d documents ih =>
    rw [List.flatMap_cons, List.flatMap_cons]
    apply List.Sublist.append _ ih
    exact List.filter_sublist.map (failure d)

end Spawn

/-! ## What further agents change -/

namespace Rule

variable {corpus : Corpus} {settings : RuleSettings}

/-- The rules that look at agents. -/
def LooksAtAgents : Rule → Prop
  | antiHeredocInstruction | noActiveHeredoc | skillsField | skillNaming | hooksCommented
  | readOnlyParses | requiredFields => True
  | noLegacySpawn | spawnTargets | pinnedRoutes => False

theorem LooksAtAgents.ne_pinnedRoutes {r : Rule} (h : r.LooksAtAgents) : r ≠ .pinnedRoutes := by
  rintro rfl
  exact h

theorem LooksAtAgents.spawning_eq_nil {r : Rule} (h : r.LooksAtAgents) (corpus : Corpus) :
    r.scope.spawning corpus = [] := by
  cases r with
  | noLegacySpawn | spawnTargets | pinnedRoutes => exact h.elim
  | _ => rfl

/-- All but one of the rules see one document and no others. -/
theorem verdictsOn_of_ne_spawnTargets (corpus changed : Corpus) {r : Rule}
    (h : r ≠ .spawnTargets) : r.verdictsOn changed settings = r.verdictsOn corpus settings := by
  cases r with
  | spawnTargets => exact absurd rfl h
  | _ => rfl

theorem LooksAtAgents.evaluate_eq {r : Rule} (h : r.LooksAtAgents) (corpus : Corpus)
    (settings : RuleSettings) :
    r.evaluate corpus settings = .ok (r.agentVerdicts corpus settings corpus.agents) := by
  rw [evaluate_eq_agentVerdicts h.ne_pinnedRoutes, h.spawning_eq_nil, List.flatMap_nil,
    List.append_nil]

theorem LooksAtAgents.agentVerdicts_eq {r : Rule} (h : r.LooksAtAgents) (corpus changed : Corpus)
    (agents : List Agent) :
    r.agentVerdicts changed settings agents = r.agentVerdicts corpus settings agents := by
  have hspawn : r ≠ .spawnTargets := by
    rintro rfl
    exact h
  rw [agentVerdicts, agentVerdicts, verdictsOn_of_ne_spawnTargets corpus changed hspawn]

theorem LooksAtAgents.evaluate_eq_append {r : Rule} (h : r.LooksAtAgents) (corpus : Corpus)
    (added : List Agent) (settings : RuleSettings) (root : Text) :
    ∃ verdicts others, r.evaluate corpus settings = .ok verdicts ∧
      r.evaluate (.ofAgents root added) settings = .ok others ∧
      r.evaluate (corpus.withAgents added) settings = .ok (verdicts ++ others) := by
  refine ⟨_, _, h.evaluate_eq corpus settings, h.evaluate_eq _ settings, ?_⟩
  rw [h.evaluate_eq, h.agentVerdicts_eq corpus (.ofAgents root added),
    h.agentVerdicts_eq corpus (corpus.withAgents added), ← agentVerdicts_append]
  rfl

theorem evaluate_noLegacySpawn_withAgents (added : List Agent) :
    noLegacySpawn.evaluate (corpus.withAgents added) settings =
      noLegacySpawn.evaluate corpus settings :=
  rfl

theorem evaluate_pinnedRoutes_withAgents (added : List Agent) :
    pinnedRoutes.evaluate (corpus.withAgents added) settings =
      pinnedRoutes.evaluate corpus settings := by
  apply PinnedRoute.verdicts_congr
  · rfl
  · intro name
    rfl

/-- A failure that appears when an agent is taken away is a spawn of this agent. -/
theorem exists_spawn_of_removed {before after : List Agent} {a : Agent}
    (hagents : corpus.agents = before ++ a :: after) :
    ∃ verdicts others, spawnTargets.evaluate corpus settings = .ok verdicts ∧
      spawnTargets.evaluate { corpus with agents := before ++ after } settings = .ok others ∧
      ∀ v ∈ others, v.isFailure = true → v ∉ verdicts →
        ∃ d ∈ corpus.orchestration, ∃ s ∈ Spawn.scan d.raw,
          s.target = a.name ∧ v = Spawn.failure d s := by
  have hnames := Corpus.mem_agentNames_around hagents
  refine ⟨_, _, Spawn.evaluate_spawnTargets_eq _ _, Spawn.evaluate_spawnTargets_eq _ _, ?_⟩
  intro v hv hfail hnew
  have hfailure := List.mem_filter.2 ⟨hv, hfail⟩
  rw [Spawn.filter_isFailure_flatMap] at hfailure
  obtain ⟨d, hd, hv⟩ := List.mem_flatMap.1 hfailure
  obtain ⟨s, hs, rfl⟩ := List.mem_map.1 hv
  refine ⟨d, hd, s, List.mem_of_mem_filter hs, ?_, rfl⟩
  by_contra hother
  apply hnew
  apply List.mem_of_mem_filter (p := Verdict.isFailure)
  rw [Spawn.filter_isFailure_flatMap]
  refine List.mem_flatMap.2 ⟨d, hd, List.mem_map_of_mem ?_⟩
  rw [Spawn.strays_eq_filter hnames]
  exact List.mem_filter.2 ⟨hs, by simpa using hother⟩

/-- **Adding agents is local and only settles spawns.** A rule that looks at agents says of a corpus
with further agents what it says of the corpus and then of these agents alone. The rules on legacy
spawns and on pinned routes say what they said. The rule on spawn targets finds the failures it
found, in their order, without those at spawns of the added names; a document without any left
passes. So none appears, and taking an agent away brings failures at its own spawns only. -/
theorem evaluate_withAgents (corpus : Corpus) (added : List Agent) (settings : RuleSettings) :
    let found := Spawn.strays (Spawn.knownTargets corpus)
    let left (d : Document) := (found d).filter (·.target ∉ added.map Agent.name)
    (∀ r : Rule, r.LooksAtAgents → ∀ root, ∃ verdicts others,
      r.evaluate corpus settings = .ok verdicts ∧
      r.evaluate (.ofAgents root added) settings = .ok others ∧
      r.evaluate (corpus.withAgents added) settings = .ok (verdicts ++ others)) ∧
    noLegacySpawn.evaluate (corpus.withAgents added) settings =
      noLegacySpawn.evaluate corpus settings ∧
    pinnedRoutes.evaluate (corpus.withAgents added) settings =
      pinnedRoutes.evaluate corpus settings ∧
    (∃ verdicts others,
      spawnTargets.evaluate corpus settings = .ok verdicts ∧
      spawnTargets.evaluate (corpus.withAgents added) settings = .ok others ∧
      verdicts = corpus.orchestration.flatMap (fun d => Spawn.verdicts d (found d)) ∧
      others = corpus.orchestration.flatMap (fun d => Spawn.verdicts d (left d)) ∧
      verdicts.filter Verdict.isFailure =
        corpus.orchestration.flatMap (fun d => (found d).map (Spawn.failure d)) ∧
      others.filter Verdict.isFailure =
        corpus.orchestration.flatMap (fun d => (left d).map (Spawn.failure d)) ∧
      (others.filter Verdict.isFailure).Sublist (verdicts.filter Verdict.isFailure)) ∧
    ∀ before a after, corpus.agents = before ++ a :: after → ∃ verdicts others,
      spawnTargets.evaluate corpus settings = .ok verdicts ∧
      spawnTargets.evaluate { corpus with agents := before ++ after } settings = .ok others ∧
      ∀ v ∈ others, v.isFailure = true → v ∉ verdicts →
        ∃ d ∈ corpus.orchestration, ∃ s ∈ Spawn.scan d.raw,
          s.target = a.name ∧ v = Spawn.failure d s := by
  intro found left
  have hnames := corpus.mem_agentNames_withAgents added
  refine ⟨fun r hr root => hr.evaluate_eq_append corpus added settings root,
    evaluate_noLegacySpawn_withAgents added, evaluate_pinnedRoutes_withAgents added, ?_,
    fun before a after hagents => exists_spawn_of_removed hagents⟩
  have hgrown := Spawn.evaluate_spawnTargets_eq (corpus.withAgents added) settings
  simp only [Spawn.strays_eq_filter hnames] at hgrown
  refine ⟨_, _, Spawn.evaluate_spawnTargets_eq corpus settings, hgrown, rfl, rfl, ?_, ?_, ?_⟩
  · exact Spawn.filter_isFailure_flatMap _ found
  · exact Spawn.filter_isFailure_flatMap _ left
  · rw [Spawn.filter_isFailure_flatMap, Spawn.filter_isFailure_flatMap]
    exact Spawn.failures_sublist _ _ found

/-- A workflow with two unknown targets and a command with one of them, before and after the agent
that both spawn is there. The command passes then, and the workflow keeps its other failure. -/
theorem evaluate_withAgents_settled :
    let flow : Document := ⟨.workflow, "flow".toList, [],
      "subagent_type=\"gsd-a\"\nsubagent_type=\"gsd-b\"".toList⟩
    let call : Document := ⟨.command, "call".toList, [], "subagent_type=\"gsd-a\"".toList⟩
    let reader := Agent.ofDocument "Write".toList ⟨.agent, "gsd-c".toList, [], "text".toList⟩
    let target := Agent.ofDocument "Write".toList ⟨.agent, "gsd-a".toList, [], "text".toList⟩
    let corpus : Corpus := ⟨[], [reader], [flow], [call]⟩
    skillsField.LooksAtAgents ∧ corpus.agents = [] ++ reader :: [] ∧
      (∃ verdicts others, skillsField.evaluate corpus {} = .ok verdicts ∧
        skillsField.evaluate (.ofAgents [] [target]) {} = .ok others ∧
        skillsField.evaluate (corpus.withAgents [target]) {} = .ok (verdicts ++ others)) ∧
      (∃ verdicts others, spawnTargets.evaluate corpus {} = .ok verdicts ∧
        spawnTargets.evaluate (corpus.withAgents [target]) {} = .ok others ∧
        verdicts.map Verdict.line = [some 1, some 2, some 1] ∧
        others.map Verdict.line = [some 2, none] ∧
        (others.filter Verdict.isFailure).Sublist (verdicts.filter Verdict.isFailure)) ∧
      ∃ verdicts others, spawnTargets.evaluate corpus {} = .ok verdicts ∧
        spawnTargets.evaluate { corpus with agents := [] ++ [] } {} = .ok others ∧
        ∀ v ∈ others, v.isFailure = true → v ∉ verdicts →
          ∃ d ∈ corpus.orchestration, ∃ s ∈ Spawn.scan d.raw,
            s.target = reader.name ∧ v = Spawn.failure d s := by
  intro flow call reader target corpus
  have hlooks : skillsField.LooksAtAgents := trivial
  have hagents : corpus.agents = [] ++ reader :: [] := rfl
  obtain ⟨hagentRules, -, -, ⟨verdicts, others, hverdicts, hothers, hfound, hleft, -, -, hsub⟩,
    hremoved⟩ := evaluate_withAgents corpus [target] {}
  refine ⟨hlooks, hagents, hagentRules skillsField hlooks [],
    ⟨verdicts, others, hverdicts, hothers, ?_, ?_, hsub⟩, hremoved [] reader [] hagents⟩
  · rw [hfound]
    decide +kernel
  · rw [hleft]
    decide +kernel

end Rule

end CorpusLint
