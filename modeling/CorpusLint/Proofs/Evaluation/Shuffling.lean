import CorpusLint.Proofs.Corpus.Documents
import CorpusLint.Proofs.Evaluation.Dependence
import CorpusLint.Proofs.Report.Failures

/-!
# The order of the documents does not show

A corpus is shuffled when its agents, its workflows and its commands are each put into another
order. The list of failures is sorted by rule, document and line only, and an agent may have several
bad skills, a line several unknown targets, a workflow several missing routes. Such failures keep
the order in which they were found: they come from one document, or from the list of routes, neither
of which is shuffled (`Rule.agree_shuffle`).

A route leads to the first workflow with its name, so that the names of the workflows have to tell
them apart. Identifiers do not suffice where a document stands among the workflows and is no
workflow (`evaluate_shuffle_misfiled`); where each stands in the list of its own collection, they do
(`Filed.nodup_workflowNames`).

Main statement: `Report.evaluate_shuffle`.
-/

namespace CorpusLint

open Sorting

/-- The second corpus holds the documents of the first one, each collection in an order of its
own. -/
structure Corpus.Shuffle (corpus shuffled : Corpus) : Prop where
  root_eq : shuffled.root = corpus.root
  agents : corpus.agents.Perm shuffled.agents
  workflows : corpus.workflows.Perm shuffled.workflows
  commands : corpus.commands.Perm shuffled.commands

namespace Corpus

variable {corpus shuffled : Corpus}

theorem shuffle_ofDocuments {agents workflows commands agents' workflows' commands' : List Document}
    (hagents : agents.Perm agents') (hworkflows : workflows.Perm workflows')
    (hcommands : commands.Perm commands') (root capability : Text) :
    Shuffle (ofDocuments root agents workflows commands capability)
      (ofDocuments root agents' workflows' commands' capability) :=
  ⟨rfl, hagents.map (Agent.ofDocument capability), hworkflows, hcommands⟩

theorem Shuffle.mem_agentNames_iff (h : Shuffle corpus shuffled) (name : Text) :
    name ∈ shuffled.agentNames ↔ name ∈ corpus.agentNames :=
  (h.agents.map Agent.name).mem_iff.symm

theorem Shuffle.documents_perm (h : Shuffle corpus shuffled) (s : Scope) :
    (s.documents corpus).Perm (s.documents shuffled) := by
  cases s with
  | fileWritingAgents | readOnlyAgents => exact (h.agents.filter _).map Agent.document
  | allAgents => exact h.agents.map Agent.document
  | orchestration => exact h.workflows.append h.commands
  | pinnedWorkflows => exact List.Perm.refl []

/-- In a filed corpus the identifiers tell the names of workflows apart. -/
theorem Filed.nodup_workflowNames (hfiled : corpus.Filed)
    (hids : (corpus.documents.map Document.id).Nodup) :
    (corpus.workflows.map Document.name).Nodup := by
  have hsub : corpus.workflows.Sublist corpus.documents :=
    (List.sublist_append_left _ _).trans (List.sublist_append_right _ _)
  have hworkflows : corpus.workflows.map Document.id =
      (corpus.workflows.map Document.name).map (Collection.workflow.name ++ ':' :: ·) := by
    rw [List.map_map]
    refine List.map_congr_left fun d hd => ?_
    rw [Document.id, hfiled.workflows d hd]
    rfl
  have hnodup := hids.sublist (hsub.map Document.id)
  rw [hworkflows] at hnodup
  exact hnodup.of_map _

theorem Shuffle.workflow?_eq (h : Shuffle corpus shuffled)
    (hnames : (corpus.workflows.map Document.name).Nodup) (name : Text) :
    shuffled.workflow? name = corpus.workflow? name := by
  have hfilter := filter_eq_of_perm h.workflows hnames name
  have hhead := congrArg List.head? hfilter
  have hpred : (fun d : Document => decide (d.name = name)) = fun d => d.name == name := by
    funext d
    rw [Bool.eq_iff_iff, decide_eq_true_eq, beq_iff_eq]
  rw [List.head?_filter, List.head?_filter, hpred] at hhead
  exact hhead.symm

end Corpus

namespace Rule

variable {corpus shuffled : Corpus} {settings : RuleSettings}

theorem evaluate_pinnedRoutes_shuffle (hshuffle : corpus.Shuffle shuffled)
    (hnames : (corpus.workflows.map Document.name).Nodup) :
    pinnedRoutes.evaluate shuffled settings = pinnedRoutes.evaluate corpus settings :=
  PinnedRoute.verdicts_congr hshuffle.root_eq (hshuffle.workflow?_eq hnames) _

/-- The verdicts of a rule that point at one thing come in one order. -/
theorem agree_shuffle (hshuffle : corpus.Shuffle shuffled)
    (hids : (corpus.documents.map Document.id).Nodup)
    (hnames : (corpus.workflows.map Document.name).Nodup) (r : Rule) :
    Agree Verdict.key (r.verdicts corpus settings) (r.verdicts shuffled settings) := by
  by_cases hr : r = .pinnedRoutes
  · subst hr
    rw [verdicts, verdicts, evaluate_pinnedRoutes_shuffle hshuffle hnames]
    exact Agree.refl _ _
  · rw [verdicts_of_evaluate (evaluate_eq corpus settings hr),
      verdicts_of_evaluate (evaluate_eq shuffled settings hr),
      verdictsOn_congr hshuffle.mem_agentNames_iff]
    have hnodup := hids.sublist ((r.scope.documents_sublist corpus).map Document.id)
    have hgroup : ∀ d, ∀ v ∈ r.verdictsOn corpus settings d, Verdict.keyDocument v.key = d.id :=
      fun d v hv => (isGroup_verdictsOn corpus settings r d).document_eq v hv
    exact agree_flatMap_of_perm hgroup (hshuffle.documents_perm r.scope) hnodup

end Rule

namespace Report

/-- Two runs end in the same way: they fail alike, or their reports list the same failures and have
the same totals. -/
inductive EndAlike : Except Failure Report → Except Failure Report → Prop
  | error (failure : Failure) : EndAlike (.error failure) (.error failure)
  | ok {report other : Report} (failures_eq : report.failures = other.failures)
    (summary_eq : report.summary = other.summary)
    (isSuccess_eq : report.isSuccess = other.isSuccess) : EndAlike (.ok report) (.ok other)

/-- **The order in which documents were read does not show.** Where no two documents share an
identifier and no two workflows a name, putting the agents, the workflows and the commands into
other orders leaves the failure of a run or, where it has a report, the list of its failures and its
totals. -/
theorem evaluate_shuffle {corpus shuffled : Corpus}
    (hids : (corpus.documents.map Document.id).Nodup)
    (hnames : (corpus.workflows.map Document.name).Nodup) (hshuffle : corpus.Shuffle shuffled)
    (settings : RuleSettings) (clock clock' : Clock) (rules : List Rule) :
    EndAlike (evaluate corpus settings clock rules) (evaluate shuffled settings clock' rules) := by
  have hpinned : Rule.pinnedRoutes.evaluate shuffled settings =
      Rule.pinnedRoutes.evaluate corpus settings :=
    Rule.evaluate_pinnedRoutes_shuffle hshuffle hnames
  have hfails : ∀ failure,
      .pinnedRoutes ∈ rules ∧ Rule.pinnedRoutes.evaluate corpus settings = .error failure ↔
        .pinnedRoutes ∈ rules ∧ Rule.pinnedRoutes.evaluate shuffled settings = .error failure := by
    intro failure
    rw [hpinned]
  rcases evaluate_error_or_ok hfails with ⟨failure, hcorpus, hshuffled⟩ | ⟨hcorpus, hshuffled⟩
  · rw [hcorpus, hshuffled]
    exact .error failure
  · rw [hcorpus, hshuffled]
    obtain ⟨hfailures, hsummary, hsuccess⟩ :=
      tallies_eq fun r (_ : r ∈ Rule.inOrder rules) => Rule.agree_shuffle hshuffle hids hnames r
    exact .ok hfailures hsummary hsuccess

/-- An agent with two bad skills and a workflow with two unknown targets in one line, each behind
another document that it stood before. The verdicts come in another order, the failures do not. -/
theorem evaluate_shuffle_swapped :
    let bad : Document := ⟨.agent, "gsd-a".toList, [], "---\n- gsd-y\n- gsd-x\n---\n".toList⟩
    let good : Document := ⟨.agent, "gsd-b".toList, [], "text".toList⟩
    let flow : Document := ⟨.workflow, "flow".toList, [],
      "subagent_type=\"b\" subagent_type=\"a\"".toList⟩
    let other : Document := ⟨.workflow, "other".toList, [], "subagent_type=\"c\"".toList⟩
    let corpus := Corpus.ofDocuments [] [bad, good] [flow, other] [] "Write".toList
    let shuffled := Corpus.ofDocuments [] [good, bad] [other, flow] [] "Write".toList
    let rules : List Rule := [.spawnTargets, .skillNaming]
    (corpus.documents.map Document.id).Nodup ∧ (corpus.workflows.map Document.name).Nodup ∧
      corpus.Shuffle shuffled ∧
      Rule.skillNaming.verdicts corpus {} ≠ Rule.skillNaming.verdicts shuffled {} ∧
      EndAlike (evaluate corpus {} (fun _ => 0) rules)
        (evaluate shuffled {} (fun _ => 1) rules) := by
  intro bad good flow other corpus shuffled rules
  have hfiled : corpus.Filed := Corpus.filed_ofDocuments (by decide) (by decide) (by decide)
  have hids : (corpus.documents.map Document.id).Nodup := by decide +kernel
  have hagents : [bad, good].Perm [good, bad] := List.Perm.swap good bad []
  have hworkflows : [flow, other].Perm [other, flow] := List.Perm.swap other flow []
  have hshuffle : corpus.Shuffle shuffled :=
    Corpus.shuffle_ofDocuments hagents hworkflows (List.Perm.refl []) [] "Write".toList
  have hnames : (corpus.workflows.map Document.name).Nodup := hfiled.nodup_workflowNames hids
  exact ⟨hids, hnames, hshuffle, by decide +kernel,
    evaluate_shuffle hids hnames hshuffle {} _ _ rules⟩

/-- A workflow and a command of one name, both among the workflows. Their identifiers differ, and
only one of them spawns the agent of the route. The route leads to the document that comes first,
so that the rule passes or fails with the order. -/
theorem evaluate_shuffle_misfiled :
    let flow : Document := ⟨.workflow, "diagnose-issues".toList, [], "x".toList⟩
    let command : Document :=
      ⟨.command, "diagnose-issues".toList, [], "subagent_type=\"gsd-debugger\"".toList⟩
    let corpus := Corpus.ofDocuments [] [] [flow, command] [] "Write".toList
    let shuffled := Corpus.ofDocuments [] [] [command, flow] [] "Write".toList
    (corpus.documents.map Document.id).Nodup ∧ corpus.Shuffle shuffled ∧
      ¬ EndAlike (evaluate corpus {} (fun _ => 0) [.pinnedRoutes])
        (evaluate shuffled {} (fun _ => 0) [.pinnedRoutes]) := by
  intro flow command corpus shuffled
  have hworkflows : [flow, command].Perm [command, flow] := List.Perm.swap command flow []
  refine ⟨by decide +kernel,
    Corpus.shuffle_ofDocuments (List.Perm.refl []) hworkflows (List.Perm.refl []) [] _,
    fun halike => ?_⟩
  have hfails : evaluate corpus {} (fun _ => 0) [.pinnedRoutes] = .ok _ := rfl
  have hpasses : evaluate shuffled {} (fun _ => 0) [.pinnedRoutes] = .ok _ := rfl
  rw [hfails, hpasses] at halike
  cases halike with
  | ok _ _ hsuccess => exact absurd hsuccess (by decide +kernel)

end Report

end CorpusLint
