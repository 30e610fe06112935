import CorpusLint.Proofs.Evaluation.Groups

/-!
# Routes without a workflow

A workflow that a route names and that the corpus does not have is the one thing that keeps a rule
from being evaluated. Which route ends the evaluation is settled by the names alone: it is the first
one without a workflow, whatever the routes before it give.

Main statement: `Rule.evaluate_pinnedRoutes`. Beside the failures it says what the rule gives where
there is none: one verdict for each route, on the first workflow of its name.
-/

namespace CorpusLint

namespace Corpus

variable {corpus : Corpus} {name : Text}

/-- Some workflow has this name. -/
def HasWorkflow (corpus : Corpus) (name : Text) : Prop :=
  ∃ d ∈ corpus.workflows, d.name = name

/-- The document is the first of the workflows that has this name. -/
def IsFirstWorkflow (corpus : Corpus) (name : Text) (d : Document) : Prop :=
  d.name = name ∧ ∃ before after, corpus.workflows = before ++ d :: after ∧
    ∀ earlier ∈ before, earlier.name ≠ name

theorem workflow?_eq_some_iff {d : Document} :
    corpus.workflow? name = some d ↔ corpus.IsFirstWorkflow name d := by
  rw [workflow?, List.find?_eq_some_iff_append, beq_iff_eq]
  simp only [Bool.not_eq_true', beq_eq_false_iff_ne]
  rfl

theorem workflow?_eq_none_iff : corpus.workflow? name = none ↔ ¬ corpus.HasWorkflow name := by
  rw [workflow?, List.find?_eq_none, HasWorkflow]
  simp

end Corpus

namespace PinnedRoute

variable {corpus : Corpus}

theorem lacksWorkflow_iff {route : PinnedRoute} :
    lacksWorkflow corpus route = true ↔ ¬ corpus.HasWorkflow route.workflow := by
  rw [lacksWorkflow, Option.isNone_iff_eq_none, Corpus.workflow?_eq_none_iff]

/-- The route names a workflow that is not there, and the routes before it do not. -/
def IsFirstMissing (corpus : Corpus) (routes : List PinnedRoute) (route : PinnedRoute) : Prop :=
  ¬ corpus.HasWorkflow route.workflow ∧ ∃ before after, routes = before ++ route :: after ∧
    ∀ earlier ∈ before, corpus.HasWorkflow earlier.workflow

theorem find?_lacksWorkflow_iff {routes : List PinnedRoute} {route : PinnedRoute} :
    routes.find? (lacksWorkflow corpus) = some route ↔ IsFirstMissing corpus routes route := by
  rw [List.find?_eq_some_iff_append, lacksWorkflow_iff]
  simp only [Bool.not_eq_true', ← Bool.not_eq_true, lacksWorkflow_iff, not_not]
  rfl

theorem exists_isFirstMissing_iff {routes : List PinnedRoute} :
    (∃ route, IsFirstMissing corpus routes route) ↔
      ∃ route ∈ routes, ¬ corpus.HasWorkflow route.workflow := by
  simp only [← find?_lacksWorkflow_iff, ← Option.isSome_iff_exists, List.find?_isSome,
    lacksWorkflow_iff]

/-- The verdict on a route is about the first workflow of its name, and lets it pass exactly where
the text spawns the agent. -/
structure Answers (corpus : Corpus) (route : PinnedRoute) (v : Verdict) : Prop where
  rule_eq : v.rule = .pinnedRoutes
  line_eq : v.line = none
  judges : ∃ d, corpus.IsFirstWorkflow route.workflow d ∧ v.document = d.id ∧
    (v.status = .pass ↔ Spawn.written route.agent <:+: d.raw)

theorem answers_verdict {route : PinnedRoute} {d : Document}
    (h : corpus.IsFirstWorkflow route.workflow d) : Answers corpus route (route.verdict d) := by
  have hfields : (route.verdict d).rule = .pinnedRoutes ∧ (route.verdict d).line = none ∧
      (route.verdict d).document = d.id := by
    unfold verdict
    split <;> exact ⟨rfl, rfl, rfl⟩
  obtain ⟨hrule, hline, hdocument⟩ := hfields
  refine ⟨hrule, hline, d, h, hdocument, ?_⟩
  rw [← isFailure_verdict, Verdict.isFailure]
  cases (route.verdict d).status <;> decide

theorem exists_verdicts {routes : List PinnedRoute}
    (h : ∀ route ∈ routes, corpus.HasWorkflow route.workflow) :
    ∃ found, verdicts corpus routes = .ok found ∧ List.Forall₂ (Answers corpus) routes found := by
  cases hfound : verdicts corpus routes with
  | error failure =>
    obtain ⟨route, hfirst, -⟩ := verdicts_eq_error_iff.1 hfound
    obtain ⟨hmissing, before, after, rfl, -⟩ := find?_lacksWorkflow_iff.1 hfirst
    exact absurd (h route (List.mem_append_right before List.mem_cons_self)) hmissing
  | ok found =>
    refine ⟨found, rfl, (forall₂_of_verdicts hfound).imp ?_⟩
    rintro route v ⟨d, hworkflow, rfl⟩
    exact answers_verdict (Corpus.workflow?_eq_some_iff.1 hworkflow)

end PinnedRoute

namespace Rule

variable {corpus : Corpus} {settings : RuleSettings}

theorem evaluate_eq_error_iff_firstMissing {r : Rule} {failure : Failure} :
    r.evaluate corpus settings = .error failure ↔
      r = .pinnedRoutes ∧ ∃ route, PinnedRoute.IsFirstMissing corpus settings.pinnedRoutes route ∧
        failure = .missingWorkflow route.workflow corpus.root := by
  simp only [← PinnedRoute.find?_lacksWorkflow_iff, ← PinnedRoute.verdicts_eq_error_iff]
  constructor
  · intro h
    obtain rfl := eq_pinnedRoutes_of_error h
    exact ⟨rfl, h⟩
  · rintro ⟨rfl, h⟩
    exact h

/-- **Only a missing pinned workflow keeps a rule from being evaluated.** It does where some route
names a workflow that the corpus does not have, and the failure names that of the first such route.
Otherwise the rule gives one verdict for each route, in order. -/
theorem evaluate_pinnedRoutes (corpus : Corpus) (settings : RuleSettings) :
    (∀ r : Rule, (∃ failure, r.evaluate corpus settings = .error failure) ↔
      r = .pinnedRoutes ∧
        ∃ route ∈ settings.pinnedRoutes, ¬ corpus.HasWorkflow route.workflow) ∧
    (∀ (r : Rule) (failure : Failure), r.evaluate corpus settings = .error failure →
      ∃ route, PinnedRoute.IsFirstMissing corpus settings.pinnedRoutes route ∧
        failure = .missingWorkflow route.workflow corpus.root ∧ failure.kind = .notFound ∧
        failure.reason = "workflow '".toList ++ route.workflow ++
          "' required by rule pinned-routes (looked in ".toList ++ corpus.root ++ ")".toList) ∧
    ((∀ route ∈ settings.pinnedRoutes, corpus.HasWorkflow route.workflow) →
      ∃ verdicts, pinnedRoutes.evaluate corpus settings = .ok verdicts ∧
        List.Forall₂ (PinnedRoute.Answers corpus) settings.pinnedRoutes verdicts) := by
  refine ⟨fun r => ?_, fun r failure h => ?_, PinnedRoute.exists_verdicts⟩
  · rw [← PinnedRoute.exists_isFirstMissing_iff]
    constructor
    · rintro ⟨failure, h⟩
      obtain ⟨hr, route, hfirst, -⟩ := evaluate_eq_error_iff_firstMissing.1 h
      exact ⟨hr, route, hfirst⟩
    · rintro ⟨hr, route, hfirst⟩
      exact ⟨_, evaluate_eq_error_iff_firstMissing.2 ⟨hr, route, hfirst, rfl⟩⟩
  · obtain ⟨-, route, hfirst, rfl⟩ := evaluate_eq_error_iff_firstMissing.1 h
    exact ⟨route, hfirst, rfl, rfl, rfl⟩

/-- A route that fails does not end the evaluation, and a command is no workflow. -/
example :
    let corpus := Corpus.ofDocuments "root".toList [] [⟨.workflow, "plan".toList, [], []⟩]
      [⟨.command, "debug".toList, [], []⟩] []
    pinnedRoutes.evaluate corpus { pinnedRoutes := [⟨"plan".toList, "gsd-a".toList⟩,
        ⟨"debug".toList, "gsd-b".toList⟩, ⟨"verify".toList, "gsd-c".toList⟩] } =
      .error (.missingWorkflow "debug".toList "root".toList) := rfl

end Rule

end CorpusLint
