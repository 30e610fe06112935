import CorpusLint.Check.Spawn
import Mathlib.Data.List.Forall2

/-!
# The rule on pinned routes

The rule gives one verdict for each route, in order, on the first workflow of its name
(`forall₂_of_verdicts`). It fails exactly where a workflow is missing, and names that of the first
such route, whatever the routes before it give (`verdicts_eq_error_iff`).
-/

namespace CorpusLint

namespace PinnedRoute

variable {corpus : Corpus}

/-- Whether the workflow of a route is missing. -/
def lacksWorkflow (corpus : Corpus) (route : PinnedRoute) : Bool :=
  (corpus.workflow? route.workflow).isNone

theorem forall₂_of_verdicts {routes : List PinnedRoute} {found : List Verdict}
    (h : verdicts corpus routes = .ok found) :
    List.Forall₂ (fun route v =>
      ∃ d, corpus.workflow? route.workflow = some d ∧ v = route.verdict d) routes found := by
  induction routes generalizing found with
  | nil =>
    obtain rfl := Except.ok.inj h
    exact .nil
  | cons route routes ih =>
    unfold verdicts at h
    split at h
    · cases h
    · next d hworkflow =>
      split at h
      · cases h
      · next others hothers =>
        obtain rfl := Except.ok.inj h
        exact .cons ⟨d, hworkflow, rfl⟩ (ih hothers)

theorem exists_of_mem_verdicts {routes : List PinnedRoute} {found : List Verdict}
    (h : verdicts corpus routes = .ok found) {v : Verdict} (hv : v ∈ found) :
    ∃ route ∈ routes, ∃ d ∈ corpus.workflows, v = route.verdict d := by
  have hroutes := forall₂_of_verdicts h
  clear h
  induction hroutes with
  | nil => cases hv
  | @cons route w routes found hroute _ ih =>
    rcases List.mem_cons.1 hv with rfl | hv
    · obtain ⟨d, hworkflow, rfl⟩ := hroute
      exact ⟨route, List.mem_cons_self, d, List.mem_of_find?_eq_some hworkflow, rfl⟩
    · obtain ⟨other, hother, hd⟩ := ih hv
      exact ⟨other, List.mem_cons_of_mem _ hother, hd⟩

theorem exists_verdict_of_mem_routes {routes : List PinnedRoute} {found : List Verdict}
    (h : verdicts corpus routes = .ok found) {route : PinnedRoute} (hroute : route ∈ routes) :
    ∃ d, corpus.workflow? route.workflow = some d ∧ route.verdict d ∈ found := by
  have hroutes := forall₂_of_verdicts h
  clear h
  induction hroutes with
  | nil => cases hroute
  | cons hfirst _ ih =>
    rcases List.mem_cons.1 hroute with rfl | hroute
    · obtain ⟨d, hworkflow, rfl⟩ := hfirst
      exact ⟨d, hworkflow, List.mem_cons_self⟩
    · obtain ⟨d, hworkflow, hmem⟩ := ih hroute
      exact ⟨d, hworkflow, List.mem_cons_of_mem _ hmem⟩

theorem isFailure_verdict {route : PinnedRoute} {d : Document} :
    (route.verdict d).isFailure = false ↔ Spawn.written route.agent <:+: d.raw := by
  rw [← Text.includes_iff, verdict]
  split
  · next hincludes => exact iff_of_true rfl hincludes
  · next hincludes => exact iff_of_false (by rintro ⟨⟩) hincludes

theorem verdicts_eq_error_iff {routes : List PinnedRoute} {failure : Failure} :
    verdicts corpus routes = .error failure ↔
      ∃ route, routes.find? (lacksWorkflow corpus) = some route ∧
        failure = .missingWorkflow route.workflow corpus.root := by
  induction routes with
  | nil => simp [verdicts]
  | cons route routes ih =>
    unfold verdicts
    cases hworkflow : corpus.workflow? route.workflow with
    | none =>
      have hlacks : lacksWorkflow corpus route = true := by simp [lacksWorkflow, hworkflow]
      simp [List.find?_cons_of_pos hlacks, eq_comm]
    | some d =>
      have hlacks : ¬ lacksWorkflow corpus route = true := by simp [lacksWorkflow, hworkflow]
      rw [List.find?_cons_of_neg hlacks, ← ih]
      cases verdicts corpus routes <;> simp

end PinnedRoute

end CorpusLint
