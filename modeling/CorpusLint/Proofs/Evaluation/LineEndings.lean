import CorpusLint.Proofs.Check.LineEndings
import CorpusLint.Proofs.Corpus.Documents
import CorpusLint.Proofs.Evaluation.Groups

/-!
# Line endings do not matter

A corpus without carriage returns is read a second time with a carriage return in front of every
line feed. The two evaluations of a rule are compared verdict by verdict: `Verdict.Recast` asks for
the same words about the same place, except where a target over several lines is quoted.

Main statement: `evaluate_crlf`.
-/

namespace CorpusLint

/-! ## Two forms of one verdict -/

namespace Verdict

/-- The verdict quotes the target of an unknown spawn, and the target runs over several lines. -/
structure QuotesLines (v : Verdict) (target line : Text) : Prop where
  rule_eq : v.rule = .spawnTargets
  status_eq : v.status = .fail
  quote_notMem : '\"' ∉ target
  lineFeed_mem : '\n' ∈ target
  message_eq : v.message = Spawn.complaint target line

/-- The second verdict is the first one, after the line endings have changed. -/
structure Recast (v w : Verdict) : Prop where
  rule_eq : w.rule = v.rule
  status_eq : w.status = v.status
  document_eq : w.document = v.document
  line_eq : w.line = v.line
  /-- It uses the same words. -/
  message_eq : (∀ target line, ¬ v.QuotesLines target line) → w.message = v.message
  /-- A target over several lines is quoted as it stands in the changed text. -/
  message_crlf : ∀ target line, v.QuotesLines target line →
    w.message = Spawn.complaint target.crlf line

/-- Two evaluations of a rule, before and after the line endings have changed: they fail in the same
way, or the verdicts correspond one by one. -/
inductive Recasts : Except Failure (List Verdict) → Except Failure (List Verdict) → Prop
  | error (failure : Failure) : Recasts (.error failure) (.error failure)
  | ok {verdicts recast : List Verdict} (h : List.Forall₂ Recast verdicts recast) :
    Recasts (.ok verdicts) (.ok recast)

theorem Recast.of_not_quotesLines {v : Verdict} (h : ∀ target line, ¬ v.QuotesLines target line) :
    Recast v v :=
  ⟨rfl, rfl, rfl, rfl, fun _ => rfl, fun target line hquotes => absurd hquotes (h target line)⟩

theorem Recast.of_rule_ne {v : Verdict} (h : v.rule ≠ .spawnTargets) : Recast v v :=
  .of_not_quotesLines fun _ _ hquotes => h hquotes.rule_eq

theorem Recast.of_pass {v : Verdict} (h : v.status = .pass) : Recast v v :=
  .of_not_quotesLines fun _ _ hquotes => by
    have hfail := hquotes.status_eq
    rw [h] at hfail
    cases hfail

end Verdict

/-- The quote behind the target is the first one after its beginning. -/
theorem Spawn.complaint_eq (target line : Text) : complaint target line =
    "unknown agent type \"".toList ++ (target ++ '\"' :: (": ".toList ++ line.trim)) := by
  unfold complaint
  rw [List.append_assoc, List.append_assoc]
  rfl

/-- A complaint tells which target it quotes. -/
theorem Spawn.complaint_inj {target other line below : Text} (htarget : '\"' ∉ target)
    (hother : '\"' ∉ other) (h : complaint target line = complaint other below) :
    target = other ∧ line.trim = below.trim := by
  rw [complaint_eq, complaint_eq, List.append_cancel_left_eq] at h
  obtain ⟨hsame, hrest⟩ := Text.append_cons_inj htarget hother h
  exact ⟨hsame, List.append_cancel_left hrest⟩

theorem Verdict.recast_complaint {target : Text} (htarget : '\"' ∉ target) (document : Text)
    (number : Option Nat) (line : Text) :
    Recast ⟨.spawnTargets, .fail, document, number, Spawn.complaint target line⟩
      ⟨.spawnTargets, .fail, document, number, Spawn.complaint target.crlf line⟩ := by
  refine ⟨rfl, rfl, rfl, rfl, fun hone => ?_, fun other below hquotes => ?_⟩
  · have hfeed : '\n' ∉ target := fun hmem => hone target line ⟨rfl, rfl, htarget, hmem, rfl⟩
    rw [Text.crlf_of_notMem hfeed]
  · obtain ⟨rfl, htrim⟩ := Spawn.complaint_inj htarget hquotes.quote_notMem hquotes.message_eq
    rw [Spawn.complaint_eq, Spawn.complaint_eq, htrim]

/-- Groups are compared violation by violation. -/
theorem Verdict.forall₂_recast_group {rule : Rule} {d : Document} {praise : Text}
    {violations changed : List Violation}
    (h : List.Forall₂ (fun v w => Recast ⟨rule, .fail, d.id, v.line, v.message⟩
      ⟨rule, .fail, d.id, w.line, w.message⟩) violations changed) :
    List.Forall₂ Recast (group rule d praise violations) (group rule d.crlf praise changed) := by
  cases h with
  | nil => exact .cons (.of_pass rfl) .nil
  | cons hfirst hrest =>
    refine .cons hfirst ?_
    rw [List.forall₂_map_left_iff, List.forall₂_map_right_iff]
    exact hrest

/-! ## The changed corpus -/

/-- The agent whose document has changed. Its class stays. -/
def Agent.crlf (a : Agent) : Agent :=
  { a with document := a.document.crlf }

theorem Agent.ofDocument_crlf {d : Document} (h : '\r' ∉ d.raw) (capability : Text) :
    ofDocument capability d.crlf = (ofDocument capability d).crlf := by
  rw [ofDocument, AgentClass.ofHeader, Frontmatter.fieldValue?, Document.lines_header_crlf h]
  rfl

namespace Corpus

/-- The corpus with a carriage return in front of every line feed of its documents. -/
def crlf (corpus : Corpus) : Corpus where
  root := corpus.root
  agents := corpus.agents.map Agent.crlf
  workflows := corpus.workflows.map Document.crlf
  commands := corpus.commands.map Document.crlf

/-- To read the changed documents is to change the corpus: every agent keeps its class. -/
theorem ofDocuments_crlf {agents : List Document} (h : ∀ d ∈ agents, '\r' ∉ d.raw) (root : Text)
    (workflows commands : List Document) (capability : Text) :
    ofDocuments root (agents.map Document.crlf) (workflows.map Document.crlf)
        (commands.map Document.crlf) capability =
      (ofDocuments root agents workflows commands capability).crlf := by
  have hagents : (agents.map Document.crlf).map (Agent.ofDocument capability) =
      (agents.map (Agent.ofDocument capability)).map Agent.crlf := by
    rw [List.map_map, List.map_map]
    exact List.map_congr_left fun d hd => Agent.ofDocument_crlf (h d hd) capability
  rw [ofDocuments, hagents]
  rfl

theorem map_kind_crlf (corpus : Corpus) :
    corpus.crlf.agents.map Agent.kind = corpus.agents.map Agent.kind :=
  List.map_map

theorem agentNames_crlf (corpus : Corpus) : corpus.crlf.agentNames = corpus.agentNames :=
  List.map_map

theorem agentsOf_crlf (corpus : Corpus) (kind : AgentClass) :
    corpus.crlf.agentsOf kind = (corpus.agentsOf kind).map Agent.crlf :=
  List.filter_map

theorem workflow?_crlf (corpus : Corpus) (name : Text) :
    corpus.crlf.workflow? name = (corpus.workflow? name).map Document.crlf :=
  List.find?_map

end Corpus

theorem Scope.documents_crlf (corpus : Corpus) (s : Scope) :
    s.documents corpus.crlf = (s.documents corpus).map Document.crlf := by
  cases s with
  | fileWritingAgents | readOnlyAgents =>
    simp only [documents, Corpus.agentsOf_crlf, List.map_map]
    rfl
  | allAgents =>
    simp only [documents, Corpus.crlf, List.map_map]
    rfl
  | orchestration => simp only [documents, Corpus.orchestration, Corpus.crlf, List.map_append]
  | pinnedWorkflows => rfl

/-! ## Pinned routes -/

namespace PinnedRoute

theorem verdict_crlf {route : PinnedRoute} {d : Document} (h : '\r' ∉ d.raw)
    (hreturn : '\r' ∉ route.agent) (hfeed : '\n' ∉ route.agent) :
    route.verdict d.crlf = route.verdict d := by
  have hreturns : '\r' ∉ Spawn.opening := by decide
  have hfeeds : '\n' ∉ Spawn.opening := by decide
  have hspawn : d.crlf.raw.includes (Spawn.written route.agent) =
      d.raw.includes (Spawn.written route.agent) :=
    Text.includes_crlf h (by simp [Spawn.written, hreturns, hreturn])
      (by simp [Spawn.written, hfeeds, hfeed])
  rw [verdict, verdict, hspawn, Document.id_crlf]

theorem verdicts_crlf {corpus : Corpus} (hraw : ∀ d ∈ corpus.documents, '\r' ∉ d.raw)
    {routes : List PinnedRoute}
    (hroutes : ∀ route ∈ routes, '\r' ∉ route.agent ∧ '\n' ∉ route.agent) :
    verdicts corpus.crlf routes = verdicts corpus routes := by
  induction routes with
  | nil => rfl
  | cons route routes ih =>
    obtain ⟨⟨hreturn, hfeed⟩, hrest⟩ := List.forall_mem_cons.1 hroutes
    simp only [verdicts, Corpus.workflow?_crlf, ih hrest]
    cases hworkflow : corpus.workflow? route.workflow with
    | none => rfl
    | some d =>
      have hd : d ∈ corpus.documents :=
        List.mem_append_right _ (List.mem_append_left _ (List.mem_of_find?_eq_some hworkflow))
      simp only [Option.map_some, verdict_crlf (hraw d hd) hreturn hfeed]

theorem rule_of_mem_verdicts {corpus : Corpus} {routes : List PinnedRoute} :
    ∀ {found : List Verdict}, verdicts corpus routes = .ok found →
      ∀ v ∈ found, v.rule = .pinnedRoutes := by
  induction routes with
  | nil =>
    intro found h v hv
    obtain rfl := Except.ok.inj h
    cases hv
  | cons route routes ih =>
    intro found h v hv
    unfold verdicts at h
    split at h
    · cases h
    · split at h
      · cases h
      · rename_i others hothers
        obtain rfl := Except.ok.inj h
        rcases List.mem_cons.1 hv with rfl | hv
        · unfold verdict
          split <;> rfl
        · exact ih hothers v hv

end PinnedRoute

/-! ## The two evaluations -/

namespace Rule

variable {corpus : Corpus} {settings : RuleSettings}

/-- One document of a rule's scope, before and after. -/
theorem forall₂_recast_verdictsOn (r : Rule) {d : Document} (h : '\r' ∉ d.raw)
    (hnames : ∀ name ∈ corpus.agentNames, '\n' ∉ name)
    (hfields : ∀ field ∈ settings.requiredFields, '\r' ∉ field ∧ '\n' ∉ field) :
    List.Forall₂ Verdict.Recast (r.verdictsOn corpus settings d)
      (r.verdictsOn corpus.crlf settings d.crlf) := by
  refine Verdict.forall₂_recast_group ?_
  by_cases hr : r = .spawnTargets
  · subst hr
    have hknown : ∀ name ∈ Spawn.knownTargets corpus, '\n' ∉ name :=
      List.forall_mem_cons.2 ⟨by decide, hnames⟩
    have hsame : Spawn.knownTargets corpus.crlf = Spawn.knownTargets corpus :=
      congrArg (List.cons Spawn.generalPurpose) corpus.agentNames_crlf
    simp only [violations, hsame]
    rw [Spawn.unresolved_crlf hknown, Spawn.unresolved, List.forall₂_map_left_iff,
      List.forall₂_map_right_iff, List.forall₂_same]
    intro s hs
    have htarget := ((Spawn.scanned_scan d.raw).written_start (List.mem_filter.1 hs).1).1
    exact Verdict.recast_complaint htarget.2 _ _ _
  · rw [violations_crlf hr h hfields, List.forall₂_same]
    exact fun v _ => .of_rule_ne hr

theorem forall₂_recast_flatMap (r : Rule) {documents : List Document}
    (hraw : ∀ d ∈ documents, '\r' ∉ d.raw) (hnames : ∀ name ∈ corpus.agentNames, '\n' ∉ name)
    (hfields : ∀ field ∈ settings.requiredFields, '\r' ∉ field ∧ '\n' ∉ field) :
    List.Forall₂ Verdict.Recast (documents.flatMap (r.verdictsOn corpus settings))
      ((documents.map Document.crlf).flatMap (r.verdictsOn corpus.crlf settings)) := by
  induction documents with
  | nil => exact .nil
  | cons d documents ih =>
    obtain ⟨hd, hrest⟩ := List.forall_mem_cons.1 hraw
    rw [List.map_cons, List.flatMap_cons, List.flatMap_cons]
    exact List.rel_append (forall₂_recast_verdictsOn r hd hnames hfields) (ih hrest)

/-- The pinned routes are compared with the same texts as before. -/
theorem recasts_pinnedRoutes (hraw : ∀ d ∈ corpus.documents, '\r' ∉ d.raw)
    (hroutes : ∀ route ∈ settings.pinnedRoutes, '\r' ∉ route.agent ∧ '\n' ∉ route.agent) :
    Verdict.Recasts (pinnedRoutes.evaluate corpus settings)
      (pinnedRoutes.evaluate corpus.crlf settings) := by
  have hsame : pinnedRoutes.evaluate corpus.crlf settings =
      pinnedRoutes.evaluate corpus settings :=
    PinnedRoute.verdicts_crlf hraw hroutes
  rw [hsame]
  cases heval : pinnedRoutes.evaluate corpus settings with
  | error failure => exact .error failure
  | ok verdicts =>
    refine .ok (List.forall₂_same.2 fun v hv => .of_rule_ne ?_)
    rw [PinnedRoute.rule_of_mem_verdicts heval v hv]
    decide

/-- **Line endings do not matter.** When every document of a corpus without carriage returns gets
one in front of each line feed, the agents keep their classes, and every rule fails to be evaluated
as before or gives the same verdicts one by one. Only a target over several lines is quoted in its
changed form. -/
theorem evaluate_crlf (root : Text) (agents workflows commands : List Document) (capability : Text)
    (settings : RuleSettings)
    (hraw : ∀ d ∈ agents ++ (workflows ++ commands), '\r' ∉ d.raw)
    (hnames : ∀ d ∈ agents, '\n' ∉ d.name)
    (hfields : ∀ field ∈ settings.requiredFields, '\r' ∉ field ∧ '\n' ∉ field)
    (hroutes : ∀ route ∈ settings.pinnedRoutes, '\r' ∉ route.agent ∧ '\n' ∉ route.agent) :
    let corpus := Corpus.ofDocuments root agents workflows commands capability
    let changed := Corpus.ofDocuments root (agents.map Document.crlf)
      (workflows.map Document.crlf) (commands.map Document.crlf) capability
    changed.agents.map Agent.kind = corpus.agents.map Agent.kind ∧
      ∀ r : Rule, Verdict.Recasts (r.evaluate corpus settings) (r.evaluate changed settings) := by
  intro corpus changed
  have hchanged : changed = corpus.crlf :=
    Corpus.ofDocuments_crlf (fun d hd => hraw d (List.mem_append_left _ hd)) _ _ _ _
  have hdocuments : ∀ d ∈ corpus.documents, '\r' ∉ d.raw := by
    rw [Corpus.documents_ofDocuments]
    exact hraw
  have hagents : ∀ name ∈ corpus.agentNames, '\n' ∉ name := by
    intro name hname
    obtain ⟨a, ha, rfl⟩ := List.mem_map.1 hname
    obtain ⟨d, hd, rfl⟩ := List.mem_map.1 ha
    exact hnames d hd
  rw [hchanged]
  refine ⟨corpus.map_kind_crlf, fun r => ?_⟩
  by_cases hr : r = .pinnedRoutes
  · subst hr
    exact recasts_pinnedRoutes hdocuments hroutes
  · rw [evaluate_eq corpus settings hr, evaluate_eq corpus.crlf settings hr, Scope.documents_crlf]
    exact .ok (forall₂_recast_flatMap r
      (fun d hd => hdocuments d ((Scope.documents_sublist corpus r.scope).subset hd)) hagents
      hfields)

/-- A workflow spawns an unknown agent whose name is broken by a line feed. In the changed corpus
the failure quotes the name with the carriage return; it is about the same line. -/
theorem evaluate_crlf_brokenTarget :
    let agents : List Document := [⟨.agent, "gsd-a".toList, [],
      "---\nname: gsd-a\ntools: Write\n---\n~~~\ncat << EOF > f\n~~~\n".toList⟩]
    let workflows : List Document := [⟨.workflow, "flow".toList, [],
      "first line\nsubagent_type=\"gsd\n-a\"\n".toList⟩]
    let corpus := Corpus.ofDocuments [] agents workflows [] "Write".toList
    let changed := Corpus.ofDocuments [] (agents.map Document.crlf) (workflows.map Document.crlf)
      [] "Write".toList
    (∀ d ∈ agents ++ (workflows ++ []), '\r' ∉ d.raw) ∧ (∀ d ∈ agents, '\n' ∉ d.name) ∧
      (∀ field ∈ ({} : RuleSettings).requiredFields, '\r' ∉ field ∧ '\n' ∉ field) ∧
      (∀ route ∈ ({} : RuleSettings).pinnedRoutes, '\r' ∉ route.agent ∧ '\n' ∉ route.agent) ∧
      changed.agents.map Agent.kind = corpus.agents.map Agent.kind ∧
      Verdict.Recasts (spawnTargets.evaluate corpus {}) (spawnTargets.evaluate changed {}) ∧
      spawnTargets.evaluate changed {} = .ok [⟨.spawnTargets, .fail, "workflow:flow".toList, some 2,
        "unknown agent type \"gsd\r\n-a\": subagent_type=\"gsd".toList⟩] := by
  intro agents workflows corpus changed
  have hraw : ∀ d ∈ agents ++ (workflows ++ []), '\r' ∉ d.raw := by decide +kernel
  have hnames : ∀ d ∈ agents, '\n' ∉ d.name := by decide +kernel
  have hfields : ∀ field ∈ ({} : RuleSettings).requiredFields, '\r' ∉ field ∧ '\n' ∉ field := by
    decide +kernel
  have hroutes : ∀ route ∈ ({} : RuleSettings).pinnedRoutes,
      '\r' ∉ route.agent ∧ '\n' ∉ route.agent := by
    decide +kernel
  obtain ⟨hkind, hrules⟩ :=
    evaluate_crlf [] agents workflows [] "Write".toList {} hraw hnames hfields hroutes
  refine ⟨hraw, hnames, hfields, hroutes, hkind, hrules .spawnTargets, congrArg Except.ok ?_⟩
  decide +kernel

end Rule

end CorpusLint
