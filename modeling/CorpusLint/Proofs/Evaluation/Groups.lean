import CorpusLint.Evaluation
import CorpusLint.Inventory
import CorpusLint.Proofs.Check.Route

/-!
# Verdicts come in groups

Every rule but the one on pinned routes goes through the documents of its scope in the order of the
corpus and gives each of them one group of verdicts: a single pass, or failures only
(`IsGroup`). The rules that ask one thing of a document give it one verdict (`AsksOnce`), so that
their verdicts list the documents of the scope.

Main statement: `evaluate_groups`. Its second half reads the two classes of agents off the verdicts
of two rules, and compares them with the inventory.
-/

namespace CorpusLint

/-! ## The verdicts on one document -/

namespace Verdict

/-- The verdicts that a rule gives one document when it looks at the document alone: one pass
without a line, or one failure or more. -/
structure IsGroup (rule : Rule) (d : Document) (verdicts : List Verdict) : Prop where
  rule_eq : ∀ v ∈ verdicts, v.rule = rule
  document_eq : ∀ v ∈ verdicts, v.document = d.id
  unmixed : (∃ v, verdicts = [v] ∧ v.status = .pass ∧ v.line = none) ∨
    (verdicts ≠ [] ∧ ∀ v ∈ verdicts, v.status = .fail)

theorem mem_group_iff {rule : Rule} {d : Document} {praise : Text} {violations : List Violation}
    {v : Verdict} : v ∈ group rule d praise violations ↔
      (violations = [] ∧ v = ⟨rule, .pass, d.id, none, praise⟩) ∨
        ∃ w ∈ violations, v = ⟨rule, .fail, d.id, w.line, w.message⟩ := by
  cases violations with
  | nil => simp [group]
  | cons w violations => simp [group, eq_comm]

theorem isGroup_group (rule : Rule) (d : Document) (praise : Text) (violations : List Violation) :
    IsGroup rule d (group rule d praise violations) := by
  refine ⟨fun v hv => ?_, fun v hv => ?_, ?_⟩
  · rcases mem_group_iff.1 hv with ⟨-, rfl⟩ | ⟨w, -, rfl⟩ <;> rfl
  · rcases mem_group_iff.1 hv with ⟨-, rfl⟩ | ⟨w, -, rfl⟩ <;> rfl
  · cases violations with
    | nil => exact .inl ⟨_, rfl, rfl, rfl⟩
    | cons w violations =>
      refine .inr ⟨by simp [group], fun v hv => ?_⟩
      rcases mem_group_iff.1 hv with ⟨h, -⟩ | ⟨w, -, rfl⟩
      · cases h
      · rfl

/-- A document passes when nothing is wrong with it. -/
theorem group_eq_pass_iff {rule : Rule} {d : Document} {praise : Text}
    {violations : List Violation} :
    group rule d praise violations = [⟨rule, .pass, d.id, none, praise⟩] ↔ violations = [] := by
  constructor
  · intro h
    cases violations with
    | nil => rfl
    | cons w violations => simp [group] at h
  · rintro rfl
    rfl

theorem violations_eq_nil_of_group {rule : Rule} {d : Document} {praise : Text}
    {violations : List Violation}
    (h : ∀ v ∈ group rule d praise violations, v.isFailure = false) : violations = [] := by
  cases violations with
  | nil => rfl
  | cons w violations =>
    have hfail := h _ (mem_group_iff.2 (.inr ⟨w, List.mem_cons_self, rfl⟩))
    cases hfail

/-- The failures of a group are the violations. -/
theorem filter_isFailure_group (rule : Rule) (d : Document) (praise : Text)
    (violations : List Violation) :
    (group rule d praise violations).filter isFailure =
      violations.map fun w => ⟨rule, .fail, d.id, w.line, w.message⟩ := by
  cases violations with
  | nil => rfl
  | cons w violations =>
    apply List.filter_eq_self.2
    intro v hv
    obtain ⟨w, -, rfl⟩ := List.mem_map.1 hv
    rfl

/-- A group has a pass where there are no violations, and then it has nothing else. -/
theorem filter_not_isFailure_group (rule : Rule) (d : Document) (praise : Text)
    (violations : List Violation) :
    (group rule d praise violations).filter (!·.isFailure) =
      if violations = [] then [⟨rule, .pass, d.id, none, praise⟩] else [] := by
  cases violations with
  | nil => rfl
  | cons w violations =>
    rw [if_neg (List.cons_ne_nil w violations), List.filter_eq_nil_iff]
    intro v hv
    obtain ⟨w, -, rfl⟩ := List.mem_map.1 hv
    exact Bool.false_ne_true

/-- Where at most one thing can be wrong, there is one verdict. -/
theorem map_document_group (rule : Rule) (d : Document) (praise : Text)
    {violations : List Violation} (h : violations.length ≤ 1) :
    (group rule d praise violations).map document = [d.id] := by
  match violations, h with
  | [], _ => rfl
  | [_], _ => rfl

end Verdict

/-! ## The loops -/

namespace Rule

theorem askEach_eq (r : Rule) {wrong : Document → List Violation}
    (h : ∀ d, (wrong d).length ≤ 1) (documents : List Document) :
    r.askEach wrong documents =
      documents.flatMap fun d => Verdict.group r d r.praise (wrong d) := by
  induction documents with
  | nil => rfl
  | cons d documents ih =>
    have hd : r.askEach wrong [d] = Verdict.group r d r.praise (wrong d) := by
      rw [askEach, List.map_singleton]
      match wrong d, h d with
      | [], _ => rfl
      | [_], _ => rfl
    rw [List.flatMap_cons, ← ih, ← hd]
    rfl

section

variable {α : Type} (r : Rule) (items : Document → List α) (objects : α → Bool)
  (violation : α → Violation)

/-- The items that a rule objects to are pushed behind the verdicts on the documents before. -/
theorem toList_foldl_pushItem (d : Document) (verdicts : Array Verdict) (found : List α) :
    (found.foldl (pushItem r objects violation d) verdicts).toList =
      verdicts.toList ++ ((found.filter objects).map violation).map fun w =>
        ⟨r, .fail, d.id, w.line, w.message⟩ := by
  induction found generalizing verdicts with
  | nil => simp
  | cons item found ih =>
    rw [List.foldl_cons, ih, pushItem]
    by_cases hitem : objects item = true
    · rw [if_pos hitem, List.filter_cons_of_pos hitem, Array.toList_push, List.append_assoc]
      rfl
    · rw [if_neg hitem, List.filter_cons_of_neg hitem]

/-- One document adds its own group, whatever is on the list: the list has grown exactly if there is
something wrong with the document. -/
theorem toList_pushDocument (verdicts : Array Verdict) (d : Document) :
    (pushDocument r items objects violation verdicts d).toList =
      verdicts.toList ++
        Verdict.group r d r.praise (((items d).filter objects).map violation) := by
  have hpushed := toList_foldl_pushItem r objects violation d verdicts (items d)
  simp only [pushDocument]
  generalize (items d).foldl (pushItem r objects violation d) verdicts = visited at hpushed ⊢
  have hsize := congrArg List.length hpushed
  rw [List.length_append, List.length_map, Array.length_toList, Array.length_toList] at hsize
  cases hfound : ((items d).filter objects).map violation with
  | nil =>
    rw [hfound] at hpushed
    rw [hfound, List.length_nil, Nat.add_zero] at hsize
    rw [if_pos hsize, Array.toList_push, hpushed, List.map_nil, List.append_nil]
    rfl
  | cons w rest =>
    rw [hfound, List.length_cons] at hsize
    rw [if_neg (by omega), hpushed, hfound]
    rfl

theorem pushEach_eq (documents : List Document) :
    pushEach r items objects violation documents =
      documents.flatMap fun d =>
        Verdict.group r d r.praise (((items d).filter objects).map violation) := by
  -- the induction is on the documents still to come, behind any verdicts
  have hrun : ∀ verdicts : Array Verdict,
      (documents.foldl (pushDocument r items objects violation) verdicts).toList =
        verdicts.toList ++ documents.flatMap fun d =>
          Verdict.group r d r.praise (((items d).filter objects).map violation) := by
    induction documents with
    | nil => simp
    | cons d documents ih =>
      intro verdicts
      rw [List.foldl_cons, ih, toList_pushDocument, List.flatMap_cons, List.append_assoc]
  exact hrun #[]

end

end Rule

/-! ## The verdicts of a rule -/

namespace Rule

variable (corpus : Corpus) (settings : RuleSettings)

/-- The rules that ask one thing of a document. -/
def AsksOnce : Rule → Prop
  | antiHeredocInstruction | skillsField | hooksCommented | readOnlyParses | requiredFields => True
  | noActiveHeredoc | skillNaming | noLegacySpawn | spawnTargets | pinnedRoutes => False

theorem AsksOnce.violations_eq {r : Rule} (h : r.AsksOnce) (d : Document) :
    r.violations corpus settings d = [] ∨
      ∃ message, r.violations corpus settings d = [⟨none, message⟩] := by
  cases r with
  | antiHeredocInstruction => simp only [violations, Heredoc.missingWarning]; split <;> simp
  | skillsField => simp only [violations, Header.missingSkills]; split <;> simp
  | hooksCommented => simp only [violations, Header.missingHooks]; split <;> simp
  | readOnlyParses => simp only [violations, Header.missingName]; split <;> simp
  | requiredFields => simp only [violations, Header.missingFields]; split <;> simp
  | noActiveHeredoc | skillNaming | noLegacySpawn | spawnTargets | pinnedRoutes => exact h.elim

theorem AsksOnce.length_violations_le {r : Rule} (h : r.AsksOnce) (d : Document) :
    (r.violations corpus settings d).length ≤ 1 := by
  rcases h.violations_eq corpus settings d with hnone | ⟨message, hone⟩
  · rw [hnone]
    exact Nat.zero_le 1
  · rw [hone]
    exact Nat.le_refl 1

theorem AsksOnce.ne_pinnedRoutes {r : Rule} (h : r.AsksOnce) : r ≠ .pinnedRoutes := by
  rintro rfl
  exact h

/-- What the loop of a rule gives: the verdicts on the documents of its scope, one after another. -/
theorem evaluate_eq {r : Rule} (h : r ≠ .pinnedRoutes) :
    r.evaluate corpus settings =
      .ok ((r.scope.documents corpus).flatMap (r.verdictsOn corpus settings)) := by
  have hasks : ∀ r : Rule, r.AsksOnce → ∀ documents,
      r.askEach (r.violations corpus settings) documents =
        documents.flatMap (r.verdictsOn corpus settings) :=
    fun r hr => askEach_eq r (hr.length_violations_le corpus settings)
  cases r with
  | antiHeredocInstruction | skillsField | hooksCommented | readOnlyParses | requiredFields =>
    exact congrArg Except.ok (hasks _ (by exact trivial) _)
  | noActiveHeredoc | skillNaming | noLegacySpawn | spawnTargets =>
    exact congrArg Except.ok (pushEach_eq _ _ _ _ _)
  | pinnedRoutes => exact absurd rfl h

/-- A rule that goes through agents gives each agent's document its verdicts. -/
theorem evaluate_agents {corpus : Corpus} (settings : RuleSettings) {r : Rule}
    (h : r ≠ .pinnedRoutes) {agents : List Agent}
    (hscope : r.scope.documents corpus = agents.map Agent.document) :
    r.evaluate corpus settings =
      .ok (agents.flatMap fun a => r.verdictsOn corpus settings a.document) := by
  rw [evaluate_eq corpus settings h, hscope, List.flatMap_map]

theorem eq_pinnedRoutes_of_error {corpus : Corpus} {settings : RuleSettings} {r : Rule}
    {failure : Failure} (h : r.evaluate corpus settings = .error failure) : r = .pinnedRoutes := by
  by_contra hr
  rw [evaluate_eq corpus settings hr] at h
  cases h

/-- Where a verdict comes from: it lets a document of the scope pass, it is something wrong with
one, or it is the verdict on a route. -/
theorem exists_of_mem_evaluate {corpus : Corpus} {settings : RuleSettings} {r : Rule}
    {verdicts : List Verdict} (h : r.evaluate corpus settings = .ok verdicts) {v : Verdict}
    (hv : v ∈ verdicts) :
    (∃ d ∈ r.scope.documents corpus, v = ⟨r, .pass, d.id, none, r.praise⟩) ∨
      (∃ d ∈ r.scope.documents corpus, ∃ w ∈ r.violations corpus settings d,
        v = ⟨r, .fail, d.id, w.line, w.message⟩) ∨
      (r = .pinnedRoutes ∧ ∃ route ∈ settings.pinnedRoutes, ∃ d ∈ corpus.workflows,
        v = route.verdict d) := by
  by_cases hr : r = .pinnedRoutes
  · subst hr
    exact .inr (.inr ⟨rfl, PinnedRoute.exists_of_mem_verdicts h hv⟩)
  · rw [evaluate_eq corpus settings hr] at h
    obtain rfl := Except.ok.inj h
    obtain ⟨d, hd, hv⟩ := List.mem_flatMap.1 hv
    rcases Verdict.mem_group_iff.1 hv with ⟨-, rfl⟩ | ⟨w, hw, rfl⟩
    · exact .inl ⟨d, hd, rfl⟩
    · exact .inr (.inl ⟨d, hd, w, hw, rfl⟩)

theorem isGroup_verdictsOn (r : Rule) (d : Document) :
    Verdict.IsGroup r d (r.verdictsOn corpus settings d) :=
  Verdict.isGroup_group r d r.praise (r.violations corpus settings d)

theorem AsksOnce.exists_verdictsOn {r : Rule} (h : r.AsksOnce) (d : Document) :
    ∃ verdict, r.verdictsOn corpus settings d = [verdict] := by
  have hlength := h.length_violations_le corpus settings d
  have hdocument := Verdict.map_document_group r d r.praise hlength
  obtain ⟨verdict, hverdict, -⟩ := List.map_eq_singleton_iff.1 hdocument
  exact ⟨verdict, hverdict⟩

/-- A rule that asks one thing lists the documents of its scope. -/
theorem AsksOnce.evaluate {r : Rule} (h : r.AsksOnce) :
    ∃ verdicts, r.evaluate corpus settings = .ok verdicts ∧
      verdicts.map Verdict.document = (r.scope.documents corpus).map Document.id := by
  refine ⟨_, evaluate_eq corpus settings h.ne_pinnedRoutes, ?_⟩
  induction r.scope.documents corpus with
  | nil => rfl
  | cons d rest ih =>
    have hd := Verdict.map_document_group r d r.praise (h.length_violations_le corpus settings d)
    rw [List.flatMap_cons, List.map_append, ih, verdictsOn, hd]
    rfl

/-! ## The groups of a rule -/

theorem forall₂_isGroup (r : Rule) (documents : List Document) :
    List.Forall₂ (Verdict.IsGroup r) documents (documents.map (r.verdictsOn corpus settings)) := by
  rw [List.forall₂_map_right_iff, List.forall₂_same]
  exact fun d _ => isGroup_verdictsOn corpus settings r d

/-- The verdicts of a rule are groups, one for each of these documents and in their order. -/
def GivesGroups (r : Rule) (documents : List Document) : Prop :=
  ∃ groups, List.Forall₂ (Verdict.IsGroup r) documents groups ∧
    r.evaluate corpus settings = .ok groups.flatten

theorem givesGroups_of_scope {r : Rule} {s : Scope} (h : r ≠ .pinnedRoutes) (hscope : r.scope = s) :
    r.GivesGroups corpus settings (s.documents corpus) := by
  refine ⟨_, forall₂_isGroup corpus settings r _, ?_⟩
  rw [evaluate_eq corpus settings h, hscope, List.flatMap_def]

end Rule

/-! ## The two classes of agents -/

namespace Corpus

variable (corpus : Corpus)

/-- The classes split the agents: none is lost and none stands in both. -/
theorem agentsOf_append_perm :
    (corpus.agentsOf .fileWriting ++ corpus.agentsOf .readOnly).Perm corpus.agents := by
  have hne : ∀ a : Agent, (a.kind == .readOnly) = !(a.kind == .fileWriting) := by
    intro a
    cases a.kind <;> rfl
  simp only [agentsOf, hne]
  exact List.filter_append_perm _ _

/-- The inventory lists the agents of a class in their order. -/
theorem filter_inventory (kind : AgentClass) :
    corpus.inventory.filter (·.kind == kind) =
      (corpus.agentsOf kind).map InventoryEntry.ofAgent := by
  rw [inventory, agentsOf, List.filter_map]
  rfl

end Corpus

namespace Rule

/-- **No document is skipped and no verdict is mixed.** Every rule but the one on pinned routes
gives one group of verdicts to each document that it is about, in the order of the corpus: to the
file-writing agents, the read-only ones, all agents, or the workflows and then the commands. So the
rule on warnings and the rule on readable headers split the agents between them, as the inventory
does, and the rules on skills and on required fields speak once of each agent. -/
theorem evaluate_groups (corpus : Corpus) (settings : RuleSettings) :
    let writers := corpus.agents.filter (·.kind == .fileWriting)
    let readers := corpus.agents.filter (·.kind == .readOnly)
    (∀ r ∈ [antiHeredocInstruction, hooksCommented],
      r.GivesGroups corpus settings (writers.map Agent.document)) ∧
    readOnlyParses.GivesGroups corpus settings (readers.map Agent.document) ∧
    (∀ r ∈ [noActiveHeredoc, skillsField, skillNaming, requiredFields],
      r.GivesGroups corpus settings (corpus.agents.map Agent.document)) ∧
    (∀ r ∈ [noLegacySpawn, spawnTargets],
      r.GivesGroups corpus settings (corpus.workflows ++ corpus.commands)) ∧
    (∃ warned parsed,
      antiHeredocInstruction.evaluate corpus settings = .ok warned ∧
      readOnlyParses.evaluate corpus settings = .ok parsed ∧
      warned.map Verdict.document = writers.map (·.document.id) ∧
      parsed.map Verdict.document = readers.map (·.document.id) ∧
      (writers ++ readers).Perm corpus.agents ∧
      ((warned ++ parsed).map Verdict.document).Perm (corpus.agents.map (·.document.id)) ∧
      corpus.inventory.filter (·.kind == .fileWriting) = writers.map InventoryEntry.ofAgent ∧
      corpus.inventory.filter (·.kind == .readOnly) = readers.map InventoryEntry.ofAgent) ∧
    ∀ r ∈ [skillsField, requiredFields],
      ∃ verdicts, r.evaluate corpus settings = .ok verdicts ∧
        verdicts.map Verdict.document = corpus.agents.map (·.document.id) := by
  intro writers readers
  have hwriting : ∀ r ∈ [antiHeredocInstruction, hooksCommented],
      r ≠ .pinnedRoutes ∧ r.scope = .fileWritingAgents := by decide
  have hagents : ∀ r ∈ [noActiveHeredoc, skillsField, skillNaming, requiredFields],
      r ≠ .pinnedRoutes ∧ r.scope = .allAgents := by decide
  have hspawning : ∀ r ∈ [noLegacySpawn, spawnTargets],
      r ≠ .pinnedRoutes ∧ r.scope = .orchestration := by decide
  refine ⟨fun r hr => ?_, ?_, fun r hr => ?_, fun r hr => ?_, ?_, fun r hr => ?_⟩
  · exact givesGroups_of_scope corpus settings (hwriting r hr).1 (hwriting r hr).2
  · exact givesGroups_of_scope corpus settings (r := .readOnlyParses) (by decide) rfl
  · exact givesGroups_of_scope corpus settings (hagents r hr).1 (hagents r hr).2
  · exact givesGroups_of_scope corpus settings (hspawning r hr).1 (hspawning r hr).2
  · obtain ⟨warned, hwarned, hwriters⟩ :=
      AsksOnce.evaluate corpus settings (r := .antiHeredocInstruction) trivial
    obtain ⟨parsed, hparsed, hreaders⟩ :=
      AsksOnce.evaluate corpus settings (r := .readOnlyParses) trivial
    have hperm := corpus.agentsOf_append_perm
    simp only [scope, Scope.documents, List.map_map] at hwriters hreaders
    refine ⟨warned, parsed, hwarned, hparsed, hwriters, hreaders, hperm, ?_,
      corpus.filter_inventory _, corpus.filter_inventory _⟩
    rw [List.map_append, hwriters, hreaders, ← List.map_append]
    exact hperm.map _
  · have honce : r.AsksOnce ∧ r.scope = .allAgents := by
      rcases List.mem_pair.1 hr with rfl | rfl <;> exact ⟨trivial, rfl⟩
    obtain ⟨verdicts, heval, hdocuments⟩ := honce.1.evaluate corpus settings
    rw [honce.2] at hdocuments
    exact ⟨verdicts, heval, hdocuments.trans List.map_map⟩

/-- The rule on skill names, on an agent with two bad names and one without a header: a group of two
failures and a pass. -/
theorem evaluate_groups_skillNaming :
    let corpus := Corpus.ofDocuments [] [
      ⟨.agent, "gsd-a".toList, [], "---\n- gsd-x\n- gsd-y\n---\n".toList⟩,
      ⟨.agent, "gsd-b".toList, [], "text".toList⟩] [] [] "Write".toList
    skillNaming ∈ [noActiveHeredoc, skillsField, skillNaming, requiredFields] ∧
      ∃ groups, List.Forall₂ (Verdict.IsGroup .skillNaming) (corpus.agents.map Agent.document)
          groups ∧ skillNaming.evaluate corpus {} = .ok groups.flatten ∧
        groups.flatten.map Verdict.status = [.fail, .fail, .pass] := by
  intro corpus
  have hmem : skillNaming ∈ [noActiveHeredoc, skillsField, skillNaming, requiredFields] := by
    decide
  obtain ⟨groups, hgroups, heval⟩ := (evaluate_groups corpus {}).2.2.1 .skillNaming hmem
  refine ⟨hmem, groups, hgroups, heval, ?_⟩
  have hrun : skillNaming.evaluate corpus {} = .ok _ := rfl
  rw [hrun] at heval
  rw [← Except.ok.inj heval]
  decide +kernel

end Rule

end CorpusLint
