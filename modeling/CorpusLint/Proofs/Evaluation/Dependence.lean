import CorpusLint.Inventory
import CorpusLint.Proofs.Evaluation.Groups

/-!
# What an evaluation depends on

Of the other documents of a corpus, a rule that looks at one document knows the names of the agents
only (`violations_congr`), and five rules know no more of the document than its header
(`ReadsHeader.violations_eq`). The rule on pinned routes knows the workflows and not the agents. So
an agent may be replaced by one of the same name and class without any effect on a rule that gives
both the same verdicts (`evaluate_replace`).
-/

namespace CorpusLint

/-! ## The agents in the scope of a rule -/

/-- Whether agents of this class are in the scope. -/
def Scope.covers : Scope → AgentClass → Bool
  | .fileWritingAgents, kind => kind == .fileWriting
  | .readOnlyAgents, kind => kind == .readOnly
  | .allAgents, _ => true
  | .orchestration, _ | .pinnedWorkflows, _ => false

/-- The documents of a scope that are no agents. -/
def Scope.spawning (corpus : Corpus) : Scope → List Document
  | .orchestration => corpus.orchestration
  | _ => []

theorem Scope.documents_eq (corpus : Corpus) (s : Scope) :
    s.documents corpus =
      (corpus.agents.filter (s.covers ·.kind)).map Agent.document ++ s.spawning corpus := by
  cases s <;> simp [documents, covers, spawning, Corpus.agentsOf]

theorem Document.skills_of_header_eq {d e : Document} (h : d.header = e.header) :
    d.skills = e.skills := by
  rw [skills, skills, h]

/-! ## Pinned routes -/

theorem PinnedRoute.verdicts_congr {corpus changed : Corpus} (hroot : changed.root = corpus.root)
    (hlookup : ∀ name, changed.workflow? name = corpus.workflow? name)
    (routes : List PinnedRoute) : verdicts changed routes = verdicts corpus routes := by
  induction routes with
  | nil => rfl
  | cons route routes ih => rw [verdicts, verdicts, hroot, hlookup, ih]

namespace Rule

variable {corpus changed : Corpus} {settings : RuleSettings}

/-! ## What is wrong with one document -/

theorem violations_congr (hnames : ∀ name, name ∈ changed.agentNames ↔ name ∈ corpus.agentNames)
    (r : Rule) (d : Document) :
    r.violations changed settings d = r.violations corpus settings d := by
  cases r with
  | spawnTargets =>
    have hknown : ∀ target, (Spawn.knownTargets changed).contains target =
        (Spawn.knownTargets corpus).contains target := by
      intro target
      rw [Bool.eq_iff_iff, List.contains_iff_mem, List.contains_iff_mem, Spawn.knownTargets,
        Spawn.knownTargets, List.mem_cons, List.mem_cons, hnames]
    simp only [violations, Spawn.unresolved, hknown]
  | _ => rfl

theorem verdictsOn_congr (hnames : ∀ name, name ∈ changed.agentNames ↔ name ∈ corpus.agentNames)
    (r : Rule) : r.verdictsOn changed settings = r.verdictsOn corpus settings := by
  funext d
  rw [verdictsOn, verdictsOn, violations_congr hnames]

/-- The rules that read nothing of an agent but its header. -/
def ReadsHeader : Rule → Prop
  | skillsField | skillNaming | hooksCommented | readOnlyParses | requiredFields => True
  | antiHeredocInstruction | noActiveHeredoc | noLegacySpawn | spawnTargets | pinnedRoutes => False

theorem ReadsHeader.violations_eq {r : Rule} (h : r.ReadsHeader) {d e : Document}
    (hheader : d.header = e.header) :
    r.violations corpus settings d = r.violations corpus settings e := by
  cases r with
  | skillsField => simp only [violations, Header.missingSkills, hheader]
  | skillNaming =>
    simp only [violations, Header.misnamedSkills, Document.skills_of_header_eq hheader]
  | hooksCommented => simp only [violations, Header.missingHooks, hheader]
  | readOnlyParses => simp only [violations, Header.missingName, hheader]
  | requiredFields => simp only [violations, Header.missingFields, hheader]
  | antiHeredocInstruction | noActiveHeredoc | noLegacySpawn | spawnTargets | pinnedRoutes =>
    exact h.elim

theorem ReadsHeader.verdictsOn_eq {r : Rule} (h : r.ReadsHeader) {d e : Document}
    (hid : d.id = e.id) (hheader : d.header = e.header) :
    r.verdictsOn corpus settings d = r.verdictsOn corpus settings e := by
  rw [verdictsOn, verdictsOn, h.violations_eq hheader]
  simp only [Verdict.group, hid]

/-! ## The verdicts on the agents -/

/-- The verdicts of a rule on those of the agents that are in its scope. -/
def agentVerdicts (corpus : Corpus) (settings : RuleSettings) (r : Rule) (agents : List Agent) :
    List Verdict :=
  ((agents.filter (r.scope.covers ·.kind)).map Agent.document).flatMap
    (r.verdictsOn corpus settings)

theorem agentVerdicts_append (r : Rule) (agents others : List Agent) :
    r.agentVerdicts corpus settings (agents ++ others) =
      r.agentVerdicts corpus settings agents ++ r.agentVerdicts corpus settings others := by
  rw [agentVerdicts, List.filter_append, List.map_append, List.flatMap_append]
  rfl

theorem agentVerdicts_cons (r : Rule) (a : Agent) (agents : List Agent) :
    r.agentVerdicts corpus settings (a :: agents) =
      (if r.scope.covers a.kind then r.verdictsOn corpus settings a.document else []) ++
        r.agentVerdicts corpus settings agents := by
  rw [agentVerdicts, List.filter_cons]
  split
  · rfl
  · rfl

theorem evaluate_eq_agentVerdicts {r : Rule} (h : r ≠ .pinnedRoutes) :
    r.evaluate corpus settings = .ok (r.agentVerdicts corpus settings corpus.agents ++
      (r.scope.spawning corpus).flatMap (r.verdictsOn corpus settings)) := by
  rw [evaluate_eq corpus settings h, Scope.documents_eq, List.flatMap_append]
  rfl

theorem agentVerdicts_congr (hnames : ∀ name, name ∈ changed.agentNames ↔ name ∈ corpus.agentNames)
    (r : Rule) (agents : List Agent) :
    r.agentVerdicts changed settings agents = r.agentVerdicts corpus settings agents := by
  rw [agentVerdicts, agentVerdicts, verdictsOn_congr hnames]

/-! ## One agent among others -/

section Replace

variable {before after : List Agent} {a b : Agent}

/-- The verdicts of a rule, around those on one agent. -/
theorem evaluate_around {r : Rule} (h : r ≠ .pinnedRoutes)
    (hagents : corpus.agents = before ++ a :: after) :
    r.evaluate corpus settings = .ok (r.agentVerdicts corpus settings before ++
      ((if r.scope.covers a.kind then r.verdictsOn corpus settings a.document else []) ++
        (r.agentVerdicts corpus settings after ++
          (r.scope.spawning corpus).flatMap (r.verdictsOn corpus settings)))) := by
  rw [evaluate_eq_agentVerdicts h, hagents, agentVerdicts_append, agentVerdicts_cons,
    List.append_assoc, List.append_assoc]

theorem agentNames_replace (hagents : corpus.agents = before ++ a :: after)
    (hname : b.name = a.name) :
    Corpus.agentNames { corpus with agents := before ++ b :: after } = corpus.agentNames := by
  simp only [Corpus.agentNames, hagents, List.map_append, List.map_cons, hname]

theorem spawning_replace (agents : List Agent) (s : Scope) :
    s.spawning { corpus with agents := agents } = s.spawning corpus := by
  cases s <;> rfl

/-- Where an agent is replaced by one of its name, the verdicts before and after its own stay. -/
theorem exists_evaluate_replace (settings : RuleSettings) {r : Rule} (h : r ≠ .pinnedRoutes)
    (hagents : corpus.agents = before ++ a :: after) (hname : b.name = a.name) :
    ∃ front back,
      r.evaluate corpus settings = .ok (front ++ ((if r.scope.covers a.kind then
        r.verdictsOn corpus settings a.document else []) ++ back)) ∧
      r.evaluate { corpus with agents := before ++ b :: after } settings =
        .ok (front ++ ((if r.scope.covers b.kind then
          r.verdictsOn corpus settings b.document else []) ++ back)) := by
  have hnames : ∀ name, name ∈ Corpus.agentNames { corpus with agents := before ++ b :: after } ↔
      name ∈ corpus.agentNames := by
    intro name
    rw [agentNames_replace hagents hname]
  refine ⟨_, _, evaluate_around h hagents, ?_⟩
  rw [evaluate_around h rfl, agentVerdicts_congr hnames, agentVerdicts_congr hnames,
    verdictsOn_congr hnames, spawning_replace]

/-- **An agent may be replaced** by one of its name and class, as far as a rule is concerned that
gives both the same verdicts. -/
theorem evaluate_replace (r : Rule) (hagents : corpus.agents = before ++ a :: after)
    (hname : b.name = a.name) (hkind : b.kind = a.kind)
    (hsame : r.scope.covers a.kind = true →
      r.verdictsOn corpus settings b.document = r.verdictsOn corpus settings a.document) :
    r.evaluate { corpus with agents := before ++ b :: after } settings =
      r.evaluate corpus settings := by
  by_cases hr : r = .pinnedRoutes
  · subst hr
    refine PinnedRoute.verdicts_congr ?_ ?_ settings.pinnedRoutes
    · rfl
    · intro name
      rfl
  · obtain ⟨front, back, hcorpus, hchanged⟩ :=
      exists_evaluate_replace settings hr hagents hname
    rw [hcorpus, hchanged, hkind]
    split
    · next hcovers => rw [hsame hcovers]
    · rfl

end Replace

end Rule

end CorpusLint
