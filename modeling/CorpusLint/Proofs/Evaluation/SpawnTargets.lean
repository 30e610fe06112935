import CorpusLint.Proofs.Evaluation.Groups
import CorpusLint.Proofs.Spawn.Scan

/-!
# Which documents pass the rule on spawn targets

The rule looks at the spawns that the scan finds, and a scan skips a spawn whose beginning it takes
for the end of another target. Such a target ends with the words that begin a spawn, so that it is
unknown as soon as no agent is called like that. Main statement: a document passes exactly when
every spawn written in it, wherever it begins, has a known target (`evaluate_spawnTargets`).
-/

namespace CorpusLint

namespace Spawn

theorem unresolved_eq_nil_iff {known : List Text} {d : Document} :
    unresolved known d = [] ↔ ∀ s ∈ scan d.raw, s.target ∈ known := by
  simp [unresolved, List.filter_eq_nil_iff]

/-- Where all spawns found have a known target and no known target ends like the beginning of a
spawn, all spawns written have a known target. -/
theorem mem_known_of_written {known : List Text} {t target : Text}
    (hknown : ∀ name ∈ known, ¬ label <:+ name) (hfound : ∀ s ∈ scan t, s.target ∈ known)
    (htarget : IsTarget target) (hpart : written target <:+: t) : target ∈ known := by
  obtain ⟨s, hs, rfl | hlabel⟩ := found_or_swallowed htarget hpart
  · exact hfound s hs
  · exact absurd hlabel (hknown s.target (hfound s hs))

theorem unresolved_eq_nil_iff_written {known : List Text} {d : Document}
    (hknown : ∀ name ∈ known, ¬ label <:+ name) :
    unresolved known d = [] ↔
      ∀ target, IsTarget target → written target <:+: d.raw → target ∈ known := by
  rw [unresolved_eq_nil_iff]
  constructor
  · intro hfound target htarget hpart
    exact mem_known_of_written hknown hfound htarget hpart
  · intro hwritten s hs
    have htarget := ((scanned_scan d.raw).written_start hs).1
    exact hwritten s.target htarget (written_infix_of_mem_scan hs)

end Spawn

namespace Rule

/-- **The rule on spawn targets has no blind spot.** In a corpus without an agent whose name ends
with the words that begin a spawn, a workflow or a command passes exactly when every spawn written
in it, at any place and inside another one too, names an agent of the corpus or the general one. -/
theorem evaluate_spawnTargets {corpus : Corpus} (settings : RuleSettings)
    (hnames : ∀ name ∈ corpus.agentNames, ¬ Spawn.label <:+ name) :
    spawnTargets.evaluate corpus settings =
        .ok ((corpus.workflows ++ corpus.commands).flatMap
          (spawnTargets.verdictsOn corpus settings)) ∧
      ∀ d ∈ corpus.workflows ++ corpus.commands,
        spawnTargets.verdictsOn corpus settings d =
            [⟨.spawnTargets, .pass, d.id, none, spawnTargets.praise⟩] ↔
          ∀ target, target ≠ [] → '\"' ∉ target → Spawn.written target <:+: d.raw →
            target ∈ corpus.agentNames ∨ target = Spawn.generalPurpose := by
  refine ⟨evaluate_eq corpus settings (by decide), fun d _ => ?_⟩
  have hknown : ∀ name ∈ Spawn.knownTargets corpus, ¬ Spawn.label <:+ name :=
    List.forall_mem_cons.2 ⟨by decide, hnames⟩
  rw [verdictsOn, Verdict.group_eq_pass_iff]
  change Spawn.unresolved (Spawn.knownTargets corpus) d = [] ↔ _
  rw [Spawn.unresolved_eq_nil_iff_written hknown]
  constructor
  · intro h target hne hq hpart
    rcases List.mem_cons.1 (h target ⟨hne, hq⟩ hpart) with hgeneral | hagent
    · exact .inr hgeneral
    · exact .inl hagent
  · intro h target htarget hpart
    rcases h target htarget.1 htarget.2 hpart with hagent | hgeneral
    · exact List.mem_cons_of_mem _ hagent
    · exact List.mem_cons.2 (.inl hgeneral)

/-- The quote of the first spawn is missing, so that the scan takes the second one's beginning for
the end of its target. The document fails, although the only target that is written out properly
names an agent. -/
theorem evaluate_spawnTargets_swallowed :
    let corpus := Corpus.ofDocuments [] [⟨.agent, "gsd-a".toList, [], []⟩]
      [⟨.workflow, "flow".toList, [],
        "subagent_type=\"gsd-b subagent_type=\"gsd-a\"".toList⟩] [] "Write".toList
    (∀ name ∈ corpus.agentNames, ¬ Spawn.label <:+ name) ∧
      ∀ d ∈ corpus.workflows ++ corpus.commands, spawnTargets.verdictsOn corpus {} d ≠
        [⟨.spawnTargets, .pass, d.id, none, spawnTargets.praise⟩] := by
  intro corpus
  have hnames : ∀ name ∈ corpus.agentNames, ¬ Spawn.label <:+ name := by decide
  refine ⟨hnames, fun d hd hpass => ?_⟩
  have hknown := ((evaluate_spawnTargets {} hnames).2 d hd).1 hpass
  obtain rfl : d = ⟨.workflow, "flow".toList, [],
      "subagent_type=\"gsd-b subagent_type=\"gsd-a\"".toList⟩ := by
    simpa [corpus, Corpus.ofDocuments] using hd
  have hwritten := hknown "gsd-b subagent_type=".toList (by decide) (by decide)
    ⟨[], "gsd-a\"".toList, by decide⟩
  revert hwritten
  decide

end Rule

end CorpusLint
