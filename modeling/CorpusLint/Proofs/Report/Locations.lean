import CorpusLint.Proofs.Corpus.Documents
import CorpusLint.Proofs.Report.Failures

/-!
# What a printed place stands for

A place is printed as a document and, behind a colon, a line. Names may have colons and digits in
them, so that the place alone does not tell the third line of one document from the whole of
another. The rule does: its failures name a line always or never (`Rule.isSome_line_of_failure`),
and a line that is named stands behind the last colon (`Verdict.location_inj`).

Main statement: `Report.evaluate_locations`.
-/

namespace CorpusLint

/-- With a line in both or in neither, the place tells the document and the line. -/
theorem Verdict.location_inj {v w : Verdict} (hline : v.line.isSome = w.line.isSome)
    (h : v.location = w.location) : v.document = w.document ∧ v.line = w.line := by
  unfold location at h
  cases hv : v.line with
  | none =>
    cases hw : w.line with
    | none =>
      rw [hv, hw] at h
      exact ⟨h, rfl⟩
    | some n =>
      rw [hv, hw] at hline
      cases hline
  | some m =>
    cases hw : w.line with
    | none =>
      rw [hv, hw] at hline
      cases hline
    | some n =>
      rw [hv, hw] at h
      have hcolon : ∀ k, ':' ∉ Text.ofNat k := Text.notMem_ofNat (by decide)
      obtain ⟨hdocument, hnumber⟩ := Text.append_cons_inj_last (hcolon m) (hcolon n) h
      exact ⟨hdocument, congrArg some (Text.ofNat_injective hnumber)⟩

namespace Rule

variable {corpus : Corpus} {settings : RuleSettings}

/-- Whether the failures of a rule name a line. -/
def namesLines : Rule → Bool
  | noActiveHeredoc | noLegacySpawn | spawnTargets => true
  | antiHeredocInstruction | skillsField | skillNaming | hooksCommented | readOnlyParses
  | pinnedRoutes | requiredFields => false

theorem line_eq_none_of_asksOnce {r : Rule} {d : Document} {w : Violation}
    (hw : w ∈ r.violations corpus settings d) (h : r.AsksOnce) : w.line = none := by
  rcases h.violations_eq corpus settings d with hnone | ⟨message, hone⟩
  · rw [hnone] at hw
    cases hw
  · rw [hone] at hw
    obtain rfl := List.mem_singleton.1 hw
    rfl

theorem isSome_line_of_mem_violations {r : Rule} {d : Document} {w : Violation}
    (hw : w ∈ r.violations corpus settings d) : w.line.isSome = r.namesLines := by
  cases r with
  | noActiveHeredoc | skillNaming | noLegacySpawn | spawnTargets =>
    obtain ⟨-, -, rfl⟩ := List.mem_map.1 hw
    rfl
  | antiHeredocInstruction | skillsField | hooksCommented | readOnlyParses | requiredFields =>
    rw [line_eq_none_of_asksOnce hw trivial]
    rfl
  | pinnedRoutes => cases hw

theorem isSome_line_of_failure {r : Rule} {verdicts : List Verdict}
    (h : r.evaluate corpus settings = .ok verdicts) {v : Verdict} (hv : v ∈ verdicts)
    (hfail : v.isFailure = true) : v.rule = r ∧ v.line.isSome = r.namesLines := by
  rcases exists_of_mem_evaluate h hv with
    ⟨d, -, rfl⟩ | ⟨d, -, w, hw, rfl⟩ | ⟨rfl, route, -, d, -, rfl⟩
  · cases hfail
  · exact ⟨rfl, isSome_line_of_mem_violations hw⟩
  · unfold PinnedRoute.verdict
    split
    · exact ⟨rfl, rfl⟩
    · exact ⟨rfl, rfl⟩

end Rule

namespace Report

/-- **A printed failure points at one place.** The documents of a corpus from a disk have
identifiers of their own. Failures of a report that are printed with one rule and one place are
failures of one document and one line. -/
theorem evaluate_locations :
    (∀ (disk : Disk) (root : Text) (settings : Settings) (corpus : Corpus),
      Corpus.load disk root settings = .ok corpus →
        (corpus.documents.map Document.id).Nodup) ∧
    ∀ (corpus : Corpus) (settings : RuleSettings) (clock : Clock) (rules : List Rule)
      (report : Report), evaluate corpus settings clock rules = .ok report →
        ∀ v ∈ report.failures, ∀ w ∈ report.failures, v.rule.id = w.rule.id →
          v.location = w.location → v.document = w.document ∧ v.line = w.line := by
  constructor
  · intro disk root settings corpus h
    exact Corpus.nodup_ids_load h
  · intro corpus settings clock rules report h v hv w hw hrule hlocation
    obtain ⟨hv, hvfail⟩ := mem_failures.1 hv
    obtain ⟨hw, hwfail⟩ := mem_failures.1 hw
    obtain ⟨r, -, found, hr, hv⟩ := exists_rule_of_mem_verdicts h hv
    obtain ⟨s, -, others, hs, hw⟩ := exists_rule_of_mem_verdicts h hw
    obtain ⟨hvrule, hvline⟩ := Rule.isSome_line_of_failure hr hv hvfail
    obtain ⟨hwrule, hwline⟩ := Rule.isSome_line_of_failure hs hw hwfail
    obtain rfl : r = s := by
      rw [← hvrule, ← hwrule]
      exact Rule.id_injective hrule
    exact Verdict.location_inj (hvline.trans hwline.symm) hlocation

/-- Three collections in one directory, and a document whose name ends like a place: both failures
are printed at `workflow:a:3:1`, the first line of `a:3`. -/
theorem evaluate_locations_colon :
    let tree : FileTree := .directory [("d".toList, .directory [("a:3.md".toList, .file ⟨#[]⟩)])]
    let settings : Settings :=
      { collections := ⟨"d".toList, "d".toList, "d".toList, [], "md".toList⟩ }
    let corpus : Corpus := .ofDocuments ".".toList [⟨.agent, "a:3".toList, "./d/a:3.md".toList, []⟩]
      [⟨.workflow, "a:3".toList, "./d/a:3.md".toList, []⟩]
      [⟨.command, "a:3".toList, "./d/a:3.md".toList, []⟩] "Write".toList
    let flow : Document := ⟨.workflow, "a:3".toList, [],
      "subagent_type=\"x\" subagent_type=\"y\"".toList⟩
    let spawning : Corpus := .ofDocuments [] [] [flow] [] "Write".toList
    Corpus.load tree.disk ".".toList settings = .ok corpus ∧
      (corpus.documents.map Document.id).Nodup ∧
      ∃ report v w, evaluate spawning {} (fun _ => 0) [.spawnTargets] = .ok report ∧
        v ∈ report.failures ∧ w ∈ report.failures ∧ v ≠ w ∧ v.rule.id = w.rule.id ∧
        v.location = w.location ∧ v.location = "workflow:a:3:1".toList ∧
        v.document = w.document ∧ v.line = w.line := by
  intro tree settings corpus flow spawning
  have hload : Corpus.load tree.disk ".".toList settings = .ok corpus := by decide +kernel
  have hids := evaluate_locations.1 tree.disk ".".toList settings corpus hload
  let failure (target : Text) : Verdict :=
    ⟨.spawnTargets, .fail, "workflow:a:3".toList, some 1,
      Spawn.complaint target "subagent_type=\"x\" subagent_type=\"y\"".toList⟩
  let report : Report := ⟨[⟨.spawnTargets, 0, [failure "x".toList, failure "y".toList]⟩]⟩
  have hreport : evaluate spawning {} (fun _ => 0) [.spawnTargets] = .ok report := by
    decide +kernel
  have hx : failure "x".toList ∈ report.failures := mem_failures.2 ⟨by decide, rfl⟩
  have hy : failure "y".toList ∈ report.failures := mem_failures.2 ⟨by decide, rfl⟩
  obtain ⟨hdocument, hline⟩ :=
    evaluate_locations.2 spawning {} (fun _ => 0) [.spawnTargets] report hreport _ hx _ hy rfl rfl
  exact ⟨hload, hids, report, _, _, hreport, hx, hy, by decide, rfl, rfl, by decide +kernel,
    hdocument, hline⟩

end Report

end CorpusLint
