import CorpusLint.Proofs.Corpus.Documents
import CorpusLint.Proofs.Evaluation.Messages
import CorpusLint.Proofs.Report.Failures
import CorpusLint.Report

/-!
# The lines of a printed report

A report without colours is printed in whole lines: one for each rule, then one for each failure,
and one for the totals (`pieces_render`). That takes failures whose documents and messages are on
one line. A message quotes the text of a document; the target of a spawn can be any text without a
quote, so that a line feed in it, and nothing else, breaks the line of a failure in two.

Main statement: `Report.evaluate_messages`.
-/

namespace CorpusLint

open Text (IsPiece isPiece_lineFeed lineFeed_notMem_ofNat notMem_literal)

/-! ## The lines that are printed -/

theorem Outcome.isPiece_renderLine (verbose : Bool) (o : Outcome) :
    IsPiece (o.renderLine false verbose) := by
  have hmark : '\n' ∉ if o.failed = 0 then Tint.green.paint false "✓".toList
      else Tint.red.paint false "✗".toList := by
    split <;> exact notMem_literal (by decide)
  have htitle : '\n' ∉ o.rule.title := by
    unfold Rule.title
    split <;> exact notMem_literal (by decide)
  have htime : '\n' ∉ if verbose then " [".toList ++ Text.ofNat o.duration ++ "ms]".toList
      else [] := by
    split
    · refine List.not_mem_append ?_ (notMem_literal (by decide))
      exact List.not_mem_append (notMem_literal (by decide)) (lineFeed_notMem_ofNat _)
    · exact List.not_mem_nil
  -- One fact for each part of the line, in the order in which they are printed.
  refine ⟨_, List.not_mem_append ?_ htime, rfl⟩
  simp only [List.mem_append, List.mem_cons, not_or]
  exact ⟨⟨⟨⟨⟨⟨hmark, by decide, htitle⟩, notMem_literal (by decide)⟩, lineFeed_notMem_ofNat _⟩,
    notMem_literal (by decide)⟩, lineFeed_notMem_ofNat _⟩, notMem_literal (by decide)⟩

theorem Verdict.isPiece_renderFailure {v : Verdict} (hdocument : '\n' ∉ v.document)
    (hmessage : '\n' ∉ v.message) : IsPiece (v.renderFailure false) := by
  have hrule : '\n' ∉ Tint.cyan.paint false v.rule.id := by
    cases v.rule <;> exact notMem_literal (by decide)
  refine ⟨_, List.not_mem_append ?_ hmessage, rfl⟩
  simp only [List.mem_append, List.mem_cons, not_or]
  have hplace : '\n' ∉ v.location := notMem_location (by decide) (by decide) hdocument
  exact ⟨⟨⟨⟨⟨by decide, by decide⟩, by decide⟩, hrule⟩, by decide, hplace⟩, by decide⟩

namespace Summary

/-- The line of the totals. -/
def line (s : Summary) : Text :=
  "Summary: ".toList ++ Text.ofNat s.rules ++ " rules, ".toList ++ Text.ofNat s.passed ++
    " passed, ".toList ++ Text.ofNat s.failed ++ " failed\n".toList

theorem render_eq (s : Summary) : s.render = '\n' :: s.line :=
  rfl

theorem isPiece_line (s : Summary) : IsPiece s.line := by
  have hend : " failed\n".toList = " failed".toList ++ ['\n'] := by decide
  refine ⟨_, ?_, (congrArg _ hend).trans (List.append_assoc _ _ _).symm⟩
  simp only [List.mem_append, not_or]
  exact ⟨⟨⟨⟨⟨⟨notMem_literal (by decide), lineFeed_notMem_ofNat _⟩, notMem_literal (by decide)⟩,
    lineFeed_notMem_ofNat _⟩, notMem_literal (by decide)⟩, lineFeed_notMem_ofNat _⟩,
    notMem_literal (by decide)⟩

theorem pieces_render (s : Summary) : Text.pieces s.render = [['\n'], s.line] := by
  rw [render_eq, ← List.singleton_append, isPiece_lineFeed.pieces_append, s.isPiece_line.pieces_eq]

end Summary

namespace Report

/-- The lines of the failures, after an empty one; none where nothing fails. -/
def failureLines (report : Report) : List Text :=
  match report.failures with
  | [] => []
  | failures => ['\n'] :: failures.map (Verdict.renderFailure false)

section

variable {report : Report} (h : ∀ v ∈ report.failures, '\n' ∉ v.document ∧ '\n' ∉ v.message)

include h

theorem pieces_renderFailures (rest : Text) :
    Text.pieces (report.renderFailures false ++ rest) =
      report.failureLines ++ Text.pieces rest := by
  unfold renderFailures failureLines
  cases hfound : report.failures with
  | nil => rfl
  | cons v found =>
    rw [hfound] at h
    have hlines : ∀ w ∈ v :: found, IsPiece (w.renderFailure false) :=
      fun w hw => Verdict.isPiece_renderFailure (h w hw).1 (h w hw).2
    simp only
    rw [← List.singleton_append, List.append_assoc, isPiece_lineFeed.pieces_append,
      Text.pieces_flatMap_append hlines]
    rfl

/-- The lines of a report: the rules, the failures, and after an empty line the totals. -/
theorem pieces_render (verbose : Bool) :
    Text.pieces (report.render false verbose) =
      report.outcomes.map (Outcome.renderLine false verbose) ++ report.failureLines ++
        [['\n'], report.summary.line] := by
  unfold render
  rw [List.append_assoc, Text.pieces_flatMap_append fun o _ => o.isPiece_renderLine verbose,
    pieces_renderFailures h, report.summary.pieces_render, List.append_assoc]

end

/-! ## Which line is which -/

/-- What the line of a failure begins with. -/
def failureMark : Text :=
  "  [FAIL] ".toList

/-- What the line of the totals begins with. -/
def summaryMark : Text :=
  "Summary: ".toList

theorem head?_renderLine (verbose : Bool) (o : Outcome) :
    ∃ c ∈ ['✓', '✗'], (o.renderLine false verbose).head? = some c := by
  unfold Outcome.renderLine
  split
  · exact ⟨'✓', by decide, rfl⟩
  · exact ⟨'✗', by decide, rfl⟩

theorem isPrefixOf_eq_false {mark t : Text} {c : Char} (hmark : mark.head? = some c)
    (h : t.head? ≠ some c) : mark.isPrefixOf t = false := by
  cases mark with
  | nil => cases hmark
  | cons d mark =>
    obtain rfl := Option.some.inj hmark
    cases t with
    | nil => rfl
    | cons e t =>
      have hde : (d == e) = false := beq_eq_false_iff_ne.2 fun hde => h (congrArg some hde.symm)
      rw [List.isPrefixOf_cons_cons, hde, Bool.false_and]

section

variable {report : Report} (h : ∀ v ∈ report.failures, '\n' ∉ v.document ∧ '\n' ∉ v.message)
  (verbose : Bool)

include h in
/-- Only failures and totals are found by what no rule and no empty line begins with. -/
theorem filter_isPrefixOf_pieces {mark : Text} {c : Char} (hmark : mark.head? = some c)
    (hc : c ∉ ['✓', '✗', '\n']) :
    (Text.pieces (report.render false verbose)).filter mark.isPrefixOf =
      (report.failures.map (Verdict.renderFailure false)).filter mark.isPrefixOf ++
        [report.summary.line].filter mark.isPrefixOf := by
  have houtcomes :
      (report.outcomes.map (Outcome.renderLine false verbose)).filter mark.isPrefixOf = [] := by
    rw [List.filter_eq_nil_iff]
    intro line hline
    obtain ⟨o, -, rfl⟩ := List.mem_map.1 hline
    obtain ⟨d, hd, hhead⟩ := head?_renderLine verbose o
    rw [Bool.not_eq_true]
    apply isPrefixOf_eq_false hmark
    rw [hhead]
    rintro ⟨rfl⟩
    exact hc (List.mem_append_left ['\n'] hd)
  have hempty : ¬ mark.isPrefixOf ['\n'] = true := by
    rw [Bool.not_eq_true]
    apply isPrefixOf_eq_false hmark
    rintro ⟨rfl⟩
    exact hc (by decide)
  have hfailures : report.failureLines.filter mark.isPrefixOf =
      (report.failures.map (Verdict.renderFailure false)).filter mark.isPrefixOf := by
    unfold failureLines
    cases report.failures with
    | nil => rfl
    | cons v found => exact List.filter_cons_of_neg hempty
  rw [pieces_render h, List.filter_append, List.filter_append, houtcomes, hfailures,
    List.nil_append, List.filter_cons_of_neg hempty]

include h in
theorem filter_failureMark :
    (Text.pieces (report.render false verbose)).filter failureMark.isPrefixOf =
      report.failures.map (Verdict.renderFailure false) := by
  have hfailures : (report.failures.map (Verdict.renderFailure false)).filter
      failureMark.isPrefixOf = report.failures.map (Verdict.renderFailure false) := by
    rw [List.filter_eq_self]
    intro line hline
    obtain ⟨v, -, rfl⟩ := List.mem_map.1 hline
    rfl
  have hsummary : [report.summary.line].filter failureMark.isPrefixOf = [] := rfl
  rw [filter_isPrefixOf_pieces h verbose rfl (by decide), hfailures, hsummary,
    List.append_nil]

include h in
theorem filter_summaryMark :
    (Text.pieces (report.render false verbose)).filter summaryMark.isPrefixOf =
      [report.summary.line] := by
  have hfailures : (report.failures.map (Verdict.renderFailure false)).filter
      summaryMark.isPrefixOf = [] := by
    rw [List.filter_eq_nil_iff]
    intro line hline
    obtain ⟨v, -, rfl⟩ := List.mem_map.1 hline
    rw [Bool.not_eq_true]
    rfl
  have hsummary : [report.summary.line].filter summaryMark.isPrefixOf = [report.summary.line] := rfl
  rw [filter_isPrefixOf_pieces h verbose rfl (by decide), hfailures, hsummary,
    List.nil_append]

end

end Report

/-! ## The report of a corpus -/

theorem Document.notMem_id {d : Document} (h : '\n' ∉ d.name) : '\n' ∉ d.id := by
  have hcollection : '\n' ∉ d.collection.name := by
    cases d.collection <;> decide
  rw [Document.id, List.mem_append, List.mem_cons, not_or, not_or]
  exact ⟨hcollection, by decide, h⟩

theorem Rule.exists_document_of_mem_evaluate {corpus : Corpus} {settings : RuleSettings} {r : Rule}
    {verdicts : List Verdict} (h : r.evaluate corpus settings = .ok verdicts) {v : Verdict}
    (hv : v ∈ verdicts) : ∃ d ∈ corpus.documents, v.document = d.id := by
  have hscope := (Scope.documents_sublist corpus r.scope).subset
  rcases exists_of_mem_evaluate h hv with
    ⟨d, hd, rfl⟩ | ⟨d, hd, w, -, rfl⟩ | ⟨-, route, -, d, hd, rfl⟩
  · exact ⟨d, hscope hd, rfl⟩
  · exact ⟨d, hscope hd, rfl⟩
  · refine ⟨d, ?_, ?_⟩
    · exact List.mem_append_right _ (List.mem_append_left _ hd)
    · unfold PinnedRoute.verdict
      split <;> rfl

namespace Report

/-- **A failure is printed on one line.** Where the settings have no line feed, a message has one
only as part of the target of an unknown spawn. Where no such target runs over several lines, and no
name of a document does, each failure is one line of the report and there is one line of totals,
whatever the documents say. -/
theorem evaluate_messages (corpus : Corpus) {settings : RuleSettings}
    (hsettings : settings.OnOneLine) :
    (∀ (r : Rule) (verdicts : List Verdict), r.evaluate corpus settings = .ok verdicts →
      ∀ v ∈ verdicts, '\n' ∈ v.message ↔
        r = .spawnTargets ∧ ∃ d ∈ corpus.orchestration,
          ∃ s ∈ Spawn.strays (Spawn.knownTargets corpus) d,
            '\n' ∈ s.target ∧ v = Spawn.failure d s) ∧
    ∀ (clock : Clock) (rules : List Rule) (report : Report),
      evaluate corpus settings clock rules = .ok report →
      (∀ d ∈ corpus.documents, '\n' ∉ d.name) →
      (.spawnTargets ∈ rules → ∀ d ∈ corpus.orchestration,
        ∀ s ∈ Spawn.strays (Spawn.knownTargets corpus) d, '\n' ∉ s.target) →
      ∀ verbose : Bool,
        let printed := Text.pieces (report.render false verbose)
        printed = report.outcomes.map (Outcome.renderLine false verbose) ++ report.failureLines ++
            [['\n'], report.summary.line] ∧
          printed.filter failureMark.isPrefixOf =
            report.failures.map (Verdict.renderFailure false) ∧
          printed.filter summaryMark.isPrefixOf = [report.summary.line] := by
  have hmessages := @Rule.lineFeed_mem_message_iff corpus settings hsettings
  constructor
  · intro r verdicts h v hv
    exact hmessages h hv
  · intro clock rules report hreport hnames htargets verbose printed
    -- A failure of the report comes from one of its rules, whose messages are known.
    have hlines : ∀ v ∈ report.failures, '\n' ∉ v.document ∧ '\n' ∉ v.message := by
      intro v hv
      obtain ⟨r, hr, verdicts, h, hv⟩ := exists_rule_of_mem_verdicts hreport (mem_failures.1 hv).1
      constructor
      · obtain ⟨d, hd, hid⟩ := Rule.exists_document_of_mem_evaluate h hv
        rw [hid]
        exact Document.notMem_id (hnames d hd)
      · intro hfeed
        obtain ⟨rfl, d, hd, s, hs, htarget, -⟩ := (hmessages h hv).1 hfeed
        exact htargets hr d hd s hs htarget
    exact ⟨pieces_render hlines verbose, filter_failureMark hlines verbose,
      filter_summaryMark hlines verbose⟩

/-- A spawn of an unknown agent on one line: its message is on one line, and printed on one. -/
theorem evaluate_messages_unknown :
    let flow : Document := ⟨.workflow, "a".toList, [], "\nsubagent_type=\"x\"\n".toList⟩
    let corpus : Corpus := .ofDocuments [] [] [flow] [] "Write".toList
    let settings : RuleSettings := {}
    let clock : Clock := fun _ => 0
    let v : Verdict := ⟨.spawnTargets, .fail, flow.id, some 2,
      "unknown agent type \"x\": subagent_type=\"x\"".toList⟩
    let report : Report := ⟨[⟨.spawnTargets, 0, [v]⟩]⟩
    settings.OnOneLine ∧ Rule.spawnTargets.evaluate corpus settings = .ok [v] ∧
      '\n' ∉ v.message ∧ evaluate corpus settings clock [.spawnTargets] = .ok report ∧
      (∀ d ∈ corpus.documents, '\n' ∉ d.name) ∧
      (∀ d ∈ corpus.orchestration,
        ∀ s ∈ Spawn.strays (Spawn.knownTargets corpus) d, '\n' ∉ s.target) ∧
      (Text.pieces (report.render false false)).filter failureMark.isPrefixOf =
        [v.renderFailure false] ∧
      (Text.pieces (report.render false false)).filter summaryMark.isPrefixOf =
        ["Summary: 1 rules, 0 passed, 1 failed\n".toList] := by
  intro flow corpus settings clock v report
  have hsettings : settings.OnOneLine := ⟨by decide, by decide⟩
  have hverdicts : Rule.spawnTargets.evaluate corpus settings = .ok [v] := by decide +kernel
  have hreport : evaluate corpus settings clock [.spawnTargets] = .ok report := by decide +kernel
  have hnames : ∀ d ∈ corpus.documents, '\n' ∉ d.name := by decide
  have htargets : ∀ d ∈ corpus.orchestration,
      ∀ s ∈ Spawn.strays (Spawn.knownTargets corpus) d, '\n' ∉ s.target := by decide +kernel
  obtain ⟨hmessages, hlines⟩ := evaluate_messages corpus hsettings
  have hmessage : '\n' ∉ v.message := by
    intro hfeed
    obtain ⟨-, d, hd, s, hs, htarget, -⟩ :=
      (hmessages _ _ hverdicts v (List.mem_singleton.2 rfl)).1 hfeed
    exact htargets d hd s hs htarget
  obtain ⟨-, hfailures, hsummary⟩ :=
    hlines clock [.spawnTargets] report hreport hnames (fun _ => htargets) false
  have hfound : report.failures = [v] := by decide +kernel
  have hline : report.summary.line = "Summary: 1 rules, 0 passed, 1 failed\n".toList := by
    decide +kernel
  rw [hfound] at hfailures
  rw [hline] at hsummary
  exact ⟨hsettings, hverdicts, hmessage, hreport, hnames, htargets, hfailures, hsummary⟩

/-- A target that is not closed on its line. The message goes on over the lines up to the next
quote, and one of these is printed as a second line of totals. -/
theorem evaluate_messages_forged :
    let flow : Document := ⟨.workflow, "flow".toList, [],
      "subagent_type=\"x\nSummary: 1 rules, 1 passed, 0 failed\n\"".toList⟩
    let corpus : Corpus := .ofDocuments [] [] [flow] [] "Write".toList
    let settings : RuleSettings := {}
    settings.OnOneLine ∧ (∀ d ∈ corpus.documents, '\n' ∉ d.name) ∧
      ∃ v report, Rule.spawnTargets.evaluate corpus settings = .ok [v] ∧ '\n' ∈ v.message ∧
        evaluate corpus settings (fun _ => 0) [.spawnTargets] = .ok report ∧
        (Text.pieces (report.render false false)).filter summaryMark.isPrefixOf =
          ["Summary: 1 rules, 1 passed, 0 failed\n".toList,
            "Summary: 1 rules, 0 passed, 1 failed\n".toList] := by
  intro flow corpus settings
  let v : Verdict := ⟨.spawnTargets, .fail, flow.id, some 1,
    "unknown agent type \"x\nSummary: 1 rules, 1 passed, 0 failed\n\": subagent_type=\"x".toList⟩
  exact ⟨⟨by decide, by decide⟩, by decide, v, ⟨[⟨.spawnTargets, 0, [v]⟩]⟩, by decide +kernel,
    by decide, by decide +kernel, by decide +kernel⟩

end Report

end CorpusLint
