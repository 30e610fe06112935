import CorpusLint.Proofs.CommandLine.Obstacle
import CorpusLint.Proofs.Inventory
import CorpusLint.Proofs.Json.Reading
import CorpusLint.Proofs.Report.Totals

/-!
# How a run ends

No run breaks off (`crashed_run`). The exit status and the error of a run are those of its report,
or of the obstacle that keeps it from one (`exitStatus_eq`). They do not depend on what is printed
and in what form. What is printed as JSON is read back as the envelope of the report.

Main statement: `Surroundings.run_validate`.
-/

namespace CorpusLint

theorem Format.parse_name (format : Format) : parse format.name = .ok format := by
  cases format <;> rfl

/-- How a run ends with or without a report. -/
def Report.ending : Except Failure Report → Option Failure
  | .error failure => some failure
  | .ok report => report.verdictOfRun

namespace Transcript

variable {t : Transcript}

theorem exitStatus_of_runs (hruns : t.crashed = false) :
    t.exitStatus = (t.failure.map Failure.exitStatus).getD 0 := by
  rw [exitStatus, hruns, if_neg Bool.false_ne_true]
  cases t.failure <;> rfl

theorem exitStatus_of_report (hruns : t.crashed = false) {report : Report}
    (ht : t.failure = Report.ending (.ok report)) :
    t.exitStatus = if 0 < report.summary.failed then 1 else 0 := by
  rw [exitStatus_of_runs hruns, ht, Report.ending, Report.verdictOfRun]
  by_cases hfailed : 0 < report.summary.failed
  · rw [if_pos hfailed, if_pos hfailed]
    rfl
  · rw [if_neg hfailed, if_neg hfailed, Option.map_none, Option.getD_none]

theorem errorLine_of_report {report : Report} (ht : t.failure = Report.ending (.ok report)) :
    t.errorLine =
      if 0 < report.summary.failed then
        "Error: Validation error: ".toList ++ Text.ofNat report.summary.failed ++
          " check(s) failed.".toList
      else [] := by
  rw [errorLine, ht, Report.ending, Report.verdictOfRun]
  by_cases hfailed : 0 < report.summary.failed
  · rw [if_pos hfailed, if_pos hfailed]
    rfl
  · rw [if_neg hfailed, if_neg hfailed]

theorem exitStatus_of_failure (hruns : t.crashed = false) {failure : Failure}
    (ht : t.failure = Report.ending (.error failure)) :
    t.exitStatus = failure.exitStatus := by
  rw [exitStatus_of_runs hruns, ht]
  rfl

theorem errorLine_of_failure {failure : Failure}
    (ht : t.failure = Report.ending (.error failure)) :
    t.errorLine = "Error: ".toList ++ failure.message := by
  rw [errorLine, ht]
  rfl

/-- Transcripts that fail alike are told apart by their output only. -/
theorem ending_eq {u : Transcript} (hfailure : u.failure = t.failure) (htrace : u.trace = t.trace)
    (hcrashed : u.crashed = t.crashed) :
    u.exitStatus = t.exitStatus ∧ u.traceLines = t.traceLines ∧ u.errorLine = t.errorLine := by
  rw [exitStatus, exitStatus, traceLines, traceLines, errorLine, errorLine, hfailure, htrace,
    hcrashed]
  exact ⟨rfl, rfl, rfl⟩

/-- The envelope of a report, the exit status and the error count the same failures. -/
theorem envelope_of_report (hruns : t.crashed = false) {report : Report}
    (ht : t.failure = Report.ending (.ok report)) (command : Text) (stamp : Stamp) :
    let envelope := report.toJson command stamp
    let failed := Report.failedIn envelope
    (envelope.hasText "status".toList "ok".toList = true ↔ t.exitStatus = 0) ∧
      (envelope.field? "summary".toList).bind (Json.field? "failed".toList) =
        some (.number failed) ∧
      t.errorLine =
        if t.exitStatus = 0 then [] else
          "Error: Validation error: ".toList ++ Text.ofNat failed ++
            " check(s) failed.".toList := by
  intro envelope failed
  have hfailed : failed = report.summary.failed := Report.failedIn_toJson _ _ _
  rw [Report.hasText_ok_toJson, Report.isSuccess_iff, exitStatus_of_report hruns ht,
    errorLine_of_report ht, hfailed]
  refine ⟨?_, Report.failed_field_toJson _ _ _, ?_⟩
  · split <;> simp <;> omega
  · split <;> rfl

end Transcript

namespace Surroundings

variable {s other : Surroundings} {place : Place} {only : List Text}

/-- No run breaks off: the inventory of a corpus that has been read can be printed. -/
theorem crashed_run (s : Surroundings) (invocation : Invocation) :
    (s.run invocation).crashed = false := by
  obtain ⟨command, noColor⟩ := invocation
  cases command with
  | validate place format only verbose =>
    simp only [run, validate]
    split
    · rfl
    · split
      · rfl
      · split
        · rfl
        · split <;> rfl
  | agents place format =>
    simp only [run, agents]
    split
    · rfl
    · split
      · rfl
      · split
        · rfl
        · next corpus hload =>
          rw [Inventory.render?_of_load _ hload]
          split <;> rfl
  | rules format =>
    simp only [run, listRules]
    split <;> rfl
  | version => rfl

/-- A run prints the envelope of its report, if it is asked to, and fails as the report does. -/
theorem validate_eq (h : s.environment.traces = false) (colours : Bool) (format : Format)
    (verbose : Bool) :
    ∃ output, s.validate colours place format.name only verbose =
        { output, failure := Report.ending (s.report place only) } ∧
      (format = .json → output =
        match s.report place only with
        | .error _ => []
        | .ok report => (report.toJson "validate".toList s.stamp).render ++ ['\n']) := by
  unfold validate Surroundings.report Report.ofDisk
  rw [Format.parse_name]
  cases Settings.load s.disk place.root place.config with
  | error failure => exact ⟨[], rfl, fun _ => rfl⟩
  | ok settings =>
    cases hprepare : prepare s.disk place.root settings only with
    | error failure =>
      simp only [hprepare]
      refine ⟨_, rfl, ?_⟩
      rintro rfl
      rfl
    | ok prepared =>
      obtain ⟨rules, corpus⟩ := prepared
      simp only [hprepare, h]
      cases Report.evaluate corpus settings.rules s.clock rules with
      | error failure =>
        refine ⟨_, rfl, ?_⟩
        rintro rfl
        rfl
      | ok report =>
        refine ⟨_, rfl, ?_⟩
        rintro rfl
        rfl

theorem ending_report_eq (hdisk : other.disk = s.disk) :
    Report.ending (other.report place only) = Report.ending (s.report place only) := by
  have hfindings := @map_findings_report s other place only hdisk
  cases hreport : s.report place only with
  | error failure =>
    cases hagain : other.report place only with
    | error cause =>
      rw [hreport, hagain] at hfindings
      exact congrArg some (Except.error.inj hfindings)
    | ok again =>
      rw [hreport, hagain] at hfindings
      cases hfindings
  | ok report =>
    cases hagain : other.report place only with
    | error cause =>
      rw [hreport, hagain] at hfindings
      cases hfindings
    | ok again =>
      rw [hreport, hagain] at hfindings
      have hfailed := Report.failed_summary_of_findings (Except.ok.inj hfindings)
      rw [Report.ending, Report.ending, Report.verdictOfRun, Report.verdictOfRun, hfailed]

section

variable {t : Transcript} (hruns : t.crashed = false)
  (ht : t.failure = Report.ending (s.report place only))

include hruns ht

theorem exitStatus_eq :
    t.exitStatus =
      match s.report place only with
      | .error _ => 2
      | .ok report => if 0 < report.summary.failed then 1 else 0 := by
  cases hreport : s.report place only with
  | error failure =>
    rw [hreport] at ht
    rw [Transcript.exitStatus_of_failure hruns ht]
    exact (report_eq_error_iff.1 hreport).exitStatus
  | ok report =>
    rw [hreport] at ht
    exact Transcript.exitStatus_of_report hruns ht

theorem exitStatus_eq_zero_iff :
    t.exitStatus = 0 ↔
      ∃ report, s.Reports place only report ∧ ∀ v ∈ report.verdicts, v.isFailure = false := by
  rw [exitStatus_eq hruns ht]
  simp only [← report_eq_ok_iff, ← Report.failed_eq_zero_iff]
  cases s.report place only with
  | error failure => simp
  | ok report => simp

theorem exitStatus_eq_one_iff :
    t.exitStatus = 1 ↔
      ∃ report, s.Reports place only report ∧ ∃ v ∈ report.verdicts, v.isFailure = true := by
  rw [exitStatus_eq hruns ht]
  simp only [← report_eq_ok_iff, ← Report.failed_pos_iff]
  cases s.report place only with
  | error failure => simp
  | ok report => simp

theorem exitStatus_eq_two_iff :
    t.exitStatus = 2 ↔ ∃ failure, Obstacle s.disk place only failure := by
  rw [exitStatus_eq hruns ht]
  simp only [← report_eq_error_iff]
  cases s.report place only with
  | error failure => simp
  | ok report =>
    simp only [reduceCtorEq, exists_false, iff_false]
    split <;> decide

end

/-- **The exit status does not depend on the format.** Two runs on one disk that do not trace end
with one status and one error, whatever is printed and in what form. The status is 0 where all
stages succeed and nothing fails, 1 where they succeed and something fails, and 2 where there is an
obstacle, which the error names. What is printed as JSON is read back as the envelope of the report:
it calls the run ok where the status is 0, and the number in the error is that of the failures in
its summary and among its verdicts. -/
theorem run_validate (s other : Surroundings) (place : Place) (only : List Text)
    (hdisk : other.disk = s.disk) (htraces : s.environment.traces = false)
    (hother : other.environment.traces = false) (format otherFormat : Format)
    (verbose otherVerbose noColor otherNoColor : Bool) :
    let t := s.run ⟨.validate place format.name only verbose, noColor⟩
    let u := other.run ⟨.validate place otherFormat.name only otherVerbose, otherNoColor⟩
    (u.exitStatus = t.exitStatus ∧ u.traceLines = t.traceLines ∧ u.errorLine = t.errorLine) ∧
    (t.exitStatus = 0 ↔
      ∃ report, s.Reports place only report ∧ ∀ v ∈ report.verdicts, v.isFailure = false) ∧
    (t.exitStatus = 1 ↔
      ∃ report, s.Reports place only report ∧ ∃ v ∈ report.verdicts, v.isFailure = true) ∧
    (t.exitStatus = 2 ↔ ¬ ∃ report, s.Reports place only report) ∧
    (t.exitStatus = 2 ↔ ∃ failure, Obstacle s.disk place only failure) ∧
    (∀ failure, Obstacle s.disk place only failure →
      t.errorLine = "Error: ".toList ++ failure.message ∧ (format = .json → t.output = [])) ∧
    ∀ report, s.Reports place only report → format = .json →
      let envelope := report.toJson "validate".toList s.stamp
      let failed := Report.failedIn envelope
      t.output = envelope.render ++ ['\n'] ∧ Json.parse? t.output = some envelope ∧
      (envelope.hasText "status".toList "ok".toList = true ↔ t.exitStatus = 0) ∧
      (envelope.field? "summary".toList).bind (Json.field? "failed".toList) =
        some (.number failed) ∧
      t.errorLine =
        if t.exitStatus = 0 then [] else
          "Error: Validation error: ".toList ++ Text.ofNat failed ++
            " check(s) failed.".toList := by
  intro t u
  obtain ⟨output, ht, hjson⟩ := @validate_eq s place only htraces
    (s.environment.colours && !noColor) format verbose
  obtain ⟨_, hu, -⟩ := @validate_eq other place only hother
    (other.environment.colours && !otherNoColor) otherFormat otherVerbose
  have hfailure : t.failure = Report.ending (s.report place only) := congrArg Transcript.failure ht
  -- The clocks differ, and so may the reports, but they find the same.
  have hsame : u.failure = t.failure := by
    rw [hfailure, ← ending_report_eq hdisk]
    exact congrArg Transcript.failure hu
  have hsilent : u.trace = t.trace :=
    (congrArg Transcript.trace hu).trans (congrArg Transcript.trace ht).symm
  have hruns : t.crashed = false := s.crashed_run _
  have hcrashed : u.crashed = t.crashed := (other.crashed_run _).trans hruns.symm
  have hprinted : t.output = output := congrArg Transcript.output ht
  have htwo := exitStatus_eq_two_iff hruns hfailure
  refine ⟨Transcript.ending_eq hsame hsilent hcrashed, exitStatus_eq_zero_iff hruns hfailure,
    exitStatus_eq_one_iff hruns hfailure, htwo.trans exists_obstacle_iff, htwo, ?_, ?_⟩
  · intro failure hobstacle
    have hstopped := report_eq_error_iff.2 hobstacle
    rw [hstopped] at hfailure
    refine ⟨Transcript.errorLine_of_failure hfailure, ?_⟩
    intro hformat
    rw [hprinted, hjson hformat, hstopped]
  · intro report hreports hformat envelope failed
    have hreport := report_eq_ok_iff.2 hreports
    rw [hreport] at hfailure
    have houtput : t.output = envelope.render ++ ['\n'] := by
      rw [hprinted, hjson hformat, hreport]
    refine ⟨houtput, ?_, Transcript.envelope_of_report hruns hfailure _ _⟩
    rw [houtput]
    exact Json.parse?_render_append envelope rfl

/-- One agent without skills, and no workflow. The rule on skills fails in both forms with the same
status and error; where all rules are asked for, the pinned workflow is missing. -/
theorem run_validate_withoutSkills :
    let tree : FileTree := .directory
      [("agents".toList, .directory [("gsd-a.md".toList, .file ⟨#[97]⟩)])]
    let s : Surroundings := { disk := tree.disk, stamp := ⟨[], []⟩ }
    let other : Surroundings :=
      { disk := tree.disk, environment := { terminal := true }, stamp := ⟨"9Z".toList, []⟩
        clock := fun _ => 7 }
    let place : Place := ⟨".".toList, none⟩
    let only := [Rule.skillsField.id]
    let t := s.run ⟨.validate place Format.json.name only false, false⟩
    let u := other.run ⟨.validate place Format.text.name only true, true⟩
    let all := s.run ⟨.validate place Format.json.name [] false, false⟩
    other.disk = s.disk ∧ s.environment.traces = false ∧ other.environment.traces = false ∧
      u.exitStatus = t.exitStatus ∧ u.errorLine = t.errorLine ∧ t.exitStatus = 1 ∧
      t.errorLine = "Error: Validation error: 1 check(s) failed.".toList ∧
      (Json.parse? t.output).map (Json.hasText "status".toList "ok".toList) = some false ∧
      all.exitStatus = 2 ∧ all.output = [] ∧
      all.errorLine = "Error: Not found: workflow 'diagnose-issues' required by rule ".toList ++
        "pinned-routes (looked in .)".toList := by
  intro tree s other place only t u all
  let d : Document := ⟨.agent, "gsd-a".toList, "./agents/gsd-a.md".toList, ['a']⟩
  let corpus : Corpus := .ofDocuments ".".toList [d] [] [] "Write".toList
  let report : Report :=
    ⟨[⟨.skillsField, 0, [⟨.skillsField, .fail, d.id, none,
      "missing skills: in frontmatter".toList⟩]⟩]⟩
  have hsettings : Settings.load s.disk place.root place.config = .ok {} := by decide +kernel
  have hcorpus : Corpus.load s.disk place.root {} = .ok corpus := by decide +kernel
  have hreports : s.Reports place only report :=
    ⟨{}, [.skillsField], corpus, hsettings, by decide +kernel, hcorpus, by decide +kernel⟩
  have hrules : Rule.select {} [] = .ok Rule.catalog := by decide
  have hroute : ({} : RuleSettings).pinnedRoutes.find? (PinnedRoute.lacksWorkflow corpus) =
      some ⟨"diagnose-issues".toList, "gsd-debugger".toList⟩ := by decide
  have hobstacle :
      Obstacle s.disk place [] (.missingWorkflow "diagnose-issues".toList ".".toList) :=
    .missingWorkflow hsettings hrules hcorpus (Rule.mem_catalog _) hroute
  obtain ⟨⟨hstatus, -, herror⟩, -, hone, -, -, -, hjson⟩ :=
    run_validate s other place only rfl rfl rfl .json .text false true false true
  obtain ⟨-, -, -, -, htwo, hstopped, -⟩ :=
    run_validate s s place [] rfl rfl rfl .json .json false false false false
  have hfails : t.exitStatus = 1 := hone.2 ⟨report, hreports, by decide⟩
  obtain ⟨-, hparse, hok, -, hline⟩ := hjson report hreports rfl
  rw [hfails, Report.failedIn_toJson] at hline
  have hmessage : t.errorLine = "Error: Validation error: 1 check(s) failed.".toList :=
    hline.trans (by decide +kernel)
  have hprinted : (Json.parse? t.output).map (Json.hasText "status".toList "ok".toList) =
      some false := by
    rw [hparse, Option.map_some, Option.some.injEq, ← Bool.not_eq_true]
    intro htrue
    rw [hok.1 htrue] at hfails
    cases hfails
  exact ⟨rfl, rfl, rfl, hstatus, herror, hfails, hmessage, hprinted, htwo.2 ⟨_, hobstacle⟩,
    (hstopped _ hobstacle).2 rfl, (hstopped _ hobstacle).1.trans (by decide +kernel)⟩

end Surroundings

end CorpusLint
