import CorpusLint.CommandLine.Run
import CorpusLint.Proofs.Check.Route
import CorpusLint.Proofs.Corpus.Loading
import CorpusLint.Proofs.Report.Selection
import CorpusLint.Proofs.Selection
import CorpusLint.Proofs.Settings.Reading

/-!
# What stops a run

Evaluating rules goes through four stages: the settings are read, the rules selected, the corpus
read and the rules evaluated. An `Obstacle` is what stops a stage, all stages before it being in
order, so that there is at most one (`report_eq_error_iff`), and there is a report where there is
none (`exists_obstacle_iff`). The clock does not decide on what is found (`map_findings_report`).
-/

namespace CorpusLint

/-- What keeps a run from its report, and the failure that it ends with. -/
inductive Obstacle (disk : Disk) (place : Place) (only : List Text) : Failure → Prop
  /-- The settings that were asked for are not there. -/
  | missingSettings {path : Text} (hconfig : place.config = some path)
      (hfile : disk.file? path = none) : Obstacle disk place only (.missingSettings path)
  /-- The settings are not UTF-8. -/
  | settingsNotText {bytes : ByteArray} (hfile : disk.file? place.settingsPath = some bytes)
      (htext : Text.ofUtf8? bytes = none) : Obstacle disk place only .invalidUtf8
  /-- The settings make no sense. -/
  | badSettings {bytes : ByteArray} {t : Text} {cause : SettingsError}
      (hfile : disk.file? place.settingsPath = some bytes) (htext : Text.ofUtf8? bytes = some t)
      (hparse : Settings.parse t = .error cause) :
      Obstacle disk place only (.badSettings (some place.settingsPath) cause)
  /-- An identifier is unknown; the disabled ones come before those that were asked for. -/
  | unknownRule {settings : Settings} {id : Text}
      (hsettings : Settings.load disk place.root place.config = .ok settings)
      (hid : (settings.rules.disabled ++ only).find? (!Rule.isKnown ·) = some id) :
      Obstacle disk place only (.unknownRule id)
  /-- The directory of the agents is not there. -/
  | missingAgents {settings : Settings} {rules : List Rule}
      (hsettings : Settings.load disk place.root place.config = .ok settings)
      (hrules : Rule.select settings.rules only = .ok rules)
      (hdirectory : disk.directory? (settings.collections.agentSource place.root).root = none) :
      Obstacle disk place only
        (.missingDirectory .agent (settings.collections.agentSource place.root).root)
  /-- A member of a collection is not UTF-8. -/
  | memberNotText {settings : Settings} {rules : List Rule} {source : CollectionSource}
      (hsettings : Settings.load disk place.root place.config = .ok settings)
      (hrules : Rule.select settings.rules only = .ok rules)
      (hdirectory : (disk.directory? (settings.collections.agentSource place.root).root).isSome)
      (hsource : source ∈ settings.collections.sources place.root)
      (hmember : source.HoldsUnreadable disk) : Obstacle disk place only .invalidUtf8
  /-- The workflow of a pinned route is not there, and the rule on pinned routes is selected. -/
  | missingWorkflow {settings : Settings} {rules : List Rule} {corpus : Corpus}
      {route : PinnedRoute}
      (hsettings : Settings.load disk place.root place.config = .ok settings)
      (hrules : Rule.select settings.rules only = .ok rules)
      (hcorpus : Corpus.load disk place.root settings = .ok corpus)
      (hselected : Rule.pinnedRoutes ∈ rules)
      (hroute : settings.rules.pinnedRoutes.find? (PinnedRoute.lacksWorkflow corpus) = some route) :
      Obstacle disk place only (.missingWorkflow route.workflow place.root)

theorem Obstacle.exitStatus {disk : Disk} {place : Place} {only : List Text} {failure : Failure}
    (h : Obstacle disk place only failure) : failure.exitStatus = 2 := by
  cases h <;> rfl

theorem Corpus.root_of_load {disk : Disk} {root : Text} {settings : Settings} {corpus : Corpus}
    (h : load disk root settings = .ok corpus) : corpus.root = root := by
  obtain ⟨agents, workflows, commands, -, -, -, rfl⟩ := load_eq_ok h
  rfl

namespace Surroundings

variable {s other : Surroundings} {place : Place} {only : List Text}

/-- The report of a run: all four stages, one after the other. -/
def report (s : Surroundings) (place : Place) (only : List Text) : Except Failure Report :=
  match Settings.load s.disk place.root place.config with
  | .error failure => .error failure
  | .ok settings => Report.ofDisk s.disk place.root settings s.clock only

/-- All four stages succeed and give this report. -/
def Reports (s : Surroundings) (place : Place) (only : List Text) (report : Report) : Prop :=
  ∃ settings rules corpus,
    Settings.load s.disk place.root place.config = .ok settings ∧
    Rule.select settings.rules only = .ok rules ∧
    Corpus.load s.disk place.root settings = .ok corpus ∧
    Report.evaluate corpus settings.rules s.clock rules = .ok report

theorem report_eq_ok_iff {report : Report} :
    s.report place only = .ok report ↔ s.Reports place only report := by
  unfold Reports Surroundings.report Report.ofDisk prepare
  cases Settings.load s.disk place.root place.config with
  | error failure => simp
  | ok settings =>
    cases hrules : Rule.select settings.rules only with
    | error failure => simp [hrules]
    | ok rules =>
      cases hcorpus : Corpus.load s.disk place.root settings with
      | error failure => simp [hrules, hcorpus]
      | ok corpus => simp [hrules, hcorpus]

theorem report_eq_error_iff_stage {failure : Failure} :
    s.report place only = .error failure ↔
      Settings.load s.disk place.root place.config = .error failure ∨
      ∃ settings, Settings.load s.disk place.root place.config = .ok settings ∧
        (Rule.select settings.rules only = .error failure ∨
        ∃ rules, Rule.select settings.rules only = .ok rules ∧
          (Corpus.load s.disk place.root settings = .error failure ∨
          ∃ corpus, Corpus.load s.disk place.root settings = .ok corpus ∧
            Report.evaluate corpus settings.rules s.clock rules = .error failure)) := by
  unfold Surroundings.report Report.ofDisk prepare
  cases Settings.load s.disk place.root place.config with
  | error failure => simp
  | ok settings =>
    cases hrules : Rule.select settings.rules only with
    | error failure => simp [hrules]
    | ok rules =>
      cases hcorpus : Corpus.load s.disk place.root settings with
      | error failure => simp [hrules, hcorpus]
      | ok corpus => simp [hrules, hcorpus]

theorem obstacle_of_report {failure : Failure} (h : s.report place only = .error failure) :
    Obstacle s.disk place only failure := by
  rcases report_eq_error_iff_stage.1 h with
    hsettings | ⟨settings, hsettings, hrules | ⟨rules, hrules, hcorpus |
      ⟨corpus, hcorpus, hevaluate⟩⟩⟩
  · rcases Settings.load_eq_error_iff.1 hsettings with
      ⟨path, hconfig, hfile, rfl⟩ | ⟨bytes, hfile, hread⟩
    · exact .missingSettings hconfig hfile
    · rcases Settings.ofFile_eq_error_iff.1 hread with
        ⟨htext, rfl⟩ | ⟨t, cause, htext, hparse, rfl⟩
      · exact .settingsNotText hfile htext
      · exact .badSettings hfile htext hparse
  · obtain ⟨id, hid, rfl⟩ := Rule.select_eq_error_iff.1 hrules
    exact .unknownRule hsettings hid
  · rcases Corpus.load_eq_error_iff.1 hcorpus with
      ⟨hdirectory, rfl⟩ | ⟨hdirectory, ⟨source, hsource, hmember⟩, rfl⟩
    · exact .missingAgents hsettings hrules hdirectory
    · exact .memberNotText hsettings hrules hdirectory hsource hmember
  · obtain ⟨hselected, hcause⟩ := Report.evaluate_eq_error_iff.1 hevaluate
    obtain ⟨route, hroute, rfl⟩ := PinnedRoute.verdicts_eq_error_iff.1 hcause
    rw [Corpus.root_of_load hcorpus]
    exact .missingWorkflow hsettings hrules hcorpus hselected hroute

theorem report_of_obstacle {failure : Failure} (h : Obstacle s.disk place only failure) :
    s.report place only = .error failure := by
  apply report_eq_error_iff_stage.2
  cases h with
  | missingSettings hconfig hfile =>
    exact .inl (Settings.load_eq_error_iff.2 (.inl ⟨_, hconfig, hfile, rfl⟩))
  | settingsNotText hfile htext =>
    refine .inl (Settings.load_eq_error_iff.2 (.inr ⟨_, hfile, ?_⟩))
    exact Settings.ofFile_eq_error_iff.2 (.inl ⟨htext, rfl⟩)
  | badSettings hfile htext hparse =>
    refine .inl (Settings.load_eq_error_iff.2 (.inr ⟨_, hfile, ?_⟩))
    exact Settings.ofFile_eq_error_iff.2 (.inr ⟨_, _, htext, hparse, rfl⟩)
  | unknownRule hsettings hid =>
    exact .inr ⟨_, hsettings, .inl (Rule.select_eq_error_iff.2 ⟨_, hid, rfl⟩)⟩
  | missingAgents hsettings hrules hdirectory =>
    refine .inr ⟨_, hsettings, .inr ⟨_, hrules, .inl ?_⟩⟩
    exact Corpus.load_eq_error_iff.2 (.inl ⟨hdirectory, rfl⟩)
  | memberNotText hsettings hrules hdirectory hsource hmember =>
    refine .inr ⟨_, hsettings, .inr ⟨_, hrules, .inl ?_⟩⟩
    exact Corpus.load_eq_error_iff.2 (.inr ⟨hdirectory, ⟨_, hsource, hmember⟩, rfl⟩)
  | missingWorkflow hsettings hrules hcorpus hselected hroute =>
    refine .inr ⟨_, hsettings, .inr ⟨_, hrules, .inr ⟨_, hcorpus, ?_⟩⟩⟩
    have hcause := PinnedRoute.verdicts_eq_error_iff.2 ⟨_, hroute, rfl⟩
    rw [Corpus.root_of_load hcorpus] at hcause
    exact Report.evaluate_eq_error_iff.2 ⟨hselected, hcause⟩

theorem report_eq_error_iff {failure : Failure} :
    s.report place only = .error failure ↔ Obstacle s.disk place only failure :=
  ⟨obstacle_of_report, report_of_obstacle⟩

/-- Either there is a report, or something stands in the way of it. -/
theorem exists_obstacle_iff :
    (∃ failure, Obstacle s.disk place only failure) ↔ ¬ ∃ report, s.Reports place only report := by
  simp only [← report_eq_error_iff, ← report_eq_ok_iff]
  cases s.report place only with
  | error failure => simp
  | ok report => simp

/-- Two runs on one disk find the same, whatever time they take. -/
theorem map_findings_report (hdisk : other.disk = s.disk) :
    (other.report place only).map Report.findings = (s.report place only).map Report.findings := by
  unfold Surroundings.report Report.ofDisk
  rw [hdisk]
  cases Settings.load s.disk place.root place.config with
  | error failure => rfl
  | ok settings =>
    cases hprepare : prepare s.disk place.root settings only with
    | error failure => simp only [hprepare]
    | ok prepared =>
      simp only [hprepare]
      exact Report.map_findings_evaluate (.refl _) _

end Surroundings

end CorpusLint
