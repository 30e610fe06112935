import CorpusLint.CommandLine.Arguments
import CorpusLint.Corpus.Loading
import CorpusLint.Inventory
import CorpusLint.Report
import CorpusLint.Settings.Overlay
import CorpusLint.Terminal
import CorpusLint.Validation

/-!
# Running a command

What a command prints and how it ends, as a function of the disk and the environment. A run that
finds failed checks prints its report and then ends with a failure; any other failure ends the run
where it arises.
-/

namespace CorpusLint

inductive Format where
  | text
  | json
deriving DecidableEq, Repr

def Format.name : Format → Text
  | .text => "text".toList
  | .json => "json".toList

def Format.parse (word : Text) : Except Failure Format :=
  if word = Format.text.name then .ok .text
  else if word = Format.json.name then .ok .json
  else .error (.unknownFormat word)

/-- What a run has printed and how it has ended. -/
structure Transcript where
  output : Text
  /-- The rules that were traced. -/
  trace : List Rule := []
  /-- Why the run failed, if it did. -/
  failure : Option Failure := none
  /-- Whether the run has broken off, with neither a result nor a failure. -/
  crashed : Bool := false
deriving DecidableEq, Repr

namespace Transcript

def exitStatus (t : Transcript) : Nat :=
  if t.crashed then 101
  else
    match t.failure with
    | none => 0
    | some failure => failure.exitStatus

/-- The line that reports the failure, without its end. -/
def errorLine (t : Transcript) : Text :=
  match t.failure with
  | none => []
  | some failure => "Error: ".toList ++ failure.message

def traceLines (t : Transcript) : List Text :=
  t.trace.map ("validate: trace ".toList ++ ·.id)

/-- A run that has printed `output` and then failed. -/
def failing (output : Text) (failure : Failure) : Transcript :=
  { output, failure := some failure }

end Transcript

/-- The file that the settings of a corpus are read from. -/
def Place.settingsPath (place : Place) : Text :=
  Settings.pathFor place.root place.config

/-- The rules to evaluate and the corpus to evaluate them on. -/
def prepare (disk : Disk) (root : Text) (settings : Settings) (only : List Text) :
    Except Failure (List Rule × Corpus) :=
  match Rule.select settings.rules only with
  | .error failure => .error failure
  | .ok rules =>
    match Corpus.load disk root settings with
    | .error failure => .error failure
    | .ok corpus => .ok (rules, corpus)

/-- The report of the selected rules on the corpus below a root directory. -/
def Report.ofDisk (disk : Disk) (root : Text) (settings : Settings) (clock : Clock)
    (only : List Text) : Except Failure Report :=
  match prepare disk root settings only with
  | .error failure => .error failure
  | .ok (rules, corpus) => Report.evaluate corpus settings.rules clock rules

namespace Report

/-- The line that repeats the first failure, cut to a line of a terminal. -/
def renderFirstFailure (r : Report) : Text :=
  match r.failures with
  | [] => []
  | first :: _ =>
    "validate: first failure ".toList ++ first.rule.id ++ ' ' :: first.location ++ ": ".toList ++
      first.message.compact 110 ++ ['\n']

/-- How a run ends that has made the report. -/
def verdictOfRun (r : Report) : Option Failure :=
  if 0 < r.summary.failed then some (.failedChecks r.summary.failed) else none

end Report

namespace Rule

def renderLine (r : Rule) : Text :=
  r.id.padTo 26 ++ ' ' :: r.title.padTo 46 ++ ' ' :: r.scope.name ++ ['\n']

def toJson (r : Rule) : Json :=
  .object [("id".toList, .text r.id), ("scope".toList, .text r.scope.name),
    ("title".toList, .text r.title)]

end Rule

def versionLine : Text :=
  "v0.3.1\n".toList

/-- What a run depends on besides its arguments. -/
structure Surroundings where
  disk : Disk
  environment : Environment := {}
  /-- What tells the run from others. -/
  stamp : Stamp
  /-- How long the evaluation of each rule takes. -/
  clock : Clock := fun _ => 0

namespace Surroundings

def listRules (format : Text) : Transcript :=
  match Format.parse format with
  | .error failure => .failing [] failure
  | .ok .text => { output := Rule.catalog.flatMap Rule.renderLine }
  | .ok .json =>
    { output :=
        (Json.object [("rules".toList, .array (Rule.catalog.map Rule.toJson))]).render ++ ['\n'] }

/-- Evaluates rules: prints the report, and fails if a check does. -/
def validate (s : Surroundings) (colours : Bool) (place : Place) (format : Text)
    (only : List Text) (verbose : Bool) : Transcript :=
  match Format.parse format with
  | .error failure => .failing [] failure
  | .ok format =>
    match Settings.load s.disk place.root place.config with
    | .error failure => .failing [] failure
    | .ok settings =>
      let opening := match format with
        | .text => "validate: running (".toList ++ place.root ++ ")\n".toList
        | .json => []
      match prepare s.disk place.root settings only with
      | .error failure => .failing opening failure
      | .ok (rules, corpus) =>
        let trace := if s.environment.traces then rules else []
        match Report.evaluate corpus settings.rules s.clock rules with
        | .error failure => { output := opening, trace, failure := some failure }
        | .ok report =>
          let body := match format with
            | .text => report.render colours verbose ++ report.renderFirstFailure
            | .json => (report.toJson "validate".toList s.stamp).render ++ ['\n']
          { output := opening ++ body, trace, failure := report.verdictOfRun }

/-- Lists the agents. A table that cannot be made breaks the run off. -/
def agents (s : Surroundings) (colours : Bool) (place : Place) (format : Text) : Transcript :=
  match Format.parse format with
  | .error failure => .failing [] failure
  | .ok format =>
    match Settings.load s.disk place.root place.config with
    | .error failure => .failing [] failure
    | .ok settings =>
      match Corpus.load s.disk place.root settings with
      | .error failure => .failing [] failure
      | .ok corpus =>
        match format with
        | .text =>
          match Inventory.render? colours corpus.inventory with
          | some table => { output := table }
          | none => { output := [], crashed := true }
        | .json => { output := (Inventory.toJson corpus.inventory).render ++ ['\n'] }

/-- Runs what a command line asks for. -/
def run (s : Surroundings) (invocation : Invocation) : Transcript :=
  let colours := s.environment.colours && !invocation.noColor
  match invocation.command with
  | .validate place format only verbose => s.validate colours place format only verbose
  | .agents place format => s.agents colours place format
  | .rules format => listRules format
  | .version => { output := versionLine }

end Surroundings

end CorpusLint
