import CorpusLint.Json.Basic
import CorpusLint.Terminal
import CorpusLint.Verdict

/-!
# Reports

A report holds the outcome of every rule that was evaluated, in the order of the catalog. All else
is read off the outcomes: how many verdicts pass and fail, and which failures there are, by rule,
document and line.

There are two printed forms: lines for a reader, and an envelope for a program. The lines give each
rule with its counts, then the failures, then the totals. The envelope holds every outcome with all
its verdicts, under a stamp that tells runs apart.
-/

namespace CorpusLint

/-! ## Outcomes and totals -/

structure Outcome where
  rule : Rule
  /-- The milliseconds that its evaluation took. -/
  duration : Nat
  verdicts : List Verdict
deriving DecidableEq, Repr

namespace Outcome

/-- The number of verdicts that let a document pass. -/
def passed (o : Outcome) : Nat :=
  o.verdicts.countP (·.status == .pass)

def failed (o : Outcome) : Nat :=
  o.verdicts.countP (·.status == .fail)

end Outcome

structure Summary where
  /-- The number of outcomes. -/
  rules : Nat
  /-- The number of verdicts that let a document pass. -/
  passed : Nat
  failed : Nat
deriving DecidableEq, Repr

/-- Whether a verdict comes no later than another in a list of failures: the rules follow the
catalog, the documents their identifiers, and a verdict on a whole document precedes those on its
lines. -/
def Verdict.precedes (v w : Verdict) : Bool :=
  if v.rule = w.rule then
    if v.document = w.document then
      match v.line, w.line with
      | none, _ => true
      | some _, none => false
      | some m, some n => m ≤ n
    else v.document.le w.document
  else v.rule.position ≤ w.rule.position

/-- The outcomes of a run. -/
structure Report where
  /-- The outcomes, in the order in which they are printed. -/
  outcomes : List Outcome
deriving DecidableEq, Repr

namespace Report

/-- The report of these outcomes. They are put into the order of the catalog; outcomes of one rule
keep their order. -/
def ofOutcomes (outcomes : List Outcome) : Report :=
  ⟨outcomes.mergeSort (fun o p => o.rule.position ≤ p.rule.position)⟩

def verdicts (r : Report) : List Verdict :=
  r.outcomes.flatMap Outcome.verdicts

/-- The failures by rule, document and line; equal ones keep their order. -/
def failures (r : Report) : List Verdict :=
  (r.verdicts.filter Verdict.isFailure).mergeSort Verdict.precedes

def summary (r : Report) : Summary :=
  ⟨r.outcomes.length, r.outcomes.foldr (fun o n => o.passed + n) 0,
    r.outcomes.foldr (fun o n => o.failed + n) 0⟩

def isSuccess (r : Report) : Bool :=
  r.verdicts.all (!·.isFailure)

end Report

/-! ## Printed reports -/

/-- What tells one run from another. -/
structure Stamp where
  /-- When the run ended. -/
  time : Text
  /-- The identifier of the run. -/
  run : Text
deriving DecidableEq, Repr

namespace Outcome

/-- The line of a rule: a mark, the title and the counts; with `verbose` also the duration. -/
def renderLine (colours verbose : Bool) (o : Outcome) : Text :=
  let mark := if o.failed = 0 then Tint.green.paint colours "✓".toList
    else Tint.red.paint colours "✗".toList
  let time := if verbose then " [".toList ++ Text.ofNat o.duration ++ "ms]".toList else []
  mark ++ ' ' :: o.rule.title ++ " (".toList ++ Text.ofNat o.passed ++ " passed, ".toList ++
    Text.ofNat o.failed ++ " failed)".toList ++ time ++ ['\n']

end Outcome

namespace Verdict

/-- The line of a failure: the rule, the place and the message. -/
def renderFailure (colours : Bool) (v : Verdict) : Text :=
  "  [".toList ++ Tint.boldRed.paint colours "FAIL".toList ++ "] ".toList ++
    Tint.cyan.paint colours v.rule.id ++ ' ' :: v.location ++ ": ".toList ++ v.message ++ ['\n']

def toJson (v : Verdict) : Json :=
  let line := match v.line with
    | some n => [("line".toList, .number n)]
    | none => []
  .object (("document".toList, .text v.document) :: line ++
    [("message".toList, .text v.message), ("rule".toList, .text v.rule.id),
      ("status".toList, .text v.status.name)])

end Verdict

namespace Outcome

def toJson (o : Outcome) : Json :=
  .object [("duration_ms".toList, .number o.duration), ("rule".toList, .text o.rule.id),
    ("verdicts".toList, .array (o.verdicts.map Verdict.toJson))]

end Outcome

namespace Summary

def render (s : Summary) : Text :=
  "\nSummary: ".toList ++ Text.ofNat s.rules ++ " rules, ".toList ++ Text.ofNat s.passed ++
    " passed, ".toList ++ Text.ofNat s.failed ++ " failed\n".toList

def toJson (s : Summary) : Json :=
  .object [("failed".toList, .number s.failed), ("passed".toList, .number s.passed),
    ("rules".toList, .number s.rules)]

end Summary

namespace Report

/-- The failures of a report in lines, after an empty line; nothing where there are none. -/
def renderFailures (colours : Bool) (r : Report) : Text :=
  match r.failures with
  | [] => []
  | failures => '\n' :: failures.flatMap (Verdict.renderFailure colours)

def render (colours verbose : Bool) (r : Report) : Text :=
  r.outcomes.flatMap (Outcome.renderLine colours verbose) ++ r.renderFailures colours ++
    r.summary.render

/-- The version of the envelope's form. -/
def envelopeVersion : Text :=
  "1.0.0".toList

/-- The envelope of a report that `command` has made. -/
def toJson (command : Text) (stamp : Stamp) (r : Report) : Json :=
  .object [("cmd".toList, .text command), ("envelope_version".toList, .text envelopeVersion),
    ("rules".toList, .array (r.outcomes.map Outcome.toJson)), ("run_id".toList, .text stamp.run),
    ("status".toList, .text (if r.isSuccess then "ok".toList else "fail".toList)),
    ("summary".toList, r.summary.toJson), ("ts".toList, .text stamp.time)]

end Report

end CorpusLint
