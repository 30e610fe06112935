import CorpusLint.Evaluation
import CorpusLint.Report
import CorpusLint.Rule.Basic
import CorpusLint.Settings.Basic

/-!
# Validating a corpus

A run evaluates the rules that were asked for or, if none was, all that are not disabled. Unknown
identifiers are refused, those among the disabled ones first. The selection follows the catalog,
however often and in whatever order the rules were named: it is the part of the catalog that is
asked for. It is also what is left of the rules that were named when they are sorted and repetitions
are dropped.

The rules know nothing of each other, so that the report of a selection is that of each rule alone,
in the order of the catalog; it exists unless a rule cannot be evaluated.
-/

namespace CorpusLint

/-! ## Selecting rules -/

namespace Rule

/-- The rules with these identifiers; the first unknown one is refused. -/
def parseAll : List Text → Except Failure (List Rule)
  | [] => .ok []
  | id :: rest =>
    match parse id with
    | .error failure => .error failure
    | .ok r =>
      match parseAll rest with
      | .error failure => .error failure
      | .ok others => .ok (r :: others)

/-- The rules to evaluate: those named in `only` or, if there are none, all that the settings do not
disable. -/
def select (settings : RuleSettings) (only : List Text) : Except Failure (List Rule) :=
  match parseAll settings.disabled with
  | .error failure => .error failure
  | .ok disabled =>
    match only with
    | [] => .ok (catalog.filter (!disabled.contains ·))
    | only =>
      match parseAll only with
      | .error failure => .error failure
      | .ok named => .ok (catalog.filter named.contains)

/-- The rules without those that equal their successor. -/
def dropRepeats : List Rule → List Rule
  | [] => []
  | [r] => [r]
  | r :: s :: rest => if r = s then dropRepeats (s :: rest) else r :: dropRepeats (s :: rest)

/-- The rules to evaluate, made from those that were found: they are sorted, and repetitions are
dropped. -/
def selectBySorting (settings : RuleSettings) (only : List Text) : Except Failure (List Rule) :=
  match parseAll settings.disabled with
  | .error failure => .error failure
  | .ok disabled =>
    let found : Except Failure (List Rule) :=
      match only with
      | [] => .ok (catalog.filter (!disabled.contains ·))
      | only => parseAll only
    found.map fun rules => dropRepeats (rules.mergeSort fun r s => r.position ≤ s.position)

end Rule

/-! ## Evaluating them -/

/-- The milliseconds that the evaluation of each rule takes. -/
abbrev Clock := Rule → Nat

namespace Report

/-- The outcomes of rules, in the order in which they are given. A rule that cannot be evaluated
ends the run. -/
def outcomesOf (corpus : Corpus) (settings : RuleSettings) (clock : Clock) :
    List Rule → Except Failure (List Outcome)
  | [] => .ok []
  | rule :: rest =>
    match rule.evaluate corpus settings with
    | .error failure => .error failure
    | .ok verdicts =>
      match outcomesOf corpus settings clock rest with
      | .error failure => .error failure
      | .ok others => .ok (⟨rule, clock rule, verdicts⟩ :: others)

/-- The report of these rules on a corpus. -/
def evaluate (corpus : Corpus) (settings : RuleSettings) (clock : Clock) (rules : List Rule) :
    Except Failure Report :=
  (outcomesOf corpus settings clock rules).map ofOutcomes

/-- The report of the selected rules on a corpus. -/
def evaluateSelected (corpus : Corpus) (settings : RuleSettings) (clock : Clock)
    (only : List Text) : Except Failure Report :=
  (Rule.select settings only).bind (evaluate corpus settings clock)

end Report

end CorpusLint
