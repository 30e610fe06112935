import CorpusLint.Rule.Basic

/-!
# Verdicts

What a rule has to say about a document: that it passes, or one thing that is wrong with it.
-/

namespace CorpusLint

inductive Status where
  | pass
  | fail
deriving DecidableEq, Repr

def Status.name : Status → Text
  | .pass => "pass".toList
  | .fail => "fail".toList

/-- What a rule says about a document. -/
structure Verdict where
  rule : Rule
  status : Status
  /-- The identifier of the document. -/
  document : Text
  line : Option Nat
  message : Text
deriving DecidableEq, Repr

/-- One thing that is wrong with a document. -/
structure Violation where
  line : Option Nat
  message : Text
deriving DecidableEq, Repr

namespace Verdict

def isFailure (v : Verdict) : Bool :=
  v.status == .fail

/-- Where the verdict points: the document and, if there is one, the line. -/
def location (v : Verdict) : Text :=
  match v.line with
  | some line => v.document ++ ':' :: Text.ofNat line
  | none => v.document

/-- The verdicts on one document: one failure for each violation and, where there is none, one that
lets it pass. -/
def group (rule : Rule) (d : Document) (praise : Text) (violations : List Violation) :
    List Verdict :=
  match violations with
  | [] => [⟨rule, .pass, d.id, none, praise⟩]
  | violations => violations.map (fun v => ⟨rule, .fail, d.id, v.line, v.message⟩)

end Verdict

end CorpusLint
