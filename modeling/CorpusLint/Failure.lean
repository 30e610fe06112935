import CorpusLint.Document
import CorpusLint.Settings.Error

/-!
# Failures

The causes that end a run, each with its kind, its message and its exit status. Checks that fail
end a run with status 1; whatever keeps the checks from being made ends it with status 2.
-/

namespace CorpusLint

inductive FailureKind where
  /-- A file could not be read. -/
  | io
  /-- Something that a run needs is not there. -/
  | notFound
  /-- The settings or the arguments make no sense. -/
  | config
  /-- Checks have failed. -/
  | validation
deriving DecidableEq, Repr

/-- What a message of this kind begins with. -/
def FailureKind.label : FailureKind → Text
  | .io => "I/O error".toList
  | .notFound => "Not found".toList
  | .config => "Config error".toList
  | .validation => "Validation error".toList

/-- Why a run ended early or badly. -/
inductive Failure where
  | invalidUtf8
  /-- The settings file that was asked for is not there. -/
  | missingSettings (path : Text)
  /-- The directory of a collection that a run needs is not there. -/
  | missingDirectory (collection : Collection) (path : Text)
  /-- A pinned workflow is not in the corpus that was read from `root`. -/
  | missingWorkflow (name root : Text)
  | unknownRule (id : Text)
  | unknownFormat (word : Text)
  /-- Settings, read from a file or not, that make no sense. -/
  | badSettings (file : Option Text) (cause : SettingsError)
  | failedChecks (count : Nat)
deriving DecidableEq, Repr

namespace Failure

def kind : Failure → FailureKind
  | invalidUtf8 => .io
  | missingSettings _ | missingDirectory _ _ | missingWorkflow _ _ => .notFound
  | unknownRule _ | unknownFormat _ | badSettings _ _ => .config
  | failedChecks _ => .validation

/-- What happened, without the kind. -/
def reason : Failure → Text
  | invalidUtf8 => "stream did not contain valid UTF-8".toList
  | missingSettings path => "config file ".toList ++ path
  | missingDirectory collection path => collection.name ++ " directory ".toList ++ path
  | missingWorkflow name root =>
    "workflow '".toList ++ name ++ "' required by rule pinned-routes (looked in ".toList ++ root ++
      ")".toList
  | unknownRule id => "unknown rule id '".toList ++ id ++ "'".toList
  | unknownFormat word =>
    "unknown format '".toList ++ word ++ "' (expected 'text' or 'json')".toList
  | badSettings none cause => cause.message
  | badSettings (some file) cause => file ++ ": ".toList ++ cause.message
  | failedChecks count => Text.ofNat count ++ " check(s) failed.".toList

def message (f : Failure) : Text :=
  f.kind.label ++ ": ".toList ++ f.reason

/-- The sentence that explains settings that do not fit. -/
def detail? : Failure → Option Text
  | badSettings _ cause => cause.detail?
  | _ => none

def exitStatus (f : Failure) : Nat :=
  match f.kind with
  | .validation => 1
  | _ => 2

end Failure

end CorpusLint
