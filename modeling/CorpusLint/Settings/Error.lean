import CorpusLint.Toml.Basic

/-!
# Refused settings

Why a text does not hold settings: it defines no table, its values do not fit the settings, or a
setting that must not be blank is. A misfit comes with a sentence that says where the value and the
expectation part, unless nothing can be said of the value.
-/

namespace CorpusLint

/-- What a value is expected to be. -/
inductive Expectation where
  | text
  /-- A string that names a directory. -/
  | path
  | sequence
  | collections
  | rules
  | route
deriving DecidableEq, Repr

def Expectation.name : Expectation → Text
  | .text => "a string".toList
  | .path => "path string".toList
  | .sequence => "a sequence".toList
  | .collections => "struct CollectionsConfig".toList
  | .rules => "struct RulesConfig".toList
  | .route => "struct PinnedRoute".toList

/-- How a well-formed value fails to be a setting. -/
inductive Misfit where
  /-- A key that is none of the `known` ones. -/
  | unknownField (key : Text) (known : List Text)
  | missingField (key : Text)
  /-- A value of another kind. -/
  | wrongKind (found : Text) (expected : Expectation)
  /-- A route that is written as an array of too few elements. -/
  | shortRoute (length : Nat)
  /-- A number that the machine has no value for. -/
  | valueless
deriving DecidableEq, Repr

namespace Misfit

/-- A name between backticks. -/
def ticked (name : Text) : Text :=
  "`".toList ++ name ++ "`".toList

/-- The keys that would have been right: two are joined by "or", more are listed. -/
def alternatives (known : List Text) : Text :=
  match known with
  | [a, b] => ticked a ++ " or ".toList ++ ticked b
  | known => "one of ".toList ++ Text.joinWith ", ".toList (known.map ticked)

/-- The sentence that explains the misfit. There is none for a number without a value. -/
def sentence? : Misfit → Option Text
  | unknownField key known =>
    some ("unknown field ".toList ++ ticked key ++ ", expected ".toList ++ alternatives known)
  | missingField key => some ("missing field ".toList ++ ticked key)
  | wrongKind found expected =>
    some ("invalid type: ".toList ++ found ++ ", expected ".toList ++ expected.name)
  | shortRoute length =>
    some ("invalid length ".toList ++ Text.ofNat length ++ ", expected ".toList ++
      Expectation.route.name ++ " with 2 elements".toList)
  | valueless => none

end Misfit

inductive NeededSetting where
  | writeCapability
  | extension
deriving DecidableEq, Repr

def NeededSetting.name : NeededSetting → Text
  | .writeCapability => "rules.write_capability".toList
  | .extension => "collections.extension".toList

/-- Why a text was refused as settings. -/
inductive SettingsError where
  /-- The text defines no table. -/
  | unreadable (cause : Toml.Fault)
  /-- The values do not fit the settings. -/
  | misfit (cause : Misfit)
  /-- A setting is blank that must not be. -/
  | blank (setting : NeededSetting)
deriving DecidableEq, Repr

namespace SettingsError

def message : SettingsError → Text
  | unreadable cause => cause.message
  | misfit _ => "TOML parse error".toList
  | blank setting => setting.name ++ " must not be empty".toList

/-- The sentence that explains a misfit. -/
def detail? : SettingsError → Option Text
  | misfit cause => cause.sentence?
  | unreadable _ | blank _ => none

end SettingsError

end CorpusLint
