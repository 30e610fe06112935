import CorpusLint.Disk
import CorpusLint.Failure
import CorpusLint.Settings.Basic
import CorpusLint.Settings.Error
import CorpusLint.Text.Blank
import CorpusLint.Text.Quoted
import CorpusLint.Toml.Document

/-!
# Settings from a document

A document is laid over the default settings: a key that is there replaces the setting, a list as a
whole, and a key that is not there leaves the default. A key that is no setting is refused, and so
is a value of another kind than the setting has. The entries of a table are taken by their keys, in
order, so that the first fault decides. A table of settings may also be written as an array, whose
elements are the fields in the order of their declaration.

The document is read from the file that was asked for, or else from the usual file in the root
directory. Where that file does not exist, the defaults apply; one that was asked for has to exist.
-/

namespace CorpusLint

namespace Toml.Value

/-- What a message calls an integer. The machine knows them up to 64 bits, and some beyond. -/
def describeInteger (n : Int) : Except Misfit Text :=
  let written := "integer ".toList ++ Misfit.ticked (Text.ofInt n)
  let bound (bits : Nat) : Int := Nat.pow 2 bits
  if -bound 63 ≤ n && n < bound 64 then .ok written
  else if -bound 127 ≤ n && n < bound 127 then .ok (written ++ " as i128".toList)
  else if 0 ≤ n && n < bound 128 then .ok (written ++ " as u128".toList)
  else .error .valueless

/-- What a message calls a value. A number that the machine does not know has no name. -/
def describe : Value → Except Misfit Text
  | string t => .ok ("string ".toList ++ t.quoted)
  | integer n => describeInteger n
  | float x => .ok ("floating point ".toList ++ Misfit.ticked x.toText)
  | valueless => .error .valueless
  | boolean b => .ok ("boolean ".toList ++ Misfit.ticked (if b then "true" else "false").toList)
  | array _ => .ok "sequence".toList
  | table _ | moment _ => .ok "map".toList

/-- The refusal of a value that is not what was expected. -/
def refuse {α : Type} (expected : Expectation) (v : Value) : Except Misfit α :=
  match v.describe with
  | .ok found => .error (.wrongKind found expected)
  | .error cause => .error cause

/-- The text of a string. -/
def toText (expected : Expectation) : Value → Except Misfit Text
  | string t => .ok t
  | v => v.refuse expected

/-- The elements of an array, each read by `element`. -/
def toList {α : Type} (element : Value → Except Misfit α) : Value → Except Misfit (List α)
  | array items => items.mapM element
  | v => v.refuse .sequence

/-- The one key of the table that a date or a time is read as. -/
def momentKey : Text :=
  "$__toml_private_datetime".toList

/-- The fields of a table, by their keys in order, or those of an array, by the given names.
Elements beyond the names are passed over. -/
def fields (expected : Expectation) (names : List Text) :
    Value → Except Misfit (List (Text × Value))
  | table entries => .ok (entries.mergeSort (fun e f => e.1.le f.1))
  | array items => .ok (names.zip items)
  | moment written => .ok [(momentKey, string written)]
  | v => v.refuse expected

end Toml.Value

open Toml (Value)

namespace CollectionSettings

def keys : List Text :=
  ["agents", "workflows", "commands", "agent_prefix", "extension"].map String.toList

/-- The settings with a value under a key. -/
def overlay (s : CollectionSettings) (field : Text × Value) : Except Misfit CollectionSettings :=
  let (key, v) := field
  if key = "agents".toList then (v.toText .path).map ({ s with agents := · })
  else if key = "workflows".toList then (v.toText .path).map ({ s with workflows := · })
  else if key = "commands".toList then (v.toText .path).map ({ s with commands := · })
  else if key = "agent_prefix".toList then (v.toText .text).map ({ s with agentStart := · })
  else if key = "extension".toList then (v.toText .text).map ({ s with extension := · })
  else .error (.unknownField key keys)

/-- The settings that a value lays over the defaults. -/
def ofValue (v : Value) : Except Misfit CollectionSettings :=
  (v.fields .collections keys).bind (List.foldlM overlay {})

end CollectionSettings

namespace PinnedRoute

def keys : List Text :=
  ["workflow", "agent"].map String.toList

/-- A route of which not all is known yet. -/
structure Draft where
  workflow : Option Text := none
  agent : Option Text := none
deriving DecidableEq, Repr

/-- The route with a value under a key. -/
def Draft.overlay (s : Draft) (field : Text × Value) : Except Misfit Draft :=
  let (key, v) := field
  if key = "workflow".toList then (v.toText .text).map ({ s with workflow := some · })
  else if key = "agent".toList then (v.toText .text).map ({ s with agent := some · })
  else .error (.unknownField key keys)

/-- The route of which all is known. What is missing depends on how the route was written. -/
def Draft.finish (v : Value) (s : Draft) : Except Misfit PinnedRoute :=
  match s.workflow, s.agent with
  | some workflow, some agent => .ok ⟨workflow, agent⟩
  | workflow, _ =>
    match v with
    | .array items => .error (.shortRoute items.length)
    | _ =>
      .error (.missingField (if workflow.isNone then "workflow" else "agent").toList)

/-- The route that a value describes. It has no defaults. -/
def ofValue (v : Value) : Except Misfit PinnedRoute :=
  (v.fields .route keys).bind fun fields =>
    (fields.foldlM Draft.overlay {}).bind (Draft.finish v)

end PinnedRoute

namespace RuleSettings

def keys : List Text :=
  ["write_capability", "required_fields", "pinned_routes", "disabled"].map String.toList

/-- The settings with a value under a key. -/
def overlay (s : RuleSettings) (field : Text × Value) : Except Misfit RuleSettings :=
  let (key, v) := field
  if key = "write_capability".toList then (v.toText .text).map ({ s with writeCapability := · })
  else if key = "required_fields".toList then
    (v.toList (Value.toText .text)).map ({ s with requiredFields := · })
  else if key = "pinned_routes".toList then
    (v.toList PinnedRoute.ofValue).map ({ s with pinnedRoutes := · })
  else if key = "disabled".toList then
    (v.toList (Value.toText .text)).map ({ s with disabled := · })
  else .error (.unknownField key keys)

/-- The settings that a value lays over the defaults. -/
def ofValue (v : Value) : Except Misfit RuleSettings :=
  (v.fields .rules keys).bind (List.foldlM overlay {})

end RuleSettings

namespace Settings

def keys : List Text :=
  ["collections", "rules"].map String.toList

/-- The settings with a value under a key. -/
def overlay (s : Settings) (field : Text × Value) : Except Misfit Settings :=
  let (key, v) := field
  if key = "collections".toList then
    (CollectionSettings.ofValue v).map ({ s with collections := · })
  else if key = "rules".toList then (RuleSettings.ofValue v).map ({ s with rules := · })
  else .error (.unknownField key keys)

/-- The settings that the entries of a document lay over the defaults. -/
def ofEntries (entries : List (Text × Value)) : Except Misfit Settings :=
  (entries.mergeSort (fun e f => e.1.le f.1)).foldlM overlay {}

/-- The settings, if those that must not be blank are not. -/
def checkBlank (s : Settings) : Except SettingsError Settings :=
  if s.rules.writeCapability.isBlank then .error (.blank .writeCapability)
  else if s.collections.extension.isBlank then .error (.blank .extension)
  else .ok s

/-- The settings that a text describes. -/
def parse (t : Text) : Except SettingsError Settings :=
  match Toml.parse t with
  | .error cause => .error (.unreadable cause)
  | .ok entries =>
    match ofEntries entries with
    | .error cause => .error (.misfit cause)
    | .ok s => s.checkBlank

end Settings

/-! ## Settings files -/

namespace Settings

/-- The settings in a file, given by its path and its bytes. -/
def ofFile (path : Text) (bytes : ByteArray) : Except Failure Settings :=
  match Text.ofUtf8? bytes with
  | none => .error .invalidUtf8
  | some t => (parse t).mapError (Failure.badSettings (some path))

/-- The file that the settings are read from: the explicit one, or the usual one below the root
directory. -/
def pathFor (root : Text) (explicit : Option Text) : Text :=
  explicit.getD (Path.join root fileName)

/-- The settings of a corpus, from an explicit file or from the usual one. -/
def load (disk : Disk) (root : Text) (explicit : Option Text) : Except Failure Settings :=
  match disk.file? (pathFor root explicit) with
  | some bytes => ofFile (pathFor root explicit) bytes
  | none =>
    match explicit with
    | some path => .error (.missingSettings path)
    | none => .ok {}

end Settings

end CorpusLint
