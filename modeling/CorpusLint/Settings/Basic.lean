import CorpusLint.Text.Basic

/-!
# Settings

Where the three collections lie, how their members are named, and what the rules expect of them.
Every setting has a default, so that a corpus with the usual layout needs no settings at all.
-/

namespace CorpusLint

/-- Where the collections lie and how their members are named. -/
structure CollectionSettings where
  /-- The directory of the agents; a run needs it. -/
  agents : Text := "agents".toList
  /-- The directory of the workflows; a missing one is empty. -/
  workflows : Text := "get-shit-done/workflows".toList
  /-- The directory of the commands; a missing one is empty. -/
  commands : Text := "commands/gsd".toList
  /-- What the file name of an agent begins with. -/
  agentStart : Text := "gsd-".toList
  /-- The extension of all members, without the dot. -/
  extension : Text := "md".toList
deriving DecidableEq, Repr

/-- A workflow that has to spawn a certain agent. -/
structure PinnedRoute where
  workflow : Text
  agent : Text
deriving DecidableEq, Repr

/-- What the rules expect. -/
structure RuleSettings where
  /-- The tool that makes an agent file-writing. -/
  writeCapability : Text := "Write".toList
  requiredFields : List Text := ["name", "description", "tools", "color"].map String.toList
  pinnedRoutes : List PinnedRoute := [⟨"diagnose-issues".toList, "gsd-debugger".toList⟩]
  /-- The identifiers of the rules that run only on request. -/
  disabled : List Text := []
deriving DecidableEq, Repr

structure Settings where
  collections : CollectionSettings := {}
  rules : RuleSettings := {}
deriving DecidableEq, Repr

/-- The file that holds the settings of a corpus, in its root directory. -/
def Settings.fileName : Text :=
  ".agentlint.toml".toList

end CorpusLint
