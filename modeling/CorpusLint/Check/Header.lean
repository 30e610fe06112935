import CorpusLint.Corpus
import CorpusLint.Text.Word
import CorpusLint.Verdict

/-!
# What a header declares

The rules that read nothing but the header of an agent: its skills and their names, its hooks, its
name, and the fields that the settings require.
-/

namespace CorpusLint

namespace Header

/-- What the names of the skills end with. -/
def skillEnd : Text :=
  "-workflow".toList

/-- Whether a skill is named by the convention: between the fixed beginning and the fixed end
stand one or more word characters and hyphens. -/
def isSkillName (skill : Text) : Bool :=
  match Text.dropStart? Document.skillStart skill with
  | none => false
  | some tail =>
    match Text.dropFinish? skillEnd tail with
    | none => false
    | some middle => !middle.isEmpty && middle.all (fun c => isWord c || c == '-')

def missingSkills (d : Document) : List Violation :=
  if Frontmatter.hasField d.header "skills".toList then []
  else [⟨none, "missing skills: in frontmatter".toList⟩]

/-- What is wrong with a skill that is not named by the convention. -/
def misnaming (skill : Text) : Violation :=
  ⟨none, "invalid skill name: ".toList ++ skill ++ " (expected gsd-<name>-workflow)".toList⟩

/-- The skills of an agent that are not named by the convention. -/
def misnamedSkills (d : Document) : List Violation :=
  (d.skills.filter (!isSkillName ·)).map misnaming

/-- How a header comments out its hooks. -/
def hooksMark : Text :=
  "# hooks:".toList

def missingHooks (d : Document) : List Violation :=
  if d.header.includes hooksMark then []
  else [⟨none, "missing commented \"".toList ++ hooksMark ++ "\" pattern in frontmatter".toList⟩]

def missingName (d : Document) : List Violation :=
  if d.header.includes "name:".toList then []
  else [⟨none, "frontmatter has no name: (malformed or missing header)".toList⟩]

/-- The required fields that do not stand in a header, each with its colon. -/
def absentFields (required : List Text) (header : Text) : List Text :=
  (required.map (· ++ [':'])).filter (!header.includes ·)

def missingFields (required : List Text) (d : Document) : List Violation :=
  match absentFields required d.header with
  | [] => []
  | absent => [⟨none, "missing ".toList ++ Text.joinWith ", ".toList absent⟩]

end Header

end CorpusLint
