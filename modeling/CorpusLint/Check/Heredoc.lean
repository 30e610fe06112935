import CorpusLint.Fence
import CorpusLint.Verdict

/-!
# Heredocs

Agents are to write files with their tools and not by a heredoc of the shell. A line *writes by
heredoc* when it begins, after blanks, with `cat`, blanks, `<<`, the word `EOF` with or without
single quotes, and `>`. Lines inside a fenced block are examples and do not count, nor do lines that
warn against heredocs.
-/

namespace CorpusLint

namespace Heredoc

/-- The warning that every file-writing agent carries. -/
def warning : Text :=
  "never use `Bash(cat << 'EOF')` or heredoc".toList

/-- The words that mark a line as a warning. -/
def exemptions : List Text :=
  ["never use".toList, "NEVER".toList]

/-- Whether a line is a warning rather than an instruction. -/
def isExempt (line : Text) : Bool :=
  exemptions.any line.includes

/-- The text without a single quote at its beginning. -/
def skipQuote : Text → Text
  | '\'' :: t => t
  | t => t

/-- Whether a trimmed line begins with a heredoc that is written to a file. -/
def writesByHeredoc (line : Text) : Bool :=
  match Text.dropStart? "cat".toList line with
  | some (c :: afterName) =>
    isBlank c &&
      match Text.dropStart? "<<".toList (Text.trimStart afterName) with
      | some afterArrows =>
        match Text.dropStart? "EOF".toList (skipQuote afterArrows.trimStart) with
        | some afterWord => ">".toList.isPrefixOf (skipQuote afterWord).trimStart
        | none => false
      | none => false
  | _ => false

/-- Whether a line breaks the rule. -/
def isOffence (line : Text) : Bool :=
  !isExempt line && writesByHeredoc line.trim

/-- What is wrong with such a line. -/
def offence (line : NumberedLine) : Violation :=
  ⟨some line.number, "active heredoc pattern: ".toList ++ line.text.trim⟩

def violations (d : Document) : List Violation :=
  (d.raw.unfencedLines.filter (isOffence ·.text)).map offence

def missingWarning (d : Document) : List Violation :=
  if d.raw.includes warning then []
  else [⟨none, "missing anti-heredoc instruction: expected \"".toList ++ warning ++ "\"".toList⟩]

end Heredoc

end CorpusLint
