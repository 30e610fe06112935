import CorpusLint.Text.Basic

/-!
# Arguments

A command line names one of four commands and its options. Colours can be switched off before the
command or among its options. An option's value follows in the next argument or after an equals
sign; in the next argument it does not begin with a hyphen, unless it is one. An option is given at
most once, except for the one that names rules.
-/

namespace CorpusLint

inductive Flag where
  | root
  | config
  | format
  | rule
  | verbose
  | noColor
deriving DecidableEq, Repr

namespace Flag

def spellings : Flag → List Text
  | root => ["--root".toList]
  | config => ["--config".toList]
  | format => ["--format".toList]
  | rule => ["--rule".toList]
  | verbose => ["--verbose".toList, "-v".toList]
  | noColor => ["--no-color".toList]

def takesValue : Flag → Bool
  | root | config | format | rule => true
  | verbose | noColor => false

/-- Whether the value names a path, which may not be empty. -/
def isPath : Flag → Bool
  | root | config => true
  | _ => false

def isRepeatable : Flag → Bool
  | rule => true
  | _ => false

end Flag

/-- An option that was given, with its value; one without a value has the empty text. -/
structure GivenOption where
  flag : Flag
  value : Text
deriving DecidableEq, Repr

namespace GivenOption

/-- Whether the value suits the option. -/
def isValid (o : GivenOption) : Bool :=
  !(o.flag.isPath && o.value.isEmpty)

end GivenOption

namespace Arguments

/-- The name of an option and the value after its equals sign. -/
def splitEquals (argument : Text) : Text × Option Text :=
  let name := argument.takeWhile (· != '=')
  match argument.dropWhile (· != '=') with
  | [] => (name, none)
  | _ :: value => (name, some value)

/-- Whether an argument is read as an option even where a value is expected. -/
def looksLikeOption (argument : Text) : Bool :=
  argument.head? = some '-' && argument != ['-']

/-- The options among the arguments, in order. Nothing but an option is accepted, and nothing at all
after two hyphens. -/
def readOptions (allowed : List Flag) : List Text → Option (List GivenOption)
  | [] => some []
  | argument :: rest =>
    if argument = "--".toList then
      if rest.isEmpty then some [] else none
    else
      let (name, attached) := splitEquals argument
      match allowed.find? (·.spellings.contains name) with
      | none => none
      | some flag =>
        if flag.takesValue then
          match attached, rest with
          | some value, rest => (readOptions allowed rest).map (⟨flag, value⟩ :: ·)
          | none, value :: rest =>
            if looksLikeOption value then none
            else (readOptions allowed rest).map (⟨flag, value⟩ :: ·)
          | none, [] => none
        else if attached.isNone then (readOptions allowed rest).map (⟨flag, []⟩ :: ·)
        else none

/-- Whether no option is given twice that may be given once. -/
def noneRepeated (options : List GivenOption) : Bool :=
  options.all fun o => o.flag.isRepeatable || options.countP (·.flag == o.flag) == 1

/-- The options of a command, if they can be read and suit it. -/
def options? (allowed : List Flag) (arguments : List Text) : Option (List GivenOption) :=
  match readOptions allowed arguments with
  | none => none
  | some options =>
    if noneRepeated options && options.all GivenOption.isValid then some options else none

def values (flag : Flag) (options : List GivenOption) : List Text :=
  (options.filter (·.flag == flag)).map GivenOption.value

/-- The value of an option that is given at most once. -/
def value? (flag : Flag) (options : List GivenOption) : Option Text :=
  (values flag options).head?

def has (flag : Flag) (options : List GivenOption) : Bool :=
  options.any (·.flag == flag)

end Arguments

structure Place where
  root : Text
  config : Option Text
deriving DecidableEq, Repr

inductive Command where
  | validate (place : Place) (format : Text) (rules : List Text) (verbose : Bool)
  | agents (place : Place) (format : Text)
  | rules (format : Text)
  | version
deriving DecidableEq, Repr

/-- The place of the corpus that a command looks at. -/
def Command.place? : Command → Option Place
  | .validate place .. | .agents place _ => some place
  | .rules _ | .version => none

/-- What a command line asks for. -/
structure Invocation where
  command : Command
  noColor : Bool
deriving DecidableEq, Repr

namespace Invocation

open Arguments

def placeOf (options : List GivenOption) : Place :=
  ⟨(value? .root options).getD ".".toList, value? .config options⟩

def formatOf (options : List GivenOption) : Text :=
  (value? .format options).getD "text".toList

/-- The invocation of a command with its arguments. -/
def ofCommand? (noColor : Bool) : List Text → Option Invocation
  | [] => none
  | name :: arguments =>
    let finish (command : List GivenOption → Command) (options : List GivenOption) : Invocation :=
      ⟨command options, noColor || has .noColor options⟩
    if name = "validate".toList || name = "v".toList then
      (options? [.root, .config, .format, .rule, .verbose, .noColor] arguments).map
        (finish fun o => .validate (placeOf o) (formatOf o) (values .rule o) (has .verbose o))
    else if name = "agents".toList || name = "a".toList then
      (options? [.root, .config, .format, .noColor] arguments).map
        (finish fun o => .agents (placeOf o) (formatOf o))
    else if name = "rules".toList then
      (options? [.format, .noColor] arguments).map (finish fun o => .rules (formatOf o))
    else if name = "version".toList then
      (options? [.noColor] arguments).map (finish fun _ => .version)
    else none

/-- What the arguments ask for. -/
def ofArguments? : List Text → Option Invocation
  | [] => none
  | argument :: rest =>
    if Flag.noColor.spellings.contains argument then ofCommand? true rest
    else ofCommand? false (argument :: rest)

end Invocation

end CorpusLint
