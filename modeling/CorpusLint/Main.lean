import CorpusLint.CommandLine.Run
import Std.Time.DateTime.Timestamp

/-!
# The program

The files that a command needs are read first, then the command is run on them, and what it has
printed is written out. Nothing is decided here.

A run is told from others by 26 characters, each one of 32 digits and letters. The first ten are the
time in milliseconds, so that identifiers sort by time; the others are chosen at random.
-/

namespace CorpusLint

namespace RunId

/-- The characters that stand for the numbers below 32. Letters that look like digits are left
out. -/
def symbols : Text :=
  "0123456789ABCDEFGHJKMNPQRSTVWXYZ".toList

/-- The last `count` places of a number in base 32. -/
def places : Nat → Nat → Text
  | 0, _ => []
  | count + 1, n => places count (n / 32) ++ [symbols.getD (n % 32) '0']

/-- The identifier of a run that begins at this time. -/
def make (milliseconds random : Nat) : Text :=
  places 10 milliseconds ++ places 16 random

end RunId

namespace Program

/-- The bytes of a file, or a directory without its entries. There is nothing else to see. -/
def readNode (entry : IO.FS.DirEntry) : IO (Option FileTree) := do
  try
    match (← entry.path.metadata).type with
    | .file => return some (.file (← IO.FS.readBinFile entry.path))
    | .dir => return some (.directory [])
    | _ => return none
  catch _ => return none

/-- What a path leads to on this computer. Of a directory inside a directory only its existence
counts. -/
def lookUp (path : Text) : IO (Option FileTree) := do
  if path.isEmpty then
    return none
  let place : IO.FS.DirEntry := ⟨← IO.currentDir, String.ofList path⟩
  match ← readNode place with
  | some (.directory _) =>
    let entries ← (← place.path.readDir).toList.mapM fun entry => do
      return (← readNode entry).map (entry.fileName.toList, ·)
    return some (.directory (entries.filterMap id))
  | node => return node

/-- The disk on which only these paths lead anywhere. -/
def diskOf (paths : List Text) : IO Disk := do
  let found ← paths.mapM fun path => return (path, ← lookUp path)
  return fun path => (found.lookup path).join

/-- The disk that a command looks at: the settings, then the directories that these name. -/
def diskFor (place : Place) : IO Disk := do
  let settingsPath := place.settingsPath
  let disk ← diskOf [settingsPath]
  match Settings.load disk place.root place.config with
  | .error _ => return disk
  | .ok settings => diskOf (settingsPath :: settings.collections.directories place.root)

/-- The value of a variable of the environment. -/
def readVariable (name : String) : IO (Option Text) := do
  return (← IO.getEnv name).map String.toList

/-- The environment of the program. -/
def environment : IO Environment := do
  return {
    trace := ← readVariable "AGENTLINT_VALIDATE_TRACE"
    noColor := ← readVariable "NO_COLOR"
    clicolor := ← readVariable "CLICOLOR"
    clicolorForce := ← readVariable "CLICOLOR_FORCE"
    terminal := ← (← IO.getStdout).isTty }

/-- The time in seconds, and an identifier that no other run has. -/
def stamp : IO Stamp := do
  let milliseconds := (← Std.Time.Timestamp.now).toMillisecondsSinceUnixEpoch.val.toNat
  let random := (← IO.getRandomBytes 10).foldl (fun n byte => 256 * n + byte.toNat) 0
  return ⟨Text.ofNat (milliseconds / 1000) ++ ['Z'], RunId.make milliseconds random⟩

/-- How long each rule takes on a corpus. -/
def measure (corpus : Corpus) (settings : RuleSettings) (rules : List Rule) : IO Clock := do
  let times ← rules.mapM fun rule => do
    let before ← IO.monoMsNow
    let _ ← IO.lazyPure fun _ => rule.evaluate corpus settings
    return (rule, (← IO.monoMsNow) - before)
  return fun rule => (times.lookup rule).getD 0

/-- How long the rules take that a command evaluates. -/
def clockFor (disk : Disk) (command : Command) : IO Clock := do
  match command with
  | .validate place _ only _ =>
    match Settings.load disk place.root place.config with
    | .error _ => return fun _ => 0
    | .ok settings =>
      match prepare disk place.root settings only with
      | .error _ => return fun _ => 0
      | .ok (rules, corpus) => measure corpus settings.rules rules
  | _ => return fun _ => 0

/-- How the program is used. -/
def usage : String :=
  "Usage: agentlint [--no-color] <validate|agents|rules|version> [OPTIONS]"

/-- Runs what the arguments ask for, and gives the exit status. -/
def run (arguments : List String) : IO UInt32 := do
  match Invocation.ofArguments? (arguments.map String.toList) with
  | none =>
    IO.eprintln usage
    return 2
  | some invocation =>
    let disk ← match invocation.command.place? with
      | some place => diskFor place
      | none => pure fun _ => none
    let clock ← clockFor disk invocation.command
    let surroundings : Surroundings :=
      { disk, environment := ← environment, stamp := ← stamp, clock }
    let transcript := surroundings.run invocation
    for line in transcript.traceLines do
      IO.eprintln (String.ofList line)
    IO.print (String.ofList transcript.output)
    unless transcript.errorLine.isEmpty do
      IO.eprintln (String.ofList transcript.errorLine)
    return UInt32.ofNat transcript.exitStatus

end Program

end CorpusLint

/-- The entry point of the program. -/
def main (arguments : List String) : IO UInt32 :=
  CorpusLint.Program.run arguments
