import TextAdventure.CommandLine

/-!
# The program

The outer layer of the program: it reads lines, files and the environment, has the library answer,
and prints. Sessions are saved in files of a directory, of which the one that a turn is about is read
before the turn and written after it.
-/

namespace TextAdventure.Program

/-- A random text in the form of a universally unique identifier of version 4. -/
def freshSession : IO String := do
  let mut digits : List Char := []
  for i in List.range 32 do
    let n ← IO.rand 0 15
    let n := if i = 12 then 4 else if i = 16 then 8 + n % 4 else n
    if [8, 12, 16, 20].contains i then digits := digits ++ ['-']
    digits := digits ++ [Text.Hexadecimal.digit n]
  return String.ofList digits

/-- Whether a variable of the environment is set to something else than zero. -/
def isSet (name : String) : IO Bool := do
  return (← IO.getEnv name).any (· ≠ "0")

/-- Whether the terminal shows colors. -/
def hasColor : IO Bool := do
  let forced ← isSet "CLICOLOR_FORCE"
  let refused := (← IO.getEnv "NO_COLOR").isSome
  let terminal ← (← IO.getStdout).isTty
  let colors := ["truecolor", "24bit"].contains ((← IO.getEnv "COLORTERM").getD "")
  return colors && (forced || (terminal && !refused))

/-- The text of a file, if it can be read. -/
def readText (path : String) : IO (Option String) := do
  try return some (← IO.FS.readFile path) catch _ => return none

/-- What a file of a directory is, with no other files of it. -/
def readEntry (path name : String) : IO Directory := do
  try
    return .holding (Dictionary.ofList [(name, .file (← IO.FS.readFile path))])
  catch
    | .noFileOrDirectory .. => return .holding ∅
    | _ => return .holding (Dictionary.ofList [(name, .folder)])

/-- Makes a file of a directory what it has become. -/
def writeEntry (folder path name : String) (before after : Directory) : IO Unit := do
  match before.find name, after.find name with
  | .ok old, .ok (some (.file text)) =>
    unless old = some (.file text) do
      unless folder.isEmpty do IO.FS.createDirAll folder
      IO.FS.writeFile path text
  | .ok (some _), .ok none => IO.FS.removeFile path
  | _, _ => return

/-- Where a conversation keeps its sessions from one turn to the next. -/
inductive Keeping where
  | memory (sessions : Memory)
  | files (path : String)

/-- Runs a turn that is about one session. -/
def turn {α : Type} (keeping : Keeping) (session : String)
    (inMemory : Attempt Memory ResolveError α) (inFiles : Attempt Files ResolveError α) :
    IO (Except ResolveError α × Keeping) := do
  match keeping with
  | .memory sessions =>
    let (answer, sessions) := inMemory.run.run sessions
    return (answer, .memory sessions)
  | .files path =>
    let name := fileName session
    let files : Files := { worlds := CommandLine.worlds, path }
    let file := files.pathOf name
    let directory ← readEntry file name
    let (answer, files) := inFiles.run.run { files with directory }
    writeEntry path file name directory files.directory
    return (answer, keeping)

/-- The session that a line is about. -/
def sessionOf (options : Options) (fresh line : String) : String :=
  if options.json then
    match (Wire.read line : Except Json.Fault Action) with
    | .ok action => action.sessionId
    | .error _ => ""
  else options.session.getD fresh

/-- Says why a conversation broke off. -/
def breakOff (error : ResolveError) : IO UInt32 := do
  IO.eprint error.complaint
  return 1

/-- Prints at once. -/
def say (text : String) : IO Unit := do
  IO.print text
  (← IO.getStdout).flush

/-- Talks line by line. -/
partial def talk (settings : Settings) (options : Options) (color : Bool) (fresh : String)
    (keeping : Keeping) : IO UInt32 := do
  let seed ← IO.rand 0 (2 ^ 32)
  let r := CommandLine.resolver settings fun _ _ => seed
  let memory := CommandLine.conversation options r Memory.store color fresh
  let files := CommandLine.conversation options r Files.store color fresh
  let line ← (← IO.getStdin).getLine
  if line.isEmpty then
    say memory.closing
    return 0
  let (answer, keeping) ←
    turn keeping (sessionOf options fresh line) (memory.turn line.toList) (files.turn line.toList)
  match answer with
  | .error error => breakOff error
  | .ok turn =>
    say turn.shown
    if turn.ends then
      say memory.closing
      return 0
    talk settings options color fresh keeping

/-- Begins to talk. -/
def begin (options : Options) : IO UInt32 := do
  let path := (← IO.getEnv "PARLEY_CONFIG").getD CommandLine.settingsPath
  let settings := Settings.ofFile (← readText path)
  let color ← hasColor
  let fresh ← freshSession
  let r := CommandLine.resolver settings fun _ _ => 0
  let memory := CommandLine.conversation options r Memory.store color fresh
  let files := CommandLine.conversation options r Files.store color fresh
  let keeping : Keeping :=
    match settings.sessionDir with
    | none => .memory { worlds := CommandLine.worlds }
    | some path => .files path
  say memory.greeting
  let (answer, keeping) ← turn keeping (sessionOf options fresh "") memory.opening files.opening
  match answer with
  | .error error => breakOff error
  | .ok shown =>
    say shown
    talk settings options color fresh keeping

end TextAdventure.Program

open TextAdventure in
/-- Runs the program. -/
def main (arguments : List String) : IO UInt32 := do
  match Options.read {} arguments with
  | .error error =>
    IO.eprint (complain error.describe [])
    return 1
  | .ok .usage =>
    IO.println usage
    return 0
  | .ok .version =>
    IO.println ("parley " ++ version)
    return 0
  | .ok (.talk options) => Program.begin options
