import TextAdventure.CommandLine.Arguments
import TextAdventure.Conversation.Json
import TextAdventure.Cottage
import TextAdventure.Settings.File
import TextAdventure.Store.Memory
import TextAdventure.Store.Tree
import TextAdventure.VerbTable

/-!
# The command line

The program plays the cottage: with one player at a prompt, or with many in lines of JSON. It reads
its settings from a file, and saves sessions if they name a directory for them.
-/

namespace TextAdventure

/-- What a run of the program leaves behind, apart from files. -/
structure Report where
  code : Nat := 0
  out : String := ""
  err : String := ""
deriving DecidableEq

/-- A text of several lines, indented from the second one on. -/
def hanging (indent text : String) : String :=
  String.ofList (Text.replaceAll ['\n'] ('\n' :: indent.toList) text.toList)

/-- Causes below one another, with numbers if there are several. -/
def listCauses : List String → String
  | [] => ""
  | [cause] => "\n\nCaused by:\n    " ++ hanging "    " cause
  | causes =>
    "\n\nCaused by:" ++ String.join (causes.mapIdx fun i cause =>
      "\n    " ++ Decimal.ofNat i ++ ": " ++ hanging "       " cause)

/-- What is said of an error that ends the program. -/
def complain (error : String) (causes : List String) : String :=
  "Error: " ++ error ++ listCauses causes ++ "\n"

/-- The causes of a store's failure, the nearest first. -/
def StoreError.causes : StoreError → List String
  | error@(.file _ fault) => [error.describe, fault.describe]
  | error => [error.describe]

def ResolveError.complaint (error : ResolveError) : String :=
  complain error.task.describe error.cause.causes

def Transcript.report (t : Transcript) : Report :=
  match t.failure with
  | none => { out := t.shown }
  | some error => { code := 1, out := t.shown, err := error.complaint }

namespace CommandLine

/-- The settings file that is read where no other is named. -/
def settingsPath : String := "parley.toml"

/-- What a run depends on, apart from files. -/
structure Invocation where
  arguments : List String
  typed : String := ""
  /-- The settings file, if one is named. -/
  settingsPath : Option String := none
  /-- Whether the output is colored. -/
  color : Bool := false
  /-- The session that is played where none is named. -/
  freshSession : String
  /-- Draws one of the prompts of an idle game. -/
  draw : Session → Option String → Nat := fun _ _ => 0

/-- The resolver of the cottage. -/
def resolver (settings : Settings) (draw : Session → Option String → Nat) : Resolver where
  verbs := VerbTable.standard settings (pick draw Verbs.idlePrompts)
  settings := settings

/-- The conversation that the options ask for. -/
def conversation {κ : Type} (options : Options) (r : Resolver) (store : Store κ) (color : Bool)
    (freshSession : String) : Conversation κ :=
  if options.json then r.jsonConversation store
  else r.game store color (options.session.getD freshSession)

/-- The worlds that can be played. -/
def worlds : Shelf := shelve [Cottage.world]

/-- A run that talks. -/
def talk (i : Invocation) (options : Options) (tree : Tree) : Report × Tree :=
  let settings := Settings.ofFile (tree.read (i.settingsPath.getD settingsPath))
  let r := resolver settings i.draw
  match settings.sessionDir with
  | none =>
    let c := conversation options r Memory.store i.color i.freshSession
    ((c.run i.typed { worlds }).1.report, tree)
  | some path =>
    let c := conversation options r Files.store i.color i.freshSession
    let (transcript, files) := c.run i.typed { worlds, path, directory := tree.directory path }
    (transcript.report, tree.replace path files.directory)

/-- A whole run of the program. -/
def run (i : Invocation) (tree : Tree) : Report × Tree :=
  match Options.read {} i.arguments with
  | .error error => ({ code := 1, err := complain error.describe [] }, tree)
  | .ok .usage => ({ out := usage ++ "\n" }, tree)
  | .ok .version => ({ out := "parley " ++ version ++ "\n" }, tree)
  | .ok (.talk options) => talk i options tree

end CommandLine

end TextAdventure
