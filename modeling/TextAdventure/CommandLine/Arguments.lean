import TextAdventure.Conversation.Game

/-!
# Arguments of the command line
-/

namespace TextAdventure

/-- How the program is to talk, and to whom. -/
structure Options where
  json : Bool := false
  /-- The session that is played; a fresh one if it is not given. -/
  session : Option String := none
deriving DecidableEq

/-- What the arguments ask for. -/
inductive Request where
  | talk (options : Options)
  | usage
  | version
deriving DecidableEq

inductive ArgumentError where
  | noSession
  | unknown (argument : String)
deriving DecidableEq

/-- How the program is called. -/
def usage : String :=
  String.intercalate "\n" [
    "usage: parley [--json] [--session <id>]",
    "",
    "  --json            read Action JSON lines on stdin, write ActionResult JSON lines on stdout",
    "  --session <id>    play as this session id (default: a fresh random id)",
    "",
    "Settings are read from parley.toml, or from the file named by $PARLEY_CONFIG."]

def ArgumentError.describe : ArgumentError → String
  | noSession => "--session needs an id"
  | unknown argument => "unknown argument '" ++ argument ++ "'\n\n" ++ usage

namespace Options

/-- What further arguments ask for: one that asks for help or the version settles it, and the first
one that means nothing is an error. -/
def read (options : Options) : List String → Except ArgumentError Request
  | [] => .ok (.talk options)
  | "--json" :: rest => read { options with json := true } rest
  | "--session" :: id :: rest => read { options with session := id } rest
  | ["--session"] => .error .noSession
  | "--help" :: _ => .ok .usage
  | "-h" :: _ => .ok .usage
  | "--version" :: _ => .ok .version
  | "-V" :: _ => .ok .version
  | other :: _ => .error (.unknown other)

end Options

end TextAdventure
