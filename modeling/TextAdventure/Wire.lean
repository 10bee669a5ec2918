import TextAdventure.Action
import TextAdventure.Json.Record
import TextAdventure.Settings

/-!
# The wire forms

Actions, outcomes, sessions and updates as JSON. Sets are lists and flags objects, both in code
point order. Fields that have nothing to say are left out and may be missing; fields of other names
are passed over.
-/

namespace TextAdventure

open Json (Coded Shape)

namespace Wire

instance : Coded String where
  write := Json.Writer.text
  read := Json.Reader.text "a string"

instance : Coded Bool where
  write := Json.Writer.bool
  read := Json.Reader.bool

instance : Coded UInt32 where
  write n := Json.Writer.nat n.toNat
  read := Json.Reader.word32

instance : Coded Flags where
  write flags :=
    Json.Writer.object (flags.toList.map fun entry => (entry.1, Json.Writer.text entry.2))
  read :=
    Json.Reader.object "a sequence" (fun key flags => do
      Json.Reader.colon
      return flags.insert key (← Coded.read)) ∅

instance : Coded IdSet where
  write ids := Json.Writer.list (ids.toList.map Json.Writer.text)
  read := Json.Reader.list "a sequence" (fun ids => return ids.insert (← Coded.read)) ∅

/-- The name of a verb, after its first quote. -/
def verbNamed : Json.Reader Verb := do
  let name ← Json.Reader.quoted
  match Verb.named? name with
  | some verb => return verb
  | none => Json.Reader.fail (.unknownVerb name (Verb.all.map Verb.name))

/-- Takes `null`, for a verb has nothing to go with it. -/
def nothing : Json.Reader Unit := do
  if (← Json.Reader.token .valueEnds) = 'n' then Json.Reader.word "null".toList
  else Json.Reader.mismatch "unit"

/-- A verb is its name, or an object with the name as its one key. -/
instance : Coded Verb where
  write verb := Json.Writer.text verb.name
  read := do
    match ← Json.Reader.token .valueEnds with
    | '"' =>
      Json.Reader.drop 1
      verbNamed
    | '\x7b' =>
      Json.Reader.drop 1
      unless (← Json.Reader.token .objectEnds) = '"' do Json.Reader.refuse .keyNotText
      Json.Reader.drop 1
      let verb ← verbNamed
      Json.Reader.colon
      nothing
      Json.Reader.skipBlanks
      if (← get).isEmpty then Json.Reader.fail .objectEnds
      unless ← Json.Reader.accept '\x7d' do Json.Reader.fail .noValue
      return verb
    | _ => Json.Reader.refuse .noValue

def sentence : Shape Sentence where
  name := "Sentence"
  start := {}
  fields := [
    .optional "subject" Sentence.subject fun s value => { s with subject := value },
    .optional "object" Sentence.object fun s value => { s with object := value },
    .optional "verb" Sentence.verb fun s value => { s with verb := value }]

instance : Coded Sentence := ⟨sentence.write, sentence.read⟩

def action : Shape Action where
  name := "Action"
  start := { sessionId := "", verb := .look }
  fields := [
    .needed "sessionId" Action.sessionId fun a value => { a with sessionId := value },
    .needed "type" Action.verb fun a value => { a with verb := value },
    .defaulted "sentence" Action.sentence fun a value => { a with sentence := value }]

instance : Coded Action := ⟨action.write, action.read⟩

def update : Shape Update where
  name := "SessionDiff"
  start := {}
  fields := [
    .optional "room" Update.room fun u value => { u with room := value },
    .optional "flags" Update.flags fun u value => { u with flags := value },
    .optional "inventory" Update.inventory fun u value => { u with inventory := value },
    .optional "gone" Update.gone fun u value => { u with gone := value },
    .optional "seen" Update.seen fun u value => { u with seen := value },
    .optional "effects" Update.effects fun u value => { u with effects := value },
    .optional "failures" Update.failures fun u value => { u with failures := value },
    .optional "context" Update.context fun u value => { u with context := value },
    .optional "cameFrom" Update.cameFrom fun u value => { u with cameFrom := value }]

instance : Coded Update := ⟨update.write, update.read⟩

/-- The end of the conversation is written only where it comes. -/
def close : Json.Field Outcome :=
  { Json.Field.defaulted "close" Outcome.close fun o value => { o with close := value } with
    write := fun o => if o.close then some (Coded.write true) else none }

def outcome : Shape Outcome where
  name := "ActionResult"
  start := { message := "" }
  fields := [
    .needed "message" Outcome.message fun o value => { o with message := value },
    .optional "update" Outcome.update fun o value => { o with update := value },
    close,
    .optional "context" Outcome.context fun o value => { o with context := value },
    .optional "cameFrom" Outcome.cameFrom fun o value => { o with cameFrom := value }]

instance : Coded Outcome := ⟨outcome.write, outcome.read⟩

def session : Shape Session where
  name := "Session"
  start := { id := "", worldId := "", room := "" }
  fields := [
    .needed "id" Session.id fun s value => { s with id := value },
    .needed "worldId" Session.worldId fun s value => { s with worldId := value },
    .needed "room" Session.room fun s value => { s with room := value },
    .defaulted "flags" Session.flags fun s value => { s with flags := value },
    .defaulted "inventory" Session.inventory fun s value => { s with inventory := value },
    .defaulted "gone" Session.gone fun s value => { s with gone := value },
    .defaulted "seen" Session.seen fun s value => { s with seen := value },
    .defaulted "effects" Session.effects fun s value => { s with effects := value },
    .defaulted "failures" Session.failures fun s value => { s with failures := value },
    .optional "context" Session.context fun s value => { s with context := value },
    .optional "cameFrom" Session.cameFrom fun s value => { s with cameFrom := value }]

instance : Coded Session := ⟨session.write, session.read⟩

def fallbackMessages : Shape FallbackMessages where
  name := "FallbackMessages"
  start := {}
  fields := [
    .defaulted "confused" FallbackMessages.confused fun m value => { m with confused := value },
    .defaulted "lost" FallbackMessages.lost fun m value => { m with lost := value },
    .defaulted "hint" FallbackMessages.hint fun m value => { m with hint := value }]

instance : Coded FallbackMessages := ⟨fallbackMessages.write, fallbackMessages.read⟩

/-- The directory of the settings is written as `null` where there is none. -/
def sessionDir : Json.Field Settings where
  name := "session_dir"
  required := false
  write s := some (Json.Writer.optional Json.Writer.text s.sessionDir)
  read s := return { s with sessionDir := ← Json.Reader.optional (Json.Reader.text "path string") }

def settings : Shape Settings where
  name := "EngineConfig"
  start := {}
  fields := [
    .defaulted "default_world" Settings.defaultWorld fun s value =>
      { s with defaultWorld := value },
    .defaulted "apology" Settings.apology fun s value => { s with apology := value },
    .defaulted "speech_tag" Settings.speechTag fun s value => { s with speechTag := value },
    sessionDir,
    .defaulted "fallback" Settings.fallback fun s value => { s with fallback := value }]

instance : Coded Settings := ⟨settings.write, settings.read⟩

/-- The JSON form of a value. -/
def write {α : Type} [Coded α] (value : α) : String :=
  String.ofList (Coded.write value)

/-- The value that a JSON text is the form of. -/
def read {α : Type} [Coded α] (text : String) : Except Json.Fault α :=
  Json.Reader.parse Coded.read text

end Wire

end TextAdventure
