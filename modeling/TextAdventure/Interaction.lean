import TextAdventure.Text.Search
import TextAdventure.Verbs.Movement

/-!
# Interactions

An interaction resolves one verb against the things that a sentence names. With one thing the
first candidate whose verb table can take the verb by itself answers. With two, every pair of
candidates is tried, each against the other's reactions, the subject's first.
-/

namespace TextAdventure

/-- How many synonyms may follow one another. -/
def maxRedirects : Nat := 8

/-- The words that stand for the thing the last answer was about. -/
def pronouns : List String := ["it", "that", "them", "him", "her"]

/-- The word in normal form, or what the last answer was about if it is a pronoun. -/
def resolvePronoun (session : Session) (word : String) : String :=
  let key := Text.normal word
  if pronouns.contains key then session.context.getD key else key

/-- A word of a sentence: what to look for, and whether a pronoun stood there for it. -/
structure Word where
  key : String
  viaPronoun : Bool
deriving DecidableEq

namespace Word

/-- The word as it was said. -/
def said (raw : String) : Word :=
  { key := Text.normal raw, viaPronoun := false }

/-- The word with pronouns resolved. -/
def read (session : Session) (raw : String) : Word :=
  let key := resolvePronoun session raw
  { key, viaPronoun := key != Text.normal raw }

/-- What a failure calls the first thing found for the word: as the player did, unless that was
a pronoun. -/
def nameFor (word : Word) (first : Thing) : String :=
  if word.viaPronoun then first.keys.headD word.key else word.key

end Word

/-- A verb that works through the verb tables of things. In the messages, `{verb}`, `{subject}`
and `{object}` stand for those of the sentence. -/
structure Interaction where
  verb : Verb
  /-- When no candidate can take the verb. -/
  failure : String := "You can't \x7bverb\x7d the \x7bsubject\x7d."
  /-- When no two things work together. -/
  failureTogether : String := "You can't \x7bverb\x7d those together."
  /-- When a word means nothing. -/
  missing : String := "There is no \x7bsubject\x7d here."
  /-- What to do with a subject that means no thing, which is empty if the sentence has none. -/
  fallback : Session → World → String → Option Script := fun _ _ _ => none
  /-- Whether things that double as exits can be walked through with this verb. -/
  exits : Bool := false

namespace Interaction

/-- A message with its placeholders filled, one kind after another. -/
def fill (i : Interaction) (template subject object : String) : String :=
  let filled := Text.replaceAll "\x7bverb\x7d".toList i.verb.name.toList template.toList
  let filled := Text.replaceAll "\x7bsubject\x7d".toList subject.toList filled
  String.ofList (Text.replaceAll "\x7bobject\x7d".toList object.toList filled)

/-- A fixed reply about a thing. -/
def literal (text : String) (thing : Thing) : Script :=
  .leaf { message := text, context := thing.reference }

/-- The part of a cue, which is about a thing. -/
def cued (cue : Cue) (thing : Thing) : Script :=
  (Script.about thing.reference).andThen (.derived cue)

/-- What a thing does for a verb by itself, with so many synonyms still to follow at most. -/
def applyAlone (i : Interaction) (session : Session) (world : World) (thing : Thing) :
    Nat → String → Option Script
  | redirects, verb =>
    match thing.handler? verb, redirects with
    | some (.synonym _), 0 => none
    | some (.synonym next), redirects + 1 => applyAlone i session world thing redirects next
    | some (.literal text), _ => some (literal text thing)
    | some (.keyed reactions), _ =>
      match reactions.alone with
      | some (.say text) => some (literal text thing)
      | some (.run cue) => some (cued cue thing)
      | none => none
    | some (.dynamic cue), _ => some (cued cue thing)
    | none, _ => if i.exits then thing.exit.map (world.go session) else none

/-- The verb used on one word. -/
def applyWord (i : Interaction) (session : Session) (world : World) (word : Word) : Script :=
  match world.candidates session word.key with
  | [] => (i.fallback session world word.key).getD (.say (i.fill i.missing word.key ""))
  | first :: others =>
    ((first :: others).findSome? fun thing =>
      i.applyAlone session world thing maxRedirects i.verb.name).getD
      (.say (i.fill i.failure (word.nameFor first) ""))

/-- What comes of a thing's reactions to another, with so many synonyms still to follow. -/
def tryApply (actor target : Thing) : Nat → String → Option Script
  | redirects, verb =>
    match actor.handler? verb, redirects with
    | some (.synonym _), 0 => none
    | some (.synonym next), redirects + 1 => tryApply actor target redirects next
    | some (.keyed reactions), _ =>
      (reactions.to target.id).map fun
        | .say text => .say text
        | .run cue => .derived cue
    | _, _ => none

/-- What comes of two things, the first one's reactions before the second one's. -/
def applyPair (verb : String) (actor target : Thing) : Option Script :=
  tryApply actor target maxRedirects verb <|> tryApply target actor maxRedirects verb

/-- Whether a thing can be the subject of a sentence with two things. -/
def canAct (verb : String) (thing : Thing) : Bool :=
  thing.id.isSome || (thing.handler? verb).any (·.isKeyed)

/-- The verb used on two words. -/
def applyWords (i : Interaction) (session : Session) (world : World) (subject object : Word) :
    Script :=
  match world.candidates session subject.key with
  | [] => .say (i.fill i.missing subject.key "")
  | firstSubject :: subjects =>
    match world.candidates session object.key with
    | [] => .say (i.fill i.missing object.key "")
    | firstObject :: objects =>
      let verb := i.verb.name
      let found := ((firstSubject :: subjects).filter (canAct verb)).findSome? fun actor =>
        (firstObject :: objects).findSome? (applyPair verb actor)
      found.getD
        (.say (i.fill i.failureTogether (subject.nameFor firstSubject)
          (object.nameFor firstObject)))

/-- The verb used on a subject as it was said. -/
def simple (i : Interaction) (session : Session) (world : World) (subject : String) : Script :=
  i.applyWord session world (.said subject)

/-- The verb used on a subject and an object as they were said. -/
def complex (i : Interaction) (session : Session) (world : World) (subject object : String) :
    Script :=
  i.applyWords session world (.said subject) (.said object)

/-- The word of a sentence part, if there is something to it. -/
def wordOf (session : Session) (part : Option String) : Option Word :=
  (part.map (Word.read session)).filter (·.key ≠ "")

/-- The verb used on whatever a sentence names. -/
def handle (i : Interaction) : VerbHandler := fun session world sentence =>
  match wordOf session sentence.subject, wordOf session sentence.object with
  | some subject, some object => some (i.applyWords session world subject object)
  | some word, none => some (i.applyWord session world word)
  | none, some word => some (i.applyWord session world word)
  | none, none =>
    i.fallback session world "" <|>
      some (.say ("What do you want to " ++ i.verb.name ++ "?"))

end Interaction

end TextAdventure
