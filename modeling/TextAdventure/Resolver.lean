import TextAdventure.Markup
import TextAdventure.Settings
import TextAdventure.Store
import TextAdventure.Verbs.Handler

/-!
# Resolving actions

An action is resolved in the player's session: the verb's handler gives a script, performing it
gives an outcome, what that changes is saved, and the message is put into speech tags. A session
that does not exist yet is created first. When nothing comes of an action, the player gets an
apology and nothing is saved.
-/

namespace TextAdventure

/-- What the resolver was about when its store failed. -/
inductive Task where
  | reading (session : String)
  | loadingDefault (world : String)
  | creating (session : String)
  | loading (world session : String)
  | deleting (session : String)
  | saving (session : String)
deriving DecidableEq

def Task.describe : Task → String
  | reading session => "reading session '" ++ session ++ "'"
  | loadingDefault world => "loading default world '" ++ world ++ "'"
  | creating session => "creating session '" ++ session ++ "'"
  | loading world session => "loading world '" ++ world ++ "' for session '" ++ session ++ "'"
  | deleting session => "deleting session '" ++ session ++ "' for restart"
  | saving session => "saving session '" ++ session ++ "'"

structure ResolveError where
  task : Task
  cause : StoreError
deriving DecidableEq

structure Resolver where
  verbs : Verb → Option VerbHandler
  settings : Settings
  /-- Answers `idle` in place of the table's handler. -/
  idle : Option VerbHandler := none

namespace Resolver

variable {κ : Type}

/-- Says what a store operation is for, should it fail. -/
def during {α : Type} (task : Task) (operation : Attempt κ StoreError α) :
    Attempt κ ResolveError α :=
  ExceptT.mk do
    match ← operation.run with
    | .ok value => return .ok value
    | .error cause => return .error ⟨task, cause⟩

/-- The stored session, or a fresh one in the default world. -/
def loadSession (r : Resolver) (store : Store κ) (id : String) :
    Attempt κ ResolveError Session := do
  match ← during (.reading id) (store.read id) with
  | some session => return session
  | none =>
    let defaultWorld := r.settings.defaultWorld
    let world ← during (.loadingDefault defaultWorld) (store.world defaultWorld)
    let session := Session.start id world.id world.start
    during (.creating id) (store.write session)
    return session

/-- The utterances that a sentence may stand for, in the order in which they are tried. -/
def utterances (sentence : Sentence) : List String :=
  let joined :=
    match sentence.verb, sentence.subject with
    | some verb, some subject => [verb ++ " " ++ subject]
    | _, _ => []
  joined ++ sentence.verb.toList ++ sentence.subject.toList

/-- The canned phrase of the session's room that a sentence stands for. -/
def cannedPhrase (session : Session) (world : World) (sentence : Sentence) : Option Phrase :=
  (world.currentRoom session).bind fun room => (utterances sentence).findSome? room.phraseFor

/-- The verb and sentence that an action comes to: a fallback may stand for a canned phrase. -/
def interpret (session : Session) (world : World) (action : Action) : Verb × Sentence :=
  match action.verb, cannedPhrase session world action.sentence with
  | .fallback, some phrase => (phrase.verb, phrase.sentence)
  | verb, _ => (verb, action.sentence)

/-- The handler of a verb, if it has one. -/
def handler (r : Resolver) (verb : Verb) : Option VerbHandler :=
  match r.idle, verb with
  | some idle, .idle => some idle
  | _, _ => r.verbs verb

/-- What comes of a verb and a sentence. -/
def outcomeOf (r : Resolver) (session : Session) (world : World) (verb : Verb)
    (sentence : Sentence) : Option Outcome := do
  let handle ← r.handler verb
  let script ← handle session world sentence
  script.perform verb.name session

/-- What is to be saved of an outcome: its update, no failures any more unless it counts one, and
what it is about. -/
def savedUpdate (session : Session) (outcome : Outcome) : Update :=
  let update := outcome.update.getD .empty
  let failures :=
    if update.failures.isNone && session.failures ≠ 0 then some 0 else update.failures
  let context :=
    if outcome.context.isSome && session.context ≠ outcome.context then outcome.context
    else update.context
  { update with failures, context, cameFrom := outcome.cameFrom <|> update.cameFrom }

/-- Saves what an outcome changes, and tells what that is. -/
def persist (store : Store κ) (session : Session) (verb : Verb) (outcome : Outcome) :
    Attempt κ ResolveError Update := do
  let update := savedUpdate session outcome
  if verb = .restart then
    during (.deleting session.id) (store.delete session.id)
  else if update.isEmpty then
    return update
  during (.saving session.id) (store.write (session.apply update))
  return update

/-- The answer when nothing came of an action. -/
def apology (r : Resolver) : Outcome :=
  { message := Markup.finalize r.settings.speechTag r.settings.apology }

/-- The answer to an action of which something came. -/
def answer (r : Resolver) (outcome : Outcome) (saved : Update) : Outcome :=
  { outcome with
    message := Markup.finalize r.settings.speechTag outcome.message
    update := if saved.isEmpty then none else some saved }

/-- Resolves one action to its answer. -/
def resolve (r : Resolver) (store : Store κ) (action : Action) :
    Attempt κ ResolveError Outcome := do
  let session ← r.loadSession store action.sessionId
  let world ← during (.loading session.worldId session.id) (store.world session.worldId)
  let (verb, sentence) := interpret session world action
  match r.outcomeOf session world verb sentence with
  | none => return r.apology
  | some outcome =>
    let saved ← persist store session verb outcome
    return r.answer outcome saved

end Resolver

end TextAdventure
