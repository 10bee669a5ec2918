import TextAdventure.Interaction
import TextAdventure.Verbs.Looking
import TextAdventure.Verbs.Upkeep

/-!
# The verb table

Every verb has one handler. Movement, lists and the verbs about the conversation have handlers of
their own. The others are interactions that differ in their wording.
-/

namespace TextAdventure

namespace Verbs

/-- The verb `inventory`. -/
def inventory : VerbHandler := fun session world _ =>
  some (.say (world.inventoryListing session))

/-- The verb `exits`. -/
def exits : VerbHandler := fun session world _ =>
  some (.say (world.exitsListing session))

def attack : Interaction where
  verb := .attack
  failure := "Violence won't help with the \x7bsubject\x7d."
  failureTogether := "Hitting the \x7bsubject\x7d with the \x7bobject\x7d gets you nowhere."

def give : Interaction where
  verb := .give
  failure := "Who would you give the \x7bsubject\x7d to?"
  failureTogether := "The \x7bobject\x7d doesn't want the \x7bsubject\x7d."

def openUp : Interaction where
  verb := .openUp
  failure := "The \x7bsubject\x7d won't open."

def close : Interaction where
  verb := .close
  failure := "The \x7bsubject\x7d won't close."

def take : Interaction where
  verb := .take
  failure := "You can't take the \x7bsubject\x7d."

def eat : Interaction where
  verb := .eat
  failure := "The \x7bsubject\x7d doesn't look edible."

def talk : Interaction where
  verb := .talk
  failure := "The \x7bsubject\x7d has nothing to say."
  failureTogether := "The \x7bsubject\x7d has nothing to say about the \x7bobject\x7d."

def use : Interaction where
  verb := .use
  failure := "You can't think of a way to use the \x7bsubject\x7d."
  failureTogether := "You can't use the \x7bsubject\x7d with the \x7bobject\x7d."
  exits := true

def tie : Interaction where
  verb := .tie
  failure := "What do you want to tie the \x7bsubject\x7d to?"
  failureTogether := "You can't tie those together."

def untie : Interaction where
  verb := .untie
  failure := "The \x7bsubject\x7d isn't tied to anything."

def light : Interaction where
  verb := .light
  failure := "The \x7bsubject\x7d won't light."

def look : Interaction where
  verb := .look
  failure := "You see nothing special about the \x7bsubject\x7d."
  fallback := lookAround

end Verbs

/-- The handlers of the verbs; a verb may have none. -/
abbrev VerbTable := Verb → Option VerbHandler

namespace VerbTable

def empty : VerbTable := fun _ => none

/-- The table with a handler registered, over the one that is there. -/
def register (table : VerbTable) (verb : Verb) (handler : VerbHandler) : VerbTable :=
  fun v => if v = verb then some handler else table v

/-- Every verb with its stock handler and wording. -/
def standard (settings : Settings) (idlePrompt : Varying String) : VerbTable
  | .move => some Verbs.move
  | .moveTo => some Verbs.moveTo
  | .inventory => some Verbs.inventory
  | .exits => some Verbs.exits
  | .restart => some Verbs.restart
  | .idle => some (Verbs.idle idlePrompt)
  | .fallback => some (Verbs.fallback settings.fallback)
  | .attack => some Verbs.attack.handle
  | .give => some Verbs.give.handle
  | .openUp => some Verbs.openUp.handle
  | .close => some Verbs.close.handle
  | .take => some Verbs.take.handle
  | .eat => some Verbs.eat.handle
  | .talk => some Verbs.talk.handle
  | .use => some Verbs.use.handle
  | .tie => some Verbs.tie.handle
  | .untie => some Verbs.untie.handle
  | .light => some Verbs.light.handle
  | .look => some Verbs.look.handle

end VerbTable

end TextAdventure
