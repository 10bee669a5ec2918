import TextAdventure.Session

/-!
# Fixed and varying content

A room may read differently once the lamp is lit, and exits may appear when a door is opened.
Such content is either fixed or a function of the session and of the verb, where there is one.
-/

namespace TextAdventure

inductive Varying (α : Type) where
  | fixed (value : α)
  | derived (value : Session → Option String → α)

namespace Varying

variable {α : Type}

def resolve : Varying α → Session → Option String → α
  | fixed value, _, _ => value
  | derived value, session, verb => value session verb

def isFixed : Varying α → Bool
  | fixed _ => true
  | derived _ => false

instance [Inhabited α] : Inhabited (Varying α) := ⟨fixed default⟩

end Varying

/-- A text that is one of the options, whichever is drawn; empty when there is none. -/
def pick (draw : Session → Option String → Nat) (options : List String) : Varying String :=
  .derived fun session verb => (options[draw session verb % options.length]?).getD ""

end TextAdventure
