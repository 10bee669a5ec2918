import TextAdventure.World

/-!
# Verb handlers
-/

namespace TextAdventure

/-- Turns a sentence into a script for one verb; nothing if the verb has nothing at all to say. -/
abbrev VerbHandler := Session → World → Sentence → Option Script

end TextAdventure
