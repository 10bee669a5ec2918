import TextAdventure.VerbTable
import TextAdventure.Proofs.Reactions
import TextAdventure.Proofs.Resolving

/-!
# Unseen rooms stay secret

Whoever looks about, or asks for the exits, learns nothing of rooms that they have not seen yet.
Two worlds are alike to a session if all that differs are rooms that it neither stands in nor has
seen (`World.AlikeTo`). In both it finds the same things for every word, and is told the same ways
out; so `exits` and `look` make the same of every sentence in both, and whatever comes to one of
them has the same answer there (`unseen_rooms_secret`).
-/

namespace TextAdventure

/-- Two worlds that differ in nothing but rooms that a session neither stands in nor has seen. Of
those, each may have its own. -/
structure World.AlikeTo (session : Session) (w w' : World) : Prop where
  otherwise : w' = { w with rooms := w'.rooms }
  known : ∀ room, room = session.room ∨ session.hasSeen room →
    w.rooms.get? room = w'.rooms.get? room

variable {w w' : World} {session : Session}

namespace World.AlikeTo

theorem items (alike : AlikeTo session w w') : w.items = w'.items :=
  (congrArg World.items alike.otherwise).symm

theorem effects (alike : AlikeTo session w w') : w.effects = w'.effects :=
  (congrArg World.effects alike.otherwise).symm

theorem credits (alike : AlikeTo session w w') : w.credits = w'.credits :=
  (congrArg World.credits alike.otherwise).symm

theorem currentRoom (alike : AlikeTo session w w') :
    w.currentRoom session = w'.currentRoom session :=
  alike.known session.room (.inl rfl)

/-- A room is only named if the player knows it. -/
theorem knownRoom (alike : AlikeTo session w w') :
    w.knownRoom session = w'.knownRoom session := by
  funext room
  unfold World.knownRoom
  split
  · next seen => exact alike.known room (.inr seen)
  · rfl

theorem candidates (alike : AlikeTo session w w') :
    w.candidates session = w'.candidates session := by
  have addressable : w.addressable session = w'.addressable session := by
    unfold addressable effectThings carriedThings presentThings
    rw [alike.effects, alike.items, alike.currentRoom]
  funext word
  unfold World.candidates
  rw [addressable]

theorem inventoryListing (alike : AlikeTo session w w') :
    w.inventoryListing session = w'.inventoryListing session := by
  unfold World.inventoryListing
  rw [alike.items]

theorem exitsListing (alike : AlikeTo session w w') :
    w.exitsListing session = w'.exitsListing session := by
  have describeWay : w.describeWay session = w'.describeWay session := by
    funext way
    unfold World.describeWay
    rw [alike.knownRoom]
  unfold World.exitsListing
  rw [alike.currentRoom, describeWay]

theorem lookAround (alike : AlikeTo session w w') :
    Verbs.lookAround session w = Verbs.lookAround session w' := by
  have toward : Verbs.lookToward session w = Verbs.lookToward session w' := by
    funext room word
    unfold Verbs.lookToward
    rw [alike.knownRoom]
  have inRoom : Verbs.lookIn session w = Verbs.lookIn session w' := by
    funext room word
    unfold Verbs.lookIn
    rw [alike.inventoryListing, alike.exitsListing, alike.credits, toward]
  funext word
  unfold Verbs.lookAround
  rw [alike.currentRoom, inRoom]

end World.AlikeTo

/-! ## Interactions -/

namespace Interaction

variable {i : Interaction}

/-- An interaction that walks through nothing makes the same of a sentence in worlds that are alike,
if it makes the same of words that mean no thing. -/
theorem handle_eq_of_alike (alike : World.AlikeTo session w w') (stays : i.exits = false)
    (fallback : i.fallback session w = i.fallback session w') (sentence : Sentence) :
    i.handle session w sentence = i.handle session w' sentence := by
  have word : i.applyWord session w = i.applyWord session w' := by
    have alone : i.applyAlone session w = i.applyAlone session w' :=
      applyAlone_congr (by simp [stays])
    funext word
    unfold applyWord
    rw [alike.candidates, fallback, alone]
  have words : i.applyWords session w = i.applyWords session w' := by
    funext subject object
    unfold applyWords
    rw [alike.candidates]
  unfold handle
  rw [word, words, fallback]

end Interaction

/-! ## Looking and asking for the exits -/

theorem Verbs.exits_eq_of_alike (alike : World.AlikeTo session w w') (sentence : Sentence) :
    exits session w sentence = exits session w' sentence := by
  unfold exits
  rw [alike.exitsListing]

theorem Verbs.look_eq_of_alike (alike : World.AlikeTo session w w') (sentence : Sentence) :
    look.handle session w sentence = look.handle session w' sentence :=
  Interaction.handle_eq_of_alike alike rfl alike.lookAround sentence

namespace Resolver

variable {r : Resolver} {wordings : Settings} {prompt : Varying String} {action : Action}

theorem interpret_alike (alike : World.AlikeTo session w w') (action : Action) :
    interpret session w action = interpret session w' action := by
  unfold interpret cannedPhrase
  rw [alike.currentRoom]

theorem outcomeIn_alike (alike : World.AlikeTo session w w')
    (standard : r.verbs = VerbTable.standard wordings prompt)
    (looks : (interpret session w action).1 ∈ [.exits, .look]) :
    r.outcomeIn session w action = r.outcomeIn session w' action := by
  rw [outcomeIn_eq, outcomeIn_eq, scriptIn, scriptIn, ← interpret_alike alike]
  simp only [List.mem_cons, List.not_mem_nil, or_false] at looks
  rcases looks with looks | looks
  · rw [looks, r.handler_of_ne_idle (by decide), standard]
    exact congrArg (Option.bind · _) (Verbs.exits_eq_of_alike alike (interpret session w action).2)
  · rw [looks, r.handler_of_ne_idle (by decide), standard]
    exact congrArg (Option.bind · _) (Verbs.look_eq_of_alike alike (interpret session w action).2)

end Resolver

/-- In worlds that are alike to a session, `exits` and `look` make the same of every sentence. So
whatever action comes to one of them, also by way of a canned phrase, has the same answer in both
and leaves the same session. -/
theorem unseen_rooms_secret (alike : World.AlikeTo session w w') :
    (∀ sentence, Verbs.exits session w sentence = Verbs.exits session w' sentence
      ∧ Verbs.look.handle session w sentence = Verbs.look.handle session w' sentence) ∧
    ∀ (r : Resolver) (wordings : Settings) (prompt : Varying String) (action : Action),
      r.verbs = VerbTable.standard wordings prompt →
      (Resolver.interpret session w action).1 ∈ [.exits, .look] →
      r.answerIn session w action = r.answerIn session w' action
        ∧ r.sessionAfter session w action = r.sessionAfter session w' action := by
  refine ⟨fun sentence =>
    ⟨Verbs.exits_eq_of_alike alike sentence, Verbs.look_eq_of_alike alike sentence⟩, ?_⟩
  intro r wordings prompt action standard looks
  have same := Resolver.outcomeIn_alike alike standard looks
  constructor
  · rw [Resolver.answerIn, Resolver.answerIn, same]
  · rw [Resolver.sessionAfter, Resolver.sessionAfter, Resolver.updateIn, Resolver.updateIn, same]

/-- A study, and a hall with a curtain. -/
def front : Catalog Room.id :=
  ((∅ : Catalog Room.id).file { id := "study", name := "study" }).file
    { id := "hall", name := "hall",
      exits := .fixed (.ofList [("east", "study"), ("west", "curtained")]) }

/-- These, and whatever is behind the curtain. -/
def manor (curtained : Room) : World where
  id := "manor"
  start := "hall"
  rooms := front.file { curtained with id := "curtained" }

theorem get?_manor {room : String} (before : room ≠ "curtained") (curtained : Room) :
    (manor curtained).rooms.get? room = front.get? room :=
  (Catalog.get?_file _ _ _).trans (if_neg before)

/-- Someone who has been in the study. -/
def visitor : Session :=
  { Session.start "player" "manor" "hall" with seen := .ofList ["hall", "study"] }

/-- The study is named to them, but what is behind the curtain is not. -/
theorem unseen_rooms_secret_manor :
    let treasury := manor { id := "", name := "treasury", description := .fixed "Gold!" }
    let crypt := manor { id := "", name := "crypt", exits := .fixed (.ofList [("up", "hall")]) }
    let r : Resolver := ⟨VerbTable.standard {} (.fixed "Hello?"), {}, none⟩
    let peek : Action := ⟨"player", .look, { subject := "w" }⟩
    World.AlikeTo visitor treasury crypt
      ∧ treasury.rooms.get? "curtained" ≠ crypt.rooms.get? "curtained"
      ∧ Verbs.exits visitor crypt {} = some (.say "You can go east to the study or west.")
      ∧ Verbs.exits visitor treasury {} = Verbs.exits visitor crypt {}
      ∧ (r.answerIn visitor crypt peek).message
          = "<speak>You don't know what's west of here.</speak>"
      ∧ r.answerIn visitor treasury peek = r.answerIn visitor crypt peek := by
  intro treasury crypt r peek
  have alike : World.AlikeTo visitor treasury crypt := by
    refine ⟨rfl, fun room known => ?_⟩
    have before : room ≠ "curtained" := by
      rintro rfl
      revert known
      decide +kernel
    exact (get?_manor before _).trans (get?_manor before _).symm
  obtain ⟨scripts, answers⟩ := unseen_rooms_secret alike
  exact ⟨alike, by simp [treasury, crypt, manor, Catalog.get?_file], rfl, (scripts {}).1,
    by decide +kernel, (answers r _ _ peek rfl (by decide +kernel)).1⟩

end TextAdventure
