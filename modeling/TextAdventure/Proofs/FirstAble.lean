import TextAdventure.Proofs.SilentReactions

/-!
# The first able candidate answers

A word that is not blank means the things that answer to it: those of the active effects, then what
is carried, then what is to be seen in the room (`World.Ranked`). The first of them that can take
the verb by itself answers; if none can, the player hears that this failed, and if there are none,
the verb's own answer or that the thing is missing (`Interaction.Answered`, `first_able_answers`).
Synonyms that come round to where they began lead nowhere, so a thing with such a loop is passed
over (`Interaction.not_able_of_loop`). A blank word means nothing, whatever answers to it
(`blank_word_overlooked`).
-/

namespace TextAdventure

/-! ## Which things a word means -/

/-- The things that answer to a word in normal form, as one of their words or as their id, in the
order in which they are tried: those of the active effects by the ids of the effects, those carried
by the ids of the items, and those of the room that can be seen and are not gone. -/
def World.Ranked (w : World) (session : Session) (key : String) (things : List Thing) : Prop :=
  ∃ effects items : List String,
    effects.Pairwise (· < ·) ∧ (∀ id, id ∈ effects ↔ id ∈ session.effects) ∧
    items.Pairwise (· < ·) ∧ (∀ id, id ∈ items ↔ id ∈ session.inventory) ∧
    things =
      ((effects.filterMap w.effects.get?).flatMap (·.things)
        ++ items.filterMap w.items.get?
        ++ ((w.currentRoom session).elim [] (·.things)).filter fun thing =>
            thing.visible session ∧ ∀ id ∈ thing.id, id ∉ session.gone).filter
          fun thing => key ∈ thing.keys ∨ thing.id = some key

theorem World.ranked_candidates {w : World} {session : Session} {word : String}
    (spoken : Text.normal word ≠ "") :
    w.Ranked session (Text.normal word) (w.candidates session word) := by
  have present : isPresent session = fun thing =>
      decide (thing.visible session ∧ ∀ id ∈ thing.id, id ∉ session.gone) := by
    funext thing
    rw [isPresent]
    cases thing.id with
    | none => simp
    | some id => simp [Session.isGone, IdSet.mem_def]
  have answers : (fun thing : Thing => thing.answersTo (Text.normal word)) = fun thing =>
      decide (Text.normal word ∈ thing.keys ∨ thing.id = some (Text.normal word)) := by
    funext thing
    simp [Thing.answersTo, Bool.beq_eq_decide_eq]
  have inRoom : w.presentThings session
      = ((w.currentRoom session).elim [] (·.things)).filter (isPresent session) := by
    rw [presentThings]
    cases w.currentRoom session <;> rfl
  refine ⟨session.effects.toList, session.inventory.toList, session.effects.toList_ascending,
    fun id => IdSet.mem_toList, session.inventory.toList_ascending, fun id => IdSet.mem_toList, ?_⟩
  rw [← answers, ← present, ← inRoom, candidates]
  exact if_neg spoken

/-! ## Which things can take a verb -/

namespace Thing.Redirects

variable {thing : Thing} {count more : Nat} {verb mid last : String}

theorem trans (first : thing.Redirects count verb mid) (then_ : thing.Redirects more mid last) :
    thing.Redirects (count + more) verb last := by
  induction first with
  | here => rwa [Nat.zero_add]
  | @next count _ _ _ synonym _ ih =>
    rw [Nat.add_right_comm]
    exact .next synonym (ih then_)

/-- Synonyms go on no farther than to a verb that is none. -/
theorem le_of_end (first : thing.Redirects count verb last)
    (ends : ∀ next, thing.handler? last ≠ some (.synonym next)) {other : String}
    (path : thing.Redirects more verb other) : more ≤ count := by
  induction first generalizing more with
  | here verb =>
    cases path with
    | here => exact Nat.le_refl 0
    | next synonym _ => exact absurd synonym (ends _)
  | next synonym _ ih =>
    cases path with
    | here => exact Nat.zero_le _
    | next synonym' rest =>
      cases synonym.symm.trans synonym'
      exact Nat.succ_le_succ (ih ends rest)

/-- Going round a loop any number of times. -/
theorem round (loop : thing.Redirects count verb verb) :
    ∀ times : Nat, thing.Redirects (times * count) verb verb
  | 0 => by
    rw [Nat.zero_mul]
    exact .here verb
  | times + 1 => by
    rw [Nat.succ_mul]
    exact (round loop times).trans loop

end Thing.Redirects

namespace Interaction

/-- At most so many synonyms after the verb, a thing has a reaction of its own, or it has no entry
but leads somewhere and can be walked through. -/
def Able (i : Interaction) (thing : Thing) : Prop :=
  ∃ count ≤ maxRedirects, ∃ last, thing.Redirects count i.verb.name last ∧
    ((∃ handler, thing.handler? last = some handler ∧ handler.alone.isSome) ∨
      (thing.handler? last = none ∧ i.exits = true ∧ thing.exit.isSome))

/-- A thing gives a script at the end of its synonyms, which are not too many. -/
def Takes (i : Interaction) (session : Session) (w : World) (thing : Thing) (script : Script) :
    Prop :=
  ∃ count ≤ maxRedirects, ∃ last, thing.Redirects count i.verb.name last ∧
    i.Gives session w thing last script

variable {i : Interaction} {session : Session} {w : World} {thing : Thing}

theorem able_iff : i.Able thing ↔ ∃ script, i.Takes session w thing script := by
  constructor
  · rintro ⟨count, few, last, path, ⟨handler, entry, alone⟩ | ⟨entry, passable, leads⟩⟩
    · obtain ⟨reaction, alone⟩ := Option.isSome_iff_exists.1 alone
      exact ⟨_, count, few, last, path, .reaction entry alone⟩
    · obtain ⟨direction, leads⟩ := Option.isSome_iff_exists.1 leads
      exact ⟨_, count, few, last, path, .walk entry passable leads⟩
  · rintro ⟨script, count, few, last, path, gives⟩
    refine ⟨count, few, last, path, ?_⟩
    cases gives with
    | reaction entry alone => exact .inl ⟨_, entry, by rw [alone]; rfl⟩
    | walk entry passable leads => exact .inr ⟨entry, passable, by rw [leads]; rfl⟩

/-- A thing whose synonyms come to a loop cannot take the verb. -/
theorem not_able_of_loop {count more : Nat} {mid : String}
    (path : thing.Redirects count i.verb.name mid) (loop : thing.Redirects (more + 1) mid mid) :
    ¬ i.Able thing := by
  rintro ⟨length, -, last, toEnd, atEnd⟩
  have ends : ∀ next, thing.handler? last ≠ some (.synonym next) := by
    intro next synonym
    rcases atEnd with ⟨handler, entry, alone⟩ | ⟨entry, -⟩
    · cases synonym.symm.trans entry
      cases alone
    · cases synonym.symm.trans entry
  -- so often round the loop is farther than the end
  have far := toEnd.le_of_end ends (path.trans (loop.round (length + 1)))
  have farther : length + 1 ≤ (length + 1) * (more + 1) := Nat.le_mul_of_pos_right _ (by omega)
  omega

theorem applyAlone_eq_none_iff :
    i.applyAlone session w thing maxRedirects i.verb.name = none ↔ ¬ i.Able thing := by
  have ends : i.Able thing ↔ ∃ script, i.Takes session w thing script := able_iff
  rw [ends, Option.eq_none_iff_forall_ne_some, not_exists]
  exact forall_congr' fun script => not_congr applyAlone_eq_some_iff

/-! ## What a word is answered with -/

/-- What the verb gives for a word: the first candidate that is able answers, the failure is told if
there are candidates but none is able, and without candidates the verb has its own answer or says
that there is no such thing. -/
inductive Answered (i : Interaction) (session : Session) (w : World) (word : Word) :
    Script → Prop where
  | able {before after : List Thing} {thing : Thing} {script : Script}
      (found : w.candidates session word.key = before ++ thing :: after)
      (unable : ∀ other ∈ before, ¬ i.Able other) (takes : i.Takes session w thing script) :
      Answered i session w word script
  | failure {first : Thing} {others : List Thing}
      (found : w.candidates session word.key = first :: others)
      (unable : ∀ thing ∈ first :: others, ¬ i.Able thing) :
      Answered i session w word (.say (i.fill i.failure (word.nameFor first) ""))
  | custom {script : Script} (found : w.candidates session word.key = [])
      (knows : i.fallback session w word.key = some script) : Answered i session w word script
  | missing (found : w.candidates session word.key = [])
      (declines : i.fallback session w word.key = none) :
      Answered i session w word (.say (i.fill i.missing word.key ""))

theorem answered_applyWord (word : Word) :
    i.Answered session w word (i.applyWord session w word) := by
  unfold applyWord
  split
  · next found =>
    rcases own : i.fallback session w word.key with _ | script
    · exact .missing found own
    · exact .custom found own
  · next first others found =>
    rcases comes : (first :: others).findSome? _ with _ | script
    · have unable := List.findSome?_eq_none_iff.1 comes
      exact .failure found fun thing mem => applyAlone_eq_none_iff.1 (unable thing mem)
    · obtain ⟨before, thing, after, same, takes, unable⟩ := List.findSome?_eq_some_iff.1 comes
      exact .able (found.trans same)
        (fun other mem => applyAlone_eq_none_iff.1 (unable other mem))
        (applyAlone_eq_some_iff.1 takes)

theorem Answered.applyWord_eq {word : Word} {script : Script}
    (answered : i.Answered session w word script) : i.applyWord session w word = script := by
  unfold applyWord
  cases answered with
  | @able before after thing script found unable takes =>
    have first : (w.candidates session word.key).findSome? (fun thing =>
        i.applyAlone session w thing maxRedirects i.verb.name) = some script :=
      List.findSome?_eq_some_iff.2 ⟨before, thing, after, found, applyAlone_eq_some_iff.2 takes,
        fun other mem => applyAlone_eq_none_iff.2 (unable other mem)⟩
    split
    · next empty => simp [empty] at first
    · next same =>
      rw [← same, first]
      rfl
  | failure found unable =>
    have none := List.findSome?_eq_none_iff.2 fun thing mem =>
      (show i.applyAlone session w thing maxRedirects i.verb.name = none from
        applyAlone_eq_none_iff.2 (unable thing mem))
    simp only [found, none, Option.getD_none]
  | custom found knows => simp only [found, knows, Option.getD_some]
  | missing found declines => simp only [found, declines, Option.getD_none]

end Interaction

/-- A word that is not blank means the things that answer to it, in their order, and a blank one
means nothing. The verb gives for the word what it is to be answered with, and no other script. That
is also what it gives for every sentence that names this word and no other. -/
theorem first_able_answers (i : Interaction) (session : Session) (w : World) (word : Word) :
    (if Text.normal word.key = "" then w.candidates session word.key = []
      else w.Ranked session (Text.normal word.key) (w.candidates session word.key)) ∧
    (∀ script, i.applyWord session w word = script ↔ i.Answered session w word script) ∧
    (∀ thing count more mid, thing.Redirects count i.verb.name mid →
      thing.Redirects (more + 1) mid mid → ¬ i.Able thing) ∧
    ∀ sentence, Interaction.wordsOf session sentence = [word] →
      i.handle session w sentence = some (i.applyWord session w word) := by
  refine ⟨?_, fun script => ⟨?_, fun answered => answered.applyWord_eq⟩,
    fun _ _ _ _ path loop => Interaction.not_able_of_loop path loop,
    fun _ named => Interaction.handle_one i session w named⟩
  · split
    · next blank => exact if_pos blank
    · next spoken => exact World.ranked_candidates spoken
  · rintro rfl
    exact Interaction.answered_applyWord word

/-- A thing that is called nothing. -/
def nameless : Thing :=
  Thing.called [" "] |>.on "look" (.literal "There is nothing to see.")

/-- A hall with a thing that is called nothing in it. -/
def emptyHall : World :=
  World.addRoom { id := "cottage", start := "hall" }
    { id := "hall", name := "hall", things := [nameless] }

/-- The thing answers to a blank word, but is not looked at. -/
theorem blank_word_overlooked :
    let session := Session.start "player" "cottage" "hall"
    Text.normal "" = "" ∧ nameless.answersTo "" ∧ emptyHall.presentThings session = [nameless]
      ∧ Interaction.Able { verb := .look } nameless
      ∧ ¬ emptyHall.Ranked session (Text.normal "") (emptyHall.candidates session "")
      ∧ Interaction.simple { verb := .look } session emptyHall ""
          = .say "There is no  here." := by
  intro session
  have blank : Text.normal "" = "" := by decide +kernel
  have nothing : emptyHall.candidates session "" = [] := by
    rw [World.candidates]
    exact if_pos blank
  refine ⟨blank, rfl, rfl, ⟨0, by decide, "look", .here _, .inl ⟨_, rfl, rfl⟩⟩, ?_, ?_⟩
  · rintro ⟨effects, items, -, -, -, -, same⟩
    have inRoom : nameless ∈ (((emptyHall.currentRoom session).elim [] (·.things)).filter
        fun thing => thing.visible session ∧ ∀ id ∈ thing.id, id ∉ session.gone) :=
      List.mem_filter.2 ⟨List.mem_singleton_self _, rfl⟩
    rw [nothing, blank] at same
    exact List.filter_eq_nil_iff.1 same.symm nameless (List.mem_append_right _ inRoom) rfl
  · have said : Interaction.fill { verb := .look } "There is no \x7bsubject\x7d here." "" ""
        = "There is no  here." := by decide +kernel
    rw [← said]
    exact Interaction.Answered.applyWord_eq (.missing nothing rfl)

end TextAdventure
