import TextAdventure.Proofs.JsonRecords
import TextAdventure.Wire

/-!
# What is written reads back

Actions, sentences, outcomes, sessions and updates are all read from the JSON that is written for
them (`Wire.read_write`), so nothing that tells two of them apart is lost on the way. Sets and flags
are put together again entry by entry; a record is made again by its fields (`Json.Restored`), of
which those that are left out have their value from the start.
-/

namespace TextAdventure

open Json (Coded LawfulCoded Reader Restored)
open Json.Reader (Takes Ended ReadsItems ReadsMembers)

namespace Wire

instance : LawfulCoded String := ⟨Json.Reader.takes_text "a string"⟩

instance : LawfulCoded Bool := ⟨Json.Reader.takes_bool⟩

instance : LawfulCoded UInt32 := ⟨Json.Reader.takes_word32⟩

/-! ## Sets and flags -/

theorem readsItems_ids :
    ∀ (ids : List String) (s : IdSet),
      ReadsItems (fun s => return s.insert (← Coded.read)) (ids.map Json.Writer.text) s
        (s.insertAll ids)
  | [], s => .nil s
  | id :: ids, s =>
    .cons ((Json.Reader.takes_text "a string" id).map s.insert) (readsItems_ids ids (s.insert id))

instance : LawfulCoded IdSet where
  takes ids := by
    have reads := readsItems_ids ids.toList ∅
    rw [show IdSet.insertAll ∅ ids.toList = ids from ids.ofList_toList] at reads
    exact reads.takes_list "a sequence"

theorem readsMembers_flags :
    ∀ (entries : List (String × String)) (flags : Flags),
      ReadsMembers (fun key flags => do Json.Reader.colon; return flags.insert key (← Coded.read))
        (entries.map fun entry => (entry.1, Json.Writer.text entry.2)) flags
        (entries.foldl (fun flags entry => flags.insert entry.1 entry.2) flags)
  | [], flags => .nil flags
  | (key, value) :: entries, flags => by
    have takes := Json.Reader.takes_text "a string" value
    refine .cons takes.oneLine (fun {rest} ended => ?_) (readsMembers_flags entries _)
    have read : (Coded.read : Reader String).run (Json.Writer.text value ++ rest)
        = pure (value, rest) := takes.run_eq ended
    simp [Json.Reader.run_colon, read]

instance : LawfulCoded Flags where
  takes flags := by
    have reads := readsMembers_flags flags.toList ∅
    rw [show flags.toList.foldl (fun flags entry => flags.insert entry.1 entry.2) ∅ = flags from
      flags.ofList_toList] at reads
    exact reads.takes_object "a sequence"

/-! ## Verbs -/

theorem named?_name (verb : Verb) : Verb.named? verb.name = some verb := by
  cases verb <;> decide

instance : LawfulCoded Verb where
  takes verb := by
    refine ⟨⟨_, _, rfl, rfl⟩, (Json.Reader.takes_text "" verb.name).oneLine, fun {rest} _ => ?_⟩
    have plain : Json.Reader.isBlank '"' = false := rfl
    show (Coded.read : Reader Verb).run (Json.Writer.text verb.name ++ rest) = _
    rw [Json.Writer.text, List.cons_append, List.append_assoc, List.singleton_append]
    simp [Coded.read, Json.Reader.run_token plain, Json.Reader.run_drop, verbNamed,
      Json.Reader.run_quoted, named?_name]

/-! ## Records -/

theorem faithful_sentence : sentence.Faithful where
  distinct := by decide
  restored _ := .cons (.optional _ _ rfl) <| .cons (.optional _ _ rfl) <|
    .cons (.optional _ _ rfl) <| .nil _

instance : LawfulCoded Sentence := ⟨faithful_sentence.takes⟩

theorem faithful_action : action.Faithful where
  distinct := by decide
  restored _ := .cons (.needed _ _) <| .cons (.needed _ _) <| .cons (.defaulted _ _) <| .nil _

instance : LawfulCoded Action := ⟨faithful_action.takes⟩

theorem faithful_update : update.Faithful where
  distinct := by decide
  restored _ := .cons (.optional _ _ rfl) <| .cons (.optional _ _ rfl) <|
    .cons (.optional _ _ rfl) <| .cons (.optional _ _ rfl) <| .cons (.optional _ _ rfl) <|
    .cons (.optional _ _ rfl) <| .cons (.optional _ _ rfl) <| .cons (.optional _ _ rfl) <|
    .cons (.optional _ _ rfl) <| .nil _

instance : LawfulCoded Update := ⟨faithful_update.takes⟩

/-- The end of the conversation is left out where it does not come. -/
theorem restores_close {o : Outcome} {s : Outcome} (start : s.close = false) :
    close.Restores o s { s with close := o.close } where
  taken {written} there := by
    cases closes : o.close with
    | false => simp [close, closes] at there
    | true =>
      obtain rfl : Coded.write true = written := by simpa [close, closes] using there
      exact (LawfulCoded.takes true).map fun value => { s with close := value }
  leftOut none := by
    have stays : o.close = false := by simpa [close] using none
    exact ⟨rfl, by rw [stays, ← start]⟩

theorem faithful_outcome : outcome.Faithful where
  distinct := by decide
  restored _ := .cons (.needed _ _) <| .cons (.optional _ _ rfl) <| .cons (restores_close rfl) <|
    .cons (.optional _ _ rfl) <| .cons (.optional _ _ rfl) <| .nil _

instance : LawfulCoded Outcome := ⟨faithful_outcome.takes⟩

theorem faithful_session : session.Faithful where
  distinct := by decide
  restored _ := .cons (.needed _ _) <| .cons (.needed _ _) <| .cons (.needed _ _) <|
    .cons (.defaulted _ _) <| .cons (.defaulted _ _) <| .cons (.defaulted _ _) <|
    .cons (.defaulted _ _) <| .cons (.defaulted _ _) <| .cons (.defaulted _ _) <|
    .cons (.optional _ _ rfl) <| .cons (.optional _ _ rfl) <| .nil _

instance : LawfulCoded Session := ⟨faithful_session.takes⟩

theorem read_write_of_lawful {α : Type} [Coded α] [LawfulCoded α] (a : α) :
    read (write a) = .ok a := by
  have takes := LawfulCoded.takes a
  have whole := takes.run_eq .text
  rw [List.append_nil] at whole
  rw [read, write, Json.Reader.parse, String.toList_ofList]
  simp only [StateT.run_bind, whole, pure_bind]
  rfl

/-- Actions, sentences, outcomes, sessions and updates are read from what is written for them. -/
theorem read_write :
    (∀ a : Action, read (write a) = .ok a) ∧ (∀ s : Sentence, read (write s) = .ok s) ∧
      (∀ o : Outcome, read (write o) = .ok o) ∧ (∀ s : Session, read (write s) = .ok s) ∧
      ∀ u : Update, read (write u) = .ok u :=
  ⟨read_write_of_lawful, read_write_of_lawful, read_write_of_lawful, read_write_of_lawful,
    read_write_of_lawful⟩

/-- An empty update and an empty context are written, a conversation that goes on is not. -/
example : write ({ message := "", update := some {}, context := some "" } : Outcome)
    = "\x7b\"message\":\"\",\"update\":\x7b\x7d,\"context\":\"\"\x7d" := by decide

end Wire

end TextAdventure
