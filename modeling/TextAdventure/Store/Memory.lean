import TextAdventure.Store

/-!
# Sessions in memory
-/

namespace TextAdventure

/-- Sessions and worlds by their ids. -/
structure Memory where
  worlds : Shelf
  sessions : Catalog Session.id := ∅

namespace Memory

instance : Inhabited Memory := ⟨{ worlds := ∅ }⟩

def write (m : Memory) (session : Session) : Memory :=
  { m with sessions := m.sessions.file session }

def delete (m : Memory) (id : String) : Memory :=
  { m with sessions := m.sessions.remove id }

/-- The store that keeps everything in memory. Only a world can be missing. -/
def store : Store Memory where
  read id := fun m => (.ok (m.sessions.get? id), m)
  write session := fun m => (.ok (), m.write session)
  delete id := fun m => (.ok (), m.delete id)
  world id := fun m => (m.worlds.world id, m)

theorem get?_write (m : Memory) (session : Session) (id : String) :
    (m.write session).sessions.get? id =
      if id = session.id then some session else m.sessions.get? id :=
  m.sessions.get?_file session id

theorem get?_write_of_id (m : Memory) {session : Session} {id : String} (own : session.id = id) :
    (m.write session).sessions.get? id = some session := by
  rw [get?_write, if_pos own.symm]

theorem write_eq_of_stored {m : Memory} {session : Session}
    (stored : m.sessions.get? session.id = some session) : m.write session = m := by
  have sessions : (m.write session).sessions = m.sessions := Catalog.ext_get? fun id => by
    rw [get?_write]
    split
    · next eq => rw [eq, stored]
    · rfl
  exact congrArg (Memory.mk m.worlds) sessions

/-- A session that is written anew need not have been there before. -/
theorem write_delete (m : Memory) (session : Session) :
    (m.delete session.id).write session = m.write session := by
  have sessions : ((m.delete session.id).write session).sessions = (m.write session).sessions :=
    Catalog.ext_get? fun id => by
      rw [get?_write, get?_write]
      split
      · rfl
      · next ne => exact (m.sessions.get?_remove session.id id).trans (if_neg ne)
  exact congrArg (Memory.mk m.worlds) sessions

theorem write_write (m : Memory) {first session : Session} (same : first.id = session.id) :
    (m.write first).write session = m.write session := by
  have sessions : ((m.write first).write session).sessions = (m.write session).sessions :=
    Catalog.ext_get? fun id => by
      rw [get?_write, get?_write, get?_write, same]
      split <;> rfl
  exact congrArg (Memory.mk m.worlds) sessions

end Memory

end TextAdventure
