import TextAdventure.Proofs.Resolving

/-!
# One store in place of another

A store follows another for the session of an id if, as long as what the two keep corresponds, each
operation on that session gives the same over both and leaves what they keep in correspondence
(`Store.FollowsFor`). A resolver asks for nothing else when it resolves an action, so the action has
the same answer over both stores, which correspond afterwards (`Resolver.resolve_follows`). The
first store may fail where the other does not; what is to count as such a hindrance is left open.
-/

namespace TextAdventure

namespace Attempt

variable {κ μ ε α β : Type}

/-- What comes of two computations is alike: the same result, with what is kept in correspondence,
or the first one was hindered. -/
inductive Alike (R : κ → μ → Prop) (Hinders : ε → Prop) (P : α → Prop) :
    Except ε α × κ → Except ε α × μ → Prop where
  | ok {a : α} {k : κ} {m : μ} (kept : R k m) (gives : P a) : Alike R Hinders P (.ok a, k) (.ok a, m)
  | error {e : ε} {k : κ} {m : μ} (kept : R k m) : Alike R Hinders P (.error e, k) (.error e, m)
  | hindered {e : ε} {k : κ} {other : Except ε α × μ} (hinders : Hinders e) :
    Alike R Hinders P (.error e, k) other

/-- Whenever what is kept corresponds, a computation comes to the like of another, and gives values
with a property. -/
def Follows (R : κ → μ → Prop) (Hinders : ε → Prop) (P : α → Prop) (x : Attempt κ ε α)
    (y : Attempt μ ε α) : Prop :=
  ∀ k m, R k m → Alike R Hinders P (x.run.run k) (y.run.run m)

variable {R : κ → μ → Prop} {Hinders : ε → Prop} {P : α → Prop} {Q : β → Prop}

theorem Follows.pure {a : α} (gives : P a) :
    Follows R Hinders P (Pure.pure a : Attempt κ ε α) (Pure.pure a) :=
  fun _ _ kept => .ok kept gives

theorem Follows.bind {x : Attempt κ ε α} {y : Attempt μ ε α} {f : α → Attempt κ ε β}
    {g : α → Attempt μ ε β} (first : Follows R Hinders P x y)
    (next : ∀ a, P a → Follows R Hinders Q (f a) (g a)) :
    Follows R Hinders Q (x >>= f) (y >>= g) := by
  intro k m kept
  have alike := first k m kept
  generalize hx : x.run.run k = ex, hy : y.run.run m = ey at alike
  cases alike with
  | ok kept gives =>
    rw [run_bind_ok hx, run_bind_ok hy]
    exact next _ gives _ _ kept
  | error kept =>
    rw [run_bind_error hx, run_bind_error hy]
    exact .error kept
  | hindered hinders =>
    rw [run_bind_error hx]
    exact .hindered hinders

end Attempt

open Attempt (Follows)

variable {κ μ : Type} {R : κ → μ → Prop} {Hinders : StoreError → Prop}

/-- Each operation on the session of an id, and each look for a world, follows that of another
store; what is read or written under the id is a session of the id. -/
structure Store.FollowsFor (R : κ → μ → Prop) (Hinders : StoreError → Prop) (id : String)
    (store : Store κ) (other : Store μ) : Prop where
  read : Follows R Hinders (fun found => ∀ session ∈ found, session.id = id) (store.read id)
    (other.read id)
  write : ∀ session, session.id = id →
    Follows R Hinders (fun _ => True) (store.write session) (other.write session)
  delete : Follows R Hinders (fun _ => True) (store.delete id) (other.delete id)
  world : ∀ name, Follows R Hinders (fun _ => True) (store.world name) (other.world name)

namespace Resolver

variable {store : Store κ} {other : Store μ} {id : String}

theorem during_follows {α : Type} {P : α → Prop} {x : Attempt κ StoreError α}
    {y : Attempt μ StoreError α} (h : Follows R Hinders P x y) (task : Task) :
    Follows R (fun e => Hinders e.cause) P (during task x) (during task y) := by
  intro k m kept
  have alike := h k m kept
  generalize hx : x.run.run k = ex, hy : y.run.run m = ey at alike
  cases alike with
  | ok kept gives =>
    rw [run_during_ok hx, run_during_ok hy]
    exact .ok kept gives
  | error kept =>
    rw [run_during_error hx, run_during_error hy]
    exact .error kept
  | hindered hinders =>
    rw [run_during_error hx]
    exact .hindered hinders

section Follows

variable (h : store.FollowsFor R Hinders id other)

include h

theorem loadSession_follows (r : Resolver) :
    Follows R (fun e => Hinders e.cause) (fun session => session.id = id) (r.loadSession store id)
      (r.loadSession other id) := by
  unfold loadSession
  refine (during_follows h.read _).bind fun found own => ?_
  cases found with
  | some session => exact .pure (own session rfl)
  | none =>
    refine (during_follows (h.world _) _).bind fun world _ => ?_
    exact (during_follows (h.write _ rfl) _).bind fun _ _ => .pure rfl

theorem persist_follows {session : Session} (own : session.id = id) (verb : Verb)
    (outcome : Outcome) :
    Follows R (fun e => Hinders e.cause) (fun _ => True) (persist store session verb outcome)
      (persist other session verb outcome) := by
  have write := during_follows (h.write (session.apply (savedUpdate session outcome)) own)
    (.saving session.id)
  unfold persist
  dsimp only
  split
  · subst own
    exact (during_follows h.delete _).bind fun _ _ => write.bind fun _ _ => .pure trivial
  · split
    · exact .pure trivial
    · exact write.bind fun _ _ => .pure trivial

end Follows

/-- An action is answered alike over two stores, one of which follows the other for the session of
the action. -/
theorem resolve_follows (r : Resolver) {action : Action}
    (h : store.FollowsFor R Hinders action.sessionId other) :
    Follows R (fun e => Hinders e.cause) (fun _ => True) (r.resolve store action)
      (r.resolve other action) := by
  unfold resolve
  refine (r.loadSession_follows h).bind fun session own => ?_
  refine (during_follows (h.world _) _).bind fun world _ => ?_
  dsimp only
  split
  · exact .pure trivial
  · exact (persist_follows h own _ _).bind fun _ _ => .pure trivial

end Resolver

end TextAdventure
