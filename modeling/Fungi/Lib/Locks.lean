import Mathlib.Logic.Function.Basic

/-!
# Locks

Each lock is free or held by one client, and a client is inside the section of at
most one lock.  The two views agree when a client is inside a section exactly while
it holds the lock of that section.
-/

namespace Fungi.Lib

variable {Key Client : Type*}

/-- The clients inside a section are those that hold its lock. -/
def Guards (holder : Key → Option Client) (inside : Client → Option Key) : Prop :=
  ∀ key client, inside client = some key ↔ holder key = some client

namespace Guards

variable {holder : Key → Option Client} {inside : Client → Option Key} {key : Key}
  {client other : Client}

/-- Two clients are never inside the same section. -/
theorem exclusive (guards : Guards holder inside) (first : inside client = some key)
    (second : inside other = some key) : client = other := by
  have held := (guards key client).mp first
  rw [(guards key other).mp second] at held
  exact (Option.some.inj held).symm

theorem free_iff (guards : Guards holder inside) (key : Key) :
    holder key = none ↔ ∀ client, inside client ≠ some key := by
  constructor
  · intro free client within
    rw [(guards key client).mp within] at free
    cases free
  · intro outside
    cases held : holder key with
    | none => rfl
    | some client => exact absurd ((guards key client).mpr held) (outside client)

theorem initially (free : ∀ key, holder key = none) (outside : ∀ client, inside client = none) :
    Guards holder inside := by
  intro key client
  simp [free key, outside client]

/-- What a client does without entering or leaving a section keeps the agreement. -/
theorem stay {inside' : Client → Option Key} (guards : Guards holder inside)
    (same : ∀ client, inside' client = inside client) : Guards holder inside' := by
  intro key client
  rw [same]
  exact guards key client

variable [DecidableEq Key] [DecidableEq Client]

theorem enter (guards : Guards holder inside) (key : Key) (client : Client)
    (free : holder key = none)
    (outside : inside client = none) :
    Guards (Function.update holder key (some client))
      (Function.update inside client (some key)) := by
  intro found other
  by_cases sameKey : found = key
  · subst sameKey
    by_cases sameClient : other = client
    · subst sameClient
      simp
    · have absent := (guards.free_iff _).mp free other
      simp [sameClient, absent, Ne.symm sameClient]
  · by_cases sameClient : other = client
    · subst sameClient
      have absent : holder found ≠ some other := by
        intro held
        rw [(guards found other).mpr held] at outside
        cases outside
      simp [sameKey, absent, Ne.symm sameKey]
    · simpa [sameKey, sameClient] using guards found other

theorem leave (guards : Guards holder inside) (within : inside client = some key) :
    Guards (Function.update holder key none) (Function.update inside client none) := by
  intro found other
  by_cases sameClient : other = client
  · subst sameClient
    by_cases sameKey : found = key
    · subst sameKey
      simp
    · have absent : holder found ≠ some other := by
        intro held
        have elsewhere := (guards found other).mpr held
        rw [within] at elsewhere
        exact sameKey (Option.some.inj elsewhere).symm
      simp [sameKey, absent]
  · by_cases sameKey : found = key
    · subst sameKey
      have absent : inside other ≠ some found := by
        intro elsewhere
        exact sameClient (guards.exclusive elsewhere within)
      simp [sameClient, absent]
    · simpa [sameKey, sameClient] using guards found other

end Guards

end Fungi.Lib
