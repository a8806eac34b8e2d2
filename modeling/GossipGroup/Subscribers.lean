/-!
# Subscriptions

Listeners in the order in which they subscribed. Every subscription has a
number of its own that is never given again, not even after all listeners have
been dropped, so an old number can remove nobody.

Numbers are counted without a bound. As the next one is the number of those who
have ever subscribed, a word of 64 bits counts the same as long as these are fewer
than 2^64, and nothing that goes on for fewer steps than that takes more numbers.
-/

namespace GossipGroup

/-- The number of a subscription. -/
structure SubscriptionId where
  number : Nat
  deriving DecidableEq, Inhabited

/-- The listeners that are subscribed, in the order in which they did, and the
number the next one is given. -/
structure Subscribers (listener : Type) where
  next : Nat
  active : List (SubscriptionId × listener)
  deriving DecidableEq

namespace Subscribers

variable {listener : Type}

/-- Nobody has ever subscribed. -/
def empty : Subscribers listener := ⟨0, []⟩

instance : Inhabited (Subscribers listener) := ⟨empty⟩

/-- A listener subscribes after all others. -/
def subscribe
    (subscribers : Subscribers listener)
    (newcomer : listener) : SubscriptionId × Subscribers listener :=
  (⟨subscribers.next⟩,
    ⟨subscribers.next + 1, subscribers.active ++ [(⟨subscribers.next⟩, newcomer)]⟩)

@[simp] theorem subscribe_fst
    (subscribers : Subscribers listener)
    (newcomer : listener) :
    (subscribers.subscribe newcomer).1 = ⟨subscribers.next⟩ := rfl

@[simp] theorem active_subscribe
    (subscribers : Subscribers listener)
    (newcomer : listener) :
    (subscribers.subscribe newcomer).2.active =
      subscribers.active ++ [(⟨subscribers.next⟩, newcomer)] := rfl

@[simp] theorem next_subscribe
    (subscribers : Subscribers listener)
    (newcomer : listener) :
    (subscribers.subscribe newcomer).2.next = subscribers.next + 1 := rfl

/-- Remove the listener with the given subscription, and say whether there was
one. -/
def unsubscribe
    (subscribers : Subscribers listener)
    (id : SubscriptionId) : Bool × Subscribers listener :=
  let remaining := subscribers.active.filter (·.1 ≠ id)
  (remaining.length ≠ subscribers.active.length,
    { subscribers with active := remaining })

@[simp] theorem active_unsubscribe
    (subscribers : Subscribers listener)
    (id : SubscriptionId) :
    (subscribers.unsubscribe id).2.active = subscribers.active.filter (·.1 ≠ id) := rfl

@[simp] theorem next_unsubscribe
    (subscribers : Subscribers listener)
    (id : SubscriptionId) :
    (subscribers.unsubscribe id).2.next = subscribers.next := rfl

/-- Drop all listeners. Numbers keep counting. -/
def clear (subscribers : Subscribers listener) : Subscribers listener :=
  { subscribers with active := [] }

@[simp] theorem active_clear (subscribers : Subscribers listener) :
    subscribers.clear.active = [] := rfl

@[simp] theorem next_clear (subscribers : Subscribers listener) :
    subscribers.clear.next = subscribers.next := rfl

/-- The number of listeners. -/
def size (subscribers : Subscribers listener) : Nat := subscribers.active.length

/-- The listeners in the order in which they subscribed. -/
def listeners (subscribers : Subscribers listener) : List listener :=
  subscribers.active.map (·.2)

@[simp] theorem listeners_empty : (empty : Subscribers listener).listeners = [] := rfl

@[simp] theorem listeners_subscribe
    (subscribers : Subscribers listener)
    (newcomer : listener) :
    (subscribers.subscribe newcomer).2.listeners = subscribers.listeners ++ [newcomer] := by
  simp [listeners]

end Subscribers
end GossipGroup
