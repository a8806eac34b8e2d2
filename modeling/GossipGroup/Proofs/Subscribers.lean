import GossipGroup.Subscribers

/-!
# Numbers of subscriptions

Subscriptions stand in the order of their numbers, and every number has been
given by the count kept for the next one. So a number stands for one subscription
at most, and one that is gone does not come back.
-/

namespace GossipGroup
namespace Subscribers

variable {listener : Type}

/-- The numbers of the active subscriptions, in order. -/
def ids (subscribers : Subscribers listener) : List SubscriptionId :=
  subscribers.active.map (·.1)

@[simp] theorem ids_subscribe
    (subscribers : Subscribers listener)
    (newcomer : listener) :
    (subscribers.subscribe newcomer).2.ids = subscribers.ids ++ [⟨subscribers.next⟩] := by
  simp [ids]

@[simp] theorem ids_unsubscribe
    (subscribers : Subscribers listener)
    (id : SubscriptionId) :
    (subscribers.unsubscribe id).2.ids = subscribers.ids.filter (· ≠ id) := by
  rw [ids, active_unsubscribe, ids, List.filter_map]
  rfl

/-- The numbers of the active subscriptions ascend, and all of them have been
given. -/
structure Numbered (subscribers : Subscribers listener) : Prop where
  ascending : subscribers.ids.Pairwise fun earlier later => earlier.number < later.number
  given : ∀ id ∈ subscribers.ids, id.number < subscribers.next

theorem numbered_empty : (empty : Subscribers listener).Numbered :=
  ⟨.nil, fun _ present => absurd present List.not_mem_nil⟩

theorem Numbered.subscribe
    {subscribers : Subscribers listener}
    (numbered : subscribers.Numbered)
    (newcomer : listener) :
    (subscribers.subscribe newcomer).2.Numbered := by
  constructor
  · rw [ids_subscribe, List.pairwise_append]
    refine ⟨numbered.ascending, List.pairwise_singleton _ _, fun id present last same => ?_⟩
    rw [List.mem_singleton.mp same]
    exact numbered.given id present
  · rw [ids_subscribe, next_subscribe, List.forall_mem_append, List.forall_mem_singleton]
    exact ⟨fun id present => Nat.lt_succ_of_lt (numbered.given id present), Nat.lt_succ_self _⟩

theorem Numbered.unsubscribe
    {subscribers : Subscribers listener}
    (numbered : subscribers.Numbered)
    (id : SubscriptionId) :
    (subscribers.unsubscribe id).2.Numbered := by
  constructor
  · rw [ids_unsubscribe]
    exact numbered.ascending.filter _
  · rw [ids_unsubscribe, next_unsubscribe]
    exact fun other present => numbered.given other (List.mem_filter.mp present).1

theorem Numbered.clear {subscribers : Subscribers listener} : subscribers.clear.Numbered :=
  ⟨.nil, fun _ present => absurd present List.not_mem_nil⟩

theorem Numbered.nodup {subscribers : Subscribers listener} (numbered : subscribers.Numbered) :
    subscribers.ids.Nodup := by
  refine numbered.ascending.imp fun less same => ?_
  rw [same] at less
  exact Nat.lt_irrefl _ less

end Subscribers
end GossipGroup
