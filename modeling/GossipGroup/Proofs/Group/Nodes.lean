import GossipGroup.Proofs.Identity.Order

/-!
# Lists of nodes

A group is a list of nodes, of which no two are the same member. A step changes
one of them and keeps who it is.
-/

namespace GossipGroup

/-- No two identities name the same member. -/
def Distinct (identities : List Identity) : Prop :=
  identities.Pairwise fun left right => left.same right = false

variable {node α : Type} {nodes : List node} {place : Nat} {earlier later : node}

/-- Nodes of distinct members are told apart by whom they are. -/
theorem Distinct.eq_of_same
    {self : node → Identity}
    {left right : node}
    (distinct : Distinct (nodes.map self))
    (leftPresent : left ∈ nodes)
    (rightPresent : right ∈ nodes)
    (same : (self left).same (self right) = true) :
    left = right := by
  have pairwise := List.pairwise_iff_getElem.mp (List.pairwise_map.mp distinct)
  obtain ⟨leftPlace, leftBound, rfl⟩ := List.getElem_of_mem leftPresent
  obtain ⟨rightPlace, rightBound, rfl⟩ := List.getElem_of_mem rightPresent
  rcases Nat.lt_trichotomy leftPlace rightPlace with before | equal | behind
  · rw [pairwise leftPlace rightPlace leftBound rightBound before] at same
    contradiction
  · simp only [equal]
  · rw [Identity.same_comm, pairwise rightPlace leftPlace rightBound leftBound behind] at same
    contradiction

/-- Looking a node up after one was changed. -/
theorem getElem?_set_of_present
    (present : nodes[place]? = some earlier)
    (later : node)
    (other : Nat) :
    (nodes.set place later)[other]? = if place = other then some later else nodes[other]? := by
  obtain ⟨bound, -⟩ := List.getElem?_eq_some_iff.mp present
  rw [List.getElem?_set, if_pos bound]

theorem mem_set_of_present (present : nodes[place]? = some earlier) :
    later ∈ nodes.set place later := by
  refine List.mem_of_getElem? (i := place) ?_
  rw [getElem?_set_of_present present, if_pos rfl]

/-- A node other than the changed one is still there. -/
theorem mem_set_of_mem
    {other : node}
    (present : nodes[place]? = some earlier)
    (otherPresent : other ∈ nodes) :
    other = earlier ∨ other ∈ nodes.set place later := by
  obtain ⟨otherPlace, found⟩ := List.mem_iff_getElem?.mp otherPresent
  by_cases equal : place = otherPlace
  · rw [← equal, present, Option.some.injEq] at found
    exact .inl found.symm
  · refine .inr (List.mem_of_getElem? (i := otherPlace) ?_)
    rw [getElem?_set_of_present present, if_neg equal, found]

/-- What is the same before and after for one node is the same for all. -/
theorem map_set_of_present
    {property : node → α}
    (present : nodes[place]? = some earlier)
    (same : property later = property earlier) :
    (nodes.set place later).map property = nodes.map property := by
  refine List.ext_getElem? fun other => ?_
  rw [List.getElem?_map, List.getElem?_map, getElem?_set_of_present present]
  split
  · rename_i equal
    rw [← equal, present, Option.map_some, Option.map_some, same]
  · rfl

end GossipGroup
