import GossipGroup.Identity
import GossipGroup.Span

/-!
# Members and their changes

What a node holds about one member, and the events by which it tells its
listeners that a member's condition has changed. A member is alive, has failed
or has left; a change may also say that the member was evicted from the roster,
a condition that is never stored.
-/

namespace GossipGroup

/-- The condition of a member as a roster stores it and gossip carries it. -/
inductive Status
  | alive
  | failed
  | left
  deriving DecidableEq, Inhabited

/-- The written form of a status. -/
def Status.text : Status → String
  | .alive => "ALIVE"
  | .failed => "FAIL"
  | .left => "LEAVE"

/-- What happened to a member. -/
inductive Transition
  | joined
  | failed
  | left
  | evicted
  deriving DecidableEq, Inhabited

namespace Transition

/-- The transition of a member into a status. -/
def into : Status → Transition
  | .alive => .joined
  | .failed => .failed
  | .left => .left

/-- The status a member has after a transition; none once it is evicted. -/
def status? : Transition → Option Status
  | .joined => some .alive
  | .failed => some .failed
  | .left => some .left
  | .evicted => none

/-- Whether the member can no longer be used after the transition. -/
def isDeparture : Transition → Bool
  | .joined => false
  | .failed | .left | .evicted => true

/-- The written form of a transition. -/
def text : Transition → String
  | .joined => "JOIN"
  | .failed => "FAIL"
  | .left => "LEAVE"
  | .evicted => "CLEANUP"

@[simp] theorem status?_into (status : Status) :
    (into status).status? = some status := by
  cases status <;> rfl

theorem isDeparture_into {status : Status} (dead : status ≠ .alive) :
    (into status).isDeparture = true := by
  cases status with
  | alive => contradiction
  | failed => rfl
  | left => rfl

theorem eq_alive_of_into_eq_joined
    {status : Status}
    (joined : into status = .joined) :
    status = .alive := by
  cases status with
  | alive => rfl
  | failed => contradiction
  | left => contradiction

end Transition

/-- A change in the condition of one member. -/
structure Change where
  identity : Identity
  transition : Transition
  deriving DecidableEq, Inhabited

/-- The written form of a change, such as `JOIN: 10.0.0.1:7000<42>`. -/
def Change.text (change : Change) : String :=
  change.transition.text ++ ": " ++ toString change.identity

/-- What a roster holds about one member. The time of the last refresh is local
and never sent. -/
structure Member where
  identity : Identity
  heartbeat : UInt64
  refreshedAt : Instant
  status : Status
  deriving DecidableEq, Inhabited

namespace Member

/-- Whether the member is alive. -/
def isAlive (member : Member) : Bool := member.status == .alive

/-- The time since the member was last refreshed. -/
def silence (member : Member) (now : Instant) : Span :=
  now.since member.refreshedAt

end Member
end GossipGroup
