import GossipGroup.Roster

/-!
# Questions a roster answers

Looking a member up, the members in a given condition, the oldest live member,
the digest a node shares with others, the notice it sends when it leaves, and
the text in which a roster is shown.
-/

namespace GossipGroup
namespace Roster

/-- Binary search among ascending members, within a number of halvings. -/
def search (identity : Identity) : Nat → List Member → Option Member
  | 0, _ => none
  | fuel + 1, members =>
      let half := members.length / 2
      match members.drop half with
      | [] => none
      | middle :: above =>
          match middle.identity.order identity with
          | .eq => some middle
          | .lt => search identity fuel above
          | .gt => search identity fuel (members.take half)

/-- The entry about a member. -/
def find? (roster : Roster) (identity : Identity) : Option Member :=
  search identity roster.members.length roster.members

/-- The number of entries, in any condition. -/
def size (roster : Roster) : Nat := roster.members.length

/-- The number of entries in one condition. -/
def count (roster : Roster) (status : Status) : Nat :=
  roster.members.countP (·.status == status)

/-- The live members, the node itself among them. -/
def alive (roster : Roster) : List Identity :=
  (roster.members.filter (·.isAlive)).map (·.identity)

/-- The live members other than the node itself. -/
def aliveOthers (roster : Roster) : List Identity :=
  (roster.members.filter fun member =>
    member.isAlive && !member.identity.same roster.self).map (·.identity)

/-- The most senior of two identities, the first of them if neither is. -/
def moreSenior (left right : Identity) : Identity :=
  if right.seniority left == .lt then right else left

/-- The most senior live member; the node itself if nobody is alive. -/
def oldestAlive (roster : Roster) : Identity :=
  match roster.alive with
  | [] => roster.self
  | first :: rest => rest.foldl moreSenior first

/-- Whether a member is gossiped: failed ones never are, and those that left
only until their entry is older than the fail timeout. -/
def isShared (roster : Roster) (now : Instant) (member : Member) : Bool :=
  match member.status with
  | .alive => true
  | .failed => false
  | .left => member.silence now ≤ roster.failTimeout

/-- The digest the node shares with others. -/
def shared (roster : Roster) (now : Instant) : Digest :=
  ⟨(roster.members.filter (roster.isShared now)).map (·.report)⟩

/-- A heartbeat raised by a margin, at most to the greatest heartbeat. -/
def raised (heartbeat margin : UInt64) : UInt64 :=
  if greatestHeartbeat.toNat < heartbeat.toNat + margin.toNat then greatestHeartbeat
  else heartbeat + margin

/-- The node's own heartbeat. -/
def ownHeartbeat (roster : Roster) : UInt64 :=
  match roster.find? roster.self with
  | some member => member.heartbeat
  | none => 0

/-- The notice by which the node announces that it leaves. Its heartbeat is
ahead of the node's own by a margin, so that it replaces whatever report about
the node is still on its way. -/
def leaveNotice (roster : Roster) (margin : UInt64) : Digest :=
  ⟨[⟨roster.self, raised roster.ownHeartbeat margin, .left⟩]⟩

/-- One line of a shown roster. -/
def row (now : Instant) (member : Member) : String :=
  "\t" ++ toString member.identity ++ "\t" ++ toString member.heartbeat.toNat ++ "\t" ++
    toString (member.silence now).milliseconds ++ "ms\t" ++ member.status.text ++ "\n"

/-- The roster as text, one line for each member. -/
def text (roster : Roster) (now : Instant) : String :=
  "[\n" ++ String.join (roster.members.map (row now)) ++ "]"

end Roster
end GossipGroup
