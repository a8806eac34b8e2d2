import GossipGroup.Digest

/-!
# The roster of a node

A roster is a node's view of the group: one entry for each member it knows,
strictly ascending by identity, its own among them. Only two operations change
it. Merging a digest takes over every report that is newer than what the roster
holds, and every live newcomer. Ageing counts the node's own heartbeat up and
judges the silence of everybody else. Both answer with the changes they made.
-/

namespace GossipGroup

/-- A node's view of the group. -/
structure Roster where
  self : Identity
  members : List Member
  failTimeout : Span
  cleanupTimeout : Span
  deriving DecidableEq, Inhabited

/-- The member a report describes, refreshed at the given moment. -/
def Report.memberAt (report : Report) (now : Instant) : Member :=
  ⟨report.identity, report.heartbeat, now, report.status⟩

namespace Roster

/-- The roster of a node that knows only itself. -/
def founding
    (self : Identity)
    (failTimeout cleanupTimeout : Span)
    (now : Instant) : Roster :=
  ⟨self, [⟨self, 0, now, .alive⟩], failTimeout, cleanupTimeout⟩

@[simp] theorem self_founding
    (self : Identity)
    (failTimeout cleanupTimeout : Span)
    (now : Instant) :
    (founding self failTimeout cleanupTimeout now).self = self := rfl

/-- Members in ascending order, and the changes that led to them. -/
abbrev Revision : Type := List Member × List Change

/-- Put a member and its changes before a revision. -/
def Revision.cons
    (member : Member)
    (changes : List Change)
    (rest : Revision) : Revision :=
  (member :: rest.1, changes ++ rest.2)

/-- A report about a member that the roster does not hold: a live member is
added, and any other report is passed over, so that members which were evicted
do not come back as failed or left. -/
def welcome (now : Instant) (report : Report) (rest : Revision) : Revision :=
  match report.status with
  | .alive => rest.cons (report.memberAt now) [⟨report.identity, .joined⟩]
  | .failed | .left => rest

/-- A report about a member that the roster holds: it replaces the entry if its
heartbeat is strictly greater, and counts as a change if the status differs. -/
def hear
    (now : Instant)
    (member : Member)
    (report : Report)
    (rest : Revision) : Revision :=
  if member.heartbeat < report.heartbeat then
    rest.cons (report.memberAt now)
      (if report.status = member.status then []
       else [⟨report.identity, .into report.status⟩])
  else rest.cons member []

/-- Reports merged around one member, given how the members after it are merged
with what is left of the reports. -/
def mergeAround
    (now : Instant)
    (member : Member)
    (mergeRest : List Report → Revision) : List Report → Revision
  | [] => (mergeRest []).cons member []
  | report :: reports =>
      match member.identity.order report.identity with
      | .eq => hear now member report (mergeRest reports)
      | .lt => (mergeRest (report :: reports)).cons member []
      | .gt => welcome now report (mergeAround now member mergeRest reports)

/-- Members merged with reports, both ascending, in one pass. -/
def mergeMembers (now : Instant) : List Member → List Report → Revision
  | [], reports => reports.foldr (welcome now) ([], [])
  | member :: members, reports =>
      mergeAround now member (mergeMembers now members) reports

/-- Merge a digest into the roster, with the changes this makes. -/
def merge (roster : Roster) (digest : Digest) (now : Instant) : Roster × List Change :=
  let revision := mergeMembers now roster.members digest.reports
  ({ roster with members := revision.1 }, revision.2)

@[simp] theorem self_merge (roster : Roster) (digest : Digest) (now : Instant) :
    (roster.merge digest now).1.self = roster.self := rfl

@[simp] theorem members_merge (roster : Roster) (digest : Digest) (now : Instant) :
    (roster.merge digest now).1.members =
      (mergeMembers now roster.members digest.reports).1 := rfl

/-- Why a roster cannot be aged. -/
inductive AgeError
  | heartbeatOverflow
  deriving DecidableEq, Inhabited

/-- The text of an ageing error. -/
def AgeError.message : AgeError → String
  | .heartbeatOverflow => "attempt to add with overflow"

/-- The greatest heartbeat a member can have. -/
def greatestHeartbeat : UInt64 := 0xffffffffffffffff

/-- The node's own entry after one more heartbeat. -/
def beat (self : Identity) (now : Instant) (member : Member) : Except AgeError Member :=
  if member.heartbeat = greatestHeartbeat then .error .heartbeatOverflow
  else .ok ⟨self, member.heartbeat + 1, now, .alive⟩

/-- The judgement of another member's silence: beyond the cleanup timeout it is
evicted, beyond the fail timeout a live member has failed, and its refresh time
stays as it is. -/
def judge
    (failTimeout cleanupTimeout : Span)
    (now : Instant)
    (member : Member)
    (rest : Revision) : Revision :=
  if cleanupTimeout < member.silence now then
    (rest.1, ⟨member.identity, .evicted⟩ :: rest.2)
  else if failTimeout < member.silence now ∧ member.isAlive then
    rest.cons { member with status := .failed } [⟨member.identity, .failed⟩]
  else rest.cons member []

/-- Members aged in order. -/
def ageMembers
    (self : Identity)
    (failTimeout cleanupTimeout : Span)
    (now : Instant) : List Member → Except AgeError Revision
  | [] => .ok ([], [])
  | member :: members =>
      if member.identity.same self then
        match beat self now member with
        | .error error => .error error
        | .ok renewed =>
            (ageMembers self failTimeout cleanupTimeout now members).map
              fun rest => rest.cons renewed []
      else
        (ageMembers self failTimeout cleanupTimeout now members).map
          (judge failTimeout cleanupTimeout now member)

/-- Count the node's own heartbeat up and judge everybody else, with the
changes this makes. -/
def age (roster : Roster) (now : Instant) : Except AgeError (Roster × List Change) :=
  (ageMembers roster.self roster.failTimeout roster.cleanupTimeout now
      roster.members).map
    fun revision => ({ roster with members := revision.1 }, revision.2)

/-- The roster without its entries. Ageing takes all entries out before it puts
the aged ones back, so this is what it leaves behind when it fails. -/
def emptied (roster : Roster) : Roster := { roster with members := [] }

@[simp] theorem self_emptied (roster : Roster) : roster.emptied.self = roster.self := rfl

@[simp] theorem members_emptied (roster : Roster) : roster.emptied.members = [] := rfl

end Roster
end GossipGroup
