import GossipGroup.Member

/-!
# Digests

The only message that members exchange is a digest: reports about members,
strictly ascending by identity. `Digest.ofReports` makes one of any reports:
about each member it keeps the report with the greatest heartbeat, and of
several such reports the one given first.
-/

namespace GossipGroup

/-- What one member tells another about a member. -/
structure Report where
  identity : Identity
  heartbeat : UInt64
  status : Status
  deriving DecidableEq, Inhabited

/-- What a roster holds about a member, without its local refresh time. -/
def Member.report (member : Member) : Report :=
  ⟨member.identity, member.heartbeat, member.status⟩

/-- The message of the gossip protocol. -/
structure Digest where
  reports : List Report
  deriving DecidableEq, Inhabited

namespace Digest

/-- Neighbouring reports are strictly ascending by identity. -/
def ascending : List Report → Bool
  | first :: second :: rest =>
      first.identity.precedes second.identity && ascending (second :: rest)
  | _ => true

/-- The order in which reports are brought before repetitions are dropped:
ascending by identity, and for one member the greatest heartbeat first. -/
def reportOrder (left right : Report) : Ordering :=
  (left.identity.order right.identity).then
    (compare right.heartbeat left.heartbeat)

/-- Reports without those about the same member as the report kept before
them. -/
def dropRepeats : List Report → List Report
  | [] => []
  | first :: rest => first :: skip first rest
where
  /-- The rest of the reports after one that is kept. -/
  skip (kept : Report) : List Report → List Report
    | [] => []
    | report :: rest =>
        if report.identity.same kept.identity then skip kept rest
        else report :: skip report rest

/-- The digest of any reports: sorted, and one report for each member. -/
def ofReports (reports : List Report) : Digest :=
  ⟨dropRepeats (reports.mergeSort fun left right => (reportOrder left right).isLE)⟩

/-- The number of reports. -/
def size (digest : Digest) : Nat := digest.reports.length

end Digest
end GossipGroup
