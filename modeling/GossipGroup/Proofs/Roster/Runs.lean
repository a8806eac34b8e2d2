import GossipGroup.Proofs.Digest.Ordering
import GossipGroup.Proofs.Roster.Ageing
import GossipGroup.Proofs.Roster.Lookup
import GossipGroup.Proofs.Roster.Merging

/-!
# Every roster a node can come to hold

A roster starts with its own node alone. From then on digests are merged into
it, whether made of reports or read from the bytes of a datagram, and it ages.
Whatever the reports, the bytes and the moments are, its entries stay strictly
ascending by identity and its own node stays among them.
-/

namespace GossipGroup
namespace Roster

/-- What can be done to a roster. -/
inductive Operation
  /-- A digest made of any reports is merged. -/
  | merge (reports : List Report) (now : Instant)
  /-- A datagram of any bytes arrives: it is merged if it can be read. -/
  | receive (bytes : List UInt8) (now : Instant)
  /-- The roster ages. -/
  | age (now : Instant)
  deriving DecidableEq

/-- What an operation makes of a roster, and the changes it tells. -/
def apply (roster : Roster) : Operation → Except AgeError (Roster × List Change)
  | .merge reports now => .ok (roster.merge (.ofReports reports) now)
  | .receive bytes now =>
      match Digest.decode bytes with
      | .ok digest => .ok (roster.merge digest now)
      | .error _ => .ok (roster, [])
  | .age now => roster.age now

/-- One operation after another, as long as the node's heartbeat can be counted
up. -/
def run (roster : Roster) : List Operation → Except AgeError Roster
  | [] => .ok roster
  | operation :: operations =>
      match roster.apply operation with
      | .ok (next, _) => next.run operations
      | .error error => .error error

/-- What leads to a value leads to it without an error. -/
theorem eq_ok_of_toOption_eq_some
    {ε α : Type}
    {result : Except ε α}
    {value : α}
    (given : result.toOption = some value) :
    result = .ok value := by
  cases result with
  | error error => contradiction
  | ok present => rw [Option.some.inj given]

/-- Entries are strictly ascending by identity, and one is about the node
itself. -/
structure WellFormed (roster : Roster) : Prop where
  ascending : Ascending roster.members
  own_present : entryAbout roster.self roster.members ≠ none

/-- The digest that an operation merges, if it merges one. -/
def Operation.digest? : Operation → Option Digest
  | .merge reports _ => some (.ofReports reports)
  | .receive bytes _ => (Digest.decode bytes).toOption
  | .age _ => none

/-- The moment of an operation. -/
def Operation.moment : Operation → Instant
  | .merge _ now | .receive _ now | .age now => now

/-- What an operation is about: a digest that it merges, a datagram that cannot be
read, or ageing. -/
inductive Operation.Kind (operation : Operation) : Prop
  | merges
      (digest : Digest)
      (read : operation.digest? = some digest)
      (ageless : ∀ now, operation ≠ .age now)
      (ascending : Ascending digest.reports)
      (applied : ∀ roster : Roster,
        roster.apply operation = .ok (roster.merge digest operation.moment))
  | unreadable
      (unread : operation.digest? = none)
      (ageless : ∀ now, operation ≠ .age now)
      (applied : ∀ roster : Roster, roster.apply operation = .ok (roster, []))
  | ages (now : Instant) (ageing : operation = .age now)

theorem Operation.kind (operation : Operation) : operation.Kind := by
  cases operation with
  | merge reports now =>
      exact .merges (.ofReports reports) rfl nofun (Digest.ascending_ofReports reports)
        fun _ => rfl
  | receive bytes now =>
      cases decoded : Digest.decode bytes with
      | ok digest =>
          refine .merges digest ?_ nofun (Digest.ascending_of_decode_eq_ok decoded) fun roster => ?_
          · rw [digest?, decoded]
            rfl
          · rw [apply, decoded]
            rfl
      | error error =>
          refine .unreadable ?_ nofun fun roster => ?_
          · rw [digest?, decoded]
            rfl
          · rw [apply, decoded]
  | age now => exact .ages now rfl

/-- What an operation can do: merge an ascending digest, nothing, or age. -/
theorem apply_cases
    {roster next : Roster}
    {operation : Operation}
    {changes : List Change}
    (applied : roster.apply operation = .ok (next, changes)) :
    (∃ digest now, Ascending digest.reports ∧
        (next, changes) = roster.merge digest now) ∨
      (next, changes) = (roster, []) ∨
      ∃ now, roster.CanBeat ∧ (next, changes) = (roster.aged now, roster.agedChanges now) := by
  cases operation.kind with
  | merges digest _ _ ascending applies =>
      exact .inl ⟨digest, operation.moment, ascending,
        Except.ok.inj (applied.symm.trans (applies roster))⟩
  | unreadable _ _ applies =>
      exact .inr (.inl (Except.ok.inj (applied.symm.trans (applies roster))))
  | ages now ageing =>
      rw [ageing] at applied
      exact .inr (.inr ⟨now, age_eq_ok_iff.mp applied⟩)

/-! ## The invariant -/

theorem wellFormed_founding
    (self : Identity)
    (failTimeout cleanupTimeout : Span)
    (start : Instant) :
    (founding self failTimeout cleanupTimeout start).WellFormed where
  ascending := ascending_singleton _
  own_present := by
    simp [founding, entryAbout_cons]

theorem WellFormed.merge
    {roster : Roster}
    {digest : Digest}
    (wellFormed : roster.WellFormed)
    (ascending : Ascending digest.reports)
    (now : Instant) :
    (roster.merge digest now).1.WellFormed := by
  have merges := mergeMembers_merges now wellFormed.ascending ascending
  refine ⟨merges.members_ascending, ?_⟩
  rw [members_merge, self_merge, merges.entryAbout_members]
  obtain ⟨own, present⟩ := Option.ne_none_iff_exists'.mp wellFormed.own_present
  rw [present]
  cases entryAbout roster.self digest.reports <;> exact Option.some_ne_none _

theorem WellFormed.aged
    {roster : Roster}
    (wellFormed : roster.WellFormed)
    (now : Instant) :
    (roster.aged now).WellFormed := by
  refine ⟨ascending_aged wellFormed.ascending now, ?_⟩
  obtain ⟨own, present⟩ := Option.ne_none_iff_exists'.mp wellFormed.own_present
  rw [self_aged, entryAbout_self_aged wellFormed.ascending present]
  exact Option.some_ne_none _

/-- One operation keeps a roster well formed and with the same node. -/
theorem WellFormed.apply
    {roster next : Roster}
    {operation : Operation}
    {changes : List Change}
    (wellFormed : roster.WellFormed)
    (applied : roster.apply operation = .ok (next, changes)) :
    next.WellFormed ∧ next.self = roster.self := by
  obtain ⟨digest, now, ascending, merged⟩ | same | ⟨now, -, aged⟩ := apply_cases applied
  · obtain rfl := congrArg Prod.fst merged
    exact ⟨wellFormed.merge ascending now, rfl⟩
  · obtain rfl := congrArg Prod.fst same
    exact ⟨wellFormed, rfl⟩
  · obtain rfl := congrArg Prod.fst aged
    exact ⟨wellFormed.aged now, rfl⟩

/-- A run keeps a roster well formed and with the same node. -/
theorem WellFormed.run
    {roster last : Roster}
    {operations : List Operation}
    (wellFormed : roster.WellFormed)
    (ran : roster.run operations = .ok last) :
    last.WellFormed ∧ last.self = roster.self := by
  induction operations generalizing roster with
  | nil =>
      obtain rfl := Except.ok.inj ran
      exact ⟨wellFormed, rfl⟩
  | cons operation operations inductionHypothesis =>
      rw [Roster.run] at ran
      split at ran
      · rename_i next changes applied
        have step := wellFormed.apply applied
        have rest := inductionHypothesis step.1 ran
        exact ⟨rest.1, rest.2.trans step.2⟩
      · contradiction

/-! ## What every run leads to -/

/-- However a roster came about, its entries are strictly ascending, exactly one
is about its own node, looking a member up finds the entry that is there, and
the digests it makes pass the check that digests are held to. -/
theorem representation_of_run
    {self : Identity}
    {failTimeout cleanupTimeout : Span}
    {start : Instant}
    {operations : List Operation}
    {roster : Roster}
    (ran : (founding self failTimeout cleanupTimeout start).run operations = .ok roster) :
    roster.members.Pairwise
        (fun earlier later => earlier.identity.order later.identity = .lt) ∧
      roster.members.countP (fun member => member.identity.same self) = 1 ∧
      (∀ identity member, roster.find? identity = some member ↔
        member ∈ roster.members ∧ member.identity.same identity = true) ∧
      (∀ identity, (roster.find? identity).isSome = true ↔
        ∃ member ∈ roster.members, member.identity.same identity = true) ∧
      (∀ now, Digest.ascending (roster.shared now).reports = true) ∧
      ∀ margin, Digest.ascending (roster.leaveNotice margin).reports = true := by
  obtain ⟨wellFormed, sameSelf⟩ :=
    (wellFormed_founding self failTimeout cleanupTimeout start).run ran
  rw [self_founding] at sameSelf
  have found : ∀ identity member, roster.find? identity = some member ↔
      member ∈ roster.members ∧ member.identity.same identity = true :=
    fun _ _ => find?_eq_some_iff wellFormed.ascending
  refine ⟨?_, ?_, found, ?_, ?_, ?_⟩
  · exact wellFormed.ascending.imp fun before => Identity.order_eq_lt_iff.mpr before
  · rw [← sameSelf]
    exact wellFormed.ascending.countP_same wellFormed.own_present
  · intro identity
    rw [Option.isSome_iff_exists]
    exact exists_congr (found identity)
  · exact fun now => Digest.ascending_iff.mpr (ascending_shared wellFormed.ascending now)
  · exact fun margin => Digest.ascending_iff.mpr (ascending_leaveNotice roster margin)

/-- A node that is told of a member before it in the order, cannot read an
empty datagram and ages has one entry of its own, and ascending ones. -/
theorem representation_of_short_run :
    ∃ roster,
      (founding ⟨.v4 ⟨127, 0, 0, 1⟩ 7001, 5⟩ (.ofSeconds 2) (.ofSeconds 5) ⟨0⟩).run
        [.merge [⟨⟨.v4 ⟨127, 0, 0, 1⟩ 7000, 3⟩, 8, .alive⟩] ⟨10⟩, .receive [] ⟨20⟩, .age ⟨30⟩] =
          .ok roster ∧
      roster.size = 2 ∧
      roster.members.countP
        (fun member => member.identity.same ⟨.v4 ⟨127, 0, 0, 1⟩ 7001, 5⟩) = 1 ∧
      Digest.ascending (roster.shared ⟨40⟩).reports = true := by
  have ran : (founding ⟨.v4 ⟨127, 0, 0, 1⟩ 7001, 5⟩ (.ofSeconds 2) (.ofSeconds 5) ⟨0⟩).run
      [.merge [⟨⟨.v4 ⟨127, 0, 0, 1⟩ 7000, 3⟩, 8, .alive⟩] ⟨10⟩, .receive [] ⟨20⟩, .age ⟨30⟩] =
        .ok ⟨⟨.v4 ⟨127, 0, 0, 1⟩ 7001, 5⟩,
          [⟨⟨.v4 ⟨127, 0, 0, 1⟩ 7000, 3⟩, 8, ⟨10⟩, .alive⟩,
            ⟨⟨.v4 ⟨127, 0, 0, 1⟩ 7001, 5⟩, 1, ⟨30⟩, .alive⟩],
          .ofSeconds 2, .ofSeconds 5⟩ := by
    apply eq_ok_of_toOption_eq_some
    decide +kernel
  have representation := representation_of_run ran
  exact ⟨_, ran, rfl, representation.2.1, representation.2.2.2.2.1 ⟨40⟩⟩

end Roster
end GossipGroup
