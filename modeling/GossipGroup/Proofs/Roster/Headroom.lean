import GossipGroup.Proofs.Roster.Enduring
import GossipGroup.Proofs.Roster.Refuting

/-!
# Room to count up

A heartbeat is a number of 64 bits, and a node counts its own up whenever its roster
ages. Counting alone never gets to the end of the numbers, but a merge lets a digest
raise the heartbeat as far as it likes. The module says exactly which digests a node
can be told without running out of numbers: those that leave one for each time that
its roster still ages.
-/

namespace GossipGroup
namespace Roster

/-- A digest reports a node with no heartbeat that is too great to be counted up as
often as operations age its roster. -/
def LeavesRoom (identity : Identity) (digest : Digest) (later : List Operation) : Prop :=
  ∀ report ∈ digest.reports, report.identity.same identity = true →
    report.heartbeat.toNat + (ageings later).length ≤ greatestHeartbeat.toNat

/-- Whatever operations merge leaves a node room for those that come after it. -/
def AllLeaveRoom (identity : Identity) (operations : List Operation) : Prop :=
  ∀ operation later, operation :: later <:+ operations →
    ∀ digest ∈ operation.digest?, LeavesRoom identity digest later

/-- A node can count its heartbeat up as often as operations age its roster. -/
def HasRoom (roster : Roster) (operations : List Operation) : Prop :=
  roster.ownHeartbeat.toNat + (ageings operations).length ≤ greatestHeartbeat.toNat

theorem allLeaveRoom_nil (identity : Identity) : AllLeaveRoom identity [] :=
  fun _ _ last => absurd (List.suffix_nil.mp last) (List.cons_ne_nil _ _)

theorem allLeaveRoom_cons
    {identity : Identity}
    {operation : Operation}
    {operations : List Operation} :
    AllLeaveRoom identity (operation :: operations) ↔
      (∀ digest ∈ operation.digest?, LeavesRoom identity digest operations) ∧
        AllLeaveRoom identity operations := by
  constructor
  · intro all
    exact ⟨all operation operations List.suffix_rfl, fun merging later last =>
      all merging later (last.trans (List.suffix_cons operation operations))⟩
  · rintro ⟨first, rest⟩ merging later last
    rcases List.suffix_cons_iff.mp last with whole | inRest
    · obtain ⟨rfl, rfl⟩ := List.cons.inj whole
      exact first
    · exact rest merging later inRest

theorem toNat_le_greatestHeartbeat (heartbeat : UInt64) :
    heartbeat.toNat ≤ greatestHeartbeat.toNat := by
  have greatest : greatestHeartbeat.toNat = 18446744073709551615 := by decide
  have bound := heartbeat.toNat_lt
  omega

/-! ## What one operation makes of the own heartbeat -/

/-- Only ageing takes room. -/
theorem hasRoom_cons_of_ageless
    {roster : Roster}
    {operation : Operation}
    {operations : List Operation}
    (ageless : ∀ now, operation ≠ .age now) :
    roster.HasRoom (operation :: operations) ↔ roster.HasRoom operations := by
  rw [HasRoom, ageings_cons, Operation.ageing?_eq_none ageless]
  rfl

/-- After a merge the node has room exactly if it had room before and the digest leaves
it some: its heartbeat becomes the greater of the one that it had and the one that is
reported. -/
theorem WellFormed.hasRoom_merge_iff
    {roster : Roster}
    {digest : Digest}
    {operations : List Operation}
    (wellFormed : roster.WellFormed)
    (ascending : Ascending digest.reports)
    (now : Instant) :
    (roster.merge digest now).1.HasRoom operations ↔
      roster.HasRoom operations ∧ LeavesRoom roster.self digest operations := by
  have merges := mergeMembers_merges now wellFormed.ascending ascending
  have entry := merges.entryAbout_members roster.self
  obtain ⟨own, held⟩ := Option.ne_none_iff_exists'.mp wellFormed.own_present
  rw [HasRoom, HasRoom, ownHeartbeat_eq wellFormed.ascending held]
  rw [held] at entry
  have reported : ∀ report ∈ digest.reports, report.identity.same roster.self = true →
      entryAbout roster.self digest.reports = some report :=
    fun report told same => ascending.entryAbout_eq_some_iff.mpr ⟨told, same⟩
  cases encounter now (some own) (entryAbout roster.self digest.reports) with
  | unmoved stale kept =>
      rw [@ownHeartbeat_eq _ own merges.members_ascending (entry.trans kept)]
      refine (and_iff_left_of_imp fun room report told same => ?_).symm
      have notNewer := (stale report (reported report told same)).2 own rfl
      have lower := UInt64.le_iff_toNat_le.mp (UInt64.not_lt.mp notNewer)
      exact Nat.le_trans (Nat.add_le_add_right lower _) room
  | joined unknown => contradiction
  | @replaced _ report known told newer replaced =>
      obtain rfl := Option.some.inj known
      have higher := Nat.le_of_lt (UInt64.lt_iff_toNat_lt.mp newer)
      rw [ownHeartbeat_eq merges.members_ascending (entry.trans replaced)]
      constructor
      · intro room
        refine ⟨Nat.le_trans (Nat.add_le_add_right higher _) room, ?_⟩
        intro other otherTold same
        have equal := told.symm.trans (reported other otherTold same)
        rw [← Option.some.inj equal]
        exact room
      · rintro ⟨-, leavesRoom⟩
        exact leavesRoom report (mem_of_entryAbout told) (same_of_entryAbout told)

/-- The node has room for an ageing and what follows exactly if it can count up, and
has room for the rest afterwards. -/
theorem WellFormed.hasRoom_age_iff
    {roster : Roster}
    {operations : List Operation}
    (wellFormed : roster.WellFormed)
    (now : Instant) :
    roster.HasRoom (.age now :: operations) ↔
      roster.CanBeat ∧ (roster.aged now).HasRoom operations := by
  obtain ⟨own, held⟩ := Option.ne_none_iff_exists'.mp wellFormed.own_present
  have renewed := Roster.entryAbout_self_aged wellFormed.ascending held now
  have count : (ageings (.age now :: operations)).length = (ageings operations).length + 1 := rfl
  rw [HasRoom, HasRoom, canBeat_iff wellFormed.ascending held, count,
    ownHeartbeat_eq wellFormed.ascending held,
    ownHeartbeat_eq (wellFormed.aged now).ascending renewed]
  constructor
  · intro room
    have notGreatest : own.heartbeat ≠ greatestHeartbeat := by
      intro greatest
      rw [greatest] at room
      omega
    refine ⟨notGreatest, ?_⟩
    rw [toNat_add_one notGreatest]
    omega
  · rintro ⟨notGreatest, room⟩
    rw [toNat_add_one notGreatest] at room
    omega

/-! ## A whole run -/

/-- A roster ages unhindered exactly if the node's heartbeat leaves enough numbers to
begin with, and every digest that is merged does. -/
theorem WellFormed.unhindered_iff_room
    {roster : Roster}
    {operations : List Operation}
    (wellFormed : roster.WellFormed) :
    roster.Unhindered operations ↔
      roster.HasRoom operations ∧ AllLeaveRoom roster.self operations := by
  -- Each operation passes on the room that is left: a merge may take some of it away, and
  -- ageing takes one number, if there is one.
  induction operations generalizing roster with
  | nil =>
      exact iff_of_true roster.unhindered_nil
        ⟨toNat_le_greatestHeartbeat _, allLeaveRoom_nil _⟩
  | cons operation operations inductionHypothesis =>
      rw [unhindered_cons, allLeaveRoom_cons]
      cases operation.kind with
      | merges digest read ageless ascending applied =>
          rw [undergo, applied, inductionHypothesis (wellFormed.merge ascending _),
            wellFormed.hasRoom_merge_iff ascending, read, hasRoom_cons_of_ageless ageless,
            self_merge, and_assoc, and_iff_right fun now ageing => absurd ageing (ageless now)]
          simp only [Option.mem_some_iff, forall_eq']
      | unreadable unread ageless applied =>
          rw [undergo, applied, inductionHypothesis wellFormed, unread,
            hasRoom_cons_of_ageless ageless,
              and_iff_right fun now ageing => absurd ageing (ageless now)]
          simp only [Option.not_mem_none, false_implies, implies_true, true_and]
      | ages now ageing =>
          rw [ageing, wellFormed.hasRoom_age_iff now]
          by_cases canBeat : roster.CanBeat
          · rw [undergo_age_of_canBeat canBeat, inductionHypothesis (wellFormed.aged now),
              self_aged]
            simp [canBeat, Operation.digest?]
          · exact iff_of_false (fun unhindered => canBeat (unhindered.1 now rfl))
              fun room => canBeat room.1.1

/-- What a run leads to is what is left. -/
theorem endure_of_run_eq_ok
    {roster last : Roster}
    {operations : List Operation}
    (ran : roster.run operations = .ok last) :
    (roster.endure operations).1 = last := by
  induction operations generalizing roster with
  | nil => exact Except.ok.inj ran
  | cons operation operations inductionHypothesis =>
      rw [run] at ran
      split at ran
      · rename_i next changes applied
        rw [endure, undergo, applied]
        exact inductionHypothesis ran
      · contradiction

/-- A run that does not fail is one in which the roster ages unhindered. -/
theorem exists_run_eq_ok_iff
    {roster : Roster}
    {operations : List Operation} :
    (∃ last, roster.run operations = .ok last) ↔ roster.Unhindered operations := by
  rw [unhindered_iff]
  refine ⟨?_, fun ran => ⟨_, ran⟩⟩
  rintro ⟨last, ran⟩
  rw [ran, endure_of_run_eq_ok ran]

/-- A node starts with all numbers ahead. -/
theorem ownHeartbeat_founding
    (self : Identity)
    (failTimeout cleanupTimeout : Span)
    (start : Instant) :
    (founding self failTimeout cleanupTimeout start).ownHeartbeat = 0 := by
  have held : entryAbout self (founding self failTimeout cleanupTimeout start).members =
      some ⟨self, 0, start, .alive⟩ := by
    simp [founding, entryAbout_cons]
  exact ownHeartbeat_eq (wellFormed_founding _ _ _ _).ascending held

/-- A node never fails to count its heartbeat up, from its founding on, exactly if its
roster ages no more often than there are numbers and every digest that is merged reports
the node, if at all, with a heartbeat that leaves one for each time that the roster ages
afterwards. -/
theorem never_overflows_iff
    (self : Identity)
    (failTimeout cleanupTimeout : Span)
    (start : Instant)
    (operations : List Operation) :
    (∃ roster, (founding self failTimeout cleanupTimeout start).run operations = .ok roster) ↔
      (ageings operations).length ≤ greatestHeartbeat.toNat ∧ AllLeaveRoom self operations := by
  have wellFormed := wellFormed_founding self failTimeout cleanupTimeout start
  rw [exists_run_eq_ok_iff, wellFormed.unhindered_iff_room, self_founding, HasRoom,
    ownHeartbeat_founding, UInt64.toNat_zero, Nat.zero_add]

/-- The bytes of a digest that reports a node alive with the greatest heartbeat can be
read, and the first ageing after them fails. -/
theorem readable_digest_overflows :
    let self : Identity := ⟨.v4 ⟨127, 0, 0, 1⟩ 7000, 1⟩
    let digest : Digest := ⟨[⟨self, greatestHeartbeat, .alive⟩]⟩
    let operations : List Operation := [.receive digest.bytes ⟨0⟩, .age ⟨1000000000⟩]
    digest.encode = .ok digest.bytes ∧
    Digest.decode digest.bytes = .ok digest ∧
    (ageings operations).length < greatestHeartbeat.toNat ∧
    (founding self (.ofSeconds 2) (.ofSeconds 5) ⟨0⟩).run operations =
      .error .heartbeatOverflow := by
  intro self digest operations
  have read : Digest.decode digest.bytes = .ok digest := by
    apply eq_ok_of_toOption_eq_some
    decide +kernel
  refine ⟨rfl, read, by decide +kernel, ?_⟩
  rw [run, apply, read]
  rfl

end Roster
end GossipGroup
