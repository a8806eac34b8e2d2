import GossipGroup.Proofs.Roster.Runs
import Mathlib.Data.List.MinMax

/-!
# Digests in any order, any number of times

What rosters can be compared by is the heartbeat and the status they hold about
each member: identity values and refresh times are each node's own. A merge
takes over whatever has a greater heartbeat, so after a number of digests a
roster stands where the greatest heartbeats put it, whichever came first and
however often each came. That holds as long as the digests do not report
strangers as dead, as such reports are passed over, and do not contradict each
other about one heartbeat of a member.
-/

namespace GossipGroup

/-- What is said of a member without an identity value or a refresh time. -/
structure Standing where
  heartbeat : UInt64
  status : Status
  deriving DecidableEq

namespace Standing

/-- The heartbeat as a number. -/
def beats (standing : Standing) : Nat := standing.heartbeat.toNat

/-- The first standing among those with the greatest heartbeat depends only on
which there are, as long as no two of them differ in status alone. -/
theorem argmax_eq_of_mem_iff
    {left right : List Standing}
    (same : ∀ standing, standing ∈ left ↔ standing ∈ right)
    (unanimous : ∀ first ∈ left, ∀ second ∈ left,
      first.heartbeat = second.heartbeat → first.status = second.status) :
    left.argmax beats = right.argmax beats := by
  cases leftGreatest : left.argmax beats with
  | none =>
      rw [List.argmax_eq_none] at leftGreatest
      subst leftGreatest
      rw [eq_comm, List.argmax_eq_none, List.eq_nil_iff_forall_not_mem]
      exact fun standing present => List.not_mem_nil ((same standing).mpr present)
  | some greatest =>
      obtain ⟨present, above, -⟩ := List.argmax_eq_some_iff.mp leftGreatest
      cases rightGreatest : right.argmax beats with
      | none =>
          rw [List.argmax_eq_none] at rightGreatest
          rw [same, rightGreatest] at present
          contradiction
      | some other =>
          obtain ⟨otherPresent, otherAbove, -⟩ := List.argmax_eq_some_iff.mp rightGreatest
          have otherInLeft := (same other).mpr otherPresent
          have heartbeat : greatest.heartbeat = other.heartbeat :=
            UInt64.toNat_inj.mp (Nat.le_antisymm
              (otherAbove greatest ((same greatest).mp present)) (above other otherInLeft))
          have status := unanimous greatest present other otherInLeft heartbeat
          cases greatest
          cases other
          simp_all

end Standing

/-- Where a member stands. -/
def Member.standing (member : Member) : Standing := ⟨member.heartbeat, member.status⟩

/-- Where a report says that a member stands. -/
def Report.standing (report : Report) : Standing := ⟨report.heartbeat, report.status⟩

@[simp] theorem standing_memberAt (report : Report) (now : Instant) :
    (report.memberAt now).standing = report.standing := rfl

/-- Everything that digests report about a member. -/
def Digest.reportsAbout (identity : Identity) (digests : List Digest) : List Report :=
  (digests.flatMap (·.reports)).filter (·.identity.same identity)

namespace Digest

theorem reportsAbout_concat
    (identity : Identity)
    (digests : List Digest)
    {digest : Digest}
    (ascending : Ascending digest.reports) :
    reportsAbout identity (digests ++ [digest]) =
      reportsAbout identity digests ++ (entryAbout identity digest.reports).toList := by
  rw [reportsAbout, List.flatMap_append, List.filter_append, List.flatMap_singleton,
    ← ascending.filter_same_eq_toList]
  rfl

theorem mem_reportsAbout {identity : Identity} {digests : List Digest} {report : Report} :
    report ∈ reportsAbout identity digests ↔
      (∃ digest ∈ digests, report ∈ digest.reports) ∧ report.identity.same identity = true := by
  rw [reportsAbout, List.mem_filter, List.mem_flatMap]

end Digest

namespace Roster

/-- Where a member stands in a roster. -/
def standing? (roster : Roster) (identity : Identity) : Option Standing :=
  (roster.find? identity).map (·.standing)

/-- Digests merged one after the other, each at a moment of its own. -/
def mergeAll (roster : Roster) (deliveries : List (Digest × Instant)) : Roster :=
  deliveries.foldl (fun current delivery => (current.merge delivery.1 delivery.2).1) roster

/-- Where digests put a member: of what the roster holds and everything that is
reported, the first with the greatest heartbeat. -/
def prevailing (roster : Roster) (digests : List Digest) (identity : Identity) :
    Option Standing :=
  ((roster.standing? identity).toList ++
    (Digest.reportsAbout identity digests).map (·.standing)).argmax Standing.beats

/-- Digests that report no stranger as dead, and report of no member two
statuses with one heartbeat. -/
structure Accords (roster : Roster) (digests : List Digest) : Prop where
  ascending : ∀ digest ∈ digests, Ascending digest.reports
  known : ∀ digest ∈ digests, ∀ report ∈ digest.reports, report.status ≠ .alive →
    roster.standing? report.identity ≠ none
  unanimous : ∀ left ∈ digests, ∀ right ∈ digests,
    ∀ first ∈ left.reports, ∀ second ∈ right.reports,
      first.identity.same second.identity = true →
        first.heartbeat = second.heartbeat → first.status = second.status

theorem standing?_eq
    {roster : Roster}
    (ascending : Ascending roster.members)
    (identity : Identity) :
    roster.standing? identity = (entryAbout identity roster.members).map (·.standing) := by
  rw [standing?, find?_eq_entryAbout ascending]

theorem standing?_congr
    {roster : Roster}
    {left right : Identity}
    (ascending : Ascending roster.members)
    (same : left.same right = true) :
    roster.standing? left = roster.standing? right := by
  rw [standing?_eq ascending, standing?_eq ascending, entryAbout_congr same]

/-! ## One digest after another -/

/-- Where a merge leaves a member, by where it stood and where it is reported. -/
theorem standing?_merge
    {roster : Roster}
    {digest : Digest}
    (rosterAscending : Ascending roster.members)
    (digestAscending : Ascending digest.reports)
    (now : Instant)
    (identity : Identity) :
    (roster.merge digest now).1.standing? identity =
      (mergedEntry now (entryAbout identity roster.members)
        (entryAbout identity digest.reports)).map (·.standing) := by
  have merges := mergeMembers_merges now rosterAscending digestAscending
  rw [standing?_eq merges.members_ascending, members_merge, merges.entryAbout_members]

/-- If a merge leaves a member out, nothing live was reported about it. Otherwise
one more report prevails exactly if its heartbeat is greater. -/
theorem map_standing_mergedEntry
    {now : Instant}
    {held : Option Member}
    {reported : Option Report}
    {earlier : List Standing}
    (prevails : held.map (·.standing) = earlier.argmax Standing.beats)
    (admitted : ∀ report ∈ reported, held = none → report.status = .alive) :
    (mergedEntry now held reported).map (·.standing) =
      (earlier ++ (reported.map (·.standing)).toList).argmax Standing.beats := by
  cases reported with
  | none =>
      rw [mergedEntry_none_right, prevails, Option.map_none, Option.toList_none,
        List.append_nil]
  | some report =>
      rw [Option.map_some, Option.toList_some, List.argmax_concat, ← prevails]
      cases held with
      | none =>
          have alive := admitted report rfl rfl
          rw [mergedEntry, if_pos alive]
          rfl
      | some member =>
          rw [mergedEntry]
          by_cases newer : member.heartbeat < report.heartbeat
          · have beats : member.standing.beats < report.standing.beats :=
              UInt64.lt_iff_toNat_lt.mp newer
            simp [newer, beats]
          · have beats : ¬member.standing.beats < report.standing.beats :=
              fun less => newer (UInt64.lt_iff_toNat_lt.mpr less)
            simp [newer, beats]

/-- Digests that accord with a roster lead it where they put each member, in the
order in which they came. -/
theorem standing?_mergeAll
    {roster : Roster}
    {deliveries : List (Digest × Instant)}
    (wellFormed : roster.WellFormed)
    (accords : roster.Accords (deliveries.map (·.1))) :
    (roster.mergeAll deliveries).WellFormed ∧
      ∀ identity, (roster.mergeAll deliveries).standing? identity =
        roster.prevailing (deliveries.map (·.1)) identity := by
  induction deliveries using List.reverseRecOn with
  | nil =>
      refine ⟨wellFormed, fun identity => ?_⟩
      rw [prevailing]
      cases stood : roster.standing? identity with
      | none => exact stood
      | some standing => exact stood
  | append_singleton earlier delivery inductionHypothesis =>
      obtain ⟨digest, now⟩ := delivery
      rw [List.map_append, List.map_singleton] at accords ⊢
      have present : digest ∈ earlier.map (·.1) ++ [digest] :=
        List.mem_append_right _ List.mem_cons_self
      have before : ∀ other ∈ earlier.map (·.1), other ∈ earlier.map (·.1) ++ [digest] :=
        fun other otherPresent => List.mem_append_left _ otherPresent
      have earlierAccords : roster.Accords (earlier.map (·.1)) :=
        ⟨fun other otherPresent => accords.ascending other (before other otherPresent),
          fun other otherPresent => accords.known other (before other otherPresent),
          fun left leftPresent right rightPresent =>
            accords.unanimous left (before left leftPresent) right (before right rightPresent)⟩
      obtain ⟨earlierWellFormed, stands⟩ := inductionHypothesis earlierAccords
      have ascending := accords.ascending digest present
      rw [mergeAll, List.foldl_append]
      refine ⟨earlierWellFormed.merge ascending now, fun identity => ?_⟩
      change ((roster.mergeAll earlier).merge digest now).1.standing? identity = _
      rw [standing?_merge earlierWellFormed.ascending ascending, prevailing,
        Digest.reportsAbout_concat identity _ ascending, List.map_append, ← List.append_assoc,
        ← Option.toList_map]
      refine map_standing_mergedEntry ?_ fun report reported unknown => ?_
      · rw [← standing?_eq earlierWellFormed.ascending, stands, prevailing]
      · -- A stranger that is reported dead would have been held from the start.
        refine Classical.byContradiction fun dead => ?_
        have stood := accords.known digest present report (mem_of_entryAbout reported) dead
        have nowhere := stands identity
        rw [standing?_eq earlierWellFormed.ascending, unknown, Option.map_none, prevailing,
          eq_comm, List.argmax_eq_none, List.append_eq_nil_iff, Option.toList_eq_nil_iff]
          at nowhere
        have same : report.identity.same identity = true := same_of_entryAbout reported
        rw [standing?_congr wellFormed.ascending same] at stood
        exact stood nowhere.1

/-! ## Any order, any number of times -/

/-- Where digests put a member depends only on which digests there are. -/
theorem prevailing_eq_of_mem_iff
    {roster : Roster}
    {left right : List Digest}
    (accords : roster.Accords left)
    (same : ∀ digest, digest ∈ left ↔ digest ∈ right)
    (identity : Identity) :
    roster.prevailing left identity = roster.prevailing right identity := by
  have reported : ((Digest.reportsAbout identity left).map (·.standing)).argmax Standing.beats =
      ((Digest.reportsAbout identity right).map (·.standing)).argmax Standing.beats := by
    refine Standing.argmax_eq_of_mem_iff (fun standing => ?_) ?_
    · simp only [List.mem_map, Digest.mem_reportsAbout, same]
    · intro first firstPresent second secondPresent heartbeat
      obtain ⟨firstReport, firstAbout, rfl⟩ := List.mem_map.mp firstPresent
      obtain ⟨secondReport, secondAbout, rfl⟩ := List.mem_map.mp secondPresent
      obtain ⟨⟨first, firstIn, firstTold⟩, firstSame⟩ := Digest.mem_reportsAbout.mp firstAbout
      obtain ⟨⟨second, secondIn, secondTold⟩, secondSame⟩ :=
        Digest.mem_reportsAbout.mp secondAbout
      exact accords.unanimous first firstIn second secondIn _ firstTold _ secondTold
        (Identity.same_trans firstSame (Identity.same_symm secondSame)) heartbeat
  unfold prevailing
  -- What the roster holds goes first, so it may tie with a report of another status.
  cases roster.standing? identity with
  | none => exact reported
  | some standing =>
      rw [Option.toList_some, List.singleton_append, List.singleton_append, List.argmax_cons,
        List.argmax_cons, reported]

theorem Accords.of_mem_iff
    {roster : Roster}
    {left right : List Digest}
    (accords : roster.Accords left)
    (same : ∀ digest, digest ∈ right ↔ digest ∈ left) :
    roster.Accords right where
  ascending := fun digest present => accords.ascending digest ((same digest).mp present)
  known := fun digest present => accords.known digest ((same digest).mp present)
  unanimous := fun first firstPresent second secondPresent =>
    accords.unanimous first ((same first).mp firstPresent) second ((same second).mp secondPresent)

/-- What prevails is not behind any report. -/
theorem heartbeat_le_of_prevailing
    (roster : Roster)
    {digests : List Digest}
    {digest : Digest}
    {report : Report}
    (present : digest ∈ digests)
    (told : report ∈ digest.reports)
    {identity : Identity}
    (same : report.identity.same identity = true) :
    ∃ standing, roster.prevailing digests identity = some standing ∧
      report.heartbeat ≤ standing.heartbeat := by
  have candidate : report.standing ∈ (roster.standing? identity).toList ++
      (Digest.reportsAbout identity digests).map (·.standing) :=
    List.mem_append_right _
      (List.mem_map_of_mem (Digest.mem_reportsAbout.mpr ⟨⟨digest, present, told⟩, same⟩))
  cases prevails : roster.prevailing digests identity with
  | none =>
      rw [prevailing, List.argmax_eq_none] at prevails
      rw [prevails] at candidate
      contradiction
  | some standing =>
      refine ⟨standing, rfl, ?_⟩
      rw [UInt64.le_iff_toNat_le]
      exact (List.argmax_eq_some_iff.mp prevails).2.1 report.standing candidate

/-- However a roster came about, and in whichever order and however often digests
are merged into it, each at any moment: if they accord with the roster, every
member ends where they put it, and to merge any of them once more changes
nothing. -/
theorem mergeAll_converges
    {self : Identity}
    {failTimeout cleanupTimeout : Span}
    {start : Instant}
    {operations : List Operation}
    {roster : Roster}
    (ran : (founding self failTimeout cleanupTimeout start).run operations = .ok roster)
    {digests : List Digest}
    (ascending : ∀ digest ∈ digests, Digest.ascending digest.reports = true)
    (known : ∀ digest ∈ digests, ∀ report ∈ digest.reports, report.status ≠ .alive →
      (roster.find? report.identity).isSome = true)
    (unanimous : ∀ left ∈ digests, ∀ right ∈ digests,
      ∀ first ∈ left.reports, ∀ second ∈ right.reports,
        first.identity.same second.identity = true →
          first.heartbeat = second.heartbeat → first.status = second.status)
    {deliveries : List (Digest × Instant)}
    (delivered : ∀ digest, digest ∈ deliveries.map (·.1) ↔ digest ∈ digests) :
    (∀ identity,
      (roster.mergeAll deliveries).standing? identity = roster.prevailing digests identity) ∧
    ∀ digest ∈ digests, ∀ now,
      (roster.mergeAll deliveries).merge digest now = (roster.mergeAll deliveries, []) := by
  have wellFormed := ((wellFormed_founding self failTimeout cleanupTimeout start).run ran).1
  have accords : roster.Accords digests := by
    refine ⟨fun digest present => Digest.ascending_iff.mp (ascending digest present), ?_, unanimous⟩
    intro digest present report told dead unknown
    rw [standing?, Option.map_eq_none_iff] at unknown
    have held := known digest present report told dead
    rw [unknown] at held
    contradiction
  obtain ⟨lastWellFormed, stands⟩ := standing?_mergeAll wellFormed (accords.of_mem_iff delivered)
  have prevails : ∀ identity, (roster.mergeAll deliveries).standing? identity =
      roster.prevailing digests identity := fun identity => by
    rw [stands, prevailing_eq_of_mem_iff (accords.of_mem_iff delivered) delivered]
  refine ⟨prevails, fun digest present now => ?_⟩
  refine merge_eq_self_of_stale lastWellFormed.ascending (accords.ascending digest present) ?_ now
  intro identity report reported
  obtain ⟨standing, greatest, notBehind⟩ := heartbeat_le_of_prevailing roster present
    (mem_of_entryAbout reported) (same_of_entryAbout reported)
  rw [← prevails, standing?_eq lastWellFormed.ascending, Option.map_eq_some_iff] at greatest
  obtain ⟨member, held, rfl⟩ := greatest
  exact ⟨member, held, notBehind⟩

/-- Digests about the node itself, a member it knows and a stranger. -/
def rumours : List Digest :=
  [⟨[⟨⟨.v4 ⟨127, 0, 0, 1⟩ 7000, 1⟩, 0, .left⟩, ⟨⟨.v4 ⟨127, 0, 0, 1⟩ 7001, 2⟩, 5, .left⟩]⟩,
    ⟨[⟨⟨.v4 ⟨127, 0, 0, 1⟩ 7001, 2⟩, 7, .alive⟩, ⟨⟨.v4 ⟨127, 0, 0, 1⟩ 7002, 3⟩, 2, .alive⟩]⟩,
    ⟨[⟨⟨.v4 ⟨127, 0, 0, 1⟩ 7002, 3⟩, 1, .alive⟩]⟩]

/-- The last digest comes first, the second one twice. A report that ties with
what the node holds of itself is passed over. -/
theorem mergeAll_converges_of_rumours :
    ∃ roster,
      (founding ⟨.v4 ⟨127, 0, 0, 1⟩ 7000, 1⟩ (.ofSeconds 2) (.ofSeconds 5) ⟨0⟩).run
        [.merge [⟨⟨.v4 ⟨127, 0, 0, 1⟩ 7001, 2⟩, 3, .alive⟩] ⟨10⟩] = .ok roster ∧
      ∀ digest ∈ rumours, ∀ now,
        let last := roster.mergeAll
          [(rumours[2], ⟨20⟩), (rumours[1], ⟨30⟩), (rumours[0], ⟨25⟩), (rumours[1], ⟨40⟩)]
        last.merge digest now = (last, []) ∧
          last.standing? ⟨.v4 ⟨127, 0, 0, 1⟩ 7000, 1⟩ = some ⟨0, .alive⟩ ∧
          last.standing? ⟨.v4 ⟨127, 0, 0, 1⟩ 7001, 2⟩ = some ⟨7, .alive⟩ ∧
          last.standing? ⟨.v4 ⟨127, 0, 0, 1⟩ 7002, 3⟩ = some ⟨2, .alive⟩ := by
  have ran :
      (founding ⟨.v4 ⟨127, 0, 0, 1⟩ 7000, 1⟩ (.ofSeconds 2) (.ofSeconds 5) ⟨0⟩).run
        [.merge [⟨⟨.v4 ⟨127, 0, 0, 1⟩ 7001, 2⟩, 3, .alive⟩] ⟨10⟩] =
          .ok ⟨⟨.v4 ⟨127, 0, 0, 1⟩ 7000, 1⟩,
            [⟨⟨.v4 ⟨127, 0, 0, 1⟩ 7000, 1⟩, 0, ⟨0⟩, .alive⟩,
              ⟨⟨.v4 ⟨127, 0, 0, 1⟩ 7001, 2⟩, 3, ⟨10⟩, .alive⟩],
            .ofSeconds 2, .ofSeconds 5⟩ := by
    apply eq_ok_of_toOption_eq_some
    decide +kernel
  have ascending : ∀ digest ∈ rumours, Digest.ascending digest.reports = true := by
    decide +kernel
  have delivered : ∀ digest,
      digest ∈ [(rumours[2], (⟨20⟩ : Instant)), (rumours[1], ⟨30⟩), (rumours[0], ⟨25⟩),
        (rumours[1], ⟨40⟩)].map (·.1) ↔ digest ∈ rumours := by
    intro digest
    simp only [rumours, List.map_cons, List.map_nil, List.mem_cons, List.not_mem_nil,
      List.getElem_cons_zero, List.getElem_cons_succ]
    tauto
  obtain ⟨stands, unmoved⟩ := mergeAll_converges ran ascending (by decide +kernel)
    (by decide +kernel) delivered
  refine ⟨_, ran, fun digest present now => ⟨unmoved digest present now, ?_, ?_, ?_⟩⟩
  · rw [stands]
    decide +kernel
  · rw [stands]
    decide +kernel
  · rw [stands]
    decide +kernel

end Roster
end GossipGroup
