import GossipGroup.Proofs.Digest.Ordering
import GossipGroup.Proofs.Roster.Lookup
import GossipGroup.Proofs.Roster.Merging
import Mathlib.Data.List.Pairwise

/-!
# A digest keeps the freshest report about each member

A digest can be made of any reports, in any order and with any number of them
about one member. About each member that is reported it keeps the report with
the greatest heartbeat, and of several such reports the one given first. That
says all there is to say about it: a digest of a digest is the same, the order
of the reports only matters where it breaks a tie, and whatever the reports
were, the digest can be merged into any roster.
-/

namespace GossipGroup

/-- Of all reports about its member, a report has the greatest heartbeat, and it
is the first that has it. -/
def Report.IsFreshest (report : Report) (reports : List Report) : Prop :=
  ∃ earlier later, reports = earlier ++ report :: later ∧
    (∀ other ∈ earlier, other.identity.same report.identity = true →
      other.heartbeat < report.heartbeat) ∧
    ∀ other ∈ later, other.identity.same report.identity = true →
      other.heartbeat ≤ report.heartbeat

/-- Two reports are about one member with one heartbeat. -/
def Report.ties (left right : Report) : Bool :=
  left.identity.same right.identity && left.heartbeat == right.heartbeat

theorem Report.ties_iff {left right : Report} :
    left.ties right = true ↔
      left.identity.same right.identity = true ∧ left.heartbeat = right.heartbeat := by
  rw [ties, Bool.and_eq_true, beq_iff_eq]

@[simp] theorem Report.ties_refl (report : Report) : report.ties report = true :=
  ties_iff.mpr ⟨Identity.same_refl _, rfl⟩

theorem Report.ties_comm (left right : Report) : left.ties right = right.ties left := by
  rw [Bool.eq_iff_iff, ties_iff, ties_iff, Identity.same_comm left.identity right.identity]
  exact and_congr_right' eq_comm

namespace Report.IsFreshest

variable {left right : Report} {reports : List Report}

theorem mem (freshest : left.IsFreshest reports) : left ∈ reports := by
  obtain ⟨earlier, later, rfl, -, -⟩ := freshest
  exact List.mem_append_right earlier List.mem_cons_self

theorem heartbeat_le
    (freshest : left.IsFreshest reports)
    (present : right ∈ reports)
    (same : right.identity.same left.identity = true) :
    right.heartbeat ≤ left.heartbeat := by
  obtain ⟨earlier, later, rfl, below, notAbove⟩ := freshest
  rcases List.mem_append.mp present with inEarlier | inRest
  · exact UInt64.le_of_lt (below right inEarlier same)
  · rcases List.mem_cons.mp inRest with equal | inLater
    · rw [equal]
      exact UInt64.le_refl _
    · exact notAbove right inLater same

/-- Two freshest reports about one member cannot stand one after the other. -/
theorem not_both_apart
    {before between after : List Report}
    (same : left.identity.same right.identity = true)
    (notAbove : ∀ other ∈ between ++ right :: after,
      other.identity.same left.identity = true → other.heartbeat ≤ left.heartbeat)
    (below : ∀ other ∈ before ++ left :: between,
      other.identity.same right.identity = true → other.heartbeat < right.heartbeat) :
    False := by
  have less : left.heartbeat < right.heartbeat :=
    below left (List.mem_append_right before List.mem_cons_self) same
  have notLess : right.heartbeat ≤ left.heartbeat :=
    notAbove right (List.mem_append_right between List.mem_cons_self) (Identity.same_symm same)
  exact UInt64.not_le.mpr less notLess

/-- There is one freshest report about a member. -/
theorem eq_of_same
    (leftFreshest : left.IsFreshest reports)
    (rightFreshest : right.IsFreshest reports)
    (same : left.identity.same right.identity = true) :
    left = right := by
  obtain ⟨beforeLeft, afterLeft, rfl, belowLeft, notAboveLeft⟩ := leftFreshest
  obtain ⟨beforeRight, afterRight, equal, belowRight, notAboveRight⟩ := rightFreshest
  rcases List.append_eq_append_iff.mp equal with
    ⟨between, rightSplit, leftSplit⟩ | ⟨between, leftSplit, rightSplit⟩
  · cases between with
    | nil => exact (List.cons.inj leftSplit).1
    | cons first between =>
        obtain ⟨rfl, rfl⟩ := List.cons.inj leftSplit
        subst rightSplit
        exact (not_both_apart same notAboveLeft belowRight).elim
  · cases between with
    | nil => exact (List.cons.inj rightSplit).1.symm
    | cons first between =>
        obtain ⟨rfl, rfl⟩ := List.cons.inj rightSplit
        subst leftSplit
        exact (not_both_apart (Identity.same_symm same) notAboveRight belowLeft).elim

end Report.IsFreshest

namespace Digest

/-! ## Dropping repetitions -/

/-- What is dropped after a report that is kept is about the same member, so
looking up does not miss it. -/
theorem entryAbout_cons_skip (identity : Identity) (kept : Report) (reports : List Report) :
    entryAbout identity (kept :: dropRepeats.skip kept reports) =
      entryAbout identity (kept :: reports) := by
  induction reports generalizing kept with
  | nil => rfl
  | cons report reports inductionHypothesis =>
      rw [dropRepeats.skip]
      split
      · rename_i repeated
        rw [inductionHypothesis, entryAbout_cons, entryAbout_cons, entryAbout_cons,
          name_report, name_report, Identity.same_congr_left repeated]
        split <;> rfl
      · rw [entryAbout_cons, inductionHypothesis, ← entryAbout_cons]

theorem entryAbout_dropRepeats (identity : Identity) (reports : List Report) :
    entryAbout identity (dropRepeats reports) = entryAbout identity reports := by
  cases reports with
  | nil => rfl
  | cons first rest => exact entryAbout_cons_skip identity first rest

/-! ## Sorting is stable -/

/-- Sorting does not move reports past each other that are in order already. -/
theorem filter_sorted
    {reports : List Report}
    {chosen : Report → Bool}
    (inOrder : (reports.filter chosen).Pairwise fun left right =>
      (reportOrder left right).isLE = true) :
    (sorted reports).filter chosen = reports.filter chosen := by
  have kept : (reports.filter chosen).Sublist (sorted reports) :=
    List.sublist_mergeSort isLE_reportOrder_trans isLE_reportOrder_total inOrder
      List.filter_sublist
  have keptAmongChosen := kept.filter chosen
  rw [List.filter_filter] at keptAmongChosen
  simp only [Bool.and_self] at keptAmongChosen
  have sameLength : ((sorted reports).filter chosen).length = (reports.filter chosen).length :=
    ((List.mergeSort_perm reports _).filter chosen).length_eq
  exact (keptAmongChosen.eq_of_length sameLength.symm).symm

/-- Of two reports about one member, the one that is not behind comes first. -/
theorem isLE_reportOrder_iff
    {left right : Report}
    (same : left.identity.same right.identity = true) :
    (reportOrder left right).isLE = true ↔ right.heartbeat ≤ left.heartbeat := by
  rw [reportOrder, Identity.order_eq_eq_iff.mpr same, Ordering.eq_then]
  exact Std.isLE_compare

/-- Sorting does not move tied reports past each other. -/
theorem filter_sorted_ties (kept : Report) (reports : List Report) :
    (sorted reports).filter (·.ties kept) = reports.filter (·.ties kept) := by
  refine filter_sorted (List.pairwise_of_forall_mem_list fun left leftTied right rightTied => ?_)
  obtain ⟨leftSame, leftHeartbeat⟩ := Report.ties_iff.mp (List.mem_filter.mp leftTied).2
  obtain ⟨rightSame, rightHeartbeat⟩ := Report.ties_iff.mp (List.mem_filter.mp rightTied).2
  have same := Identity.same_trans leftSame (Identity.same_symm rightSame)
  rw [isLE_reportOrder_iff same, leftHeartbeat, rightHeartbeat]
  exact UInt64.le_refl _

/-- The first of the sorted reports about a member is not behind any other. -/
theorem heartbeat_le_of_entryAbout_sorted
    {identity : Identity}
    {reports : List Report}
    {kept other : Report}
    (found : entryAbout identity (sorted reports) = some kept)
    (present : other ∈ reports)
    (same : other.identity.same kept.identity = true) :
    other.heartbeat ≤ kept.heartbeat := by
  have about : other.identity.same identity = true :=
    Identity.same_trans same (same_of_entryAbout found)
  obtain ⟨-, before, after, split, others⟩ := List.find?_eq_some_iff_append.mp found
  have ordered := pairwise_sorted reports
  rw [← mem_sorted, split, List.mem_append, List.mem_cons] at present
  rw [split, List.pairwise_append, List.pairwise_cons] at ordered
  rcases present with inBefore | rfl | inAfter
  · have different := others other inBefore
    rw [name_report, about] at different
    contradiction
  · exact UInt64.le_refl _
  · exact (isLE_reportOrder_iff (Identity.same_symm same)).mp (ordered.2.1.1 other inAfter)

/-- The first of the sorted reports about a member is the freshest one. -/
theorem isFreshest_of_entryAbout_sorted
    {identity : Identity}
    {reports : List Report}
    {kept : Report}
    (found : entryAbout identity (sorted reports) = some kept) :
    kept.IsFreshest reports := by
  have greatest : ∀ other ∈ reports, other.identity.same kept.identity = true →
      other.heartbeat ≤ kept.heartbeat :=
    fun _ => heartbeat_le_of_entryAbout_sorted found
  have about := same_of_entryAbout found
  obtain ⟨-, before, after, split, others⟩ := List.find?_eq_some_iff_append.mp found
  have noneBefore : before.filter (·.ties kept) = [] := by
    rw [List.filter_eq_nil_iff]
    intro other present ties
    have different := others other present
    rw [name_report, Identity.same_trans (Report.ties_iff.mp ties).1 about] at different
    contradiction
  -- Of the reports that tie with it, it comes first in the sorted and in the given order.
  have tied := filter_sorted_ties kept reports
  rw [split, List.filter_append, noneBefore, List.nil_append, List.filter_cons,
    if_pos (Report.ties_refl kept)] at tied
  obtain ⟨earlier, later, given, untied, -, -⟩ := List.filter_eq_cons_iff.mp tied.symm
  refine ⟨earlier, later, given, fun other present same => ?_, fun other present same => ?_⟩
  · refine UInt64.lt_of_le_of_ne (greatest other ?_ same) fun equal => ?_
    · rw [given]
      exact List.mem_append_left _ present
    · exact untied other present (Report.ties_iff.mpr ⟨same, equal⟩)
  · refine greatest other ?_ same
    rw [given]
    exact List.mem_append_right _ (List.mem_cons_of_mem _ present)

/-! ## What a digest of any reports holds -/

/-- A digest is about those that the reports are about. -/
theorem entryAbout_ofReports_eq_none_iff {identity : Identity} {reports : List Report} :
    entryAbout identity (ofReports reports).reports = none ↔
      ∀ report ∈ reports, report.identity.same identity = false := by
  rw [reports_ofReports, entryAbout_dropRepeats, entryAbout_eq_none_iff]
  simp only [mem_sorted, name_report]

/-- What is found in a digest is the freshest report about the member. -/
theorem isFreshest_of_entryAbout_ofReports
    {identity : Identity}
    {reports : List Report}
    {kept : Report}
    (found : entryAbout identity (ofReports reports).reports = some kept) :
    kept.IsFreshest reports := by
  rw [reports_ofReports, entryAbout_dropRepeats] at found
  exact isFreshest_of_entryAbout_sorted found

theorem entryAbout_ofReports
    {report : Report}
    {reports : List Report}
    (freshest : report.IsFreshest reports) :
    entryAbout report.identity (ofReports reports).reports = some report := by
  cases found : entryAbout report.identity (ofReports reports).reports with
  | none =>
      have different := entryAbout_ofReports_eq_none_iff.mp found report freshest.mem
      rw [Identity.same_refl] at different
      contradiction
  | some kept =>
      rw [(isFreshest_of_entryAbout_ofReports found).eq_of_same freshest
        (same_of_entryAbout found)]

/-- A digest holds the freshest reports and no others. -/
theorem mem_ofReports_iff {report : Report} {reports : List Report} :
    report ∈ (ofReports reports).reports ↔ report.IsFreshest reports := by
  constructor
  · intro present
    exact isFreshest_of_entryAbout_ofReports
      ((ascending_ofReports reports).entryAbout_of_mem present)
  · exact fun freshest => mem_of_entryAbout (entryAbout_ofReports freshest)

theorem exists_mem_ofReports_iff {identity : Identity} {reports : List Report} :
    (∃ kept ∈ (ofReports reports).reports, kept.identity.same identity = true) ↔
      ∃ report ∈ reports, report.identity.same identity = true := by
  have absent : entryAbout identity (ofReports reports).reports = none ↔
      ∀ report ∈ reports, report.identity.same identity = false :=
    entryAbout_ofReports_eq_none_iff
  rw [entryAbout_eq_none_iff] at absent
  simpa using not_congr absent

/-- Reports that are ascending already are a digest as they are. -/
theorem reports_ofReports_of_ascending
    {reports : List Report}
    (ascending : Ascending reports) :
    (ofReports reports).reports = reports := by
  refine (ascending_ofReports reports).eq_of_entryAbout_eq ascending fun identity => ?_
  cases found : entryAbout identity (ofReports reports).reports with
  | none => exact (entryAbout_eq_none_iff.mpr (entryAbout_ofReports_eq_none_iff.mp found)).symm
  | some kept =>
      have present := (isFreshest_of_entryAbout_ofReports found).mem
      exact (ascending.entryAbout_eq_some_iff.mpr ⟨present, same_of_entryAbout found⟩).symm

/-! ## The order of the reports -/

/-- No two of the reports are about one member with one heartbeat. -/
def Untied (reports : List Report) : Prop :=
  reports.Pairwise fun left right => left.ties right = false

theorem Untied.eq
    {reports : List Report}
    {first second : Report}
    (untied : Untied reports)
    (firstPresent : first ∈ reports)
    (secondPresent : second ∈ reports)
    (same : first.identity.same second.identity = true)
    (heartbeat : first.heartbeat = second.heartbeat) :
    first = second := by
  have : Std.Symm fun left right : Report => left.ties right = false :=
    ⟨fun left right apart => (Report.ties_comm right left).trans apart⟩
  refine Classical.byContradiction fun different => ?_
  have apart := List.Pairwise.forall untied firstPresent secondPresent different
  rw [Report.ties_iff.mpr ⟨same, heartbeat⟩] at apart
  contradiction

/-- What is found in a digest of untied reports depends only on which reports there
are. -/
theorem entryAbout_ofReports_of_mem_iff
    {left right : List Report}
    {identity : Identity}
    {first : Report}
    (untied : Untied left)
    (sameReports : ∀ report, report ∈ left ↔ report ∈ right)
    (found : entryAbout identity (ofReports left).reports = some first) :
    entryAbout identity (ofReports right).reports = some first := by
  have firstFreshest := isFreshest_of_entryAbout_ofReports found
  have firstInRight := (sameReports first).mp firstFreshest.mem
  cases rightFound : entryAbout identity (ofReports right).reports with
  | none =>
      have same : first.identity.same identity = true := same_of_entryAbout found
      rw [entryAbout_ofReports_eq_none_iff.mp rightFound first firstInRight] at same
      contradiction
  | some second =>
      have secondFreshest := isFreshest_of_entryAbout_ofReports rightFound
      have secondInLeft := (sameReports second).mpr secondFreshest.mem
      have same : first.identity.same second.identity = true :=
        Identity.same_trans (same_of_entryAbout found)
          (Identity.same_symm (same_of_entryAbout rightFound))
      -- Neither is behind the other.
      have heartbeat : first.heartbeat = second.heartbeat :=
        UInt64.le_antisymm (secondFreshest.heartbeat_le firstInRight same)
          (firstFreshest.heartbeat_le secondInLeft (Identity.same_symm same))
      rw [untied.eq firstFreshest.mem secondInLeft same heartbeat]

/-- As long as no two reports tie, a digest depends only on which reports there
are. -/
theorem ofReports_eq_of_mem_iff
    {left right : List Report}
    (untied : Untied left)
    (sameReports : ∀ report, report ∈ left ↔ report ∈ right) :
    ofReports left = ofReports right := by
  refine congrArg Digest.mk ?_
  refine (ascending_ofReports left).eq_of_entryAbout_eq (ascending_ofReports right)
    fun identity => ?_
  cases found : entryAbout identity (ofReports left).reports with
  | none =>
      rw [entryAbout_ofReports_eq_none_iff] at found
      refine (entryAbout_ofReports_eq_none_iff.mpr fun report present => ?_).symm
      exact found report ((sameReports report).mpr present)
  | some first => exact (entryAbout_ofReports_of_mem_iff untied sameReports found).symm

/-! ## Merging a digest of any reports -/

/-- What a merge of any reports leaves of a member depends on what was held about it
and on the freshest report. -/
theorem find?_merge_ofReports
    {roster : Roster}
    (ascending : Ascending roster.members)
    (reports : List Report)
    (now : Instant)
    (identity : Identity) :
    (roster.merge (ofReports reports) now).1.find? identity =
      Roster.mergedEntry now (roster.find? identity)
        (entryAbout identity (ofReports reports).reports) := by
  have merges := Roster.mergeMembers_merges now ascending (ascending_ofReports reports)
  rw [Roster.find?_eq_entryAbout merges.members_ascending,
    Roster.find?_eq_entryAbout ascending]
  exact merges.entryAbout_members identity

/-- A digest can be made of any reports. It is strictly ascending by identity, about
those that the reports are about, and holds exactly the freshest report about each of
them. So reports that are strictly ascending are left as they are, the order of
reports of which no two tie does not matter, and any roster can merge the digest:
it is accepted as ascending, the roster's entries are ascending afterwards, and each
is what the one that was held and the freshest report come to. -/
theorem ofReports_normalises (reports : List Report) :
    Ascending (ofReports reports).reports ∧
    (∀ identity, (∃ kept ∈ (ofReports reports).reports, kept.identity.same identity = true) ↔
      ∃ report ∈ reports, report.identity.same identity = true) ∧
    (∀ report, report ∈ (ofReports reports).reports ↔ report.IsFreshest reports) ∧
    (Ascending reports → (ofReports reports).reports = reports) ∧
    (Untied reports → ∀ others, others.Perm reports → ofReports others = ofReports reports) ∧
    Digest.ascending (ofReports reports).reports = true ∧
    ∀ (roster : Roster) (now : Instant), Ascending roster.members →
      Ascending (roster.merge (ofReports reports) now).1.members ∧
      (∀ report, report.IsFreshest reports →
        (roster.merge (ofReports reports) now).1.find? report.identity =
          Roster.mergedEntry now (roster.find? report.identity) (some report)) ∧
      ∀ identity, (∀ report ∈ reports, report.identity.same identity = false) →
        (roster.merge (ofReports reports) now).1.find? identity = roster.find? identity := by
  have ascending := ascending_ofReports reports
  refine ⟨ascending, fun _ => exists_mem_ofReports_iff, fun _ => mem_ofReports_iff,
    reports_ofReports_of_ascending, fun untied others permuted => ?_,
    ascending_iff.mpr ascending, fun roster now rosterAscending => ⟨?_, ?_, ?_⟩⟩
  · exact (ofReports_eq_of_mem_iff untied fun report => permuted.mem_iff.symm).symm
  · exact (Roster.mergeMembers_merges now rosterAscending ascending).members_ascending
  · intro report freshest
    rw [find?_merge_ofReports rosterAscending, entryAbout_ofReports freshest]
  · intro identity unreported
    rw [find?_merge_ofReports rosterAscending,
      entryAbout_ofReports_eq_none_iff.mpr unreported, Roster.mergedEntry_none_right]

/-- Reports out of order: of one member with two heartbeats, the later time with
another flow label, and of another twice with one heartbeat. -/
def jumble : List Report :=
  [⟨⟨.v6 ⟨0, 0, 0, 0, 0, 0, 0, 1⟩ 7003 5 0, 4⟩, 3, .alive⟩,
    ⟨⟨.v4 ⟨127, 0, 0, 1⟩ 7000, 1⟩, 6, .left⟩,
    ⟨⟨.v6 ⟨0, 0, 0, 0, 0, 0, 0, 1⟩ 7003 7 0, 4⟩, 9, .alive⟩,
    ⟨⟨.v4 ⟨127, 0, 0, 1⟩ 7000, 1⟩, 6, .alive⟩]

/-- The freshest of them, in order. -/
def gist : List Report :=
  [⟨⟨.v4 ⟨127, 0, 0, 1⟩ 7000, 1⟩, 6, .left⟩,
    ⟨⟨.v6 ⟨0, 0, 0, 0, 0, 0, 0, 1⟩ 7003 7 0, 4⟩, 9, .alive⟩]

/-- Of a tie the first report is kept, the freshest reports are a digest in any order,
and a node that is reported to have left takes that over. -/
theorem ofReports_normalises_jumble :
    (∀ report ∈ gist, report ∈ (ofReports jumble).reports) ∧
      (ofReports gist).reports = gist ∧
      ofReports gist.reverse = ofReports gist ∧
      ((Roster.founding ⟨.v4 ⟨127, 0, 0, 1⟩ 7000, 1⟩ (.ofSeconds 2) (.ofSeconds 5) ⟨0⟩).merge
          (ofReports jumble) ⟨40⟩).1.find? ⟨.v4 ⟨127, 0, 0, 1⟩ 7000, 1⟩ =
        some ⟨⟨.v4 ⟨127, 0, 0, 1⟩ 7000, 1⟩, 6, ⟨40⟩, .left⟩ := by
  obtain ⟨-, -, kept, -, -, -, merged⟩ := ofReports_normalises jumble
  obtain ⟨-, -, -, unchanged, reordered, -⟩ := ofReports_normalises gist
  have ascending : Ascending gist := by
    unfold Ascending
    decide +kernel
  have untied : Untied gist := by
    unfold Untied
    decide +kernel
  have freshest : ∀ report ∈ gist, report.IsFreshest jumble := by
    refine List.forall_mem_cons.mpr ⟨?_, List.forall_mem_singleton.mpr ?_⟩
    · exact ⟨jumble.take 1, jumble.drop 2, rfl, by decide +kernel, by decide +kernel⟩
    · exact ⟨jumble.take 2, jumble.drop 3, rfl, by decide +kernel, by decide +kernel⟩
  refine ⟨fun report present => (kept report).mpr (freshest report present),
    unchanged ascending, reordered untied _ gist.reverse_perm, ?_⟩
  have founding := merged
    (.founding ⟨.v4 ⟨127, 0, 0, 1⟩ 7000, 1⟩ (.ofSeconds 2) (.ofSeconds 5) ⟨0⟩) ⟨40⟩
    (ascending_singleton _)
  exact (founding.2.1 _ (freshest _ List.mem_cons_self)).trans (by decide +kernel)

end Digest
end GossipGroup
