import GossipGroup.Digest.Decoding
import GossipGroup.Proofs.Ascending

/-!
# Digests are ascending

Both ways in which a digest comes about make it strictly ascending by identity:
sorting any reports and dropping repetitions, and reading the bytes of a
datagram, which are refused otherwise.
-/

namespace GossipGroup

instance : Std.TransOrd Identity := inferInstanceAs (Std.TransCmp Identity.order)

namespace Digest

instance : Std.TransCmp reportOrder :=
  inferInstanceAs (Std.TransCmp (compareLex (compareOn Report.identity)
    fun left right => compareOn Report.heartbeat right left))

theorem isLE_reportOrder_trans
    (first second third : Report)
    (left : (reportOrder first second).isLE = true)
    (right : (reportOrder second third).isLE = true) :
    (reportOrder first third).isLE = true :=
  Std.TransCmp.isLE_trans left right

theorem isLE_reportOrder_total (left right : Report) :
    ((reportOrder left right).isLE || (reportOrder right left).isLE) = true := by
  have swapped : reportOrder right left = (reportOrder left right).swap :=
    Std.OrientedCmp.eq_swap
  rw [swapped]
  cases reportOrder left right <;> rfl

/-- Reports in the order in which repetitions are dropped. -/
def sorted (reports : List Report) : List Report :=
  reports.mergeSort fun left right => (reportOrder left right).isLE

theorem reports_ofReports (reports : List Report) :
    (ofReports reports).reports = dropRepeats (sorted reports) := rfl

theorem mem_sorted {report : Report} {reports : List Report} :
    report ∈ sorted reports ↔ report ∈ reports :=
  List.mem_mergeSort

theorem pairwise_sorted (reports : List Report) :
    (sorted reports).Pairwise fun left right => (reportOrder left right).isLE = true :=
  List.pairwise_mergeSort isLE_reportOrder_trans isLE_reportOrder_total reports

/-- Among sorted reports, those that are kept after one follow it strictly. -/
theorem ascending_cons_skip
    {kept : Report}
    {reports : List Report}
    (sorted : (kept :: reports).Pairwise fun left right =>
      (left.identity.order right.identity).isLE = true) :
    Ascending (kept :: dropRepeats.skip kept reports) := by
  induction reports generalizing kept with
  | nil => exact ascending_singleton kept
  | cons report reports inductionHypothesis =>
      rw [List.pairwise_cons] at sorted
      obtain ⟨notAfter, sortedRest⟩ := sorted
      rw [dropRepeats.skip]
      split
      · refine inductionHypothesis (List.pairwise_cons.mpr ⟨?_, sortedRest.of_cons⟩)
        intro later present
        exact notAfter later (List.mem_cons_of_mem report present)
      · rename_i different
        have ascending := inductionHypothesis sortedRest
        have before : kept.identity.precedes report.identity = true := by
          have ordered := notAfter report List.mem_cons_self
          rw [Identity.same_comm, ← Identity.order_eq_eq_iff] at different
          rw [← Identity.order_eq_lt_iff]
          cases compared : kept.identity.order report.identity with
          | lt => rfl
          | eq => exact absurd compared different
          | gt =>
              rw [compared] at ordered
              contradiction
        refine ascending_cons.mpr ⟨fun later present => ?_, ascending⟩
        rcases List.mem_cons.mp present with equal | inRest
        · rw [equal]
          exact before
        · exact Identity.precedes_trans before ((ascending_cons.mp ascending).1 later inRest)

/-- A digest made of any reports is ascending. -/
theorem ascending_ofReports (reports : List Report) :
    Ascending (ofReports reports).reports := by
  -- Several of the sorted reports may still be about one member.
  have ordered : (sorted reports).Pairwise fun left right =>
      (left.identity.order right.identity).isLE = true :=
    (pairwise_sorted reports).imp fun before => (Ordering.isLE_then_iff_and.mp before).1
  rw [reports_ofReports]
  cases same : sorted reports with
  | nil => exact ascending_nil
  | cons first rest =>
      rw [same] at ordered
      exact ascending_cons_skip ordered

/-- A digest that was read from the bytes of a datagram is ascending. -/
theorem ascending_of_decode_eq_ok
    {bytes : List UInt8}
    {digest : Digest}
    (decoded : decode bytes = .ok digest) :
    Ascending digest.reports := by
  unfold decode at decoded
  split at decoded
  · contradiction
  · simp only at decoded
    split at decoded
    · contradiction
    · split at decoded
      · contradiction
      · split at decoded
        · rename_i reports _ ordered
          rw [← Except.ok.inj decoded]
          exact ascending_iff.mp ordered
        · contradiction

end Digest
end GossipGroup
