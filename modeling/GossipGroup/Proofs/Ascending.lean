import GossipGroup.Proofs.Identity.Order
import GossipGroup.Roster
import Mathlib.Data.List.Forall2
import Mathlib.Data.List.Perm.Subperm

/-!
# Lists that are strictly ascending by identity

Rosters, digests and batches of changes are lists of things that are each about
one member, strictly ascending by identity. Such a list is a finite map: it
holds at most one entry about each member, and all that matters of it is which
entry that is.
-/

namespace GossipGroup

/-- Things that are about one member. -/
class Named (α : Type) where
  /-- The member that something is about. -/
  name : α → Identity

instance : Named Member := ⟨Member.identity⟩

instance : Named Report := ⟨Report.identity⟩

instance : Named Change := ⟨Change.identity⟩

instance : Named Identity := ⟨id⟩

open Named

@[simp] theorem name_member (member : Member) : name member = member.identity := rfl

@[simp] theorem name_report (report : Report) : name report = report.identity := rfl

@[simp] theorem name_change (change : Change) : name change = change.identity := rfl

@[simp] theorem name_identity (identity : Identity) : name identity = identity := rfl

variable {α β : Type} [Named α] [Named β]

/-- Every entry comes before all later ones. -/
def Ascending (entries : List α) : Prop :=
  entries.Pairwise fun left right => (name left).precedes (name right) = true

/-- The first entry about a member. -/
def entryAbout (identity : Identity) (entries : List α) : Option α :=
  entries.find? fun entry => (name entry).same identity

@[simp] theorem ascending_nil : Ascending ([] : List α) := List.Pairwise.nil

@[simp] theorem ascending_cons {entry : α} {entries : List α} :
    Ascending (entry :: entries) ↔
      (∀ later ∈ entries, (name entry).precedes (name later) = true) ∧
        Ascending entries :=
  List.pairwise_cons

theorem ascending_singleton (entry : α) : Ascending [entry] :=
  ascending_cons.mpr ⟨fun _ present => absurd present List.not_mem_nil, ascending_nil⟩

theorem entryAbout_cons (identity : Identity) (entry : α) (entries : List α) :
    entryAbout identity (entry :: entries) =
      if (name entry).same identity = true then some entry
      else entryAbout identity entries := by
  unfold entryAbout
  rw [List.find?_cons]
  cases (name entry).same identity <;> rfl

/-- Looking up depends on the member only, not on the identity that names it. -/
theorem entryAbout_congr
    {left right : Identity}
    (same : left.same right = true)
    (entries : List α) :
    entryAbout left entries = entryAbout right entries := by
  unfold entryAbout
  congr 1
  funext entry
  exact Identity.same_congr_right same (name entry)

theorem mem_of_entryAbout
    {identity : Identity}
    {entries : List α}
    {entry : α}
    (found : entryAbout identity entries = some entry) :
    entry ∈ entries :=
  List.mem_of_find?_eq_some found

theorem same_of_entryAbout
    {identity : Identity}
    {entries : List α}
    {entry : α}
    (found : entryAbout identity entries = some entry) :
    (name entry).same identity = true := by
  have holds := List.find?_some (p := fun entry => (name entry).same identity) found
  exact holds

/-- What is found about a member is about nobody else. -/
theorem same_eq_false_of_entryAbout
    {identity other : Identity}
    {entries : List α}
    {entry : α}
    (found : entryAbout identity entries = some entry)
    (different : other.same identity = false) :
    (name entry).same other = false := by
  rw [Identity.same_congr_left (same_of_entryAbout found), Identity.same_comm]
  exact different

theorem entryAbout_eq_none_iff {identity : Identity} {entries : List α} :
    entryAbout identity entries = none ↔
      ∀ entry ∈ entries, (name entry).same identity = false := by
  simp [entryAbout]

/-- Nothing is found about a member that comes before all entries. -/
theorem entryAbout_eq_none_of_precedes
    {identity : Identity}
    {entries : List α}
    (before : ∀ entry ∈ entries, identity.precedes (name entry) = true) :
    entryAbout identity entries = none := by
  rw [entryAbout_eq_none_iff]
  intro entry present
  rw [Identity.same_comm]
  exact Identity.same_eq_false_of_precedes (before entry present)

/-- Nothing is found about a member that comes after all entries. -/
theorem entryAbout_eq_none_of_follows
    {identity : Identity}
    {entries : List α}
    (after : ∀ entry ∈ entries, (name entry).precedes identity = true) :
    entryAbout identity entries = none := by
  rw [entryAbout_eq_none_iff]
  intro entry present
  exact Identity.same_eq_false_of_precedes (after entry present)

theorem entryAbout_append (identity : Identity) (left right : List α) :
    entryAbout identity (left ++ right) =
      (entryAbout identity left).or (entryAbout identity right) :=
  List.find?_append

/-- A member that comes before all entries comes before all that is found. -/
theorem precedes_of_entryAbout
    {identity other : Identity}
    {entries : List α}
    (before : ∀ entry ∈ entries, identity.precedes (name entry) = true)
    (found : entryAbout other entries ≠ none) :
    identity.precedes other = true := by
  obtain ⟨entry, entryFound⟩ := Option.ne_none_iff_exists'.mp found
  exact Identity.precedes_of_precedes_of_same
    (before entry (mem_of_entryAbout entryFound)) (same_of_entryAbout entryFound)

/-- An entry may be put before ascending ones if it comes before every member
that is found among them. -/
theorem ascending_cons_of_entryAbout
    {entry : α}
    {entries : List α}
    (ascending : Ascending entries)
    (before : ∀ identity, entryAbout identity entries ≠ none →
      (name entry).precedes identity = true) :
    Ascending (entry :: entries) := by
  rw [ascending_cons]
  refine ⟨fun later present => before (name later) ?_, ascending⟩
  intro absent
  have different := entryAbout_eq_none_iff.mp absent later present
  rw [Identity.same_refl] at different
  contradiction

/-- Looking something up where at most one entry was put in front. -/
theorem entryAbout_toList_append
    {identity : Identity}
    {entry : Option α}
    {rest : List α}
    (about : ∀ value ∈ entry, (name value).same identity = true)
    (absent : entryAbout identity rest = none)
    (other : Identity) :
    entryAbout other (entry.toList ++ rest) =
      if identity.same other = true then entry else entryAbout other rest := by
  cases entry with
  | none =>
      rw [Option.toList_none, List.nil_append]
      split
      · rename_i same
        rw [← entryAbout_congr same]
        exact absent
      · rfl
  | some value =>
      rw [Option.toList_some, List.singleton_append, entryAbout_cons,
        Identity.same_congr_left (about value rfl)]

/-- Putting at most one entry before others keeps the order, if its member
comes before all that are found. -/
theorem ascending_toList_append
    {identity : Identity}
    {entry : Option α}
    {rest : List α}
    (about : ∀ value ∈ entry, (name value).same identity = true)
    (ascending : Ascending rest)
    (before : ∀ other, entryAbout other rest ≠ none → identity.precedes other = true) :
    Ascending (entry.toList ++ rest) := by
  cases entry with
  | none => exact ascending
  | some value =>
      refine ascending_cons_of_entryAbout ascending fun other found => ?_
      exact Identity.precedes_of_same_of_precedes (about value rfl) (before other found)

namespace Ascending

theorem tail
    {entry : α}
    {entries : List α}
    (ascending : Ascending (entry :: entries)) :
    Ascending entries :=
  (ascending_cons.mp ascending).2

/-- The head of ascending entries is about nobody in the rest. -/
theorem entryAbout_head_tail
    {entry : α}
    {entries : List α}
    (ascending : Ascending (entry :: entries)) :
    entryAbout (name entry) entries = none :=
  entryAbout_eq_none_of_precedes (ascending_cons.mp ascending).1

/-- What is found among ascending entries is the one entry about the member. -/
theorem entryAbout_eq_some_iff
    {identity : Identity}
    {entries : List α}
    {entry : α}
    (ascending : Ascending entries) :
    entryAbout identity entries = some entry ↔
      entry ∈ entries ∧ (name entry).same identity = true := by
  constructor
  · exact fun found => ⟨mem_of_entryAbout found, same_of_entryAbout found⟩
  · rintro ⟨present, same⟩
    rw [← entryAbout_congr same]
    induction entries with
    | nil => contradiction
    | cons first rest inductionHypothesis =>
        rw [entryAbout_cons]
        rcases List.mem_cons.mp present with equal | inRest
        · rw [equal, Identity.same_refl, if_pos rfl]
        · have before := (ascending_cons.mp ascending).1 entry inRest
          rw [Identity.same_eq_false_of_precedes before, if_neg Bool.false_ne_true]
          exact inductionHypothesis ascending.tail inRest

theorem entryAbout_of_mem
    {entries : List α}
    {entry : α}
    (ascending : Ascending entries)
    (present : entry ∈ entries) :
    entryAbout (name entry) entries = some entry :=
  ascending.entryAbout_eq_some_iff.mpr ⟨present, Identity.same_refl _⟩

/-- Ascending entries hold exactly one entry about each member they know. -/
theorem countP_same
    {identity : Identity}
    {entries : List α}
    (ascending : Ascending entries)
    (known : entryAbout identity entries ≠ none) :
    entries.countP (fun entry => (name entry).same identity) = 1 := by
  induction entries with
  | nil => contradiction
  | cons first rest inductionHypothesis =>
      rw [List.countP_cons]
      rw [entryAbout_cons] at known
      cases same : (name first).same identity with
      | true =>
          have absent : entryAbout identity rest = none := by
            rw [← entryAbout_congr same]
            exact ascending.entryAbout_head_tail
          have none_same : rest.countP (fun entry => (name entry).same identity) = 0 := by
            rw [List.countP_eq_zero]
            intro entry present
            rw [entryAbout_eq_none_iff.mp absent entry present]
            exact Bool.false_ne_true
          simp [none_same]
      | false =>
          rw [same, if_neg Bool.false_ne_true] at known
          simp [inductionHypothesis ascending.tail known]

/-- Ascending entries are no more than any that know all their members. -/
theorem length_le
    {entries : List α}
    {others : List β}
    (ascending : Ascending entries)
    (known : ∀ entry ∈ entries, ∃ other ∈ others, (name other).same (name entry) = true) :
    entries.length ≤ others.length := by
  have distinct : (entries.map fun entry => (name entry).key).Nodup := by
    refine List.pairwise_map.mpr (ascending.imp fun before equal => ?_)
    rw [← Identity.same_iff_key_eq, Identity.same_eq_false_of_precedes before] at equal
    contradiction
  have subset : (entries.map fun entry => (name entry).key) ⊆
      others.map fun other => (name other).key := by
    intro key present
    obtain ⟨entry, entryPresent, rfl⟩ := List.mem_map.mp present
    obtain ⟨other, otherPresent, same⟩ := known entry entryPresent
    exact List.mem_map.mpr ⟨other, otherPresent, Identity.same_iff_key_eq.mp same⟩
  simpa using (List.subperm_of_subset distinct subset).length_le

/-- Dropping and replacing entries keeps the order if names are kept. -/
theorem filterMap
    {entries : List α}
    (ascending : Ascending entries)
    {transform : α → Option β}
    (keepsName : ∀ entry result, transform entry = some result →
      (name result).same (name entry) = true) :
    Ascending (entries.filterMap transform) := by
  refine List.Pairwise.filterMap transform ?_ ascending
  intro left right before leftResult leftKept rightResult rightKept
  refine Identity.precedes_of_same_of_precedes (keepsName left leftResult leftKept) ?_
  exact Identity.precedes_of_precedes_of_same before
    (Identity.same_symm (keepsName right rightResult rightKept))

/-- Looking up commutes with dropping and replacing entries. -/
theorem entryAbout_filterMap
    {entries : List α}
    (ascending : Ascending entries)
    {transform : α → Option β}
    (keepsName : ∀ entry result, transform entry = some result →
      (name result).same (name entry) = true)
    (identity : Identity) :
    entryAbout identity (entries.filterMap transform) =
      (entryAbout identity entries).bind transform := by
  induction entries with
  | nil => rfl
  | cons first rest inductionHypothesis =>
      rw [List.filterMap_cons, entryAbout_cons]
      cases kept : transform first with
      | none =>
          rw [inductionHypothesis ascending.tail]
          split
          · rename_i same
            rw [← entryAbout_congr same, ascending.entryAbout_head_tail]
            exact kept.symm
          · rfl
      | some result =>
          have sameName := keepsName first result kept
          rw [entryAbout_cons, Identity.same_congr_left sameName]
          split
          · exact kept.symm
          · exact inductionHypothesis ascending.tail

/-- Ascending entries hold at most one about a member: the one that is found. -/
theorem filter_same_eq_toList
    {entries : List α}
    (ascending : Ascending entries)
    (identity : Identity) :
    entries.filter (fun entry => (name entry).same identity) =
      (entryAbout identity entries).toList := by
  induction entries with
  | nil => rfl
  | cons first rest inductionHypothesis =>
      rw [List.filter_cons, entryAbout_cons, inductionHypothesis ascending.tail]
      split
      · rename_i same
        rw [← entryAbout_congr same, ascending.entryAbout_head_tail]
        rfl
      · rfl

/-- Ascending entries are told apart by what is found among them. -/
theorem eq_of_entryAbout_eq
    {left right : List α}
    (leftAscending : Ascending left)
    (rightAscending : Ascending right)
    (agree : ∀ identity, entryAbout identity left = entryAbout identity right) :
    left = right := by
  induction left generalizing right with
  | nil =>
      cases right with
      | nil => rfl
      | cons entry entries =>
          have found := agree (name entry)
          rw [rightAscending.entryAbout_of_mem List.mem_cons_self] at found
          contradiction
  | cons first rest inductionHypothesis =>
      have leftHead := leftAscending.entryAbout_of_mem List.mem_cons_self
      cases right with
      | nil =>
          rw [agree] at leftHead
          contradiction
      | cons other others =>
          have rightHead := rightAscending.entryAbout_of_mem List.mem_cons_self
          -- Neither head can come before the other, as each is found in both lists.
          have equal : first = other := by
            rw [agree] at leftHead
            rw [← agree] at rightHead
            rcases List.mem_cons.mp (mem_of_entryAbout leftHead) with equal | inOthers
            · exact equal
            · rcases List.mem_cons.mp (mem_of_entryAbout rightHead) with equal | inRest
              · exact equal.symm
              · have after := (ascending_cons.mp rightAscending).1 first inOthers
                have before := (ascending_cons.mp leftAscending).1 other inRest
                have itself := Identity.precedes_trans before after
                have different := Identity.same_eq_false_of_precedes itself
                rw [Identity.same_refl] at different
                contradiction
          subst equal
          congr 1
          refine inductionHypothesis leftAscending.tail rightAscending.tail fun identity => ?_
          have found := agree identity
          rw [entryAbout_cons, entryAbout_cons] at found
          split at found
          · rename_i same
            rw [← entryAbout_congr same, ← entryAbout_congr same,
              leftAscending.entryAbout_head_tail, rightAscending.entryAbout_head_tail]
          · exact found

/-- The heads of ascending entries about the same members are about the same
member. -/
theorem same_head
    {first : α}
    {other : β}
    {rest : List α}
    {others : List β}
    (leftAscending : Ascending (first :: rest))
    (rightAscending : Ascending (other :: others))
    (agree : ∀ identity, entryAbout identity (first :: rest) = none ↔
      entryAbout identity (other :: others) = none) :
    (name first).same (name other) = true := by
  have firstKnown : entryAbout (name first) (other :: others) ≠ none := by
    rw [Ne, ← agree, leftAscending.entryAbout_of_mem List.mem_cons_self]
    exact Option.some_ne_none _
  have otherKnown : entryAbout (name other) (first :: rest) ≠ none := by
    rw [Ne, agree, rightAscending.entryAbout_of_mem List.mem_cons_self]
    exact Option.some_ne_none _
  rw [entryAbout_cons] at firstKnown otherKnown
  split at otherKnown
  · assumption
  · split at firstKnown
    · rename_i same
      exact Identity.same_symm same
    · -- Neither head can come before the other.
      have before := precedes_of_entryAbout (ascending_cons.mp leftAscending).1 otherKnown
      have after := precedes_of_entryAbout (ascending_cons.mp rightAscending).1 firstKnown
      have different := Identity.same_eq_false_of_precedes (Identity.precedes_trans before after)
      rw [Identity.same_refl] at different
      contradiction

/-- Ascending entries about the same members name them one after the other. -/
theorem forall₂_same_iff
    {left : List α}
    {right : List β}
    (leftAscending : Ascending left)
    (rightAscending : Ascending right) :
    List.Forall₂ (fun entry other => (name entry).same (name other) = true) left right ↔
      ∀ identity, entryAbout identity left = none ↔ entryAbout identity right = none := by
  constructor
  · intro alike identity
    induction alike with
    | nil => exact iff_of_true rfl rfl
    | cons same _ inductionHypothesis =>
        rw [entryAbout_cons, entryAbout_cons, Identity.same_congr_left same]
        split
        · exact iff_of_false (Option.some_ne_none _) (Option.some_ne_none _)
        · exact inductionHypothesis leftAscending.tail rightAscending.tail
  · intro agree
    induction left generalizing right with
    | nil =>
        cases right with
        | nil => exact .nil
        | cons other others =>
            have absent := (agree (name other)).mp rfl
            rw [rightAscending.entryAbout_of_mem List.mem_cons_self] at absent
            contradiction
    | cons first rest inductionHypothesis =>
        cases right with
        | nil =>
            have absent := (agree (name first)).mpr rfl
            rw [leftAscending.entryAbout_of_mem List.mem_cons_self] at absent
            contradiction
        | cons other others =>
            have same := leftAscending.same_head rightAscending agree
            refine .cons same (inductionHypothesis leftAscending.tail rightAscending.tail ?_)
            intro identity
            have agreeHere := agree identity
            rw [entryAbout_cons, entryAbout_cons, ← Identity.same_congr_left same] at agreeHere
            split at agreeHere
            · rename_i named
              have restAbsent := leftAscending.entryAbout_head_tail
              have othersAbsent := rightAscending.entryAbout_head_tail
              rw [entryAbout_congr named] at restAbsent
              rw [← entryAbout_congr same, entryAbout_congr named] at othersAbsent
              exact iff_of_true restAbsent othersAbsent
            · exact agreeHere

end Ascending

/-- The order that a digest is checked for is that of its reports. -/
theorem Digest.ascending_iff {reports : List Report} :
    Digest.ascending reports = true ↔ Ascending reports := by
  induction reports with
  | nil => simp [Digest.ascending]
  | cons first rest inductionHypothesis =>
      cases rest with
      | nil => simp [Digest.ascending]
      | cons second rest =>
          rw [Digest.ascending, Bool.and_eq_true, inductionHypothesis]
          constructor
          · rintro ⟨before, ascending⟩
            refine ascending_cons.mpr ⟨fun later present => ?_, ascending⟩
            rcases List.mem_cons.mp present with equal | inRest
            · rw [equal]
              exact before
            · exact Identity.precedes_trans before
                ((ascending_cons.mp ascending).1 later inRest)
          · intro ascending
            exact ⟨(ascending_cons.mp ascending).1 second List.mem_cons_self,
              ascending.tail⟩

end GossipGroup
