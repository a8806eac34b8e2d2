import GossipGroup.Proofs.Address.Text

/-!
# Addresses are known by their written forms

Two socket addresses are written alike exactly if they agree in everything but
the flow label. A written address is taken apart from the front: its parts are
words over small alphabets, and each is followed by a character from outside its
own alphabet, so the whole text tells where the part ends.

The form of an IPv6 host with a double colon does not say how many zero groups
it stands for; that follows from there being eight groups in all. The form that
shows an embedded IPv4 host is the only one with points.
-/

namespace GossipGroup

/-! ## Text up to a mark -/

/-- Characters with a property are known from a text that begins with them, and
so is the rest of the text, if no such character follows them. -/
theorem append_inj_of_ends
    {property : Char → Prop}
    {left right leftRest rightRest : List Char}
    (leftHas : ∀ character ∈ left, property character)
    (rightHas : ∀ character ∈ right, property character)
    (leftEnds : ∀ character ∈ leftRest.head?, ¬property character)
    (rightEnds : ∀ character ∈ rightRest.head?, ¬property character)
    (same : left ++ leftRest = right ++ rightRest) :
    left = right ∧ leftRest = rightRest := by
  induction left generalizing right with
  | nil =>
      cases right with
      | nil => exact ⟨rfl, same⟩
      | cons first rest =>
          have next : leftRest.head? = some first := congrArg List.head? same
          exact absurd (rightHas first List.mem_cons_self) (leftEnds first next)
  | cons first rest inductionHypothesis =>
      cases right with
      | nil =>
          have next : rightRest.head? = some first := (congrArg List.head? same).symm
          exact absurd (leftHas first List.mem_cons_self) (rightEnds first next)
      | cons other others =>
          obtain ⟨sameFirst, sameRest⟩ := List.cons.inj same
          obtain ⟨equal, rests⟩ := inductionHypothesis
            (fun character present => leftHas character (List.mem_cons_of_mem first present))
            (fun character present => rightHas character (List.mem_cons_of_mem other present))
            sameRest
          exact ⟨by rw [sameFirst, equal], rests⟩

/-- What stands before the first occurrence of a mark, and what follows it, is
known from the whole. -/
theorem append_cons_inj
    {mark : Char}
    {left right leftRest rightRest : List Char}
    (leftFree : mark ∉ left)
    (rightFree : mark ∉ right)
    (same : left ++ mark :: leftRest = right ++ mark :: rightRest) :
    left = right ∧ leftRest = rightRest := by
  have others : ∀ front : List Char, mark ∉ front → ∀ character ∈ front, character ≠ mark := by
    intro front free character present equal
    exact free (equal ▸ present)
  have ends : ∀ rest : List Char, ∀ character ∈ (mark :: rest).head?, ¬character ≠ mark := by
    intro rest character first different
    exact different (Option.some.inj first).symm
  obtain ⟨before, after⟩ := append_inj_of_ends (others left leftFree) (others right rightFree)
    (ends leftRest) (ends rightRest) same
  exact ⟨before, (List.cons.inj after).2⟩

/-! ## Hosts -/

namespace HostV4

theorem octets_injective : Function.Injective octets := by
  intro left right same
  cases left
  cases right
  simpa [octets] using same

/-- An IPv4 host is known by its written form. -/
theorem text_injective : Function.Injective text := by
  have outside : '.' ∉ digitAlphabet := by decide
  have free : ∀ octet : UInt8, '.' ∉ decimal octet.toNat := by
    intro octet present
    exact outside (decimal_subset_digitAlphabet octet.toNat present)
  rintro ⟨first, second, third, fourth⟩
    ⟨otherFirst, otherSecond, otherThird, otherFourth⟩ same
  simp only [text, List.append_assoc, List.cons_append] at same
  obtain ⟨firsts, same⟩ := append_cons_inj (free first) (free otherFirst) same
  obtain ⟨seconds, same⟩ := append_cons_inj (free second) (free otherSecond) same
  obtain ⟨thirds, fourths⟩ := append_cons_inj (free third) (free otherThird) same
  rw [decimal_inj, UInt8.toNat_inj] at firsts seconds thirds fourths
  rw [firsts, seconds, thirds, fourths]

theorem point_mem_text (host : HostV4) : '.' ∈ host.text := by
  simp [text]

end HostV4

namespace HostV6

/-- A group is known by its two bytes. -/
theorem group_eq_of_bytes_eq
    {left right : UInt16}
    (high : (left >>> 8).toUInt8 = (right >>> 8).toUInt8)
    (low : left.toUInt8 = right.toUInt8) :
    left = right := by
  have leftSmall := left.toNat_lt
  have rightSmall := right.toNat_lt
  rw [← UInt8.toNat_inj] at high low
  simp [Nat.shiftRight_eq_div_pow] at high low
  apply UInt16.toNat_inj.mp
  omega

theorem groups_injective : Function.Injective groups := by
  intro left right same
  have read := congrArg ofGroups? same
  rw [ofGroups?_groups, ofGroups?_groups] at read
  exact Option.some.inj read

/-- A host that embeds an IPv4 host is known by it. -/
theorem eq_of_mapped?_eq_some
    {left right : HostV6}
    {embedded : HostV4}
    (leftMapped : left.mapped? = some embedded)
    (rightMapped : right.mapped? = some embedded) :
    left = right := by
  unfold mapped? at leftMapped rightMapped
  split at leftMapped
  · rename_i leftFront
    split at rightMapped
    · rename_i rightFront
      obtain rfl := Option.some.inj leftMapped
      have octets := Option.some.inj rightMapped
      rw [HostV4.mk.injEq] at octets
      obtain ⟨third, fourth, fifth, sixth⟩ := octets
      have sixthGroup := group_eq_of_bytes_eq third fourth
      have seventhGroup := group_eq_of_bytes_eq fifth sixth
      apply groups_injective
      have front := rightFront.trans leftFront.symm
      cases left
      cases right
      simp_all [groups]
    · contradiction
  · contradiction

/-! ## Runs of zero groups -/

/-- The groups of a run of zeros are zeros. -/
theorem take_eq_replicate
    {groups : List UInt16}
    {count : Nat}
    (run : count ≤ (groups.takeWhile (· = 0)).length) :
    groups.take count = List.replicate count 0 := by
  induction groups generalizing count with
  | nil =>
      obtain rfl := Nat.le_zero.mp run
      rfl
  | cons group rest inductionHypothesis =>
      cases count with
      | zero => rfl
      | succ count =>
          rw [List.takeWhile_cons] at run
          split at run
          · rename_i zero
            rw [List.take_succ_cons, inductionHypothesis (Nat.le_of_succ_le_succ run),
              of_decide_eq_true zero]
            rfl
          · contradiction

/-- Where the longest run of zeros is found, there are as many zeros. -/
theorem longestZeros_le_zerosFrom (groups : List UInt16) :
    (longestZeros groups).2 ≤ zerosFrom groups (longestZeros groups).1 := by
  unfold longestZeros
  refine List.foldlRecOn (motive := fun best : Nat × Nat => best.2 ≤ zerosFrom groups best.1)
    _ _ (Nat.zero_le _) ?_
  intro best holds start _
  split
  · exact Nat.le_refl _
  · exact holds

theorem eq_around_longestZeros (groups : List UInt16) :
    groups = groups.take (longestZeros groups).1 ++ List.replicate (longestZeros groups).2 0 ++
      groups.drop ((longestZeros groups).1 + (longestZeros groups).2) := by
  rw [← take_eq_replicate (longestZeros_le_zerosFrom groups), List.append_assoc,
    ← List.drop_drop, List.take_append_drop, List.take_append_drop]

/-! ## Written groups -/

/-- What closes written groups: the end of the text, or a double colon. -/
inductive Closes : List Char → Prop
  | ending : Closes []
  | doubleColon (rest : List Char) : Closes (':' :: ':' :: rest)

/-- Written groups from the colon behind the first one on. -/
def groupsTail : List UInt16 → List Char
  | [] => []
  | rest => ':' :: groupsText rest

theorem groupsText_cons (group : UInt16) (rest : List UInt16) :
    groupsText (group :: rest) = hexadecimal group.toNat ++ groupsTail rest := by
  cases rest with
  | nil => exact (List.append_nil _).symm
  | cons second rest => rfl

/-- Written groups begin with a digit. -/
theorem head?_groupsText_append
    (group : UInt16)
    (rest : List UInt16)
    (tail : List Char) :
    ∃ digit ∈ digitAlphabet, (groupsText (group :: rest) ++ tail).head? = some digit := by
  have digits : hexadecimal group.toNat ≠ [] := Nat.toDigits_ne_nil
  refine ⟨(hexadecimal group.toNat).head digits,
    hexadecimal_subset_digitAlphabet _ (List.head_mem digits), ?_⟩
  rw [groupsText_cons, List.append_assoc, List.head?_append, List.head?_eq_some_head digits]
  rfl

/-- What closes written groups begins with no digit. -/
theorem Closes.not_digit
    {closing : List Char}
    (closes : Closes closing) :
    ∀ character ∈ closing.head?, character ∉ digitAlphabet := by
  have outside : ':' ∉ digitAlphabet := by decide
  intro character first
  cases closes with
  | ending => contradiction
  | doubleColon rest =>
      rw [← Option.some.inj first]
      exact outside

/-- Neither does what follows the first of written groups. -/
theorem Closes.groupsTail_append_not_digit
    {closing : List Char}
    (closes : Closes closing)
    (rest : List UInt16) :
    ∀ character ∈ (groupsTail rest ++ closing).head?, character ∉ digitAlphabet := by
  have outside : ':' ∉ digitAlphabet := by decide
  cases rest with
  | nil => exact closes.not_digit
  | cons second rest =>
      intro character first
      rw [← Option.some.inj first]
      exact outside

theorem Closes.ne_groupsText_append
    {group : UInt16}
    {rest : List UInt16}
    {closing tail : List Char}
    (closes : Closes closing) :
    closing ≠ groupsText (group :: rest) ++ tail := by
  rintro rfl
  obtain ⟨digit, present, first⟩ := head?_groupsText_append group rest tail
  exact closes.not_digit digit first present

/-- A double colon is not a colon before another group. -/
theorem Closes.ne_groupsTail_append
    {group : UInt16}
    {rest : List UInt16}
    {closing tail : List Char}
    (closes : Closes closing) :
    closing ≠ groupsTail (group :: rest) ++ tail := by
  have outside : ':' ∉ digitAlphabet := by decide
  intro same
  cases closes with
  | ending => contradiction
  | doubleColon others =>
      obtain ⟨digit, present, first⟩ := head?_groupsText_append group rest tail
      have text : ':' :: others = groupsText (group :: rest) ++ tail := (List.cons.inj same).2
      rw [← text] at first
      exact outside (Option.some.inj first ▸ present)

/-- Written groups are known from a text that begins with them, and so is what
closes them. -/
theorem groupsText_append_inj
    {left right : List UInt16}
    {leftTail rightTail : List Char}
    (leftCloses : Closes leftTail)
    (rightCloses : Closes rightTail)
    (same : groupsText left ++ leftTail = groupsText right ++ rightTail) :
    left = right ∧ leftTail = rightTail := by
  induction left generalizing right with
  | nil =>
      cases right with
      | nil => exact ⟨rfl, same⟩
      | cons other others => exact absurd same leftCloses.ne_groupsText_append
  | cons group rest inductionHypothesis =>
      cases right with
      | nil => exact absurd same.symm rightCloses.ne_groupsText_append
      | cons other others =>
          rw [groupsText_cons, groupsText_cons, List.append_assoc, List.append_assoc] at same
          obtain ⟨digits, tails⟩ := append_inj_of_ends
            (fun _ present => hexadecimal_subset_digitAlphabet _ present)
            (fun _ present => hexadecimal_subset_digitAlphabet _ present)
            (leftCloses.groupsTail_append_not_digit rest)
            (rightCloses.groupsTail_append_not_digit others) same
          obtain rfl := UInt16.toNat_inj.mp (hexadecimal_inj.mp digits)
          cases rest with
          | nil =>
              cases others with
              | nil => exact ⟨rfl, tails⟩
              | cons next others => exact absurd tails leftCloses.ne_groupsTail_append
          | cons second rest =>
              cases others with
              | nil => exact absurd tails.symm rightCloses.ne_groupsTail_append
              | cons next others =>
                  obtain ⟨equal, closings⟩ := inductionHypothesis (List.cons.inj tails).2
                  exact ⟨by rw [equal], closings⟩

/-! ## Abbreviated groups -/

/-- A text is a form of groups: it shows all of them, or has a double colon in
place of a number of zeros. -/
inductive Abbreviates : List UInt16 → List Char → Prop
  | whole (groups : List UInt16) : Abbreviates groups (groupsText groups)
  | around (front : List UInt16) (count : Nat) (back : List UInt16) :
      Abbreviates (front ++ List.replicate count 0 ++ back)
        (groupsText front ++ ':' :: ':' :: groupsText back)

theorem abbreviates_abbreviated (groups : List UInt16) :
    Abbreviates groups (abbreviated groups) := by
  unfold abbreviated
  simp only
  split
  · have abbreviates := Abbreviates.around (groups.take (longestZeros groups).1)
      (longestZeros groups).2 (groups.drop ((longestZeros groups).1 + (longestZeros groups).2))
    rwa [← eq_around_longestZeros] at abbreviates
  · exact .whole groups

theorem groupsText_inj {left right : List UInt16} :
    groupsText left = groupsText right ↔ left = right := by
  constructor
  · intro same
    rw [← List.append_nil (groupsText left), ← List.append_nil (groupsText right)] at same
    exact (groupsText_append_inj .ending .ending same).1
  · rintro rfl
    rfl

theorem groupsText_ne_doubleColon {groups front : List UInt16} {rest : List Char} :
    groupsText groups ≠ groupsText front ++ ':' :: ':' :: rest := by
  intro same
  rw [← List.append_nil (groupsText groups)] at same
  obtain ⟨-, none⟩ := groupsText_append_inj .ending (.doubleColon rest) same
  contradiction

/-- Of equally many groups, only one sequence has a given form. -/
theorem Abbreviates.inj
    {left right : List UInt16}
    {leftText rightText : List Char}
    (leftForm : Abbreviates left leftText)
    (rightForm : Abbreviates right rightText)
    (sameLength : left.length = right.length)
    (same : leftText = rightText) :
    left = right := by
  cases leftForm with
  | whole =>
      cases rightForm with
      | whole => exact groupsText_inj.mp same
      | around => exact absurd same groupsText_ne_doubleColon
  | around leftFront leftCount leftBack =>
      cases rightForm with
      | whole => exact absurd same.symm groupsText_ne_doubleColon
      | around rightFront rightCount rightBack =>
          obtain ⟨fronts, closings⟩ :=
            groupsText_append_inj (.doubleColon _) (.doubleColon _) same
          have backs := groupsText_inj.mp (List.cons.inj (List.cons.inj closings).2).2
          simp only [List.length_append, List.length_replicate, fronts, backs] at sameLength
          have counts : leftCount = rightCount := by omega
          rw [fronts, counts, backs]

/-! ## Written hosts -/

theorem text_of_mapped
    {host : HostV6}
    {embedded : HostV4}
    (mapped : host.mapped? = some embedded) :
    host.text = "::ffff:".toList ++ embedded.text := by
  rw [text, mapped]

theorem text_of_not_mapped
    {host : HostV6}
    (notMapped : host.mapped? = none) :
    host.text = abbreviated host.groups := by
  rw [text, notMapped]

/-- Only a host that embeds an IPv4 host is written with points. -/
theorem point_mem_text_iff (host : HostV6) : '.' ∈ host.text ↔ host.mapped? ≠ none := by
  have outside : '.' ∉ ':' :: digitAlphabet := by decide
  cases mapped : host.mapped? with
  | none =>
      rw [text_of_not_mapped mapped]
      exact ⟨fun present => absurd (abbreviated_subset host.groups present) outside,
        fun different => absurd rfl different⟩
  | some embedded =>
      rw [text_of_mapped mapped]
      exact ⟨fun _ => Option.some_ne_none embedded,
        fun _ => List.mem_append_right _ embedded.point_mem_text⟩

/-- An IPv6 host is known by its written form. -/
theorem text_injective : Function.Injective text := by
  intro left right same
  have points := left.point_mem_text_iff
  rw [same, right.point_mem_text_iff] at points
  cases leftMapped : left.mapped? with
  | none =>
      rw [leftMapped] at points
      have rightMapped : right.mapped? = none :=
        Decidable.not_not.mp fun mapped => points.mp mapped rfl
      rw [text_of_not_mapped leftMapped, text_of_not_mapped rightMapped] at same
      exact groups_injective ((abbreviates_abbreviated left.groups).inj
        (abbreviates_abbreviated right.groups) rfl same)
  | some leftEmbedded =>
      rw [leftMapped] at points
      obtain ⟨rightEmbedded, rightMapped⟩ :=
        Option.ne_none_iff_exists'.mp (points.mpr (Option.some_ne_none leftEmbedded))
      rw [text_of_mapped leftMapped, text_of_mapped rightMapped] at same
      obtain rfl := HostV4.text_injective (List.append_cancel_left same)
      exact eq_of_mapped?_eq_some leftMapped rightMapped

end HostV6

/-! ## Socket addresses -/

namespace SocketAddress

theorem scopeText_injective : Function.Injective scopeText := by
  intro left right same
  unfold scopeText at same
  split at same
  · split at same
    · rename_i leftZero rightZero
      rw [leftZero, rightZero]
    · contradiction
  · split at same
    · contradiction
    · exact UInt32.toNat_inj.mp (decimal_inj.mp (List.cons.inj same).2)

/-- A scope, if it is written, begins with its mark, which no host contains. -/
theorem eq_of_mem_head?_scopeText {scope : UInt32} :
    ∀ character ∈ (scopeText scope).head?, character = '%' := by
  intro character first
  unfold scopeText at first
  split at first
  · contradiction
  · exact (Option.some.inj first).symm

/-- A host and its scope are written together within brackets. -/
theorem text_append_scopeText_inj
    {leftHost rightHost : HostV6}
    {leftScope rightScope : UInt32}
    (same : leftHost.text ++ scopeText leftScope = rightHost.text ++ scopeText rightScope) :
    leftHost = rightHost ∧ leftScope = rightScope := by
  have outside : '%' ∉ hostAlphabet := by decide
  have unmarked : ∀ host : HostV6, ∀ character ∈ host.text, character ≠ '%' := by
    intro host character present equal
    exact outside (host.text_subset (equal ▸ present))
  have marked : ∀ scope : UInt32, ∀ character ∈ (scopeText scope).head?, ¬character ≠ '%' := by
    intro scope character first different
    exact different (eq_of_mem_head?_scopeText character first)
  obtain ⟨hosts, scopes⟩ := append_inj_of_ends (unmarked leftHost) (unmarked rightHost)
    (marked leftScope) (marked rightScope) same
  exact ⟨HostV6.text_injective hosts, scopeText_injective scopes⟩

/-- Addresses that agree in all but the flow label, which is never written. -/
inductive EqExceptFlow : SocketAddress → SocketAddress → Prop
  | v4 (host : HostV4) (portNumber : UInt16) :
      EqExceptFlow (.v4 host portNumber) (.v4 host portNumber)
  | v6 (host : HostV6) (portNumber : UInt16) (leftFlow rightFlow scope : UInt32) :
      EqExceptFlow (.v6 host portNumber leftFlow scope) (.v6 host portNumber rightFlow scope)

theorem text_v4_inj
    {leftHost rightHost : HostV4}
    {leftPort rightPort : UInt16}
    (same : text (.v4 leftHost leftPort) = text (.v4 rightHost rightPort)) :
    leftHost = rightHost ∧ leftPort = rightPort := by
  have outside : ':' ∉ '.' :: digitAlphabet := by decide
  have free : ∀ host : HostV4, ':' ∉ host.text := by
    intro host present
    exact outside (host.text_subset present)
  obtain ⟨hosts, ports⟩ := append_cons_inj (free leftHost) (free rightHost) same
  exact ⟨HostV4.text_injective hosts, UInt16.toNat_inj.mp (decimal_inj.mp ports)⟩

theorem text_v6_inj
    {leftHost rightHost : HostV6}
    {leftPort rightPort : UInt16}
    {leftFlow rightFlow leftScope rightScope : UInt32}
    (same : text (.v6 leftHost leftPort leftFlow leftScope) =
      text (.v6 rightHost rightPort rightFlow rightScope)) :
    leftHost = rightHost ∧ leftPort = rightPort ∧ leftScope = rightScope := by
  have outsideHost : ']' ∉ '[' :: hostAlphabet := by decide
  have outsideScope : ']' ∉ '%' :: digitAlphabet := by decide
  have free : ∀ (host : HostV6) (scope : UInt32), ']' ∉ '[' :: host.text ++ scopeText scope := by
    intro host scope present
    rcases List.mem_append.mp present with inHost | inScope
    · exact outsideHost (List.cons_subset_cons '[' host.text_subset inHost)
    · exact outsideScope (scopeText_subset scope inScope)
  obtain ⟨bracketed, ports⟩ := append_cons_inj (free leftHost leftScope)
    (free rightHost rightScope) same
  obtain ⟨hosts, scopes⟩ := text_append_scopeText_inj (List.cons.inj bracketed).2
  exact ⟨hosts, UInt16.toNat_inj.mp (decimal_inj.mp (List.cons.inj ports).2), scopes⟩

/-- An IPv4 address is not written as an IPv6 address is. -/
theorem text_v4_ne_text_v6
    {leftHost : HostV4}
    {rightHost : HostV6}
    {leftPort rightPort : UInt16}
    {flow scope : UInt32} :
    text (.v4 leftHost leftPort) ≠ text (.v6 rightHost rightPort flow scope) := by
  intro same
  have outside : '[' ∉ hostAlphabet := by decide
  have colon : ':' ∈ hostAlphabet := by decide
  have points : '.' :: digitAlphabet ⊆ hostAlphabet := by decide
  have digits : digitAlphabet ⊆ hostAlphabet := by decide
  have shown : text (.v4 leftHost leftPort) ⊆ hostAlphabet := by
    simp only [text, List.append_subset, List.cons_subset]
    exact ⟨List.Subset.trans leftHost.text_subset points, colon,
      List.Subset.trans (decimal_subset_digitAlphabet _) digits⟩
  exact outside (shown (same ▸ List.mem_cons_self))

/-- Addresses are written alike exactly if they agree in all but the flow label. -/
theorem text_eq_iff {left right : SocketAddress} :
    left.text = right.text ↔ EqExceptFlow left right := by
  constructor
  · intro same
    cases left with
    | v4 host portNumber =>
        cases right with
        | v4 other otherPort =>
            obtain ⟨rfl, rfl⟩ := text_v4_inj same
            exact .v4 host portNumber
        | v6 other otherPort flow scope => exact absurd same text_v4_ne_text_v6
    | v6 host portNumber flow scope =>
        cases right with
        | v4 other otherPort => exact absurd same.symm text_v4_ne_text_v6
        | v6 other otherPort otherFlow otherScope =>
            obtain ⟨rfl, rfl, rfl⟩ := text_v6_inj same
            exact .v6 host portNumber flow otherFlow scope
  · intro agree
    cases agree <;> rfl

end SocketAddress
end GossipGroup
