import GossipGroup.Address
import GossipGroup.Text.Numeral

/-!
# How addresses are written

The written form of an address uses few characters, all of them ASCII, and has
at most sixty-one of them. Numbers are read back from their digits; hosts are
written with digits, points and colons only.
-/

namespace GossipGroup

/-! ## Numerals -/

theorem digitValue?_digitChar
    {base digit : Nat}
    (below : digit < base)
    (atMostSixteen : base ≤ 16) :
    Text.digitValue? base digit.digitChar = some digit := by
  have all : ∀ base : Fin 17, ∀ digit : Fin 16, digit.val < base.val →
      Text.digitValue? base.val digit.val.digitChar = some digit.val := by decide
  exact all ⟨base, by omega⟩ ⟨digit, by omega⟩ below

/-- A number is read back from its digits. -/
theorem numberOf_toDigits
    {base : Nat}
    (atLeastTwo : 1 < base)
    (atMostSixteen : base ≤ 16)
    (value : Nat) :
    Text.numberOf base (Nat.toDigits base value) = value := by
  induction value using Nat.strongRecOn with
  | _ value inductionHypothesis =>
      have last := Nat.mod_lt value (Nat.zero_lt_of_lt atLeastTwo)
      rw [Nat.toDigits_eq_if atLeastTwo]
      split
      · rename_i small
        rw [Text.numberOf, List.foldl_cons, digitValue?_digitChar small atMostSixteen]
        exact Nat.zero_add value
      · have higher := inductionHypothesis _ (Nat.div_lt_self (by omega) atLeastTwo)
        rw [Text.numberOf] at higher ⊢
        rw [List.foldl_append, higher, List.foldl_cons, digitValue?_digitChar last atMostSixteen]
        exact Nat.div_add_mod value base

theorem toDigits_inj
    {base left right : Nat}
    (atLeastTwo : 1 < base)
    (atMostSixteen : base ≤ 16) :
    Nat.toDigits base left = Nat.toDigits base right ↔ left = right := by
  constructor
  · intro same
    rw [← numberOf_toDigits atLeastTwo atMostSixteen left, same,
      numberOf_toDigits atLeastTwo atMostSixteen]
  · intro equal
    rw [equal]

/-- A number is known by its decimal digits. -/
theorem decimal_inj {left right : Nat} : decimal left = decimal right ↔ left = right :=
  toDigits_inj (by decide) (by decide)

/-- A number is known by its hexadecimal digits. -/
theorem hexadecimal_inj {left right : Nat} :
    hexadecimal left = hexadecimal right ↔ left = right :=
  toDigits_inj (by decide) (by decide)

theorem length_decimal_le
    {value : Nat}
    (digits : Nat)
    (positive : 0 < digits)
    (small : value < Nat.pow 10 digits) :
    (decimal value).length ≤ digits :=
  (Nat.length_toDigits_le_iff (by decide) positive).mpr small

theorem length_hexadecimal_le
    {value : Nat}
    (digits : Nat)
    (positive : 0 < digits)
    (small : value < Nat.pow 16 digits) :
    (hexadecimal value).length ≤ digits :=
  (Nat.length_toDigits_le_iff (by decide) positive).mpr small

/-! ## Alphabets -/

/-- The digits of numbers in a base up to sixteen. -/
def digitAlphabet : List Char := "0123456789abcdef".toList

/-- The characters in which hosts are written. -/
def hostAlphabet : List Char := '.' :: ':' :: digitAlphabet

/-- The characters in which addresses are written. -/
def addressAlphabet : List Char := "0123456789abcdef.:[]%".toList

theorem toDigits_subset_digitAlphabet
    {base : Nat}
    (atLeastTwo : 1 < base)
    (atMostSixteen : base ≤ 16)
    (value : Nat) :
    Nat.toDigits base value ⊆ digitAlphabet := by
  have digit : ∀ digit : Fin 16, digit.val.digitChar ∈ digitAlphabet := by decide
  induction value using Nat.strongRecOn with
  | _ value inductionHypothesis =>
      intro character present
      rw [Nat.toDigits_eq_if atLeastTwo] at present
      split at present
      · rename_i small
        rw [List.mem_singleton.mp present]
        exact digit ⟨value, by omega⟩
      · rename_i large
        rcases List.mem_append.mp present with higher | lowest
        · exact inductionHypothesis _ (Nat.div_lt_self (by omega) atLeastTwo) higher
        · rw [List.mem_singleton.mp lowest]
          have below := Nat.mod_lt value (Nat.zero_lt_of_lt atLeastTwo)
          exact digit ⟨value % base, by omega⟩

theorem decimal_subset_digitAlphabet (value : Nat) : decimal value ⊆ digitAlphabet :=
  toDigits_subset_digitAlphabet (by decide) (by decide) value

theorem hexadecimal_subset_digitAlphabet (value : Nat) :
    hexadecimal value ⊆ digitAlphabet :=
  toDigits_subset_digitAlphabet (by decide) (by decide) value

theorem decimal_subset_addressAlphabet (value : Nat) : decimal value ⊆ addressAlphabet :=
  List.Subset.trans (decimal_subset_digitAlphabet value) (by decide)

/-! ## Hosts -/

namespace HostV4

theorem length_text_le (host : HostV4) : host.text.length ≤ 15 := by
  have octet := fun value : UInt8 =>
    length_decimal_le 3 (by decide) (Nat.lt_of_lt_of_le value.toNat_lt (by decide))
  have first := octet host.first
  have second := octet host.second
  have third := octet host.third
  have fourth := octet host.fourth
  simp only [text, List.length_append, List.length_cons]
  omega

/-- An IPv4 host is written with digits and points. -/
theorem text_subset (host : HostV4) : host.text ⊆ '.' :: digitAlphabet := by
  have octet := fun value : UInt8 =>
    List.subset_cons_of_subset '.' (decimal_subset_digitAlphabet value.toNat)
  have point : '.' ∈ '.' :: digitAlphabet := List.mem_cons_self
  simp only [text, List.append_subset, List.cons_subset]
  exact ⟨⟨⟨octet _, point, octet _⟩, point, octet _⟩, point, octet _⟩

end HostV4

namespace HostV6

theorem length_groupsText_le (groups : List UInt16) :
    (groupsText groups).length ≤ 5 * groups.length := by
  have group := fun value : UInt16 =>
    length_hexadecimal_le 4 (by decide) value.toNat_lt
  induction groups with
  | nil => exact Nat.le_refl 0
  | cons first rest inductionHypothesis =>
      have firstLength := group first
      cases rest with
      | nil =>
          simp only [groupsText, List.length_cons, List.length_nil]
          omega
      | cons second rest =>
          simp only [groupsText, List.length_append, List.length_cons] at *
          omega

theorem groupsText_subset (groups : List UInt16) :
    groupsText groups ⊆ ':' :: digitAlphabet := by
  have group := fun value : UInt16 =>
    List.subset_cons_of_subset ':' (hexadecimal_subset_digitAlphabet value.toNat)
  induction groups with
  | nil => exact List.nil_subset _
  | cons first rest inductionHypothesis =>
      cases rest with
      | nil => exact group first
      | cons second rest =>
          simp only [groupsText, List.append_subset, List.cons_subset]
          exact ⟨group first, List.mem_cons_self, inductionHypothesis⟩

theorem length_abbreviated_le (groups : List UInt16) :
    (abbreviated groups).length ≤ 5 * groups.length + 2 := by
  unfold abbreviated
  generalize longestZeros groups = zeros
  simp only
  split
  · have before := length_groupsText_le (groups.take zeros.1)
    have behind := length_groupsText_le (groups.drop (zeros.1 + zeros.2))
    rw [List.length_take] at before
    rw [List.length_drop] at behind
    simp only [List.length_append, List.length_cons]
    omega
  · exact Nat.le_add_right_of_le (length_groupsText_le groups)

theorem abbreviated_subset (groups : List UInt16) :
    abbreviated groups ⊆ ':' :: digitAlphabet := by
  have colon : ':' ∈ ':' :: digitAlphabet := List.mem_cons_self
  unfold abbreviated
  simp only
  split
  · simp only [List.append_subset, List.cons_subset]
    exact ⟨groupsText_subset _, colon, colon, groupsText_subset _⟩
  · exact groupsText_subset groups

theorem length_text_le (host : HostV6) : host.text.length ≤ 42 := by
  unfold text
  split
  · rename_i embedded _
    have embeddedLength := embedded.length_text_le
    have introduction : "::ffff:".toList.length = 7 := by decide
    rw [List.length_append, introduction]
    omega
  · exact length_abbreviated_le host.groups

/-- An IPv6 host is written with digits, points and colons. -/
theorem text_subset (host : HostV6) : host.text ⊆ hostAlphabet := by
  unfold text
  split
  · rename_i embedded _
    have introduction : "::ffff:".toList ⊆ hostAlphabet := by decide
    have points : '.' :: digitAlphabet ⊆ hostAlphabet := by decide
    exact List.append_subset.mpr
      ⟨introduction, List.Subset.trans embedded.text_subset points⟩
  · exact List.subset_cons_of_subset '.' (abbreviated_subset host.groups)

end HostV6

/-! ## Addresses -/

namespace SocketAddress

theorem length_scopeText_le (scope : UInt32) : (scopeText scope).length ≤ 11 := by
  unfold scopeText
  split
  · exact Nat.zero_le 11
  · have digits := length_decimal_le 10 (by decide)
      (Nat.lt_of_lt_of_le scope.toNat_lt (by decide))
    rw [List.length_cons]
    omega

theorem scopeText_subset (scope : UInt32) : scopeText scope ⊆ '%' :: digitAlphabet := by
  unfold scopeText
  split
  · exact List.nil_subset _
  · exact List.cons_subset_cons '%' (decimal_subset_digitAlphabet scope.toNat)

theorem length_text_le (address : SocketAddress) : address.text.length ≤ 61 := by
  have portLength := fun portNumber : UInt16 =>
    length_decimal_le 5 (by decide)
      (Nat.lt_of_lt_of_le portNumber.toNat_lt (by decide))
  cases address with
  | v4 host portNumber =>
      have hostLength := host.length_text_le
      have numberLength := portLength portNumber
      simp only [text, List.length_append, List.length_cons]
      omega
  | v6 host portNumber flow scope =>
      have hostLength := host.length_text_le
      have scopeLength := length_scopeText_le scope
      have numberLength := portLength portNumber
      simp only [text, List.length_append, List.length_cons]
      omega

theorem text_subset_addressAlphabet (address : SocketAddress) :
    address.text ⊆ addressAlphabet := by
  have colon : ':' ∈ addressAlphabet := by decide
  have opening : '[' ∈ addressAlphabet := by decide
  have closing : ']' ∈ addressAlphabet := by decide
  have points : '.' :: digitAlphabet ⊆ addressAlphabet := by decide
  have hosts : hostAlphabet ⊆ addressAlphabet := by decide
  have scopes : '%' :: digitAlphabet ⊆ addressAlphabet := by decide
  cases address with
  | v4 host portNumber =>
      simp only [text, List.append_subset, List.cons_subset]
      exact ⟨List.Subset.trans host.text_subset points, colon,
        decimal_subset_addressAlphabet portNumber.toNat⟩
  | v6 host portNumber flow scope =>
      simp only [text, List.append_subset, List.cons_subset]
      exact ⟨⟨⟨opening, List.Subset.trans host.text_subset hosts⟩,
          List.Subset.trans (scopeText_subset scope) scopes⟩, closing, colon,
        decimal_subset_addressAlphabet portNumber.toNat⟩

end SocketAddress
end GossipGroup
