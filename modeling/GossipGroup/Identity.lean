import GossipGroup.Address

/-!
# Member identities

A member is known by its public address and the time at which it joined, so a
process that comes back at the same address is a new member. Identities are
ordered, compared and hashed by the bytes of their written form. The written
form leaves out the flow label of an IPv6 address, so identities that differ
only there are the same member, although their values are not equal.
-/

namespace GossipGroup

/-- Who a member is: where it can be reached and when it joined, in
milliseconds of the Unix era. -/
structure Identity where
  address : SocketAddress
  joinedAt : UInt64
  deriving DecidableEq, Inhabited

/-- A wall clock reading, in milliseconds of the Unix era; negative before it. -/
structure WallTime where
  milliseconds : Int
  deriving DecidableEq, Inhabited

/-- The reading as a join time: readings before the Unix era count as its
start. -/
def WallTime.stamp (time : WallTime) : UInt64 :=
  UInt64.ofNat time.milliseconds.toNat

namespace Identity

/-- The identity of a member that joins now. -/
def joining (address : SocketAddress) (time : WallTime) : Identity :=
  ⟨address, time.stamp⟩

/-- The written form: the address and, in angle brackets, the join time. -/
def text (identity : Identity) : List Char :=
  identity.address.text ++ '<' :: decimal identity.joinedAt.toNat ++ ['>']

instance : ToString Identity := ⟨fun identity => String.ofList identity.text⟩

/-- The number of bytes a comparison key has room for. -/
def keyCapacity : Nat := 96

/-- The bytes by which identities are compared and hashed: those of the written
form, which is ASCII and always fits into the room of a key. -/
def key (identity : Identity) : List UInt8 :=
  (identity.text.map fun character => character.toNat.toUInt8).take keyCapacity

/-- The order of identities: that of their keys, byte by byte. Identities whose
addresses and join times are equal are found equal without writing the keys. -/
def order (left right : Identity) : Ordering :=
  if left.address = right.address ∧ left.joinedAt = right.joinedAt then .eq
  else compare left.key right.key

instance : Ord Identity := ⟨order⟩

/-- The order as one in which values may be incomparable; identities never are. -/
def order? (left right : Identity) : Option Ordering := some (left.order right)

/-- Two identities name the same member. -/
def same (left right : Identity) : Bool := left.order right == .eq

/-- One identity comes strictly before another. -/
def precedes (left right : Identity) : Bool := left.order right == .lt

/-- Identities in ascending order, equal ones as they were given. -/
def sort (identities : List Identity) : List Identity :=
  identities.mergeSort fun left right => (left.order right).isLE

/-- The identities of a list without those that name a member already named
before them. -/
def distinct (identities : List Identity) : List Identity :=
  identities.eraseDupsBy same

/-- The order of seniority: who joined earlier comes first, and of members that
joined in the same millisecond the one whose identity comes first. -/
def seniority (left right : Identity) : Ordering :=
  (compare left.joinedAt right.joinedAt).then (left.order right)

end Identity
end GossipGroup
