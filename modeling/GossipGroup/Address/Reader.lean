import GossipGroup.Address
import GossipGroup.Text.Numeral

/-!
# Reading socket addresses

A socket address is read from its whole written form: four decimal octets, or
an IPv6 host in brackets with an optional scope, and then a colon and the
number of a socket. An IPv6 host may abbreviate one run of zero groups by a
double colon and may end in an IPv4 host, which stands for two groups.
-/

namespace GossipGroup

open Text

/-- One octet of an IPv4 host: at most three digits and no zero before others. -/
def readOctet (characters : List Char) : Option (Nat × List Char) :=
  readNumber ⟨10, 256, some 3, false⟩ characters

/-- An IPv4 host. -/
def HostV4.read (characters : List Char) : Option (HostV4 × List Char) := do
  let (first, rest) ← readOctet characters
  let (second, rest) ← readOctet (← readCharacter '.' rest)
  let (third, rest) ← readOctet (← readCharacter '.' rest)
  let (fourth, rest) ← readOctet (← readCharacter '.' rest)
  return (⟨first.toUInt8, second.toUInt8, third.toUInt8, fourth.toUInt8⟩, rest)

namespace HostV6

/-- The groups of a part of an IPv6 host, as far as they can be read. -/
structure GroupRun where
  groups : List UInt16
  /-- Whether the last two groups were written as an IPv4 host. -/
  embedded : Bool
  rest : List Char

/-- The two groups that an IPv4 host stands for. -/
def embeddedGroups (host : HostV4) : List UInt16 :=
  [(256 * host.first.toNat + host.second.toNat).toUInt16,
    (256 * host.third.toNat + host.fourth.toNat).toUInt16]

/-- What stands before a group: a colon, except before the first one. -/
def skipSeparator (isFirst : Bool) (characters : List Char) : Option (List Char) :=
  if isFirst then some characters else readCharacter ':' characters

/-- Read up to a number of groups. An IPv4 host is read where at least two
groups may still follow, and ends the run. -/
def readGroups : (limit : Nat) → (isFirst : Bool) → List Char → GroupRun
  | 0, _, characters => ⟨[], false, characters⟩
  | limit + 1, isFirst, characters =>
      let afterSeparator := skipSeparator isFirst characters
      let host := if limit = 0 then none else afterSeparator.bind HostV4.read
      match host with
      | some (host, rest) => ⟨embeddedGroups host, true, rest⟩
      | none =>
          match afterSeparator.bind (readNumber ⟨16, 65536, some 4, true⟩) with
          | none => ⟨[], false, characters⟩
          | some (group, rest) =>
              let run := readGroups limit false rest
              { run with groups := group.toUInt16 :: run.groups }

/-- An IPv6 host. -/
def read (characters : List Char) : Option (HostV6 × List Char) :=
  let head := readGroups 8 true characters
  if head.groups.length = 8 then
    (ofGroups? head.groups).map fun host => (host, head.rest)
  else if head.embedded then none
  else do
    let rest ← readCharacter ':' (← readCharacter ':' head.rest)
    let tail := readGroups (7 - head.groups.length) true rest
    let missing := 8 - head.groups.length - tail.groups.length
    let host ← ofGroups? (head.groups ++ List.replicate missing 0 ++ tail.groups)
    return (host, tail.rest)

end HostV6

namespace SocketAddress

/-- A colon and the number of a socket. -/
def readPortNumber (characters : List Char) : Option (UInt16 × List Char) := do
  let (portNumber, rest) ← readNumber ⟨10, 65536, none, true⟩ (← readCharacter ':' characters)
  return (portNumber.toUInt16, rest)

/-- A percent sign and a scope; without them the scope is zero. -/
def readScope (characters : List Char) : UInt32 × List Char :=
  match (readCharacter '%' characters).bind (readNumber ⟨10, UInt32.size, none, true⟩) with
  | some (scope, rest) => (scope.toUInt32, rest)
  | none => (0, characters)

/-- An address with an IPv4 host. -/
def readV4 (characters : List Char) : Option (SocketAddress × List Char) := do
  let (host, rest) ← HostV4.read characters
  let (portNumber, rest) ← readPortNumber rest
  return (.v4 host portNumber, rest)

/-- An address with an IPv6 host. -/
def readV6 (characters : List Char) : Option (SocketAddress × List Char) := do
  let (host, rest) ← HostV6.read (← readCharacter '[' characters)
  let (scope, rest) := readScope rest
  let (portNumber, rest) ← readPortNumber (← readCharacter ']' rest)
  return (.v6 host portNumber 0 scope, rest)

/-- The address that a whole text writes. -/
def parse? (text : String) : Option SocketAddress :=
  match (readV4 text.toList).orElse fun _ => readV6 text.toList with
  | some (address, []) => some address
  | _ => none

end SocketAddress
end GossipGroup
