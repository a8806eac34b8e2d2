/-!
# Socket addresses

A member is reached at a socket address: a host and the number of a socket on
it. With a host of the sixth version go the flow label and the scope of the
address. Two socket addresses are the same only if all of these agree.

The module also gives the written form of an address. Hosts of the fourth
version are four decimal octets. Hosts of the sixth version are hexadecimal
groups in which the first longest run of zero groups is abbreviated, except
that a host which embeds an IPv4 host shows it in decimal. The scope is written
when it is not zero; the flow label never is.
-/

namespace GossipGroup

/-- An IPv4 host as its four octets. -/
structure HostV4 where
  first : UInt8
  second : UInt8
  third : UInt8
  fourth : UInt8
  deriving DecidableEq, Inhabited

/-- An IPv6 host as its eight groups of sixteen bits. -/
structure HostV6 where
  group0 : UInt16
  group1 : UInt16
  group2 : UInt16
  group3 : UInt16
  group4 : UInt16
  group5 : UInt16
  group6 : UInt16
  group7 : UInt16
  deriving DecidableEq, Inhabited

/-- The address of a datagram socket. -/
inductive SocketAddress
  | v4 (host : HostV4) (portNumber : UInt16)
  | v6 (host : HostV6) (portNumber : UInt16) (flow scope : UInt32)
  deriving DecidableEq, Inhabited

/-- The decimal digits of a number. -/
def decimal (value : Nat) : List Char := Nat.toDigits 10 value

/-- The lower-case hexadecimal digits of a number. -/
def hexadecimal (value : Nat) : List Char := Nat.toDigits 16 value

namespace HostV4

/-- The octets of a host in written order. -/
def octets (host : HostV4) : List UInt8 :=
  [host.first, host.second, host.third, host.fourth]

/-- The host with the given octets, if there are four. -/
def ofOctets? : List UInt8 → Option HostV4
  | [first, second, third, fourth] => some ⟨first, second, third, fourth⟩
  | _ => none

@[simp] theorem ofOctets?_octets (host : HostV4) :
    ofOctets? host.octets = some host := rfl

/-- Four decimal octets between points. -/
def text (host : HostV4) : List Char :=
  decimal host.first.toNat ++ '.' :: decimal host.second.toNat ++
    '.' :: decimal host.third.toNat ++ '.' :: decimal host.fourth.toNat

end HostV4

namespace HostV6

/-- The groups of a host in written order. -/
def groups (host : HostV6) : List UInt16 :=
  [host.group0, host.group1, host.group2, host.group3,
    host.group4, host.group5, host.group6, host.group7]

/-- The host with the given groups, if there are eight. -/
def ofGroups? : List UInt16 → Option HostV6
  | [group0, group1, group2, group3, group4, group5, group6, group7] =>
      some ⟨group0, group1, group2, group3, group4, group5, group6, group7⟩
  | _ => none

@[simp] theorem ofGroups?_groups (host : HostV6) :
    ofGroups? host.groups = some host := rfl

/-- The IPv4 host embedded in an IPv4-mapped host, whose first five groups are
zero and whose sixth is all ones. -/
def mapped? (host : HostV6) : Option HostV4 :=
  if host.groups.take 6 = [0, 0, 0, 0, 0, 0xffff] then
    some ⟨(host.group6 >>> 8).toUInt8, host.group6.toUInt8,
      (host.group7 >>> 8).toUInt8, host.group7.toUInt8⟩
  else none

/-- Number of consecutive zero groups from a position on. -/
def zerosFrom (groups : List UInt16) (start : Nat) : Nat :=
  ((groups.drop start).takeWhile (· = 0)).length

/-- Start and length of the first longest run of zero groups. -/
def longestZeros (groups : List UInt16) : Nat × Nat :=
  (List.range groups.length).foldl
    (fun best start =>
      if best.2 < zerosFrom groups start then (start, zerosFrom groups start)
      else best)
    (0, 0)

/-- Hexadecimal groups between colons. -/
def groupsText : List UInt16 → List Char
  | [] => []
  | [group] => hexadecimal group.toNat
  | group :: rest => hexadecimal group.toNat ++ ':' :: groupsText rest

/-- Groups between colons, with the first longest run of at least two zero
groups written as a double colon. -/
def abbreviated (groups : List UInt16) : List Char :=
  let run := longestZeros groups
  if 2 ≤ run.2 then
    groupsText (groups.take run.1) ++ ':' :: ':' ::
      groupsText (groups.drop (run.1 + run.2))
  else groupsText groups

/-- The written form of a host. -/
def text (host : HostV6) : List Char :=
  match host.mapped? with
  | some embedded => "::ffff:".toList ++ embedded.text
  | none => abbreviated host.groups

end HostV6

namespace SocketAddress

/-- Whether the host is of the sixth version. -/
def isV6 : SocketAddress → Bool
  | v4 .. => false
  | v6 .. => true

/-- The flow label, which only the sixth version has. -/
def flowLabel : SocketAddress → UInt32
  | v4 .. => 0
  | v6 _ _ flow _ => flow

/-- The written scope of a host: nothing when it is zero. -/
def scopeText (scope : UInt32) : List Char :=
  if scope = 0 then [] else '%' :: decimal scope.toNat

/-- The written form of an address: the host, in brackets when it is of the
sixth version, and after a colon the number of the socket. -/
def text : SocketAddress → List Char
  | v4 host portNumber => host.text ++ ':' :: decimal portNumber.toNat
  | v6 host portNumber _ scope =>
      '[' :: host.text ++ scopeText scope ++ ']' :: ':' :: decimal portNumber.toNat

instance : ToString SocketAddress := ⟨fun address => String.ofList address.text⟩

end SocketAddress
end GossipGroup
