import GossipGroup.Checksum
import GossipGroup.Digest

/-!
# The bytes of a digest

A digest of `n` reports is written as `n` records of 56 bytes, a root of eight
bytes and a checksum of four. The root says where the records begin, as a
signed offset of 32 bits from the root itself, and how many there are. Numbers
are little endian; the sixteen bytes of an IPv6 host are in network order. Bytes
that no field uses are zero. A digest whose records take more than the offset
reaches back is not written at all.
-/

namespace GossipGroup

/-- The given number of bytes of a natural number, lowest first. -/
def littleEndian : Nat → Nat → List UInt8
  | 0, _ => []
  | width + 1, value => value.toUInt8 :: littleEndian width (value / 256)

/-- The natural number written by bytes, lowest first. -/
def ofLittleEndian : List UInt8 → Nat
  | [] => 0
  | byte :: rest => byte.toNat + 256 * ofLittleEndian rest

/-- A run of zero bytes. -/
def zeros (count : Nat) : List UInt8 := List.replicate count 0

@[simp] theorem length_littleEndian (width value : Nat) :
    (littleEndian width value).length = width := by
  induction width generalizing value with
  | zero => rfl
  | succ width ih => simp [littleEndian, ih]

@[simp] theorem length_zeros (count : Nat) : (zeros count).length = count := by
  simp [zeros]

namespace HostV6

/-- The sixteen bytes of a host in network order. -/
def bytes (host : HostV6) : List UInt8 :=
  host.groups.flatMap fun (group : UInt16) => [(group >>> 8).toUInt8, group.toUInt8]

@[simp] theorem length_bytes (host : HostV6) : host.bytes.length = 16 := rfl

end HostV6

/-- Why a digest is not written. -/
inductive EncodeError
  /-- The first record is farther from the root than an offset can say. -/
  | rootOutOfReach
  deriving DecidableEq, Inhabited

namespace Digest

/-- The number of bytes of a record. -/
def recordSize : Nat := 56

/-- The number of bytes of the root. -/
def rootSize : Nat := 8

/-- The number of bytes of the checksum. -/
def checksumSize : Nat := 4

/-- The byte that stands for a status. -/
def statusByte : Status → UInt8
  | .alive => 0
  | .failed => 1
  | .left => 2

/-- The first 32 bytes of a record: the address. -/
def addressField : SocketAddress → List UInt8
  | .v4 host portNumber =>
      [0, 0] ++ host.octets ++ littleEndian 2 portNumber.toNat ++ zeros 24
  | .v6 host portNumber flow scope =>
      [1, 0, 0, 0] ++ host.bytes ++ littleEndian 2 portNumber.toNat ++ zeros 2 ++
        littleEndian 4 flow.toNat ++ littleEndian 4 scope.toNat

/-- The record of one report. -/
def record (report : Report) : List UInt8 :=
  addressField report.identity.address ++
    littleEndian 8 report.identity.joinedAt.toNat ++
    littleEndian 8 report.heartbeat.toNat ++
    statusByte report.status :: zeros 7

/-- A signed offset as the natural number that its 32 bits write. -/
def offsetWord (offset : Int) : Nat := (offset % (UInt32.size : Int)).toNat

/-- The root of a digest whose records stand right before it. -/
def root (count : Nat) : List UInt8 :=
  littleEndian 4 (offsetWord (-(recordSize * count : Nat))) ++ littleEndian 4 count

/-- The records and the root of a digest. -/
def body (digest : Digest) : List UInt8 :=
  digest.reports.flatMap record ++ root digest.size

/-- The records, the root and the checksum of a digest. -/
def bytes (digest : Digest) : List UInt8 :=
  digest.body ++ littleEndian checksumSize (checksum digest.body).toNat

/-- Write a digest, if its root reaches back to its first record. -/
def encode (digest : Digest) : Except EncodeError (List UInt8) :=
  if UInt32.size / 2 < recordSize * digest.size then .error .rootOutOfReach
  else .ok digest.bytes

end Digest
end GossipGroup
