import GossipGroup.Digest.Encoding

/-!
# Reading the bytes of a digest

A datagram is read in a fixed order, and the first thing that is wrong with it
is the reason it is refused: it has no room for a checksum; the checksum does
not fit; the root or a record is unreadable; the members are not strictly
ascending. The records need not stand right before the root: any bytes may
stand before, between and after them, and bytes no field uses may hold
anything.
-/

namespace GossipGroup

/-- Why the bytes of a datagram are not a digest. -/
inductive DecodeError
  | truncated (length : Nat)
  | checksumMismatch
  | corrupted
  | unordered
  deriving DecidableEq, Inhabited

/-- The text of a decoding error. -/
def DecodeError.message : DecodeError → String
  | .truncated length =>
      "Snapshot buffer is too small to contain a checksum (" ++ toString length ++
        " bytes)."
  | .checksumMismatch => "Snapshot checksum does not match its contents."
  | .corrupted => "Snapshot contents are invalid."
  | .unordered => "Snapshot members are not strictly ordered by identity."

namespace Digest

/-- The number in the little-endian field of the given width at a position. -/
def field (bytes : List UInt8) (start width : Nat) : Nat :=
  ofLittleEndian ((bytes.drop start).take width)

/-- The big-endian group of sixteen bits at a position. -/
def groupAt (bytes : List UInt8) (start : Nat) : UInt16 :=
  (256 * field bytes start 1 + field bytes (start + 1) 1).toUInt16

/-- The IPv4 host at a position. -/
def hostV4At (bytes : List UInt8) (start : Nat) : HostV4 :=
  ⟨(field bytes start 1).toUInt8, (field bytes (start + 1) 1).toUInt8,
    (field bytes (start + 2) 1).toUInt8, (field bytes (start + 3) 1).toUInt8⟩

/-- The IPv6 host at a position. -/
def hostV6At (bytes : List UInt8) (start : Nat) : HostV6 :=
  ⟨groupAt bytes start, groupAt bytes (start + 2), groupAt bytes (start + 4),
    groupAt bytes (start + 6), groupAt bytes (start + 8), groupAt bytes (start + 10),
    groupAt bytes (start + 12), groupAt bytes (start + 14)⟩

/-- The address in a record, if its version tag is known. -/
def addressOf? (bytes : List UInt8) : Option SocketAddress :=
  match field bytes 0 1 with
  | 0 => some (.v4 (hostV4At bytes 2) (field bytes 6 2).toUInt16)
  | 1 => some (.v6 (hostV6At bytes 4) (field bytes 20 2).toUInt16
      (field bytes 24 4).toUInt32 (field bytes 28 4).toUInt32)
  | _ => none

/-- The status in a record, if its byte is known. -/
def statusOf? (bytes : List UInt8) : Option Status :=
  match field bytes 48 1 with
  | 0 => some .alive
  | 1 => some .failed
  | 2 => some .left
  | _ => none

/-- The report in a record, if its tags are known. -/
def reportOf? (bytes : List UInt8) : Option Report :=
  match addressOf? bytes, statusOf? bytes with
  | some address, some status =>
      some ⟨⟨address, (field bytes 32 8).toUInt64⟩, (field bytes 40 8).toUInt64, status⟩
  | _, _ => none

/-- The reports in a number of consecutive records, if all can be read. -/
def reportsOf? : Nat → List UInt8 → Option (List Report)
  | 0, _ => some []
  | count + 1, bytes =>
      match reportOf? (bytes.take recordSize) with
      | none => none
      | some report => (reportsOf? count (bytes.drop recordSize)).map (report :: ·)

/-- The integer that 32 bits write in two's complement. -/
def signedWord (word : Nat) : Int :=
  if word < UInt32.size / 2 then word else (word : Int) - UInt32.size

/-- Where the records begin and how many there are, according to the root at
the end of the body; none if the body has no room for a root, the root is not
aligned, or the records would be unaligned or reach outside the bytes before
the root. -/
def recordsPlace? (bytes : List UInt8) : Option (Nat × Nat) :=
  let length := bytes.length
  if length < rootSize ∨ length % 4 ≠ 0 then none
  else
    let position := length - rootSize
    let start : Int := position + signedWord (field bytes position 4)
    let count := field bytes (position + 4) 4
    let extent := recordSize * count
    if start < 0 ∨ position < start ∨ start % 8 ≠ 0 then none
    else if position - start < extent then none
    else some (start.toNat, count)

/-- The reports in a body, whatever their order. -/
def readBody? (bytes : List UInt8) : Option (List Report) :=
  match recordsPlace? bytes with
  | none => none
  | some (start, count) => reportsOf? count (bytes.drop start)

/-- The digest that the bytes of a datagram write. -/
def decode (bytes : List UInt8) : Except DecodeError Digest :=
  if bytes.length < checksumSize then .error (.truncated bytes.length)
  else
    let split := bytes.length - checksumSize
    if (checksum (bytes.take split)).toNat ≠ field bytes split checksumSize then
      .error .checksumMismatch
    else
      match readBody? (bytes.take split) with
      | none => .error .corrupted
      | some reports =>
          if ascending reports then .ok ⟨reports⟩ else .error .unordered

end Digest
end GossipGroup
