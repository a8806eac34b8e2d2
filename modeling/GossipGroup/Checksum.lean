/-!
# The checksum of a datagram

The cyclic redundancy check of 32 bits with the reflected polynomial
`0xedb88320`, as Ethernet and most archive formats use it. The register starts
with all bits set, takes in one byte after the other by its low end, and is
inverted at the end. A step of one bit is linear in exclusive or, which is what
makes bursts of errors visible.
-/

namespace GossipGroup
namespace Checksum

/-- The reflected generator polynomial. -/
def polynomial : BitVec 32 := 0xedb88320#32

/-- One bit leaves the register at its low end. -/
def shiftBit (register : BitVec 32) : BitVec 32 :=
  if register.getLsbD 0 then (register >>> 1) ^^^ polynomial
  else register >>> 1

/-- A number of bits leaves the register. -/
def shiftBits : Nat → BitVec 32 → BitVec 32
  | 0, register => register
  | count + 1, register => shiftBits count (shiftBit register)

/-- The register takes in one byte. -/
def feed (register : BitVec 32) (byte : UInt8) : BitVec 32 :=
  shiftBits 8 (register ^^^ byte.toBitVec.setWidth 32)

/-- The register after a sequence of bytes. -/
def run (register : BitVec 32) (bytes : List UInt8) : BitVec 32 :=
  bytes.foldl feed register

end Checksum

/-- The checksum of a sequence of bytes. -/
def checksum (bytes : List UInt8) : UInt32 :=
  ⟨~~~ Checksum.run 0xffffffff#32 bytes⟩

end GossipGroup
