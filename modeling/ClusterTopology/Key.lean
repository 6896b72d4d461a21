import ClusterTopology.Crc16
import ClusterTopology.Slot

/-!
# Keys

A key is a string of bytes. It is assigned to a slot by a checksum of the key, or of the tag that
the key has between braces, so that keys with one tag share a slot.
-/

namespace ClusterTopology

abbrev Key := List UInt8

namespace Key

/-- The byte that opens a tag. -/
def tagOpen : UInt8 := '{'.toUInt8

/-- The byte that closes a tag. -/
def tagClose : UInt8 := '}'.toUInt8

/-- The bytes that decide on the slot: what stands between the first opening brace and the first
closing brace after it. Where nothing does, it is all of the key. -/
def hashed (key : Key) : Key :=
  let rest := (key.dropWhile (· ≠ tagOpen)).drop 1
  let tag := rest.takeWhile (· ≠ tagClose)
  if tag ≠ [] ∧ tagClose ∈ rest then tag else key

/-- The slot that the key is assigned to. -/
def slot (key : Key) : Slot := Crc16.checksum key.hashed % Slot.count.toUInt16

end Key

end ClusterTopology
