/-!
# A cyclic redundancy check

The remainder of a bit string, read as a polynomial over the field of two elements and multiplied by
`x ^ 16`, modulo `x ^ 16 + x ^ 12 + x ^ 5 + 1`. The most significant bit of a byte comes first.
-/

namespace ClusterTopology.Crc16

/-- The polynomial without its highest term. -/
def polynomial : UInt16 := 0x1021

/-- Multiplies the register by `x`, modulo the polynomial. -/
def shift (register : UInt16) : UInt16 :=
  if register &&& 0x8000 = 0 then register <<< 1 else (register <<< 1) ^^^ polynomial

/-- Takes one byte into the register. -/
def step (register : UInt16) (byte : UInt8) : UInt16 :=
  Nat.repeat shift 8 (register ^^^ (byte.toUInt16 <<< 8))

/-- The check value of the bytes, from the register zero. -/
def checksum (bytes : List UInt8) : UInt16 := bytes.foldl step 0

end ClusterTopology.Crc16
