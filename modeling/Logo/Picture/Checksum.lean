/-!
# Checksums

Two checks on rows of bytes: the cyclic redundancy check of 32 bits, with the
reflected polynomial 0xEDB88320, and the Adler sum.
-/

namespace Logo.Picture.Checksum

/-- Divide one more bit of a remainder. -/
def shift (remainder : UInt32) : UInt32 :=
  if remainder &&& 1 == 1 then (remainder >>> 1) ^^^ 0xEDB88320 else remainder >>> 1

/-- The remainder of a byte. -/
def remainderOf (byte : UInt8) : UInt32 :=
  (List.range 8).foldl (fun remainder _ => shift remainder) byte.toUInt32

/-- The remainders of all bytes. -/
def table : Array UInt32 :=
  Array.ofFn fun (index : Fin 256) => remainderOf (UInt8.ofNat index)

/-- Take one more byte into a remainder. -/
def feed (remainder : UInt32) (byte : UInt8) : UInt32 :=
  table.getD ((remainder ^^^ byte.toUInt32) &&& 0xFF).toNat 0 ^^^ (remainder >>> 8)

/-- The cyclic redundancy check of some bytes. -/
def cyclic (bytes : ByteArray) : UInt32 :=
  bytes.foldl feed 0xFFFFFFFF ^^^ 0xFFFFFFFF

/-- The Adler sum of some bytes. -/
def adler (bytes : ByteArray) : UInt32 :=
  let (low, high) := bytes.foldl
    (fun (low, high) byte =>
      let low := (low + byte.toUInt32) % 65521
      (low, (high + low) % 65521))
    ((1 : UInt32), (0 : UInt32))
  high * 65536 + low

end Logo.Picture.Checksum
