import FlowBundle.Text.Utf8
/-!
# Checksum

The cyclic redundancy check of 32 bits that archives carry: the remainder of the data, taken as a
polynomial with its bits reversed, by the polynomial 0x04C11DB7, with all bits flipped before and
after.
-/
namespace FlowBundle
namespace Archive

/-- The polynomial with its bits reversed. -/
def polynomial : UInt32 := 0xEDB88320

def checksumBit (c : UInt32) : UInt32 :=
  if c &&& 1 = 1 then (c >>> 1) ^^^ polynomial else c >>> 1

def checksumByte (c : UInt32) (b : UInt8) : UInt32 :=
  Nat.repeat checksumBit 8 (c ^^^ b.toUInt32)

def checksum (bytes : Bytes) : UInt32 := bytes.foldl checksumByte 0xFFFFFFFF ^^^ 0xFFFFFFFF

end Archive
end FlowBundle
