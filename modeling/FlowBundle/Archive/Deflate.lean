import FlowBundle.Archive.LittleEndian
/-!
# Deflated data

A deflated stream is a row of blocks, each one with a mark on the last.  A block may hold its data as
they are, behind their length and its complement; only such blocks are written here, and only such
blocks are read.
-/
namespace FlowBundle
namespace Archive

def maxBlock : Nat := 65535

def block (last : Bool) (data : Bytes) : Bytes :=
  (if last then 1 else 0) :: (number 2 data.length ++ number 2 (maxBlock - data.length) ++ data)

def deflate (data : Bytes) : Bytes :=
  if data.length ≤ maxBlock then block true data
  else block false (data.take maxBlock) ++ deflate (data.drop maxBlock)
termination_by data.length
decreasing_by simp [maxBlock] at *; omega

def inflate : Bytes → Option Bytes
  | mark :: a :: b :: c :: d :: rest =>
    let length := value [a, b]
    if value [c, d] + length ≠ maxBlock ∨ rest.length < length then none
    else if mark = 1 then if rest.length = length then some rest else none
    else if mark = 0 then (inflate (rest.drop length)).map (rest.take length ++ ·)
    else none
  | _ => none
termination_by bytes => bytes.length
decreasing_by
  rw [List.length_drop]
  simp only [List.length_cons]
  omega

end Archive
end FlowBundle
