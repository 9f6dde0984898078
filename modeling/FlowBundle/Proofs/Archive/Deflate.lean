import FlowBundle.Archive.Deflate
/-!
# Deflated data read back

A block gives back the data that it holds, the last block alone and any other in front of a stream (`inflate_block_last`,
`inflate_block_more`).  So deflated data of any length are read back, block by block (`inflate_deflate`), and are never
shorter than the data themselves.
-/
namespace FlowBundle
namespace Archive

theorem number_two (n : Nat) : number 2 n = [(n % 256).toUInt8, (n / 256 % 256).toUInt8] := rfl

theorem value_number_two {n : Nat} (h : n ≤ maxBlock) : value [(n % 256).toUInt8, (n / 256 % 256).toUInt8] = n := by
  have hn : n < 256 ^ (2 : Nat) := Nat.lt_of_le_of_lt h (by decide)
  exact value_number 2 n hn

theorem value_complement {data : Bytes} (h : data.length ≤ maxBlock) :
    value [((maxBlock - data.length) % 256).toUInt8, ((maxBlock - data.length) / 256 % 256).toUInt8] + data.length =
      maxBlock := by
  rw [value_number_two (Nat.sub_le _ _), Nat.sub_add_cancel h]

theorem inflate_block_last {data : Bytes} (h : data.length ≤ maxBlock) : inflate (block true data) = some data := by
  rw [block, number_two, number_two]
  simp only [List.cons_append, List.nil_append]
  rw [inflate]
  simp only [value_number_two h, value_complement h, Nat.lt_irrefl, ne_eq, not_true_eq_false, or_self, if_false, if_true]

theorem inflate_block_more {data : Bytes} (h : data.length ≤ maxBlock) (rest : Bytes) :
    inflate (block false data ++ rest) = (inflate rest).map (data ++ ·) := by
  rw [block, number_two, number_two]
  simp only [List.cons_append, List.nil_append]
  rw [inflate]
  have hlength : ¬(data ++ rest).length < data.length := by
    rw [List.length_append]
    omega
  simp only [value_number_two h, value_complement h, hlength, ne_eq, not_true_eq_false, or_self, if_false,
    List.take_left, List.drop_left]
  rfl

/-- **Deflated data are read back.** -/
theorem inflate_deflate (data : Bytes) : inflate (deflate data) = some data := by
  induction data using deflate.induct with
  | case1 data h =>
    rw [deflate, if_pos h, inflate_block_last h]
  | case2 data h ih =>
    have hfirst : (data.take maxBlock).length ≤ maxBlock := List.length_take_le _ _
    rw [deflate, if_neg h, inflate_block_more hfirst, ih, Option.map_some, List.take_append_drop]

theorem length_le_length_block (last : Bool) (data : Bytes) : data.length ≤ (block last data).length := by
  rw [block, List.length_cons, List.length_append]
  omega

theorem length_le_length_deflate (data : Bytes) : data.length ≤ (deflate data).length := by
  induction data using deflate.induct with
  | case1 data h =>
    rw [deflate, if_pos h]
    exact length_le_length_block true data
  | case2 data h ih =>
    have hfirst := length_le_length_block false (data.take maxBlock)
    rw [deflate, if_neg h, List.length_append]
    rw [List.length_take] at hfirst
    rw [List.length_drop] at ih
    omega

end Archive
end FlowBundle
