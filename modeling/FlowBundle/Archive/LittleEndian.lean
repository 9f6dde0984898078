import FlowBundle.Power
import FlowBundle.Text.Utf8
/-!
# Numbers in an archive

A number in an archive's records has a fixed width in bytes, the least one first.
-/
namespace FlowBundle
namespace Archive

/-- The lowest bytes of a number. -/
def number : Nat → Nat → Bytes
  | 0, _ => []
  | width + 1, n => (n % 256).toUInt8 :: number width (n / 256)

def value : Bytes → Nat
  | [] => 0
  | b :: bs => b.toNat + 256 * value bs

theorem length_number : ∀ width n : Nat, (number width n).length = width
  | 0, _ => rfl
  | width + 1, n => by simp [number, length_number width (n / 256)]

/-- **What fits is read back.** -/
theorem value_number : ∀ width n : Nat, n < 256 ^ width → value (number width n) = n
  | 0, n, h => by simp at h; simp [number, value, h]
  | width + 1, n, h => by
    have hq : n / 256 < 256 ^ width := by
      rw [Nat.div_lt_iff_lt_mul (by decide)]
      rw [Nat.pow_succ] at h
      exact h
    rw [number, value, value_number width (n / 256) hq]
    have hb : ((n % 256).toUInt8).toNat = n % 256 := by
      simp [Nat.toUInt8, UInt8.toNat_ofNat']
    rw [hb]
    omega

def takeNumber (width : Nat) (bytes : Bytes) : Option (Nat × Bytes) :=
  if width ≤ bytes.length then some (value (bytes.take width), bytes.drop width) else none

theorem takeNumber_append (width n : Nat) (rest : Bytes) (h : n < 256 ^ width) :
    takeNumber width (number width n ++ rest) = some (n, rest) := by
  have hl := length_number width n
  rw [takeNumber, if_pos (by simp [hl]), List.take_left' hl, List.drop_left' hl, value_number width n h]

end Archive
end FlowBundle
