import Mathlib.Data.UInt

/-!
# Big-endian words

The lowest `width` bytes of a natural number, the most significant byte first.
-/

namespace BigEndian

def bytes : Nat → Nat → List UInt8
  | 0, _ => []
  | width + 1, number => bytes width (number / 256) ++ [UInt8.ofNat (number % 256)]

def value (bytes : List UInt8) : Nat :=
  bytes.foldl (fun value byte => value * 256 + byte.toNat) 0

@[simp]
theorem length_bytes (width value : Nat) : (bytes width value).length = width := by
  induction width generalizing value with
  | zero => rfl
  | succ width ih => simp [bytes, ih]

theorem value_append (first : List UInt8) (last : UInt8) :
    value (first ++ [last]) = value first * 256 + last.toNat := by
  simp [value]

theorem value_bytes (width number : Nat) :
    value (bytes width number) = number % 256 ^ width := by
  induction width generalizing number with
  | zero => simp [bytes, value, Nat.mod_one]
  | succ width ih =>
      have lowByte : (UInt8.ofNat (number % 256)).toNat = number % 256 :=
        UInt8.toNat_ofNat_of_lt' (Nat.mod_lt _ (by decide))
      rw [bytes, value_append, ih, lowByte, Nat.pow_succ, Nat.mul_comm (256 ^ width),
        Nat.mod_mul]
      omega

theorem value_lt (bytes : List UInt8) : value bytes < 256 ^ bytes.length := by
  induction bytes using List.reverseRecOn with
  | nil => simp [value]
  | append_singleton bytes last ih =>
      have lastLt := last.toNat_lt
      rw [value_append, List.length_append, List.length_singleton, Nat.pow_succ]
      omega

/-- Bytes are the big-endian bytes of their value. -/
theorem bytes_value (list : List UInt8) : bytes list.length (value list) = list := by
  induction list using List.reverseRecOn with
  | nil => rfl
  | append_singleton list last ih =>
      have lastLt := last.toNat_lt
      have high : (value list * 256 + last.toNat) / 256 = value list := by omega
      have low : (value list * 256 + last.toNat) % 256 = last.toNat := by omega
      rw [value_append, List.length_append, List.length_singleton, bytes, high, low, ih,
        UInt8.ofNat_toNat]

end BigEndian
