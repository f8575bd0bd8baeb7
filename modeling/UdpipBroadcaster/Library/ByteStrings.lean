import Mathlib.Algebra.BigOperators.Group.List.Basic
import Mathlib.Data.Nat.Digits.Defs

/-!
# Byte strings

Copies into the front of a buffer, and fixed-width little-endian numerals.
-/

namespace ByteStrings

/-! ## Copies into a buffer -/

/-- Copy `new` over the first bytes of `old`.  A copy longer than the buffer
is cut at the end of the buffer. -/
def overwrite (old new : List UInt8) : List UInt8 :=
  new.take old.length ++ old.drop new.length

@[simp]
theorem length_overwrite (old new : List UInt8) :
    (overwrite old new).length = old.length := by
  simp only [overwrite, List.length_append, List.length_take,
    List.length_drop]
  omega

theorem overwrite_eq_append
    {old new : List UInt8} (fits : new.length ≤ old.length) :
    overwrite old new = new ++ old.drop new.length := by
  rw [overwrite, List.take_of_length_le fits]

/-- What was copied is read back, whatever the buffer held before. -/
theorem take_overwrite
    {old new : List UInt8} {count : Nat}
    (fits : new.length ≤ old.length) (short : count ≤ new.length) :
    (overwrite old new).take count = new.take count := by
  rw [overwrite_eq_append fits, List.take_append_of_le_length short]

/-! ## Little-endian numerals -/

/-- The `width` low bytes of `value`, the lowest first. -/
def littleEndian : (width value : Nat) → List UInt8
  | 0, _ => []
  | width + 1, value =>
      UInt8.ofNat value :: littleEndian width (value / 256)

/-- The number a little-endian byte string denotes. -/
def fromLittleEndian (bytes : List UInt8) : Nat :=
  Nat.ofDigits 256 (bytes.map UInt8.toNat)

@[simp]
theorem length_littleEndian (width value : Nat) :
    (littleEndian width value).length = width := by
  induction width generalizing value with
  | zero => rfl
  | succ width inductionHypothesis =>
      simp [littleEndian, inductionHypothesis]

theorem fromLittleEndian_littleEndian (width value : Nat) :
    fromLittleEndian (littleEndian width value) = value % 256 ^ width := by
  induction width generalizing value with
  | zero =>
      simp [fromLittleEndian, littleEndian, Nat.mod_one]
  | succ width inductionHypothesis =>
      have tail := inductionHypothesis (value / 256)
      simp only [fromLittleEndian] at tail
      simp only [fromLittleEndian, littleEndian, List.map_cons,
        Nat.ofDigits_cons, tail]
      rw [Nat.pow_succ', Nat.mod_mul]
      simp

/-- A value that fits its width survives encoding and decoding. -/
theorem fromLittleEndian_littleEndian_of_lt
    {width value : Nat} (fits : value < 256 ^ width) :
    fromLittleEndian (littleEndian width value) = value := by
  rw [fromLittleEndian_littleEndian, Nat.mod_eq_of_lt fits]

end ByteStrings
