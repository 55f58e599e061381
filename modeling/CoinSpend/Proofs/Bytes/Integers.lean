import Mathlib.Algebra.Order.Ring.Nat
import CoinSpend.Bytes

/-! Fixed-width integers read back from their bytes. Nothing is lost below `256 ^ width`, for every width. -/
namespace CoinSpend

theorem ofLittleEndian_littleEndian {width value : Nat} (fits : value < 256 ^ width) :
    ofLittleEndian (littleEndian width value) = value := by
  induction width generalizing value with
  | zero =>
    have zero : value = 0 := by simpa using fits
    rw [zero, littleEndian, ofLittleEndian, List.foldr_nil]
  | succ width ih =>
    have rest : value / 256 < 256 ^ width := by
      apply (Nat.div_lt_iff_lt_mul (by decide : 0 < 256)).mpr
      simpa only [Nat.pow_succ] using fits
    have tail : (littleEndian width (value / 256)).foldr (fun byte read => byte.toNat + 256 * read) 0 =
        value / 256 := ih rest
    have low : (UInt8.ofNat (value % 256)).toNat = value % 256 :=
      UInt8.toNat_ofNat_of_lt (Nat.mod_lt _ (by decide))
    rw [littleEndian, ofLittleEndian, List.foldr_cons, tail, low]
    exact Nat.mod_add_div value 256

theorem ofLittleEndian_lt (bytes : Bytes) : ofLittleEndian bytes < 256 ^ bytes.length := by
  induction bytes with
  | nil => exact Nat.one_pos
  | cons byte bytes ih =>
    have small := byte.toNat_lt
    have value : ofLittleEndian (byte :: bytes) = byte.toNat + 256 * ofLittleEndian bytes := rfl
    rw [value, List.length_cons, Nat.pow_succ]
    omega

theorem littleEndian_ofLittleEndian (bytes : Bytes) : littleEndian bytes.length (ofLittleEndian bytes) = bytes := by
  induction bytes with
  | nil => rfl
  | cons byte bytes ih =>
    have small := byte.toNat_lt
    have value : ofLittleEndian (byte :: bytes) = byte.toNat + 256 * ofLittleEndian bytes := rfl
    have low : (byte.toNat + 256 * ofLittleEndian bytes) % 256 = byte.toNat := by omega
    have high : (byte.toNat + 256 * ofLittleEndian bytes) / 256 = ofLittleEndian bytes := by omega
    rw [List.length_cons, littleEndian, value, low, high, ih, UInt8.ofNat_toNat]

theorem ofBigEndian_reverse (bytes : Bytes) : ofBigEndian bytes.reverse = ofLittleEndian bytes := by
  simp only [ofBigEndian, ofLittleEndian, List.foldl_reverse, Nat.add_comm]

theorem ofBigEndian_bigEndian {width value : Nat} (fits : value < 256 ^ width) :
    ofBigEndian (bigEndian width value) = value := by
  rw [bigEndian, ofBigEndian_reverse, ofLittleEndian_littleEndian fits]

theorem bigEndian_ofBigEndian (bytes : Bytes) : bigEndian bytes.length (ofBigEndian bytes) = bytes := by
  have reversed := littleEndian_ofLittleEndian bytes.reverse
  rw [← ofBigEndian_reverse, List.reverse_reverse, List.length_reverse] at reversed
  rw [bigEndian, reversed, List.reverse_reverse]

/-- Zeros in front do not change a number. -/
theorem ofBigEndian_replicate_append (count : Nat) (bytes : Bytes) :
    ofBigEndian (List.replicate count 0 ++ bytes) = ofBigEndian bytes := by
  induction count with
  | zero => rfl
  | succ count ih =>
    rw [List.replicate_succ, List.cons_append]
    exact ih

/-- A number of `n` bytes has one form of that length. -/
theorem Octets.toNat_inj {n : Nat} {x y : Octets n} : x.toNat = y.toNat ↔ x = y := by
  constructor
  · intro same
    have written (z : Octets n) : z.bytes = bigEndian n z.toNat := by
      rw [toNat]
      conv_lhs => rw [← bigEndian_ofBigEndian z.bytes, z.length_bytes]
    exact Octets.ext ((written x).trans (same ▸ (written y).symm))
  · rintro rfl
    rfl

end CoinSpend
