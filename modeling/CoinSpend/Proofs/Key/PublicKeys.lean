import Mathlib.FieldTheory.Finite.Basic
import CoinSpend.Proofs.Bytes.Integers
import CoinSpend.Proofs.Key.FieldOrder

/-! A key that has been compressed is a key again. The square root is a power because the order of the field is a prime
of the form `4 k + 3`; it exists because the point that was compressed is on the curve. -/
namespace CoinSpend

namespace Secp256k1

theorem power_eq (modulus base exponent : ℕ) : power modulus base exponent = base ^ exponent % modulus := by
  induction exponent using Nat.strongRecOn generalizing base with
  | ind exponent ih =>
    rw [power]
    split
    · rename_i zero
      rw [zero, pow_zero]
    · rename_i positive
      have half := ih (exponent / 2) (Nat.div_lt_self (Nat.pos_of_ne_zero positive) (by decide))
        (base * base % modulus)
      have square : (base * base % modulus) ^ (exponent / 2) % modulus =
          base ^ (2 * (exponent / 2)) % modulus := by
        rw [← Nat.pow_mod, ← pow_two, ← pow_mul]
      simp only [half, square]
      split
      · rename_i odd
        conv_rhs => rw [← Nat.div_add_mod exponent 2, odd, pow_succ']
        exact Nat.mul_mod_mod _ _ _
      · rename_i even
        conv_rhs => rw [← Nat.div_add_mod exponent 2, Nat.mod_two_ne_one.mp even, add_zero]

/-- The square root that `lift?` tries. -/
def root (square : ℕ) : ℕ := power p square ((p + 1) / 4)

theorem root_lt (square : ℕ) : root square < p := by
  rw [root, power_eq]
  exact Nat.mod_lt _ prime_p.pos

/-- By Fermat, `y ^ (p + 1) = y ^ 2`. -/
theorem root_square {y square : ℕ} (squares : y * y % p = square % p) :
    root square * root square % p = square % p := by
  have known : (y : ZMod p) ^ 2 = (square : ZMod p) := by
    rw [pow_two, ← Nat.cast_mul]
    exact (ZMod.natCast_eq_natCast_iff' _ _ _).mpr squares
  have exponent : 2 * ((p + 1) / 4 * 2) = p + 1 := by
    unfold p
    norm_num
  apply (ZMod.natCast_eq_natCast_iff' _ _ _).mp
  rw [root, power_eq, Nat.cast_mul, ZMod.natCast_mod, Nat.cast_pow, ← pow_two, ← pow_mul, ← known,
    ← pow_mul, exponent, pow_succ, ZMod.pow_card, pow_two]

theorem onCurve_iff (point : Point) : onCurve point = true ↔
    point.x < p ∧ point.y < p ∧
      point.y * point.y % p = (point.x * point.x * point.x + 7) % p := by
  simp only [onCurve, Bool.and_eq_true, decide_eq_true_eq, beq_iff_eq, and_assoc]

/-- The other root of a square. -/
theorem square_sub {y : ℕ} (small : y ≤ p) : (p - y) * (p - y) % p = y * y % p := by
  apply (ZMod.natCast_eq_natCast_iff' _ _ _).mp
  rw [Nat.cast_mul, Nat.cast_sub small, ZMod.natCast_self, zero_sub, neg_mul_neg, Nat.cast_mul]

/-- The point that `lift?` tests. -/
def candidate (x : ℕ) (odd : Bool) : Point :=
  ⟨x, if (root (x * x * x + 7) % 2 == 1) == odd then root (x * x * x + 7) else p - root (x * x * x + 7)⟩

theorem lift?_eq (x : ℕ) (odd : Bool) :
    lift? x odd = if onCurve (candidate x odd) = true then some (candidate x odd) else none := rfl

/-- The negative of a root stays below the order because the root is zero only for an even coordinate. -/
theorem candidate_onCurve {point : Point} (on : onCurve point = true) :
    onCurve (candidate point.x (point.y % 2 == 1)) = true := by
  obtain ⟨xBound, yBound, equation⟩ := (onCurve_iff point).mp on
  have squares := root_square equation
  have bound := root_lt (point.x * point.x * point.x + 7)
  apply (onCurve_iff _).mpr
  by_cases parity : (root (point.x * point.x * point.x + 7) % 2 == 1) = (point.y % 2 == 1)
  · simp only [candidate, parity, beq_self_eq_true, if_true]
    exact ⟨xBound, bound, squares⟩
  · have nonzero : root (point.x * point.x * point.x + 7) ≠ 0 := by
      intro zero
      have divides : p ∣ point.y * point.y := by
        apply Nat.dvd_of_mod_eq_zero
        rw [equation, ← squares, zero, Nat.zero_mul, Nat.zero_mod]
      have within : p ∣ point.y := by
        rcases prime_p.dvd_mul.mp divides with within | within <;> exact within
      have yZero : point.y = 0 := Nat.eq_zero_of_dvd_of_lt within yBound
      exact parity (by rw [zero, yZero])
    have other : ((root (point.x * point.x * point.x + 7) % 2 == 1) == (point.y % 2 == 1)) = false :=
      beq_eq_false_iff_ne.mpr parity
    simp only [candidate, other, Bool.false_eq_true, if_false]
    exact ⟨xBound, by omega, (square_sub (Nat.le_of_lt bound)).trans squares⟩

theorem lift?_of_onCurve {point : Point} (on : onCurve point = true) :
    ∃ found, lift? point.x (point.y % 2 == 1) = some found :=
  ⟨_, by rw [lift?_eq, if_pos (candidate_onCurve on)]⟩

theorem onCurve_of_lift? {x : ℕ} {odd : Bool} {point : Point} (lifted : lift? x odd = some point) :
    onCurve point = true := by
  rw [lift?_eq] at lifted
  split at lifted
  · rename_i on
    cases lifted
    exact on
  · contradiction

end Secp256k1

namespace PublicKey

open Secp256k1

theorem onCurve_of_parse? {key : Bytes} {point : Point} (parsed : parse? key = some point) :
    onCurve point = true := by
  unfold parse? at parsed
  split at parsed
  · contradiction
  · split at parsed
    · split at parsed
      · exact onCurve_of_lift? parsed
      · split at parsed
        · exact onCurve_of_lift? parsed
        · contradiction
    · split at parsed
      · simp only at parsed
        split at parsed
        · rename_i both
          cases parsed
          exact both.2
        · contradiction
      · contradiction

theorem parse?_compressed {point : Point} (on : onCurve point = true) :
    ∃ found, parse? (compressed point).bytes = some found := by
  have small : point.x < 256 ^ 32 :=
    Nat.lt_trans ((onCurve_iff point).mp on).1 (by unfold p; norm_num)
  have lifted := lift?_of_onCurve on
  have size : (bigEndian 32 point.x).length = 32 := length_bigEndian 32 point.x
  unfold compressed parse?
  simp only [size, if_true, ofBigEndian_bigEndian small]
  by_cases even : point.y % 2 = 0
  · rw [if_pos even, if_pos rfl]
    simpa [even] using lifted
  · have odd : point.y % 2 = 1 := Nat.mod_two_ne_zero.mp even
    rw [if_neg even, if_neg (by decide), if_pos rfl]
    simpa [odd] using lifted

/-- What an oracle's key becomes can always be used to verify. -/
theorem parse?_of_compress {bytes : Bytes} {key : Octets 33} (made : compress bytes = .ok key) :
    ∃ point, parse? key.bytes = some point := by
  unfold compress at made
  split at made
  · split at made
    · rename_i point parsed
      cases made
      exact parse?_compressed (onCurve_of_parse? parsed)
    · contradiction
  · contradiction

end PublicKey

end CoinSpend
