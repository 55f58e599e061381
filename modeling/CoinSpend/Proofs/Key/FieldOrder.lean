import Mathlib.NumberTheory.LucasPrimality
import Mathlib.Tactic.NormNum.Prime
import Mathlib.Tactic.ReduceModChar
import CoinSpend.Key.Secp256k1

/-! The order of the curve's field is prime. Lucas's test is applied down a tree: the order less one, then the largest
factors less one, and so on until trial division serves. -/
namespace CoinSpend.Secp256k1

/-- Lucas's test, with the factors of `number - 1` listed. -/
theorem prime_of_factors {number : ℕ} (root : ℕ) (factors : List ℕ)
    (primes : ∀ factor ∈ factors, factor.Prime) (product : factors.prod = number - 1)
    (whole : (root : ZMod number) ^ (number - 1) = 1)
    (parts : ∀ factor ∈ factors, (root : ZMod number) ^ ((number - 1) / factor) ≠ 1) :
    number.Prime := by
  apply lucas_primality number root whole
  intro divisor prime divides
  rw [← product] at divides
  obtain ⟨factor, member, within⟩ := (Prime.dvd_prod_iff prime.prime).mp divides
  have same : divisor = factor := (Nat.prime_dvd_prime_iff_eq prime (primes factor member)).mp within
  exact same ▸ parts factor member

theorem prime_18_digits : Nat.Prime 173378833005251801 := by
  refine prime_of_factors 6 [2, 2, 2, 5, 5, 2621, 24809, 13331831] ?_ (by norm_num) ?_ ?_
  · norm_num
  · reduce_mod_char
  · norm_num
    refine ⟨?_, ?_, ?_, ?_, ?_⟩ <;> reduce_mod_char <;> decide

theorem prime_23_digits : Nat.Prime 22149492674086928081353 := by
  refine prime_of_factors 5 [2, 2, 2, 3, 5323, 173378833005251801] ?_ (by norm_num) ?_ ?_
  · simp only [List.forall_mem_cons, prime_18_digits, true_and]
    norm_num
  · reduce_mod_char
  · norm_num
    refine ⟨?_, ?_, ?_, ?_⟩ <;> reduce_mod_char <;> decide

theorem prime_24_digits : Nat.Prime 132896956044521568488119 := by
  refine prime_of_factors 6 [2, 3, 22149492674086928081353] ?_ (by norm_num) ?_ ?_
  · simp only [List.forall_mem_cons, prime_23_digits, true_and]
    norm_num
  · reduce_mod_char
  · norm_num
    refine ⟨?_, ?_, ?_⟩ <;> reduce_mod_char <;> decide

theorem prime_39_digits : Nat.Prime 255515944373312847190720520512484175977 := by
  refine prime_of_factors 3
    [2, 2, 2, 7, 7, 11, 1627, 2657, 4423, 41201, 96557, 7240687, 107590001] ?_ (by norm_num) ?_ ?_
  · norm_num
  · reduce_mod_char
  · norm_num
    refine ⟨?_, ?_, ?_, ?_, ?_, ?_, ?_, ?_, ?_, ?_⟩ <;> reduce_mod_char <;> decide

theorem prime_72_digits :
    Nat.Prime 205115282021455665897114700593932402728804164701536103180137503955397371 := by
  refine prime_of_factors 10
    [2, 3, 5, 29, 29, 31, 7723, 132896956044521568488119, 255515944373312847190720520512484175977]
    ?_ (by norm_num) ?_ ?_
  · simp only [List.forall_mem_cons, prime_24_digits, prime_39_digits, true_and]
    norm_num
  · reduce_mod_char
  · norm_num
    refine ⟨?_, ?_, ?_, ?_, ?_, ?_, ?_⟩ <;> reduce_mod_char <;> decide

theorem prime_p : Nat.Prime p := by
  refine prime_of_factors 3
    [2, 3, 7, 13441, 205115282021455665897114700593932402728804164701536103180137503955397371]
    ?_ (by unfold p; norm_num) ?_ ?_
  · simp only [List.forall_mem_cons, prime_72_digits, true_and]
    norm_num
  · unfold p
    reduce_mod_char
  · unfold p
    norm_num
    refine ⟨?_, ?_, ?_, ?_, ?_⟩ <;> reduce_mod_char <;> decide

instance : Fact (Nat.Prime p) := ⟨prime_p⟩

end CoinSpend.Secp256k1
