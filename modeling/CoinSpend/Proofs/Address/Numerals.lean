import Mathlib.Data.Nat.Digits.Lemmas
import CoinSpend.Address.Base58

/-! Numerals with the leading digit first. They are the library's digits in reverse; a numeral is found again from its
value and from its length or the zeros it starts with. -/
namespace CoinSpend.Base58

variable {base : Nat} {numeral other : List Nat}

theorem ofDigits_eq (base : Nat) (numeral : List Nat) :
    ofDigits base numeral = Nat.ofDigits base numeral.reverse := by
  rw [ofDigits, Nat.ofDigits_eq_foldr, List.foldr_reverse]
  simp only [Nat.cast_id, Nat.add_comm]

theorem digitsBefore_eq (large : 1 < base) (found : List Nat) (value : Nat) :
    digitsBefore base large found value = (Nat.digits base value).reverse ++ found := by
  fun_induction digitsBefore base large found value with
  | case1 found => simp
  | case2 found value zero ih =>
    rw [ih, Nat.digits_def' large (Nat.pos_of_ne_zero zero), List.reverse_cons, List.append_assoc,
      List.singleton_append]

theorem digits_eq (large : 1 < base) (value : Nat) :
    digits base large value = (Nat.digits base value).reverse := by
  rw [digits, digitsBefore_eq, List.append_nil]

theorem ofDigits_digits (large : 1 < base) (value : Nat) : ofDigits base (digits base large value) = value := by
  rw [ofDigits_eq, digits_eq, List.reverse_reverse, Nat.ofDigits_digits]

theorem digits_lt (large : 1 < base) {value digit : Nat} (member : digit ∈ digits base large value) : digit < base := by
  rw [digits_eq, List.mem_reverse] at member
  exact Nat.digits_lt_base large member

theorem ofDigits_cons (base digit : Nat) (numeral : List Nat) :
    ofDigits base (digit :: numeral) = digit * base ^ numeral.length + ofDigits base numeral := by
  rw [ofDigits_eq, ofDigits_eq, List.reverse_cons, Nat.ofDigits_append, Nat.ofDigits_singleton, List.length_reverse]
  ring

theorem ofDigits_append (base : Nat) (numeral other : List Nat) :
    ofDigits base (numeral ++ other) = ofDigits base numeral * base ^ other.length + ofDigits base other := by
  rw [ofDigits_eq, ofDigits_eq, ofDigits_eq, List.reverse_append, Nat.ofDigits_append, List.length_reverse]
  ring

theorem ofDigits_lt (large : 1 < base) (small : ∀ digit ∈ numeral, digit < base) :
    ofDigits base numeral < base ^ numeral.length := by
  rw [ofDigits_eq, ← List.length_reverse]
  exact Nat.ofDigits_lt_base_pow_length large fun digit member => small digit (List.mem_reverse.mp member)

/-- Numerals of one length and one value are the same. -/
theorem ofDigits_injective (large : 1 < base) (long : numeral.length = other.length)
    (small : ∀ digit ∈ numeral, digit < base) (otherSmall : ∀ digit ∈ other, digit < base)
    (same : ofDigits base numeral = ofDigits base other) : numeral = other := by
  rw [ofDigits_eq, ofDigits_eq] at same
  apply List.reverse_injective
  apply Nat.ofDigits_inj_of_len_eq large _ _ _ same
  · simpa using long
  · exact fun digit member => small digit (List.mem_reverse.mp member)
  · exact fun digit member => otherSmall digit (List.mem_reverse.mp member)

/-- A numeral is its leading zeros and the digits of its value. -/
theorem zeros_append_digits (large : 1 < base) (small : ∀ digit ∈ numeral, digit < base) :
    numeral.takeWhile (· == 0) ++ digits base large (ofDigits base numeral) = numeral := by
  induction numeral with
  | nil => simp [digits_eq, ofDigits]
  | cons digit numeral ih =>
    obtain ⟨least, others⟩ := List.forall_mem_cons.mp small
    by_cases zero : digit = 0
    · subst zero
      rw [List.takeWhile_cons_of_pos rfl, ofDigits_cons, Nat.zero_mul, Nat.zero_add, List.cons_append, ih others]
    · have leading : ∀ filled : (digit :: numeral).reverse ≠ [], (digit :: numeral).reverse.getLast filled ≠ 0 := by
        intro filled
        simpa using zero
      rw [List.takeWhile_cons_of_neg (by simpa using zero), List.nil_append, digits_eq, ofDigits_eq,
        Nat.digits_ofDigits base large _ (fun digit member => small digit (List.mem_reverse.mp member)) leading,
        List.reverse_reverse]

/-- The digits of a value do not start with a zero. -/
theorem takeWhile_zero_digits (large : 1 < base) (value : Nat) :
    (digits base large value).takeWhile (· == 0) = [] := by
  have small : ∀ digit ∈ digits base large value, digit < base := fun digit => digits_lt large
  have whole := zeros_append_digits large small
  rw [ofDigits_digits] at whole
  exact List.append_left_eq_self.mp whole

theorem length_digits_le (large : 1 < base) {value count : Nat} (bound : value < base ^ count) :
    (digits base large value).length ≤ count := by
  rw [digits_eq, List.length_reverse]
  exact (Nat.digits_length_le_iff large value).mpr bound

end CoinSpend.Base58
