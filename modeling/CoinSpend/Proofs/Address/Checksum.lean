import CoinSpend.Address.Bech32
import CoinSpend.Address.CashAddr
import CoinSpend.Proofs.Address.Symbols

/-! Checksums of symbols. A remainder moves up by one symbol at a time, and what it loses at the top comes back as a
feedback that depends on the lost bits alone. So the last symbols are added to the remainder as they are, and exactly
one choice of them makes it what it has to be. -/
namespace CoinSpend

namespace Checksum

variable {σ : Type} {step : σ → UInt8 → σ} {value : σ → Nat} {low : Nat}

/-- A register of `low` bits and a symbol: a step moves the low bits up, and adds the symbol and a feedback for the bits
above them. -/
structure Shifts (step : σ → UInt8 → σ) (value : σ → Nat) (low : Nat) : Prop where
  feedback : ∀ remainder, ∃ feedback < 2 ^ (low + 5), ∀ other symbol, value other / 2 ^ low = value remainder / 2 ^ low →
    value (step other symbol) = ((value other % 2 ^ low) <<< 5 ^^^ symbol.toNat) ^^^ feedback

/-- Adding the generators that are selected adds one value, whatever they are added to. -/
theorem foldl_feedback [XorOp σ] {bits : Nat} {generators : List (σ × Nat)}
    (xors : ∀ x y : σ, value (x ^^^ y) = value x ^^^ value y)
    (bounded : ∀ generator ∈ generators, value generator.1 < 2 ^ bits) (selects : Nat → Bool) :
    ∃ feedback < 2 ^ bits, ∀ start,
      value (generators.foldl (fun sum (generator, index) => if selects index then sum ^^^ generator else sum) start) =
        value start ^^^ feedback := by
  induction generators with
  | nil => exact ⟨0, Nat.two_pow_pos bits, fun start => (Nat.xor_zero _).symm⟩
  | cons generator generators ih =>
    obtain ⟨first, others⟩ := List.forall_mem_cons.mp bounded
    obtain ⟨feedback, bound, adds⟩ := ih others
    by_cases selected : selects generator.2 = true
    · refine ⟨value generator.1 ^^^ feedback, Nat.xor_lt_two_pow first bound, fun start => ?_⟩
      rw [List.foldl_cons, adds]
      dsimp only
      rw [if_pos selected, xors, Nat.xor_assoc]
    · refine ⟨feedback, bound, fun start => ?_⟩
      rw [List.foldl_cons, adds]
      dsimp only
      rw [if_neg selected]

/-- Adding a symbol below a value that was moved up for it. -/
theorem shiftLeft_xor {high low : Nat} (small : low < 32) : high <<< 5 ^^^ low = high * 2 ^ 5 + low := by
  have quotient : (high <<< 5 ^^^ low) / 2 ^ 5 = high := by
    rw [Nat.xor_div_two_pow, Nat.shiftLeft_eq, Nat.mul_div_cancel _ (Nat.two_pow_pos 5),
      Nat.div_eq_of_lt small, Nat.xor_zero]
  have remainder : (high <<< 5 ^^^ low) % 2 ^ 5 = low := by
    rw [Nat.xor_mod_two_pow, Nat.shiftLeft_eq, Nat.mul_mod_left, Nat.zero_xor, Nat.mod_eq_of_lt small]
  have parts := Nat.div_add_mod' (high <<< 5 ^^^ low) (2 ^ 5)
  rw [quotient, remainder] at parts
  exact parts.symm

namespace Shifts

theorem step_lt (shifts : Shifts step value low) (remainder : σ) {symbol : UInt8} (small : symbol.toNat < 32) :
    value (step remainder symbol) < 2 ^ (low + 5) := by
  obtain ⟨feedback, bound, moves⟩ := shifts.feedback remainder
  have moved : (value remainder % 2 ^ low) <<< 5 < 2 ^ (low + 5) := by
    rw [Nat.shiftLeft_eq, pow_add]
    exact Nat.mul_lt_mul_of_pos_right (Nat.mod_lt _ (Nat.two_pow_pos low)) (Nat.two_pow_pos 5)
  have room : symbol.toNat < 2 ^ (low + 5) :=
    Nat.lt_of_lt_of_le (m := 2 ^ 5) small (Nat.pow_le_pow_right (by decide) (Nat.le_add_left 5 low))
  rw [moves remainder symbol rfl]
  exact Nat.xor_lt_two_pow (Nat.xor_lt_two_pow moved room) bound

/-- A difference in the low bits moves up with them. -/
theorem step_xor (shifts : Shifts step value low) {remainder other : σ} {difference : Nat} {symbol : UInt8}
    (small : symbol.toNat < 32) (fits : difference < 2 ^ low) (differs : value other = value remainder ^^^ difference) :
    value (step other symbol) = value (step remainder 0) ^^^ (difference * 2 ^ 5 + symbol.toNat) := by
  obtain ⟨feedback, _, moves⟩ := shifts.feedback remainder
  have high : value other / 2 ^ low = value remainder / 2 ^ low := by
    rw [differs, Nat.xor_div_two_pow, Nat.div_eq_of_lt fits, Nat.xor_zero]
  have lows : value other % 2 ^ low = value remainder % 2 ^ low ^^^ difference := by
    rw [differs, Nat.xor_mod_two_pow, Nat.mod_eq_of_lt fits]
  rw [moves other symbol high, moves remainder 0 rfl, lows, ← shiftLeft_xor small, Nat.shiftLeft_xor_distrib,
    UInt8.toNat_zero, Nat.xor_zero]
  ac_rfl

/-- The last symbols are added to the remainder as they are. -/
theorem run_xor (shifts : Shifts step value low) {check : Bytes} (small : ∀ symbol ∈ check, symbol.toNat < 32)
    (short : 5 * check.length ≤ low + 5) (remainder : σ) :
    value (check.foldl step remainder) =
      value ((List.replicate check.length 0).foldl step remainder) ^^^ Symbols.number 5 check := by
  induction check using List.reverseRecOn with
  | nil => simp [Symbols.number, Base58.numeral, Base58.ofDigits]
  | append_singleton check symbol ih =>
    obtain ⟨earlier, last⟩ := List.forall_mem_append.mp small
    rw [List.length_append, List.length_singleton] at short ⊢
    have fits : Symbols.number 5 check < 2 ^ low := by
      apply Nat.lt_of_lt_of_le (Symbols.number_lt (by decide) earlier)
      exact Nat.pow_le_pow_right (by decide) (by omega)
    have differs := ih earlier (by omega)
    rw [List.replicate_succ', List.foldl_append, List.foldl_append, Symbols.number_concat]
    exact shifts.step_xor (last symbol List.mem_cons_self) fits differs

theorem run_lt (shifts : Shifts step value low) {symbols : Bytes} (small : ∀ symbol ∈ symbols, symbol.toNat < 32)
    (filled : symbols ≠ []) (remainder : σ) : value (symbols.foldl step remainder) < 2 ^ (low + 5) := by
  obtain ⟨earlier, last, rfl⟩ := (List.eq_nil_or_concat symbols).resolve_left filled
  rw [List.concat_eq_append] at small ⊢
  rw [List.foldl_append]
  exact shifts.step_lt _ (small last (by simp))

/-- One choice of the last symbols makes the remainder what it has to be: the symbols that spell out how far it is off
with zeros in their place. -/
theorem run_eq_iff (shifts : Shifts step value low) {check : Bytes} {target : Nat} (remainder : σ)
    (small : ∀ symbol ∈ check, symbol.toNat < 32) (full : 5 * check.length = low + 5) (fits : target < 2 ^ (low + 5)) :
    value (check.foldl step remainder) = target ↔
      check = Symbols.spell check.length
        (value ((List.replicate check.length 0).foldl step remainder) ^^^ target) := by
  have filled : List.replicate check.length (0 : UInt8) ≠ [] := by
    rw [Ne, List.replicate_eq_nil_iff]
    omega
  have zeros := shifts.run_lt (by simp) filled remainder
  have spelled : Symbols.number 5 (Symbols.spell check.length
      (value ((List.replicate check.length 0).foldl step remainder) ^^^ target)) =
        value ((List.replicate check.length 0).foldl step remainder) ^^^ target := by
    rw [Symbols.number_spell, full, Nat.mod_eq_of_lt (Nat.xor_lt_two_pow zeros fits)]
  rw [shifts.run_xor small (Nat.le_of_eq full)]
  constructor
  · intro same
    apply Symbols.number_injective (by decide : 0 < 5) (Symbols.length_spell _ _).symm small (Symbols.spell_lt _ _)
    rw [spelled, ← same, ← Nat.xor_assoc, Nat.xor_self, Nat.zero_xor]
  · intro same
    have number := congrArg (Symbols.number 5) same
    rw [spelled] at number
    rw [number, ← Nat.xor_assoc, Nat.xor_self, Nat.zero_xor]

end Shifts

end Checksum

namespace Bech32

theorem shifts : Checksum.Shifts polymodStep UInt32.toNat 25 := by
  refine ⟨fun remainder => ?_⟩
  have bounded : ∀ generator ∈ generators.zipIdx, generator.1.toNat < 2 ^ 30 := by decide
  obtain ⟨feedback, bound, adds⟩ := Checksum.foldl_feedback UInt32.toNat_xor bounded
    fun index => ((remainder >>> 25) >>> UInt32.ofNat index) &&& 1 != 0
  refine ⟨feedback, bound, fun other symbol same => ?_⟩
  have high : other >>> 25 = remainder >>> 25 := by
    rw [← UInt32.toNat_inj]
    simpa [Nat.shiftRight_eq_div_pow] using same
  have moved : ((other &&& 0x1ffffff) <<< 5).toNat = (other.toNat % 2 ^ 25) <<< 5 := by
    have mask : (0x1ffffff : UInt32).toNat = 2 ^ 25 - 1 := rfl
    have below : (other.toNat % 2 ^ 25) <<< 5 < 2 ^ 32 := by
      rw [Nat.shiftLeft_eq]
      omega
    rw [UInt32.toNat_shiftLeft, UInt32.toNat_and, mask, Nat.and_two_pow_sub_one_eq_mod]
    exact Nat.mod_eq_of_lt below
  unfold polymodStep
  rw [high]
  refine (adds _).trans ?_
  rw [UInt32.toNat_xor, moved, UInt8.toNat_toUInt32]

theorem checksum_eq (lead : List Char) (symbols : Bytes) : checksum lead symbols =
    Symbols.spell 6 ((polymod (expand lead ++ symbols ++ List.replicate 6 0)).toNat ^^^ constant.toNat) := by
  have symbol (remainder shift : UInt32) : ((remainder >>> shift) &&& 0x1f).toUInt8 =
      UInt8.ofNat (remainder.toNat / 2 ^ (shift.toNat % 32) % 32) := by
    have mask : (0x1f : UInt32).toNat = 2 ^ 5 - 1 := rfl
    rw [← UInt8.toNat_inj, Symbols.toNat_low, UInt32.toNat_toUInt8, UInt32.toNat_and, mask,
      Nat.and_two_pow_sub_one_eq_mod, UInt32.toNat_shiftRight, Nat.shiftRight_eq_div_pow]
    omega
  rw [checksum, ← UInt32.toNat_xor]
  simp only [List.map_cons, List.map_nil, symbol, Symbols.spell, UInt32.reduceToNat, Nat.reduceMod, Nat.reduceMul]

theorem length_checksum (lead : List Char) (symbols : Bytes) : (checksum lead symbols).length = 6 := rfl

theorem checksum_lt (lead : List Char) (symbols : Bytes) : ∀ symbol ∈ checksum lead symbols, symbol.toNat < 32 := by
  rw [checksum_eq]
  exact Symbols.spell_lt _ _

/-- A text has the right remainder with its checksum and with no other six symbols. -/
theorem polymod_eq_constant_iff {lead : List Char} {symbols check : Bytes} (long : check.length = 6)
    (small : ∀ symbol ∈ check, symbol.toNat < 32) :
    polymod (expand lead ++ (symbols ++ check)) = constant ↔ check = checksum lead symbols := by
  have last (ends : Bytes) : polymod (expand lead ++ symbols ++ ends) =
      ends.foldl polymodStep (polymod (expand lead ++ symbols)) := List.foldl_append
  rw [← UInt32.toNat_inj, ← List.append_assoc, last, shifts.run_eq_iff _ small (by omega) (by decide), long,
    checksum_eq, last]

end Bech32

namespace CashAddr

/-- What is added to a remainder for the five bits that were moved out. -/
def feedback (out : UInt64) : UInt64 :=
  generators.zipIdx.foldl (fun value (generator, index) =>
    if (out >>> UInt64.ofNat index) &&& 1 != 0 then value ^^^ generator else value) 0

theorem toNat_polymodStep (remainder : UInt64) (symbol : UInt8) : (polymodStep remainder symbol).toNat =
    ((remainder.toNat % 2 ^ 35) <<< 5 ^^^ symbol.toNat) ^^^ (feedback (remainder >>> 35)).toNat ∧
      (feedback (remainder >>> 35)).toNat < 2 ^ 40 := by
  have bounded : ∀ generator ∈ generators.zipIdx, generator.1.toNat < 2 ^ 40 := by decide
  obtain ⟨added, bound, adds⟩ := Checksum.foldl_feedback UInt64.toNat_xor bounded
    fun index => ((remainder >>> 35) >>> UInt64.ofNat index) &&& 1 != 0
  have alone : (feedback (remainder >>> 35)).toNat = added := (adds 0).trans (Nat.zero_xor added)
  have moved : ((remainder &&& 0x07ffffffff) <<< 5).toNat = (remainder.toNat % 2 ^ 35) <<< 5 := by
    have mask : (0x07ffffffff : UInt64).toNat = 2 ^ 35 - 1 := rfl
    have below : (remainder.toNat % 2 ^ 35) <<< 5 < 2 ^ 64 := by
      rw [Nat.shiftLeft_eq]
      omega
    rw [UInt64.toNat_shiftLeft, UInt64.toNat_and, mask, Nat.and_two_pow_sub_one_eq_mod]
    exact Nat.mod_eq_of_lt below
  rw [alone]
  refine ⟨?_, bound⟩
  unfold polymodStep
  refine (adds _).trans ?_
  rw [UInt64.toNat_xor, moved, UInt8.toNat_toUInt64]

theorem shifts : Checksum.Shifts polymodStep UInt64.toNat 35 := by
  refine ⟨fun remainder => ⟨_, (toNat_polymodStep remainder 0).2, fun other symbol same => ?_⟩⟩
  have high : other >>> 35 = remainder >>> 35 := by
    rw [← UInt64.toNat_inj]
    simpa [Nat.shiftRight_eq_div_pow] using same
  rw [(toNat_polymodStep other symbol).1, high]

theorem checksum_eq (lead : String) (symbols : Bytes) : checksum lead symbols =
    Symbols.spell 8 (polymod (covered lead (symbols ++ List.replicate 8 0))).toNat := by
  have symbol (remainder shift : UInt64) : ((remainder >>> shift) &&& 0x1f).toUInt8 =
      UInt8.ofNat (remainder.toNat / 2 ^ (shift.toNat % 64) % 32) := by
    have mask : (0x1f : UInt64).toNat = 2 ^ 5 - 1 := rfl
    rw [← UInt8.toNat_inj, Symbols.toNat_low, UInt64.toNat_toUInt8, UInt64.toNat_and, mask,
      Nat.and_two_pow_sub_one_eq_mod, UInt64.toNat_shiftRight, Nat.shiftRight_eq_div_pow]
    omega
  rw [checksum]
  simp only [List.map_cons, List.map_nil, symbol, Symbols.spell, UInt64.reduceToNat, Nat.reduceMod, Nat.reduceMul]

theorem length_checksum (lead : String) (symbols : Bytes) : (checksum lead symbols).length = 8 := rfl

theorem checksum_lt (lead : String) (symbols : Bytes) : ∀ symbol ∈ checksum lead symbols, symbol.toNat < 32 := by
  rw [checksum_eq]
  exact Symbols.spell_lt _ _

theorem covered_append (lead : String) (symbols more : Bytes) :
    covered lead (symbols ++ more) = covered lead symbols ++ more := by
  rw [covered, covered, List.append_assoc, List.cons_append]

/-- A payload has the remainder zero with its checksum and with no other eight symbols. -/
theorem polymod_eq_zero_iff {lead : String} {symbols check : Bytes} (long : check.length = 8)
    (small : ∀ symbol ∈ check, symbol.toNat < 32) :
    polymod (covered lead (symbols ++ check)) = 0 ↔ check = checksum lead symbols := by
  have flipped (remainder : UInt64) : remainder ^^^ 1 = 0 ↔ remainder.toNat = (1 : UInt64).toNat := by
    rw [UInt64.xor_eq_zero_iff, UInt64.toNat_inj]
  have last (ends : Bytes) : polymod (covered lead (symbols ++ ends)) =
      ends.foldl polymodStep ((covered lead symbols).foldl polymodStep 1) ^^^ 1 := by
    rw [covered_append, polymod, List.foldl_append]
  rw [last, flipped, shifts.run_eq_iff _ small (by omega) (by decide), long, checksum_eq, last, UInt64.toNat_xor]

end CashAddr

end CoinSpend
