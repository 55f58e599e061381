import CoinSpend.Address.Symbols
import CoinSpend.Proofs.Address.Base58

/-! Bytes and symbols stand for the same bits. The register drops its high bits as it goes on, but only ones that have
been given out; so what it holds and what it gave out are always the value of what it took. -/
namespace CoinSpend.Symbols

/-- The value of groups of `width` bits in a row, the first one highest. -/
def number (width : Nat) (values : Bytes) : Nat := Base58.ofDigits (2 ^ width) (Base58.numeral values)

section

variable {width : Nat} {values others : Bytes}

theorem number_cons (width : Nat) (value : UInt8) (values : Bytes) :
    number width (value :: values) = value.toNat * 2 ^ (width * values.length) + number width values := by
  rw [number, Base58.numeral, List.map_cons, Base58.ofDigits_cons, List.length_map, pow_mul]
  rfl

theorem number_concat (width : Nat) (values : Bytes) (value : UInt8) :
    number width (values ++ [value]) = number width values * 2 ^ width + value.toNat := by
  rw [number, Base58.numeral, List.map_append, List.map_singleton, Base58.ofDigits_append, Base58.ofDigits_cons]
  simp [number, Base58.numeral, Base58.ofDigits]

theorem number_lt (positive : 0 < width) (small : ∀ value ∈ values, value.toNat < 2 ^ width) :
    number width values < 2 ^ (width * values.length) := by
  have bound := Base58.ofDigits_lt (Nat.one_lt_two_pow positive.ne') (List.forall_mem_map.mpr small)
  rwa [List.length_map, ← pow_mul] at bound

theorem number_injective (positive : 0 < width) (long : values.length = others.length)
    (small : ∀ value ∈ values, value.toNat < 2 ^ width) (otherSmall : ∀ value ∈ others, value.toNat < 2 ^ width)
    (same : number width values = number width others) : values = others := by
  apply List.map_injective_iff.mpr fun _ _ => UInt8.toNat_inj.mp
  apply Base58.ofDigits_injective (Nat.one_lt_two_pow positive.ne') _ _ _ same
  · simpa [Base58.numeral] using long
  · exact List.forall_mem_map.mpr small
  · exact List.forall_mem_map.mpr otherSmall

end

/-- The last `count` groups of five bits of a value. -/
def spell : Nat → Nat → Bytes
  | 0, _ => []
  | count + 1, value => UInt8.ofNat (value / 2 ^ (5 * count) % 32) :: spell count value

theorem length_spell (count value : Nat) : (spell count value).length = count := by
  induction count with
  | zero => rfl
  | succ count ih => rw [spell, List.length_cons, ih]

theorem toNat_low (value : Nat) : (UInt8.ofNat (value % 32)).toNat = value % 32 :=
  UInt8.toNat_ofNat_of_lt' (by simp only [UInt8.size]; omega)

theorem spell_lt (count value : Nat) : ∀ symbol ∈ spell count value, symbol.toNat < 32 := by
  induction count with
  | zero => simp [spell]
  | succ count ih =>
    rw [spell, List.forall_mem_cons, toNat_low]
    exact ⟨Nat.mod_lt _ (by decide), ih⟩

theorem number_spell (count value : Nat) : number 5 (spell count value) = value % 2 ^ (5 * count) := by
  induction count with
  | zero => simp [spell, number, Base58.numeral, Base58.ofDigits, Nat.mod_one]
  | succ count ih =>
    rw [spell, number_cons, length_spell, ih, toNat_low, Nat.mul_succ, pow_add, Nat.mod_mul, Nat.mul_comm, Nat.add_comm]
    rfl

theorem value?_eq_some_iff (c : Char) (symbol : UInt8) :
    value? c = some symbol ↔ c = character symbol ∧ symbol.toNat < 32 := by
  have size : alphabet.length = 32 := by decide
  have place (index : Nat) : alphabet.idxOf? c = some index ↔ c = alphabet.getD index 'q' ∧ index < 32 :=
    size ▸ idxOf?_eq_some_iff_of_nodup (by decide) 'q'
  simp only [value?, Option.map_eq_some_iff, place, character]
  constructor
  · rintro ⟨index, ⟨same, inside⟩, rfl⟩
    rw [UInt8.toNat_ofNat_of_lt' (Nat.lt_trans inside (by decide))]
    exact ⟨same, inside⟩
  · rintro ⟨same, inside⟩
    exact ⟨symbol.toNat, ⟨same, inside⟩, UInt8.ofNat_toNat⟩

/-- Symbols are read in either case. -/
theorem mapM_value?_iff {text : List Char} {symbols : Bytes} :
    (text.mapM fun c => value? c.toLower) = some symbols ↔
      Text.lowered text = symbols.map character ∧ ∀ symbol ∈ symbols, symbol.toNat < 32 := by
  rw [← mapM_eq_some_iff value?_eq_some_iff, Text.lowered, List.mapM_map]
  rfl

/-- What is written for symbols is lower-case, has no blanks, and has neither of the separators. -/
theorem mem_characters {symbols : Bytes} (small : ∀ symbol ∈ symbols, symbol.toNat < 32) {c : Char}
    (member : c ∈ symbols.map character) : c.isUpper = false ∧ Text.isBlank c = false ∧ c ≠ '1' ∧ c ≠ ':' := by
  have plain : ∀ index ∈ List.range 32, (alphabet.getD index 'q').isUpper = false ∧
      Text.isBlank (alphabet.getD index 'q') = false ∧ alphabet.getD index 'q' ≠ '1' ∧ alphabet.getD index 'q' ≠ ':' := by
    decide
  obtain ⟨symbol, present, rfl⟩ := List.mem_map.mp member
  exact plain symbol.toNat (List.mem_range.mpr (small symbol present))

theorem lowered_characters {symbols : Bytes} (small : ∀ symbol ∈ symbols, symbol.toNat < 32) :
    Text.lowered (symbols.map character) = symbols.map character :=
  Text.lowered_eq_self_iff.mpr fun _ member => (mem_characters small member).1

theorem toNat_group {width : Nat} (small : width ≤ 8) (value : UInt32) :
    (group width value).toNat = value.toNat % 2 ^ width := by
  have masks : ∀ width ∈ List.range 9, ((1 <<< UInt32.ofNat width) - 1 : UInt32).toNat = 2 ^ width - 1 := by decide
  have bound : value.toNat % 2 ^ width < 2 ^ 8 :=
    Nat.lt_of_lt_of_le (Nat.mod_lt _ (Nat.two_pow_pos width)) (Nat.pow_le_pow_right (by decide) small)
  rw [group, UInt32.toNat_toUInt8, UInt32.toNat_and, masks width (List.mem_range.mpr (Nat.lt_succ_of_le small)),
    Nat.and_two_pow_sub_one_eq_mod, Nat.mod_eq_of_lt bound]

theorem toNat_shiftRight_ofNat (value : UInt32) {count : Nat} (small : count < 32) :
    (value >>> UInt32.ofNat count).toNat = value.toNat / 2 ^ count := by
  rw [UInt32.toNat_shiftRight, UInt32.toNat_ofNat_of_lt' (by simp only [UInt32.size]; omega), Nat.mod_eq_of_lt small,
    Nat.shiftRight_eq_div_pow]

/-- A value moved up keeps the bits that still fit. -/
theorem shiftLeft_mod {value : UInt32} {count : Nat} (bits : Nat) (small : bits + count ≤ 32) (shifts : count < 32) :
    (value <<< UInt32.ofNat count).toNat % 2 ^ (bits + count) = value.toNat % 2 ^ bits * 2 ^ count := by
  rw [UInt32.toNat_shiftLeft, UInt32.toNat_ofNat_of_lt' (by simp only [UInt32.size]; omega), Nat.mod_eq_of_lt shifts,
    Nat.mod_mod_of_dvd _ (Nat.pow_dvd_pow 2 small), Nat.shiftLeft_eq, pow_add, Nat.mul_mod_mul_right]

/-- The register has taken `size` bits with the value `value`, gave out the high ones and still has the low ones. -/
structure Register.Holds (register : Register) (output size value : Nat) : Prop where
  size_eq : size = output * register.groups.length + register.bits
  value_eq : value = number output register.groups.reverse * 2 ^ register.bits + register.value.toNat % 2 ^ register.bits
  small : ∀ group ∈ register.groups, group.toNat < 2 ^ output

variable {output width size value : Nat} {register : Register} (positive : 0 < output)

theorem emit_holds (narrow : output ≤ 8) (fits : register.bits ≤ 32) (holds : register.Holds output size value) :
    (emit output positive register).Holds output size value ∧ (emit output positive register).bits < output := by
  fun_induction emit output positive register with
  | case1 register enough bits ih =>
    have below : bits < 32 := by omega
    have sum : register.bits = bits + output := by omega
    apply ih (Nat.le_of_lt below)
    -- the next group is the top of the pending bits
    have taken : (group output (register.value >>> UInt32.ofNat bits)).toNat =
        register.value.toNat / 2 ^ bits % 2 ^ output := by
      rw [toNat_group narrow, toNat_shiftRight_ofNat _ below]
    refine ⟨?_, ?_, ?_⟩
    · dsimp only
      rw [holds.size_eq, List.length_cons, sum, Nat.mul_succ]
      omega
    · dsimp only
      rw [holds.value_eq, List.reverse_cons, number_concat, taken, sum, pow_add, Nat.mod_mul]
      ring
    · intro next member
      rcases List.mem_cons.mp member with rfl | earlier
      · rw [taken]
        exact Nat.mod_lt _ (Nat.two_pow_pos output)
      · exact holds.small next earlier
  | case2 register short => exact ⟨holds, Nat.lt_of_not_le short⟩

theorem feed_holds (narrow : output ≤ 8) (taken : width ≤ 8) {next : UInt8} (bound : next.toNat < 2 ^ width)
    (holds : register.Holds output size value) (pending : register.bits < output) :
    (feed width output positive register next).Holds output (size + width) (value * 2 ^ width + next.toNat) ∧
      (feed width output positive register next).bits < output := by
  apply emit_holds positive narrow (by dsimp only; omega)
  refine ⟨?_, ?_, holds.small⟩
  · rw [holds.size_eq]
    dsimp only
    omega
  · have room : next.toNat < 2 ^ (register.bits + width) :=
      Nat.lt_of_lt_of_le bound (Nat.pow_le_pow_right (by decide) (Nat.le_add_left _ _))
    have joined : ((register.value <<< UInt32.ofNat width) ||| next.toUInt32).toNat % 2 ^ (register.bits + width) =
        register.value.toNat % 2 ^ register.bits * 2 ^ width + next.toNat := by
      rw [UInt32.toNat_or, Nat.or_mod_two_pow, shiftLeft_mod _ (by omega) (by omega), UInt8.toNat_toUInt32,
        Nat.mod_eq_of_lt room, ← Nat.shiftLeft_eq, Nat.shiftLeft_add_eq_or_of_lt bound]
    dsimp only
    rw [joined, holds.value_eq, pow_add]
    ring

/-- Every run of the register gives out the bits that it took. -/
theorem foldl_feed_holds (narrow : output ≤ 8) (taken : width ≤ 8) {values : Bytes}
    (bound : ∀ next ∈ values, next.toNat < 2 ^ width) (holds : register.Holds output size value)
    (pending : register.bits < output) :
    (values.foldl (feed width output positive) register).Holds output (size + width * values.length)
        (value * 2 ^ (width * values.length) + number width values) ∧
      (values.foldl (feed width output positive) register).bits < output := by
  induction values generalizing register size value with
  | nil => simpa [number, Base58.numeral, Base58.ofDigits] using And.intro holds pending
  | cons next values ih =>
    obtain ⟨own, others⟩ := List.forall_mem_cons.mp bound
    obtain ⟨fed, left⟩ := feed_holds positive narrow taken own holds pending
    have run := ih others fed left
    have length : size + width + width * values.length = size + width * (next :: values).length := by
      rw [List.length_cons, Nat.mul_succ]
      omega
    have total : (value * 2 ^ width + next.toNat) * 2 ^ (width * values.length) + number width values =
        value * 2 ^ (width * (next :: values).length) + number width (next :: values) := by
      rw [number_cons, List.length_cons, Nat.mul_succ, pow_add]
      ring
    rwa [length, total] at run

/-- The groups that values are divided into, and the `spare` bits left behind them with the value `rest`. -/
structure Regrouped (width output : Nat) (values groups : Bytes) (spare rest : Nat) : Prop where
  pending : spare < output
  rest_lt : rest < 2 ^ spare
  small : ∀ group ∈ groups, group.toNat < 2 ^ output
  length : width * values.length = output * groups.length + spare
  number_eq : number width values = number output groups * 2 ^ spare + rest

/-- The bits that are left are one more group when they are filled up with zeros. -/
theorem Regrouped.padded_lt {values groups : Bytes} {spare rest : Nat}
    (regrouped : Regrouped width output values groups spare rest) : rest * 2 ^ (output - spare) < 2 ^ output := by
  have below := Nat.mul_lt_mul_of_pos_right regrouped.rest_lt (Nat.two_pow_pos (output - spare))
  rwa [← pow_add, Nat.add_sub_cancel' (Nat.le_of_lt regrouped.pending)] at below

/-- Regrouping fills up the bits that are left or, without filling up, allows for few of them and only for zeros. -/
theorem regroup?_spec (width : Nat) (positive : 0 < output) (narrow : output ≤ 8) (taken : width ≤ 8) {values : Bytes}
    (bound : ∀ next ∈ values, next.toNat < 2 ^ width) :
    ∃ groups spare rest, Regrouped width output values groups spare rest ∧
      regroup? width output positive false values = (if width ≤ spare ∨ rest ≠ 0 then none else some groups) ∧
      ∃ last : UInt8, last.toNat = rest * 2 ^ (output - spare) ∧
        regroup? width output positive true values = some (if 0 < spare then groups ++ [last] else groups) := by
  have start : Register.Holds ⟨0, 0, []⟩ output 0 0 := by
    refine ⟨rfl, ?_, fun group member => ?_⟩
    · simp [number, Base58.numeral, Base58.ofDigits, Nat.mod_one]
    · cases member
  obtain ⟨holds, pending⟩ := foldl_feed_holds positive narrow taken bound start positive
  rw [Nat.zero_add, Nat.zero_mul, Nat.zero_add] at holds
  unfold regroup?
  generalize values.foldl (feed width output positive) ⟨0, 0, []⟩ = register at holds pending
  -- the pending bits with zeros behind them
  have last : (group output (register.value <<< UInt32.ofNat (output - register.bits))).toNat =
      register.value.toNat % 2 ^ register.bits * 2 ^ (output - register.bits) := by
    have whole : 2 ^ output = 2 ^ (register.bits + (output - register.bits)) := by
      rw [Nat.add_sub_cancel' (Nat.le_of_lt pending)]
    rw [toNat_group narrow, whole, shiftLeft_mod _ (by omega) (by omega)]
  have zero : group output (register.value <<< UInt32.ofNat (output - register.bits)) ≠ 0 ↔
      register.value.toNat % 2 ^ register.bits ≠ 0 := by
    rw [← UInt8.toNat_inj.ne, last, UInt8.toNat_zero, Nat.mul_ne_zero_iff]
    exact and_iff_left (Nat.two_pow_pos _).ne'
  refine ⟨register.groups.reverse, register.bits, register.value.toNat % 2 ^ register.bits, ?_, ?_, _, last, ?_⟩
  · refine ⟨pending, Nat.mod_lt _ (Nat.two_pow_pos _), fun group member => ?_, ?_, holds.value_eq⟩
    · exact holds.small group (List.mem_reverse.mp member)
    · rw [List.length_reverse, holds.size_eq]
  · simp only [zero, Bool.false_eq_true, if_false]
  · simp only [if_true, List.reverse_cons]

/-- Symbols that spell bytes out: their bits are the bits of the bytes and less than a symbol of zeros. -/
structure Spells (symbols bytes : Bytes) : Prop where
  small : ∀ symbol ∈ symbols, symbol.toNat < 32
  bits : ∃ spare < 5, 5 * symbols.length = 8 * bytes.length + spare ∧ number 5 symbols = number 8 bytes * 2 ^ spare

namespace Spells

variable {symbols others bytes more : Bytes}

theorem symbols_unique (spells : Spells symbols bytes) (again : Spells others bytes) : symbols = others := by
  obtain ⟨spare, less, length, same⟩ := spells.bits
  obtain ⟨spare', less', length', same'⟩ := again.bits
  have equal : spare = spare' := by omega
  subst equal
  exact number_injective (by decide) (by omega) spells.small again.small (same.trans same'.symm)

theorem bytes_unique (spells : Spells symbols bytes) (again : Spells symbols more) : bytes = more := by
  obtain ⟨spare, less, length, same⟩ := spells.bits
  obtain ⟨spare', less', length', same'⟩ := again.bits
  have equal : spare = spare' := by omega
  subst equal
  apply number_injective (by decide : 0 < 8) (by omega) (fun byte _ => byte.toNat_lt) fun byte _ => byte.toNat_lt
  exact Nat.eq_of_mul_eq_mul_right (Nat.two_pow_pos spare) (same.symm.trans same')

end Spells

/-- Every byte string is spelled out by the symbols that it is regrouped into. -/
theorem ofBytes?_spells (bytes : Bytes) : ∃ symbols, ofBytes? bytes = some symbols ∧ Spells symbols bytes := by
  obtain ⟨groups, spare, rest, regrouped, _, last, filled, made⟩ :=
    regroup?_spec 8 (by decide : 0 < 5) (by decide) (by decide) fun byte (_ : byte ∈ bytes) => byte.toNat_lt
  have pending := regrouped.pending
  have length := regrouped.length
  refine ⟨_, made, ?_⟩
  split
  · have whole : 2 ^ 5 = 2 ^ spare * 2 ^ (5 - spare) := by
      rw [← pow_add, Nat.add_sub_cancel' (Nat.le_of_lt pending)]
    refine ⟨List.forall_mem_append.mpr ⟨regrouped.small, ?_⟩, 5 - spare, by omega, ?_, ?_⟩
    · rw [List.forall_mem_singleton, filled]
      exact regrouped.padded_lt
    · rw [List.length_append, List.length_singleton]
      omega
    · rw [number_concat, filled, regrouped.number_eq, whole]
      ring
  · obtain rfl : spare = 0 := by omega
    have none : rest = 0 := Nat.lt_one_iff.mp regrouped.rest_lt
    refine ⟨regrouped.small, 0, by decide, by omega, ?_⟩
    rw [regrouped.number_eq, none, pow_zero, Nat.mul_one, Nat.add_zero, Nat.mul_one]

/-- Values that are divided into bytes spell these out, if less than a symbol is left behind them and that is zero, and
no others. -/
theorem Regrouped.spells_iff {symbols groups bytes : Bytes} {spare rest : Nat} (small : ∀ symbol ∈ symbols, symbol.toNat < 32)
    (regrouped : Regrouped 5 8 symbols groups spare rest) :
    Spells symbols bytes ↔ spare < 5 ∧ rest = 0 ∧ bytes = groups := by
  have spelled (few : spare < 5) (none : rest = 0) : Spells symbols groups := by
    refine ⟨small, spare, few, regrouped.length, ?_⟩
    rw [regrouped.number_eq, none, Nat.add_zero]
  constructor
  · intro spells
    obtain ⟨other, less, length, same⟩ := spells.bits
    have pending := regrouped.pending
    have divided := regrouped.length
    obtain rfl : spare = other := by omega
    have none : rest = 0 := by
      have remainder := congrArg (· % 2 ^ spare) (regrouped.number_eq.symm.trans same)
      simpa [Nat.mod_eq_of_lt regrouped.rest_lt] using remainder
    exact ⟨less, none, spells.bytes_unique (spelled less none)⟩
  · rintro ⟨few, none, rfl⟩
    exact spelled few none

theorem toBytes?_eq_some_iff {symbols bytes : Bytes} (small : ∀ symbol ∈ symbols, symbol.toNat < 32) :
    toBytes? symbols = some bytes ↔ Spells symbols bytes := by
  obtain ⟨groups, spare, rest, regrouped, made, _⟩ := regroup?_spec 5 (by decide : 0 < 8) (by decide) (by decide) small
  rw [toBytes?, made, regrouped.spells_iff small]
  constructor
  · intro found
    split at found
    · cases found
    · rename_i clean
      obtain ⟨few, none⟩ := not_or.mp clean
      exact ⟨Nat.lt_of_not_le few, Decidable.not_not.mp none, (Option.some.inj found).symm⟩
  · rintro ⟨few, none, rfl⟩
    rw [if_neg (not_or.mpr ⟨Nat.not_le_of_lt few, not_not_intro none⟩)]

end CoinSpend.Symbols
