import CoinSpend.Proofs.Address.Symbols

/-! Regrouping as a statement about bits. The bits of the values, in a row, are cut into groups from the front. What the 32-bit
register drops has been given out before, so the groups are those of the whole row, however long it is; and no count or shift
on the way leaves the range in which it has a meaning. -/
namespace CoinSpend.Symbols

/-- The `count` low bits of a number, the highest first. -/
def lowBits : Nat → Nat → List Bool
  | 0, _ => []
  | count + 1, number => number.testBit count :: lowBits count number

/-- The bits of values of `width` bits in a row. -/
def bitString (width : Nat) (values : Bytes) : List Bool := values.flatMap fun value => lowBits width value.toNat

/-- A row of bits is cut into groups of `width` bits, and fewer bits are left behind them. -/
structure Cuts (width : Nat) (bits : List Bool) (groups : Bytes) (left : List Bool) : Prop where
  small : ∀ group ∈ groups, group.toNat < 2 ^ width
  short : left.length < width
  bits_eq : bits = bitString width groups ++ left

/-- A row of bits is written in groups of `width` bits, with zeros behind it that fill up the last group. -/
structure Fills (width : Nat) (bits : List Bool) (groups : Bytes) : Prop where
  small : ∀ group ∈ groups, group.toNat < 2 ^ width
  bits_eq : ∃ zeros < width, bitString width groups = bits ++ List.replicate zeros false

section Bits

variable {width count number other spare : Nat} {values others groups : Bytes} {bits left rest : List Bool}

theorem length_lowBits (count number : Nat) : (lowBits count number).length = count := by
  induction count with
  | zero => rfl
  | succ count ih => rw [lowBits, List.length_cons, ih]

theorem lowBits_eq_iff : lowBits count number = lowBits count other ↔ number % 2 ^ count = other % 2 ^ count := by
  induction count with
  | zero => simp [lowBits, Nat.mod_one]
  | succ count ih =>
    rw [lowBits, lowBits, List.cons.injEq, ih, Nat.mod_pow_succ, Nat.mod_pow_succ, ← Nat.toNat_testBit, ← Nat.toNat_testBit]
    have low := Nat.mod_lt number (Nat.two_pow_pos count)
    have otherLow := Nat.mod_lt other (Nat.two_pow_pos count)
    cases number.testBit count <;> cases other.testBit count <;> simp <;> omega

/-- The bits of a number that is put together from two parts. -/
theorem lowBits_append (count number : Nat) (below : other < 2 ^ spare) :
    lowBits (count + spare) (number * 2 ^ spare + other) = lowBits count number ++ lowBits spare other := by
  induction count with
  | zero =>
    rw [Nat.zero_add, lowBits, List.nil_append, lowBits_eq_iff, Nat.mul_add_mod_self_right]
  | succ count ih =>
    have high : (number * 2 ^ spare + other).testBit (count + spare) = number.testBit count := by
      rw [Nat.mul_comm, Nat.testBit_two_pow_mul_add _ below, if_neg (by omega), Nat.add_sub_cancel]
    rw [Nat.succ_add, lowBits, ih, high, lowBits, List.cons_append]

theorem lowBits_zero (count : Nat) : lowBits count 0 = List.replicate count false := by
  induction count with
  | zero => rfl
  | succ count ih => rw [lowBits, ih, Nat.zero_testBit, List.replicate_succ]

theorem true_mem_lowBits_iff (bound : number < 2 ^ count) : true ∈ lowBits count number ↔ number ≠ 0 := by
  have zeros : lowBits count number = List.replicate count false ↔ number = 0 := by
    rw [← lowBits_zero, lowBits_eq_iff, Nat.mod_eq_of_lt bound, Nat.zero_mod]
  rw [ne_eq, ← zeros, List.eq_replicate_iff, length_lowBits]
  simp

theorem length_bitString (width : Nat) (values : Bytes) : (bitString width values).length = width * values.length := by
  induction values with
  | nil => rfl
  | cons value values ih =>
    rw [bitString, List.flatMap_cons, List.length_append, length_lowBits, ← bitString, ih, List.length_cons, Nat.mul_succ,
      Nat.add_comm]

/-- The row of bits is the binary form of the number that the values stand for. -/
theorem bitString_eq (positive : 0 < width) (small : ∀ value ∈ values, value.toNat < 2 ^ width) :
    bitString width values = lowBits (width * values.length) (Symbols.number width values) := by
  induction values with
  | nil => rfl
  | cons value values ih =>
    obtain ⟨_, others⟩ := List.forall_mem_cons.mp small
    rw [bitString, List.flatMap_cons, ← bitString, ih others, number_cons, List.length_cons, Nat.mul_succ, Nat.add_comm,
      lowBits_append _ _ (number_lt positive others)]

theorem bitString_injective (positive : 0 < width) (small : ∀ value ∈ values, value.toNat < 2 ^ width)
    (otherSmall : ∀ value ∈ others, value.toNat < 2 ^ width) (same : bitString width values = bitString width others) :
    values = others := by
  have length := congrArg List.length same
  rw [length_bitString, length_bitString] at length
  have long := Nat.eq_of_mul_eq_mul_left positive length
  rw [bitString_eq positive small, bitString_eq positive otherSmall, long, lowBits_eq_iff,
    Nat.mod_eq_of_lt (number_lt positive otherSmall), Nat.mod_eq_of_lt (long ▸ number_lt positive small)] at same
  exact number_injective positive long small otherSmall same

/-- Two counts of groups are the same if neither is ahead by a whole group. -/
theorem count_unique (width : Nat) {count other : Nat} (near : width * count < width * other + width)
    (otherNear : width * other < width * count + width) : count = other := by
  rw [← Nat.mul_succ] at near otherNear
  have most := Nat.lt_of_mul_lt_mul_left near
  have least := Nat.lt_of_mul_lt_mul_left otherNear
  omega

/-- There is one way to cut a row of bits. -/
theorem Cuts.unique (cuts : Cuts width bits groups left) (again : Cuts width bits others rest) :
    others = groups ∧ rest = left := by
  have short := cuts.short
  have short' := again.short
  have same := again.bits_eq.symm.trans cuts.bits_eq
  have length := congrArg List.length same
  rw [List.length_append, List.length_append, length_bitString, length_bitString] at length
  -- less than a group is left, so the lengths settle how many groups there are
  have long : others.length = groups.length := count_unique width (by omega) (by omega)
  obtain ⟨front, back⟩ := List.append_inj same (by rw [length_bitString, length_bitString, long])
  exact ⟨bitString_injective (by omega) again.small cuts.small front, back⟩

/-- There is one way to fill up a row of bits. -/
theorem Fills.unique (fills : Fills width bits groups) (again : Fills width bits others) : others = groups := by
  obtain ⟨zeros, few, same⟩ := fills.bits_eq
  obtain ⟨zeros', few', same'⟩ := again.bits_eq
  have length := congrArg List.length same
  have length' := congrArg List.length same'
  rw [length_bitString, List.length_append, List.length_replicate] at length length'
  have long : others.length = groups.length := count_unique width (by omega) (by omega)
  rw [long] at length'
  obtain rfl : zeros = zeros' := by omega
  exact bitString_injective (by omega) again.small fills.small (same'.trans same.symm)

/-- The bits of groups that values fill up are cut into these values again, if a group is no wider than a value. -/
theorem Fills.cuts {output : Nat} (fills : Fills output (bitString width values) groups)
    (small : ∀ value ∈ values, value.toNat < 2 ^ width) (wide : output ≤ width) :
    ∃ zeros, zeros < output ∧ Cuts width (bitString output groups) values (List.replicate zeros false) := by
  obtain ⟨zeros, few, same⟩ := fills.bits_eq
  refine ⟨zeros, few, small, ?_, same⟩
  rw [List.length_replicate]
  exact Nat.lt_of_lt_of_le few wide

/-- If only zeros are left behind the groups, and fewer of them than a value has bits, the groups in turn fill up the values. -/
theorem Cuts.fills {output : Nat} (cuts : Cuts output (bitString width values) groups left)
    (small : ∀ value ∈ values, value.toNat < 2 ^ width) (few : left.length < width) (zero : true ∉ left) :
    Fills width (bitString output groups) values := by
  have zeros : left = List.replicate left.length false := by
    refine List.eq_replicate_iff.mpr ⟨rfl, fun bit member => ?_⟩
    cases bit with
    | false => rfl
    | true => exact absurd member zero
  exact ⟨small, left.length, few, zeros ▸ cuts.bits_eq⟩

end Bits

/-! ### The run of the register -/

/-- Values and groups have some bits and are bytes at most. -/
structure Widths (width output : Nat) : Prop where
  value_pos : 0 < width
  value_le : width ≤ 8
  group_pos : 0 < output
  group_le : output ≤ 8

theorem Widths.symm {width output : Nat} (widths : Widths width output) : Widths output width :=
  ⟨widths.group_pos, widths.group_le, widths.value_pos, widths.value_le⟩

section Run

variable {width output spare rest : Nat} {values groups full : Bytes} {left : List Bool}

/-- The bits that are left behind the groups are those of the number that is. -/
theorem Regrouped.cuts (regrouped : Regrouped width output values groups spare rest) (positive : 0 < width)
    (small : ∀ value ∈ values, value.toNat < 2 ^ width) :
    Cuts output (bitString width values) groups (lowBits spare rest) := by
  refine ⟨regrouped.small, ?_, ?_⟩
  · rw [length_lowBits]
    exact regrouped.pending
  · rw [bitString_eq positive small, regrouped.length, regrouped.number_eq, lowBits_append _ _ regrouped.rest_lt,
      ← bitString_eq (Nat.zero_lt_of_lt regrouped.pending) regrouped.small]

theorem Regrouped.fills (regrouped : Regrouped width output values groups spare rest) (positive : 0 < width)
    (small : ∀ value ∈ values, value.toNat < 2 ^ width) {last : UInt8}
    (padded : last.toNat = rest * 2 ^ (output - spare)) :
    Fills output (bitString width values) (if 0 < spare then groups ++ [last] else groups) := by
  have pending := regrouped.pending
  have cut := (regrouped.cuts positive small).bits_eq
  split
  · have bits : lowBits output last.toNat = lowBits spare rest ++ List.replicate (output - spare) false := by
      have parts := lowBits_append spare rest (Nat.two_pow_pos (output - spare))
      rwa [Nat.add_sub_cancel' (Nat.le_of_lt pending), Nat.add_zero, ← padded, lowBits_zero] at parts
    refine ⟨List.forall_mem_append.mpr ⟨regrouped.small, ?_⟩, output - spare, by omega, ?_⟩
    · rw [List.forall_mem_singleton, padded]
      exact regrouped.padded_lt
    · rw [bitString, List.flatMap_append, ← bitString, List.flatMap_singleton, bits, cut, List.append_assoc]
  · obtain rfl : spare = 0 := by omega
    refine ⟨regrouped.small, 0, pending, ?_⟩
    rw [cut, lowBits, List.append_nil, List.replicate_zero, List.append_nil]

/-- The run cuts the bits of its values, however many they are, and fills up what is left or refuses it. -/
theorem regroup?_cuts (widths : Widths width output) (small : ∀ value ∈ values, value.toNat < 2 ^ width) :
    ∃ groups left full, Cuts output (bitString width values) groups left ∧ Fills output (bitString width values) full ∧
      regroup? width output widths.group_pos true values = some full ∧
      regroup? width output widths.group_pos false values =
        if width ≤ left.length ∨ true ∈ left then none else some groups := by
  obtain ⟨groups, spare, rest, regrouped, kept, last, padded, made⟩ :=
    regroup?_spec width widths.group_pos widths.group_le widths.value_le small
  refine ⟨groups, lowBits spare rest, _, regrouped.cuts widths.value_pos small,
    regrouped.fills widths.value_pos small padded, made, ?_⟩
  simp only [kept, length_lowBits, true_mem_lowBits_iff regrouped.rest_lt]

theorem regroup?_true_iff (widths : Widths width output) (small : ∀ value ∈ values, value.toNat < 2 ^ width) :
    regroup? width output widths.group_pos true values = some full ↔ Fills output (bitString width values) full := by
  obtain ⟨_, _, own, _, fills, made, _⟩ := regroup?_cuts widths small
  rw [made, Option.some.injEq]
  constructor
  · rintro rfl
    exact fills
  · exact fun again => again.unique fills

theorem regroup?_false_eq (widths : Widths width output) (small : ∀ value ∈ values, value.toNat < 2 ^ width)
    (cuts : Cuts output (bitString width values) groups left) : regroup? width output widths.group_pos false values =
      if width ≤ left.length ∨ true ∈ left then none else some groups := by
  obtain ⟨_, _, _, own, _, _, kept⟩ := regroup?_cuts widths small
  obtain ⟨rfl, rfl⟩ := cuts.unique own
  exact kept

theorem regroup?_false_iff (widths : Widths width output) (small : ∀ value ∈ values, value.toNat < 2 ^ width) :
    regroup? width output widths.group_pos false values = some groups ↔
      ∃ left, Cuts output (bitString width values) groups left ∧ left.length < width ∧ true ∉ left := by
  constructor
  · intro found
    obtain ⟨own, left, _, cuts, _⟩ := regroup?_cuts widths small
    rw [regroup?_false_eq widths small cuts] at found
    split at found
    · cases found
    · rename_i clean
      cases found
      obtain ⟨few, zero⟩ := not_or.mp clean
      exact ⟨left, cuts, Nat.lt_of_not_le few, zero⟩
  · rintro ⟨left, cuts, few, zero⟩
    rw [regroup?_false_eq widths small cuts, if_neg (not_or.mpr ⟨Nat.not_le_of_lt few, zero⟩)]

/-- What fills groups up is found again in them if these are no wider than a value, as symbols are beside bytes. -/
theorem regroup?_of_filled (widths : Widths width output) (small : ∀ value ∈ values, value.toNat < 2 ^ width)
    (wide : output ≤ width) (made : regroup? width output widths.group_pos true values = some full) :
    regroup? output width widths.value_pos false full = some values := by
  have fills := (regroup?_true_iff widths small).mp made
  obtain ⟨zeros, few, cuts⟩ := fills.cuts small wide
  refine (regroup?_false_iff widths.symm fills.small).mpr ⟨_, cuts, ?_, ?_⟩
  · rwa [List.length_replicate]
  · exact fun member => Bool.noConfusion (List.eq_of_mem_replicate member)

/-- What is read without a refusal is what filling up writes. -/
theorem regroup?_of_kept (widths : Widths width output) (small : ∀ value ∈ values, value.toNat < 2 ^ width)
    (read : regroup? width output widths.group_pos false values = some groups) :
    regroup? output width widths.value_pos true groups = some values := by
  obtain ⟨left, cuts, few, zero⟩ := (regroup?_false_iff widths small).mp read
  exact (regroup?_true_iff widths.symm cuts.small).mpr (cuts.fills small few zero)

end Run

/-! ### The range of counts and shifts -/

namespace Checked

/-- A count of bits with `other` bits more, if it has room in 32 bits. -/
def add? (count other : Nat) : Option Nat := if count + other < UInt32.size then some (count + other) else none

/-- A count of bits with `other` bits fewer, if there are so many. -/
def sub? (count other : Nat) : Option Nat := if other ≤ count then some (count - other) else none

theorem sub?_eq_some_iff {count other fewer : Nat} :
    sub? count other = some fewer ↔ other ≤ count ∧ count - other = fewer :=
  Option.ite_none_right_eq_some.trans (and_congr_right fun _ => Option.some_inj)

/-- The bits that are moved out at the top are lost. -/
def shiftLeft? (value : UInt32) (count : Nat) : Option UInt32 :=
  if count < 32 then some (value <<< UInt32.ofNat count) else none

def shiftRight? (value : UInt32) (count : Nat) : Option UInt32 :=
  if count < 32 then some (value >>> UInt32.ofNat count) else none

def group? (width : Nat) (value : UInt32) : Option UInt8 := do
  let above ← shiftLeft? 1 width
  let mask ← sub? above.toNat 1
  return (value &&& UInt32.ofNat mask).toUInt8

def emit? (width : Nat) (positive : 0 < width) (register : Register) : Option Register :=
  if width ≤ register.bits then
    match _less : sub? register.bits width with
    | none => none
    | some bits => do
      let moved ← shiftRight? register.value bits
      let found ← group? width moved
      emit? width positive ⟨bits, register.value, found :: register.groups⟩
  else some register
termination_by register.bits
decreasing_by
  obtain ⟨enough, rfl⟩ := sub?_eq_some_iff.mp _less
  exact Nat.sub_lt (Nat.lt_of_lt_of_le positive enough) positive

def feed? (width output : Nat) (positive : 0 < output) (register : Register) (value : UInt8) : Option Register := do
  let moved ← shiftLeft? register.value width
  let bits ← add? register.bits width
  emit? output positive ⟨bits, moved ||| value.toUInt32, register.groups⟩

/-- The run of the register as `Symbols.regroup?` has it, except that it breaks off where a count leaves its range or where a
shift is by 32 bits or more. -/
def regroup? (width output : Nat) (positive : 0 < output) (pad : Bool) (values : Bytes) : Option (Option Bytes) := do
  let last ← values.foldlM (feed? width output positive) ⟨0, 0, []⟩
  let room ← sub? output last.bits
  let moved ← shiftLeft? last.value room
  let rest ← group? output moved
  if pad then
    return some (if 0 < last.bits then (rest :: last.groups).reverse else last.groups.reverse)
  else if width ≤ last.bits ∨ rest ≠ 0 then return none
  else return some last.groups.reverse

variable {width output count other : Nat} {value : UInt32} {register : Register} (positive : 0 < output)

theorem sub?_of_le (less : other ≤ count) : sub? count other = some (count - other) := if_pos less

theorem shiftLeft?_of_lt (small : count < 32) : shiftLeft? value count = some (value <<< UInt32.ofNat count) := if_pos small

theorem shiftRight?_of_lt (small : count < 32) : shiftRight? value count = some (value >>> UInt32.ofNat count) := if_pos small

theorem group?_eq (narrow : width ≤ 8) (value : UInt32) : group? width value = some (group width value) := by
  have masks : ∀ width ∈ List.range 9, 1 ≤ (1 <<< UInt32.ofNat width : UInt32).toNat ∧
      UInt32.ofNat ((1 <<< UInt32.ofNat width : UInt32).toNat - 1) = (1 <<< UInt32.ofNat width) - 1 := by decide
  obtain ⟨above, mask⟩ := masks width (List.mem_range.mpr (Nat.lt_succ_of_le narrow))
  rw [group?, shiftLeft?_of_lt (by omega), Option.bind_eq_bind, Option.bind_some, sub?_of_le above, Option.bind_eq_bind,
    Option.bind_some, mask]
  rfl

/-- As long as the pending bits fit, so does every shift that takes a group off. -/
theorem emit?_eq (narrow : output ≤ 8) (fits : register.bits ≤ 32) :
    emit? output positive register = some (emit output positive register) := by
  fun_induction emit output positive register with
  | case1 register enough bits ih =>
    have below : bits < 32 := by omega
    rw [emit?, if_pos enough]
    split
    · rename_i refused
      rw [sub?_of_le enough] at refused
      cases refused
    · rename_i fewer less
      obtain ⟨_, rfl⟩ := sub?_eq_some_iff.mp less
      rw [shiftRight?_of_lt below, Option.bind_eq_bind, Option.bind_some, group?_eq narrow]
      exact ih (Nat.le_of_lt below)
  | case2 register short => rw [emit?, if_neg short]

theorem bits_emit_lt (register : Register) : (emit output positive register).bits < output := by
  fun_induction emit output positive register with
  | case1 register enough bits ih => exact ih
  | case2 register short => exact Nat.lt_of_not_le short

theorem feed?_eq (narrow : output ≤ 8) (taken : width ≤ 8) (pending : register.bits < output) (next : UInt8) :
    feed? width output positive register next = some (feed width output positive register next) := by
  have fits : register.bits + width < UInt32.size := by
    simp only [UInt32.size]
    omega
  rw [feed?, shiftLeft?_of_lt (by omega), Option.bind_eq_bind, Option.bind_some, add?, if_pos fits, Option.bind_eq_bind,
    Option.bind_some]
  exact emit?_eq positive narrow (by dsimp only; omega)

/-- Fewer bits than a group are pending before each value, and so the next value has room. -/
theorem foldlM_feed?_eq (narrow : output ≤ 8) (taken : width ≤ 8) (values : Bytes) (register : Register)
    (pending : register.bits < output) :
    values.foldlM (feed? width output positive) register = some (values.foldl (feed width output positive) register) ∧
      (values.foldl (feed width output positive) register).bits < output := by
  induction values generalizing register with
  | nil => exact ⟨rfl, pending⟩
  | cons next values ih =>
    rw [List.foldlM_cons, feed?_eq positive narrow taken pending, Option.bind_eq_bind, Option.bind_some]
    exact ih _ (bits_emit_lt positive _)

/-- No run is broken off. -/
theorem regroup?_eq (narrow : output ≤ 8) (taken : width ≤ 8) (pad : Bool) (values : Bytes) :
    regroup? width output positive pad values = some (Symbols.regroup? width output positive pad values) := by
  obtain ⟨run, pending⟩ := foldlM_feed?_eq positive narrow taken values ⟨0, 0, []⟩ positive
  rw [regroup?, Symbols.regroup?, run]
  generalize values.foldl (feed width output positive) ⟨0, 0, []⟩ = last at pending
  dsimp only [Option.bind_eq_bind, Option.bind_some]
  rw [sub?_of_le (Nat.le_of_lt pending), Option.bind_some, shiftLeft?_of_lt (by omega), Option.bind_some,
    group?_eq narrow, Option.bind_some]
  cases pad with
  | true => rfl
  | false =>
    simp only [Bool.false_eq_true, if_false]
    split <;> rfl

end Checked

section

variable {width output : Nat} {values : Bytes}

/-- Regrouping is exact, though the register has room for 32 bits only. No count overflows or falls below zero, and no shift is
by 32 bits or more. With filling up, which never fails, the groups are those that the row of all bits fills; without, they
are those that it is cut into, unless as many bits as a value has or one that is not zero are left. Values that were filled up
are found again in their groups if these are no wider than a value, as symbols are beside bytes; and values that were read
without filling up are what filling up writes for the groups. -/
theorem regrouping_exact (widths : Widths width output) (small : ∀ value ∈ values, value.toNat < 2 ^ width) :
    (∀ pad, Checked.regroup? width output widths.group_pos pad values =
      some (regroup? width output widths.group_pos pad values)) ∧
    (∃ full, regroup? width output widths.group_pos true values = some full) ∧
    (∀ full, regroup? width output widths.group_pos true values = some full ↔
      Fills output (bitString width values) full) ∧
    (∃ groups left, Cuts output (bitString width values) groups left) ∧
    (∀ groups left, Cuts output (bitString width values) groups left →
      regroup? width output widths.group_pos false values =
        if width ≤ left.length ∨ true ∈ left then none else some groups) ∧
    (output ≤ width → ∀ full, regroup? width output widths.group_pos true values = some full →
      regroup? output width widths.value_pos false full = some values) ∧
    ∀ groups, regroup? width output widths.group_pos false values = some groups →
      regroup? output width widths.value_pos true groups = some values := by
  obtain ⟨groups, left, full, cuts, _, made, _⟩ := regroup?_cuts widths small
  refine ⟨fun pad => ?_, ⟨full, made⟩, fun full => ?_, ⟨groups, left, cuts⟩, fun groups left cuts => ?_,
    fun wide full made => ?_, fun groups read => ?_⟩
  · exact Checked.regroup?_eq widths.group_pos widths.group_le widths.value_le pad values
  · exact regroup?_true_iff widths small
  · exact regroup?_false_eq widths small cuts
  · exact regroup?_of_filled widths small wide made
  · exact regroup?_of_kept widths small read

/-- Forty-eight bits, of which the register drops sixteen. Three are left, which are not all zero. -/
theorem regrouping_exact_sample : let bytes : Bytes := [0xff, 0x00, 0xa5, 0x5a, 0x01, 0x81]
    let symbols : Bytes := [31, 28, 0, 10, 10, 22, 16, 1, 16, 4]
    Widths 8 5 ∧ (∀ byte ∈ bytes, byte.toNat < 2 ^ 8) ∧ ofBytes? bytes = some symbols ∧
      toBytes? symbols = some bytes ∧ regroup? 8 5 (by decide) false bytes = none ∧
      Checked.regroup? 8 5 (by decide) true bytes = some (some symbols) := by
  intro bytes symbols
  have widths : Widths 8 5 := ⟨by decide, by decide, by decide, by decide⟩
  have small : ∀ byte ∈ bytes, byte.toNat < 2 ^ 8 := fun byte _ => byte.toNat_lt
  obtain ⟨checked, _, fills, _, kept, back, _⟩ := regrouping_exact widths small
  have made := (fills symbols).mpr ⟨by simp [symbols], 2, by decide, by decide⟩
  have cuts : Cuts 5 (bitString 8 bytes) [31, 28, 0, 10, 10, 22, 16, 1, 16] [false, false, true] :=
    ⟨by simp, by decide, by decide⟩
  refine ⟨widths, small, made, back (by decide) symbols made, ?_, ?_⟩
  · exact kept _ _ cuts
  · exact (checked true).trans (congrArg some made)

end

end CoinSpend.Symbols
