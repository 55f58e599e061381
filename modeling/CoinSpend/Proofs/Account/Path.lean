import Mathlib.Data.Nat.Bitwise
import CoinSpend.Account.Path
import CoinSpend.Proofs.Failure
import CoinSpend.Proofs.Related
import CoinSpend.Proofs.Text

/-! Levels of key paths as numbers with a top bit, and the text of whole paths. The texts that are read as a path are
described by themselves; what is written for a path is one of them. -/
namespace CoinSpend.KeyPath

theorem toNat_unharden (level : UInt32) : (unharden level).toNat = level.toNat % 0x80000000 := by
  have mask : (~~~ hardenedBit).toNat = 2 ^ 31 - 1 := by decide
  rw [unharden, UInt32.toNat_and, mask, Nat.and_two_pow_sub_one_eq_mod]

theorem isHardened_iff {level : UInt32} : isHardened level = true ↔ 0x80000000 ≤ level.toNat := by
  have below := level.toNat_lt
  have top : (level &&& hardenedBit).toNat = (level.toNat.testBit 31).toNat * 2 ^ 31 := by
    rw [UInt32.toNat_and, ← Nat.and_two_pow]
    rfl
  rw [isHardened, bne_iff_ne, Ne, ← UInt32.toNat_inj, top, Nat.testBit_eq_decide_div_mod_eq]
  by_cases set : level.toNat / 2 ^ 31 % 2 = 1
  · simp only [set, decide_true, Bool.toNat_true, UInt32.toNat_zero]
    omega
  · simp only [set, decide_false, Bool.toNat_false, UInt32.toNat_zero]
    omega

theorem toNat_harden (level : UInt32) : (harden level).toNat = level.toNat % 0x80000000 + 0x80000000 := by
  have joined {low : Nat} (small : low < 2 ^ 31) : 2 ^ 31 + low = 2 ^ 31 ||| low :=
    Nat.two_pow_add_eq_or_of_lt small 1
  have below := level.toNat_lt
  have bit : hardenedBit.toNat = 2 ^ 31 := rfl
  rw [harden, UInt32.toNat_or, bit]
  by_cases small : level.toNat < 2 ^ 31
  · rw [Nat.or_comm, ← joined small]
    omega
  · have split : level.toNat = 2 ^ 31 + (level.toNat - 2 ^ 31) := by omega
    rw [split, joined (by omega), Nat.or_comm, ← Nat.or_assoc, Nat.or_self, ← joined (by omega)]
    omega

theorem isHardened_harden (level : UInt32) : isHardened (harden level) = true := by
  rw [isHardened_iff, toNat_harden]
  omega

theorem unharden_harden {level : UInt32} (small : level.toNat < 0x80000000) : unharden (harden level) = level := by
  rw [← UInt32.toNat_inj, toNat_unharden, toNat_harden]
  omega

/-- Hardened levels are written from what they are without the top bit. -/
theorem isHardened_and_unharden_iff {level low : UInt32} :
    isHardened level = true ∧ unharden level = low ↔ low.toNat < 0x80000000 ∧ level = harden low := by
  have below := level.toNat_lt
  rw [isHardened_iff, ← UInt32.toNat_inj, ← UInt32.toNat_inj, toNat_unharden, toNat_harden]
  omega

/-- Digits that stand for a number, with any number of zeros in front. -/
structure Numeral (digits : List Char) (value : Nat) : Prop where
  filled : digits ≠ []
  decimal : ∀ digit ∈ digits, digit.isDigit = true
  value : Nat.ofDigitChars 10 digits 0 = value

def IsMark (mark : Char) : Prop := mark = '\'' ∨ mark = 'h' ∨ mark = 'H'

/-- The text of a level: a number below 2^31, perhaps one mark behind it, which stands for the top bit, and blanks around
both. -/
def Spells (text : List Char) (level : UInt32) : Prop :=
  ∃ digits value, Numeral digits value ∧ value < 0x80000000 ∧
    (Text.trimmed text = digits ∧ level.toNat = value ∨
      ∃ mark, IsMark mark ∧ Text.trimmed text = digits ++ [mark] ∧ level.toNat = value + 0x80000000)

/-- The text of a path: the root, in either case, and a slash in front of each level, with blanks around the whole. -/
def Written (text : List Char) (path : KeyPath) : Prop :=
  ∃ root levels, Text.trimmed text = root :: levels.flatMap ('/' :: ·) ∧ (root = 'm' ∨ root = 'M') ∧
    List.Forall₂ Spells levels path

theorem isRoot_iff {text : List Char} : isRoot text = true ↔ ∃ root, text = [root] ∧ (root = 'm' ∨ root = 'M') := by
  have letter (c : Char) : c.toLower = 'm' ↔ c = 'm' ∨ c = 'M' := by
    rw [← Char.toNat_inj, ← Char.toNat_inj, ← Char.toNat_inj, Text.toNat_toLower]
    change (if c.isUpper then c.toNat + 32 else c.toNat) = 109 ↔ c.toNat = 109 ∨ c.toNat = 77
    split
    · rename_i upper
      have range := Text.isUpper_iff.mp upper
      omega
    · rename_i other
      rw [Text.isUpper_iff] at other
      omega
  simp only [isRoot, beq_iff_eq, Text.lowered, List.map_eq_singleton_iff, letter]

section Mark

variable {digits : List Char} {mark : Char}

theorem markOff_concat (marks : IsMark mark) : markOff (digits ++ [mark]) = (digits, true) := by
  simp only [markOff, List.getLast?_concat, List.dropLast_concat]
  exact if_pos marks

theorem not_isMark_of_isDigit (decimal : mark.isDigit = true) : ¬ IsMark mark := by
  rintro (rfl | rfl | rfl) <;> cases decimal

theorem markOff_of_bare (bare : ∀ last ∈ digits.getLast?, ¬ IsMark last) : markOff digits = (digits, false) := by
  unfold markOff
  split
  · rename_i last found
    exact if_neg (bare last found)
  · rfl

/-- Either a mark comes off, or there is none. -/
theorem markOff_cases (text : List Char) : markOff text = (text, false) ∨
    ∃ digits mark, IsMark mark ∧ text = digits ++ [mark] ∧ markOff text = (digits, true) := by
  by_cases marked : ∃ last ∈ text.getLast?, IsMark last
  · obtain ⟨mark, last, marks⟩ := marked
    obtain ⟨digits, rfl⟩ := List.getLast?_eq_some_iff.mp last
    exact .inr ⟨digits, mark, marks, rfl, markOff_concat marks⟩
  · exact .inl (markOff_of_bare fun last found marks => marked ⟨last, found, marks⟩)

end Mark

/-- What is read of a level once its mark is off. -/
theorem parseLevel_of_markOff {text digits : List Char} {marked : Bool} {level : UInt32}
    (apart : markOff (Text.trimmed text) = (digits, marked)) : parseLevel text = .ok level ↔
      ∃ value, Numeral digits value ∧ value < 0x80000000 ∧
        level.toNat = value + if marked then 0x80000000 else 0 := by
  have raised {value : Nat} (small : value < 0x80000000) :
      (if marked then harden (UInt32.ofNat value) else UInt32.ofNat value).toNat =
        value + if marked then 0x80000000 else 0 := by
    have kept : (UInt32.ofNat value).toNat = value := UInt32.toNat_ofNat_of_lt (by rw [UInt32.size]; omega)
    cases marked with
    | true =>
      rw [if_pos rfl, if_pos rfl, toNat_harden, kept, Nat.mod_eq_of_lt small]
    | false => exact kept
  simp only [parseLevel, apart]
  split
  · rename_i other
    simp only [Bool.or_eq_true, List.isEmpty_iff, Bool.not_eq_true', List.all_eq_false] at other
    constructor
    · intro failed
      cases failed
    · rintro ⟨value, numeral, _⟩
      rcases other with none | ⟨digit, member, odd⟩
      · exact absurd none numeral.filled
      · exact absurd (numeral.decimal digit member) odd
  · rename_i decimal
    simp only [Bool.or_eq_true, List.isEmpty_iff, Bool.not_eq_true', not_or, Bool.not_eq_false,
      List.all_eq_true] at decimal
    obtain ⟨filled, decimal⟩ := decimal
    split
    · rename_i small
      rw [Except.ok.injEq, ← UInt32.toNat_inj, raised small]
      constructor
      · intro same
        exact ⟨_, ⟨filled, decimal, rfl⟩, small, same.symm⟩
      · rintro ⟨value, numeral, _, same⟩
        rw [same, ← numeral.value]
        rfl
    · rename_i large
      constructor
      · intro failed
        cases failed
      · rintro ⟨value, numeral, small, _⟩
        have known : KeyPath.decimal digits = value := numeral.value
        exact absurd (known ▸ small) large

theorem parseLevel_eq_ok_iff {text : List Char} {level : UInt32} : parseLevel text = .ok level ↔ Spells text level := by
  constructor
  · intro parsed
    rcases markOff_cases (Text.trimmed text) with apart | ⟨digits, mark, marks, whole, apart⟩
    · obtain ⟨value, numeral, small, same⟩ := (parseLevel_of_markOff apart).mp parsed
      exact ⟨_, value, numeral, small, .inl ⟨rfl, same⟩⟩
    · obtain ⟨value, numeral, small, same⟩ := (parseLevel_of_markOff apart).mp parsed
      exact ⟨digits, value, numeral, small, .inr ⟨mark, marks, whole, same⟩⟩
  · rintro ⟨digits, value, numeral, small, ⟨rfl, same⟩ | ⟨mark, marks, whole, same⟩⟩
    · have apart : markOff (Text.trimmed text) = (Text.trimmed text, false) := by
        apply markOff_of_bare
        intro last found
        exact not_isMark_of_isDigit (numeral.decimal last (List.mem_of_mem_getLast? found))
      exact (parseLevel_of_markOff apart).mpr ⟨value, numeral, small, same⟩
    · have apart : markOff (Text.trimmed text) = (digits, true) := whole ▸ markOff_concat marks
      exact (parseLevel_of_markOff apart).mpr ⟨value, numeral, small, same⟩

/-- A level has no slash in it: its blanks, its digits and its mark are others. -/
theorem Spells.no_slash {text : List Char} {level : UInt32} (spells : Spells text level) : '/' ∉ text := by
  intro member
  have kept := Text.mem_trimmed member rfl
  obtain ⟨digits, value, numeral, _, ⟨rfl, _⟩ | ⟨mark, marks, whole, _⟩⟩ := spells
  · exact absurd (numeral.decimal _ kept) Bool.false_ne_true
  · rw [whole, List.mem_append, List.mem_singleton] at kept
    rcases kept with digit | rfl
    · exact absurd (numeral.decimal _ digit) Bool.false_ne_true
    · rcases marks with same | same | same <;> cases same

theorem parse_eq_ok_iff {text : String} {path : KeyPath} : parse text = .ok path ↔ Written text.toList path := by
  unfold parse Written
  generalize Text.trimmed text.toList = whole
  cases parted : Text.splitFirst '/' whole with
  | none =>
    simp only [parted]
    rw [Text.splitFirst_eq_none_iff] at parted
    constructor
    · intro parsed
      split at parsed
      · rename_i rooted
        obtain ⟨root, rfl, letter⟩ := isRoot_iff.mp rooted
        cases parsed
        exact ⟨root, [], rfl, letter, .nil⟩
      · cases parsed
    · rintro ⟨root, levels, rfl, letter, spells⟩
      cases spells with
      | nil => exact if_pos (isRoot_iff.mpr ⟨root, rfl, letter⟩)
      | cons => simp at parted
  | some parts =>
    obtain ⟨front, rest⟩ := parts
    simp only [parted]
    constructor
    · intro parsed
      split at parsed
      · rename_i rooted
        obtain ⟨root, rfl, letter⟩ := isRoot_iff.mp rooted
        obtain ⟨rfl, _⟩ := Text.splitFirst_eq_some_iff.mp parted
        rw [mapM_eq_ok_iff_forall₂] at parsed
        exact ⟨root, _, congrArg (root :: ·) (Text.splitAll_joined '/' rest).1, letter,
          parsed.imp fun _ _ => parseLevel_eq_ok_iff.mp⟩
      · cases parsed
    · rintro ⟨root, levels, rfl, letter, spells⟩
      have other : '/' ∉ [root] := by rcases letter with rfl | rfl <;> decide
      have bare : ∀ level ∈ levels, '/' ∉ level := by
        intro level member
        obtain ⟨_, _, spells⟩ := partner_of_mem spells.flip member
        exact Spells.no_slash spells
      cases levels with
      | nil => cases (Text.splitFirst_eq_none_iff.mpr other).symm.trans parted
      | cons first others =>
        have found : Text.splitFirst '/' (root :: (first :: others).flatMap ('/' :: ·)) =
            some ([root], first ++ others.flatMap ('/' :: ·)) := Text.splitFirst_eq_some_iff.mpr ⟨rfl, other⟩
        cases found.symm.trans parted
        have apart : Text.splitAll '/' (first ++ others.flatMap ('/' :: ·)) = first :: others :=
          Text.splitAll_eq_iff.mpr ⟨rfl, bare⟩
        rw [if_pos (isRoot_iff.mpr ⟨root, rfl, letter⟩), apart, mapM_eq_ok_iff_forall₂]
        exact spells.imp fun _ _ => parseLevel_eq_ok_iff.mpr

/-! ### What is written -/

theorem numeral_toDigits (value : Nat) : Numeral (Nat.toDigits 10 value) value where
  filled := Nat.toDigits_ne_nil
  decimal := fun _ member => Nat.isDigit_of_mem_toDigits (by decide) (by decide) member
  value := Nat.ofDigitChars_toDigits (by decide) (by decide)

theorem toList_formatLevel (level : UInt32) : (formatLevel level).toList =
    Nat.toDigits 10 (unharden level).toNat ++ if isHardened level then ['\''] else [] := by
  rw [formatLevel, String.toList_append]
  congr 1
  · exact Nat.toList_repr
  · split <;> rfl

theorem isBlank_formatLevel (level : UInt32) : ∀ c ∈ (formatLevel level).toList, Text.isBlank c = false := by
  intro c member
  rw [toList_formatLevel, List.mem_append] at member
  apply Text.isBlank_of_visible
  rcases member with digit | mark
  · have range := Char.isDigit_iff_toNat.mp ((numeral_toDigits _).decimal c digit)
    change 48 ≤ c.toNat ∧ c.toNat ≤ 57 at range
    omega
  · split at mark
    · rw [List.mem_singleton] at mark
      rw [mark]
      decide
    · cases mark

theorem spells_formatLevel (level : UInt32) : Spells (formatLevel level).toList level := by
  have below := level.toNat_lt
  have low := toNat_unharden level
  refine ⟨_, _, numeral_toDigits (unharden level).toNat, by omega, ?_⟩
  rw [Text.trimmed_of_no_blank (isBlank_formatLevel level), toList_formatLevel]
  by_cases hardened : isHardened level = true
  · have high := isHardened_iff.mp hardened
    exact .inr ⟨'\'', .inl rfl, by rw [if_pos hardened], by omega⟩
  · have small := mt isHardened_iff.mpr hardened
    exact .inl ⟨by rw [if_neg hardened, List.append_nil], by omega⟩

theorem written_format (path : KeyPath) : Written (format path).toList path := by
  have text : (format path).toList =
      'm' :: (path.map fun level => (formatLevel level).toList).flatMap ('/' :: ·) := by
    simp [format, String.toList_join, List.flatMap_map]
  have solid : ∀ c ∈ (format path).toList, Text.isBlank c = false := by
    intro c member
    simp only [text, List.mem_cons, List.mem_flatMap, List.mem_map] at member
    rcases member with rfl | ⟨_, ⟨level, _, rfl⟩, rfl | digit⟩
    · decide
    · decide
    · exact isBlank_formatLevel level c digit
  refine ⟨'m', _, (Text.trimmed_of_no_blank solid).trans text, .inl rfl, ?_⟩
  rw [List.forall₂_map_left_iff, List.forall₂_same]
  exact fun level _ => spells_formatLevel level

/-- Paths and their texts. What is written for a path reads as that path, and the texts that read as a path are those
described above; for every other text there is one failure. -/
theorem parse_exact : (∀ path, parse (format path) = .ok path) ∧
    ∀ text : String, (∀ path, parse text = .ok path ↔ Written text.toList path) ∧
      ((¬ ∃ path, Written text.toList path) ↔
        ∃ error, parse text = .error error ∧ error.toFailure.code = .invalidInput) := by
  refine ⟨fun path => parse_eq_ok_iff.mpr (written_format path), fun text => ⟨fun path => parse_eq_ok_iff, ?_⟩⟩
  simp only [← parse_eq_ok_iff]
  cases parse text with
  | ok path =>
    constructor
    · intro none
      exact absurd ⟨path, rfl⟩ none
    · rintro ⟨_, failed, _⟩
      cases failed
  | error error =>
    constructor
    · exact fun _ => ⟨error, rfl, rfl⟩
    · rintro _ ⟨_, done⟩
      cases done

end CoinSpend.KeyPath
