import Mathlib.Data.List.DropRight
import CoinSpend.Bytes
import CoinSpend.Text.Blank
import CoinSpend.Text.Letters

/-! Trimming, lowering and splitting. Trimming and lowering change nothing the second time, lowering takes nothing to
a separator that was none, and splitting finds the separator that is next to the end it starts from. In UTF-8 an ASCII
character is one byte, and any other character starts with a byte above them. -/
namespace CoinSpend.Text

variable {text : List Char} {c : Char}

theorem trimmed_eq_rdropWhile (text : List Char) :
    trimmed text = (text.dropWhile isBlank).rdropWhile isBlank := rfl

/-- Only the two ends matter: blanks inside stay. -/
theorem trimmed_eq_self (first : ∀ c ∈ text.head?, isBlank c = false)
    (last : ∀ c ∈ text.getLast?, isBlank c = false) : trimmed text = text := by
  have front : text.dropWhile isBlank = text := by
    cases text with
    | nil => rfl
    | cons c rest => simp [first c rfl]
  rw [trimmed_eq_rdropWhile, front, List.rdropWhile_eq_self_iff]
  intro filled
  simp [last _ (List.getLast?_eq_some_getLast filled)]

theorem trimmed_of_no_blank (solid : ∀ c ∈ text, isBlank c = false) : trimmed text = text := by
  apply trimmed_eq_self
  · exact fun c first => solid c (List.mem_of_mem_head? first)
  · exact fun c last => solid c (List.mem_of_mem_getLast? last)

theorem isBlank_of_visible (visible : 33 ≤ c.toNat ∧ c.toNat ≤ 126) : isBlank c = false := by
  simp only [isBlank, Bool.or_eq_false_iff, Bool.and_eq_false_iff, decide_eq_false_iff_not, beq_eq_false_iff_ne]
  omega

theorem trimmed_trimmed (text : List Char) : trimmed (trimmed text) = trimmed text := by
  apply trimmed_eq_self
  · intro c first
    rw [trimmed_eq_rdropWhile] at first
    -- what is dropped at the end leaves the first character alone
    obtain ⟨rest, whole⟩ := List.rdropWhile_prefix isBlank (text.dropWhile isBlank)
    have head : (text.dropWhile isBlank).head? = some c := by
      rw [← whole, List.head?_append, first]
      rfl
    have solid := List.head?_dropWhile_not isBlank text
    rw [head] at solid
    exact solid
  · intro c last
    rw [trimmed_eq_rdropWhile] at last
    obtain ⟨filled, rfl⟩ := List.mem_getLast?_eq_getLast last
    simpa using List.rdropWhile_last_not isBlank _ filled

theorem trim_trim (text : String) : trim (trim text) = trim text := by
  simp only [trim, String.toList_ofList, trimmed_trimmed]

theorem mem_dropWhile_isBlank (member : c ∈ text) (solid : isBlank c = false) : c ∈ text.dropWhile isBlank := by
  rw [← List.takeWhile_append_dropWhile (p := isBlank) (l := text), List.mem_append] at member
  rcases member with dropped | kept
  · have blank := List.mem_takeWhile_imp dropped
    cases blank.symm.trans solid
  · exact kept

/-- Trimming takes nothing but blanks away. -/
theorem mem_trimmed (member : c ∈ text) (solid : isBlank c = false) : c ∈ trimmed text := by
  have kept := mem_dropWhile_isBlank member solid
  rw [trimmed, List.mem_reverse]
  exact mem_dropWhile_isBlank (List.mem_reverse.mpr kept) solid

/-- In front of something without blanks, only what stands before it is trimmed. -/
theorem trimmed_append_cons {before after : List Char} (solid : ∀ d ∈ c :: after, isBlank d = false) :
    trimmed (before ++ c :: after) = before.dropWhile isBlank ++ c :: after := by
  have front : (before ++ c :: after).dropWhile isBlank = before.dropWhile isBlank ++ c :: after := by
    have stays : (c :: after).dropWhile isBlank = c :: after := by
      simp [solid c List.mem_cons_self]
    rw [List.dropWhile_append, stays]
    split
    · rename_i none
      rw [List.isEmpty_iff.mp none, List.nil_append]
    · rfl
  rw [trimmed_eq_rdropWhile, front, List.rdropWhile_eq_self_iff]
  intro filled
  rw [List.getLast_append_of_ne_nil _ (List.cons_ne_nil c after)]
  simp [solid _ (List.getLast_mem (List.cons_ne_nil c after))]

theorem trimmed_eq_nil_iff : trimmed text = [] ↔ ∀ c ∈ text, isBlank c = true := by
  constructor
  · intro none c member
    by_contra solid
    rw [Bool.not_eq_true] at solid
    have kept := mem_trimmed member solid
    rw [none] at kept
    cases kept
  · intro blank
    have front : text.dropWhile isBlank = [] := List.dropWhile_eq_nil_iff.mpr blank
    rw [trimmed, front]
    rfl

theorem isUpper_iff : c.isUpper = true ↔ 65 ≤ c.toNat ∧ c.toNat ≤ 90 := by
  change decide (c.val ≥ 'A'.val ∧ c.val ≤ 'Z'.val) = true ↔ _
  rw [decide_eq_true_eq, ge_iff_le, UInt32.le_iff_toNat_le, UInt32.le_iff_toNat_le]
  rfl

theorem toNat_toLower (c : Char) : c.toLower.toNat = if c.isUpper then c.toNat + 32 else c.toNat := by
  by_cases upper : c.isUpper = true
  · obtain ⟨least, most⟩ := isUpper_iff.mp upper
    have moved : c.toLower.val = c.val + ('a'.val - 'A'.val) := congrArg Char.val (dif_pos (of_decide_eq_true upper))
    have distance : ('a'.val - 'A'.val).toNat = 32 := by decide
    rw [if_pos upper, ← Char.toNat_val, moved, UInt32.toNat_add, Char.toNat_val]
    omega
  · have other : ¬ (c.val ≥ 'A'.val ∧ c.val ≤ 'Z'.val) := fun capital => upper (decide_eq_true capital)
    have kept : c.toLower = c := dif_neg other
    rw [if_neg upper, kept]

/-- A character that is no letter is the lowered form of itself alone. -/
theorem toLower_eq_iff {separator : Char} (plain : separator.toNat < 65) : c.toLower = separator ↔ c = separator := by
  rw [← Char.toNat_inj, ← Char.toNat_inj, toNat_toLower]
  split
  · rename_i upper
    have letter := isUpper_iff.mp upper
    omega
  · rfl

theorem toLower_eq_self_iff : c.toLower = c ↔ c.isUpper = false := by
  rw [← Char.toNat_inj, toNat_toLower]
  cases c.isUpper with
  | true => simp
  | false => simp

theorem lowered_eq_self_iff : lowered text = text ↔ ∀ c ∈ text, c.isUpper = false := by
  induction text with
  | nil => simp [lowered]
  | cons c rest ih =>
    rw [lowered] at ih
    simp only [lowered, List.map_cons, List.cons.injEq, toLower_eq_self_iff, ih, List.forall_mem_cons]

theorem lower_eq_self {text : String} (small : lowered text.toList = text.toList) : lower text = text := by
  rw [lower, small, String.ofList_toList]

theorem lowered_lowered (text : List Char) : lowered (lowered text) = lowered text := by
  rw [lowered_eq_self_iff]
  intro c member
  obtain ⟨own, _, rfl⟩ := List.mem_map.mp member
  rw [Bool.eq_false_iff, Ne, isUpper_iff, toNat_toLower]
  split
  · rename_i upper
    have letter := isUpper_iff.mp upper
    omega
  · rename_i other
    rwa [isUpper_iff] at other

theorem mixesCase_eq_false_of_lowered (small : lowered text = text) : mixesCase text = false := by
  have bare : text.any Char.isUpper = false := by
    rw [List.any_eq_false]
    intro c member
    simp [lowered_eq_self_iff.mp small c member]
  rw [mixesCase, bare, Bool.and_false]

/-- A part of a text of one case has one case. -/
theorem mixesCase_of_subset {part : List Char} (single : mixesCase text = false) (within : part ⊆ text) :
    mixesCase part = false := by
  simp only [mixesCase, Bool.and_eq_false_iff, List.any_eq_false] at single ⊢
  rcases single with upper | lower
  · exact .inl fun c member => upper c (within member)
  · exact .inr fun c member => lower c (within member)

/-- Lowering keeps a separator where it is and makes no other. -/
theorem mem_lowered_iff {separator : Char} (plain : separator.toNat < 65) :
    separator ∈ lowered text ↔ separator ∈ text := by
  rw [lowered, List.mem_map]
  constructor
  · rintro ⟨c, member, same⟩
    rwa [(toLower_eq_iff plain).mp same] at member
  · intro member
    exact ⟨separator, member, (toLower_eq_iff plain).mpr rfl⟩

theorem lowered_append_cons {separator : Char} (plain : separator.toNat < 65) (before after : List Char) :
    lowered (before ++ separator :: after) = lowered before ++ separator :: lowered after := by
  simp [lowered, (toLower_eq_iff plain).mpr rfl]

theorem lowered_eq_append_cons {separator : Char} {before after : List Char} (plain : separator.toNat < 65)
    (same : lowered text = before ++ separator :: after) :
    ∃ front rest, text = front ++ separator :: rest ∧ lowered front = before ∧ lowered rest = after := by
  obtain ⟨front, behind, rfl, rfl, split⟩ := List.map_eq_append_iff.mp same
  obtain ⟨c, rest, rfl, single, rfl⟩ := List.map_eq_cons_iff.mp split
  rw [toLower_eq_iff plain] at single
  exact ⟨front, rest, by rw [single], rfl, rfl⟩

theorem splitFirst_eq_some_iff {separator : Char} {before after : List Char} :
    splitFirst separator text = some (before, after) ↔
      text = before ++ separator :: after ∧ separator ∉ before := by
  induction text generalizing before with
  | nil => simp [splitFirst]
  | cons c rest ih =>
    by_cases here : c = separator
    · rw [splitFirst, if_pos here]
      constructor
      · intro found
        cases found
        exact ⟨by rw [here, List.nil_append], List.not_mem_nil⟩
      · rintro ⟨same, absent⟩
        cases before with
        | nil => simpa using (List.cons.inj same).2
        | cons first before =>
          have own := (List.cons.inj same).1
          exact absurd List.mem_cons_self (own ▸ here ▸ absent)
    · rw [splitFirst, if_neg here, Option.map_eq_some_iff]
      constructor
      · rintro ⟨⟨front, behind⟩, found, same⟩
        cases same
        obtain ⟨rfl, absent⟩ := ih.mp found
        exact ⟨rfl, by simp [absent, Ne.symm here]⟩
      · rintro ⟨same, absent⟩
        cases before with
        | nil => exact absurd (List.cons.inj same).1 here
        | cons first before =>
          obtain ⟨rfl, split⟩ := List.cons.inj same
          exact ⟨(before, after), ih.mpr ⟨split, fun member => absent (List.mem_cons_of_mem _ member)⟩, rfl⟩

theorem splitFirst_eq_none_iff {separator : Char} : splitFirst separator text = none ↔ separator ∉ text := by
  induction text with
  | nil => simp [splitFirst]
  | cons c rest ih =>
    by_cases here : c = separator
    · simp [splitFirst, here]
    · simp [splitFirst, here, ih, Ne.symm here]

theorem splitAll_joined (separator : Char) (text : List Char) :
    separator :: text = (splitAll separator text).flatMap (separator :: ·) ∧
      ∀ part ∈ splitAll separator text, separator ∉ part := by
  induction text with
  | nil => simp [splitAll]
  | cons c rest ih =>
    rw [splitAll]
    generalize splitAll separator rest = parts at ih ⊢
    obtain ⟨joined, bare⟩ := ih
    cases parts with
    | nil => simp at joined
    | cons part parts =>
      obtain ⟨own, others⟩ := List.forall_mem_cons.mp bare
      simp only [List.flatMap_cons, List.cons_append, List.cons.injEq, true_and] at joined
      by_cases here : c = separator
      · simpa [here, joined, own] using others
      · simpa [here, joined, own, Ne.symm here] using others

/-- Texts without the separator can be told apart where they stand behind it. -/
theorem joined_injective {separator : Char} {parts others : List (List Char)}
    (same : parts.flatMap (separator :: ·) = others.flatMap (separator :: ·))
    (bare : ∀ part ∈ parts, separator ∉ part) (bareOther : ∀ part ∈ others, separator ∉ part) : parts = others := by
  induction parts generalizing others with
  | nil =>
    cases others with
    | nil => rfl
    | cons other others => simp at same
  | cons part parts ih =>
    cases others with
    | nil => simp at same
    | cons other others =>
      obtain ⟨own, rest⟩ := List.forall_mem_cons.mp bare
      obtain ⟨ownOther, restOther⟩ := List.forall_mem_cons.mp bareOther
      have first (part : List Char) (rest : List (List Char)) (own : separator ∉ part) :
          (part ++ rest.flatMap (separator :: ·)).takeWhile (· ≠ separator) = part := by
        rw [List.takeWhile_append_of_pos]
        · cases rest <;> simp
        · intro c member
          simpa using fun same : c = separator => own (same ▸ member)
      simp only [List.flatMap_cons, List.cons_append, List.cons.injEq, true_and] at same
      have parted := congrArg (List.takeWhile (· ≠ separator)) same
      rw [first part parts own, first other others ownOther] at parted
      subst parted
      rw [ih (List.append_cancel_left same) rest restOther]

theorem splitAll_eq_iff {separator : Char} {parts : List (List Char)} : splitAll separator text = parts ↔
    separator :: text = parts.flatMap (separator :: ·) ∧ ∀ part ∈ parts, separator ∉ part := by
  obtain ⟨joined, bare⟩ := splitAll_joined separator text
  constructor
  · rintro rfl
    exact ⟨joined, bare⟩
  · rintro ⟨same, others⟩
    exact joined_injective (joined.symm.trans same) bare others

theorem utf8_cons (c : Char) (text : List Char) : utf8 (c :: text) = String.utf8EncodeChar c ++ utf8 text :=
  List.flatMap_cons

theorem exists_first (c : Char) : ∃ first others, String.utf8EncodeChar c = first :: others := by
  simp only [String.utf8EncodeChar]
  split
  · exact ⟨_, _, rfl⟩
  · split
    · exact ⟨_, _, rfl⟩
    · split <;> exact ⟨_, _, rfl⟩

theorem le_first_of_not_ascii {c : Char} {first : UInt8} {others : Bytes}
    (written : String.utf8EncodeChar c = first :: others) (wide : ¬ c.val.toNat ≤ 127) : 0xc0 ≤ first.toNat := by
  simp only [String.utf8EncodeChar, if_neg wide] at written
  split at written
  · rw [← (List.cons.inj written).1, UInt8.toNat_ofNat']
    omega
  · split at written
    · rw [← (List.cons.inj written).1, UInt8.toNat_ofNat']
      omega
    · rw [← (List.cons.inj written).1, UInt8.toNat_ofNat']
      omega

theorem utf8EncodeChar_of_ascii (ascii : c.toNat ≤ 127) : String.utf8EncodeChar c = [UInt8.ofNat c.toNat] := by
  simp only [String.utf8EncodeChar]
  exact if_pos ascii

theorem utf8_of_ascii (ascii : ∀ c ∈ text, c.toNat ≤ 127) : utf8 text = text.map fun c => UInt8.ofNat c.toNat := by
  induction text with
  | nil => rfl
  | cons c rest ih =>
    obtain ⟨own, others⟩ := List.forall_mem_cons.mp ascii
    rw [utf8_cons, utf8EncodeChar_of_ascii own, ih others, List.map_cons, List.singleton_append]

end CoinSpend.Text
