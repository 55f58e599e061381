import CoinSpend.Proofs.Text
import CoinSpend.Wire.Spent

/-! Hexadecimal text read back. Written text has two digits to a byte and no blanks, so trimming changes nothing; and
whatever is read is what would have been written, up to the case of letters. -/
namespace CoinSpend.Hex

/-- The characters that stand for one byte. -/
def digitPair (byte : UInt8) : List Char := [digit (byte.toNat / 16), digit (byte.toNat % 16)]

/-- A digit is one byte of UTF-8, reads back, and is no blank. -/
theorem digit_facts : ∀ value < 16, ∃ byte, String.utf8EncodeChar (digit value) = [byte] ∧
    value? byte = some (UInt8.ofNat value) ∧ Text.isBlank (digit value) = false := by
  intro value small
  have checked : ∀ value ∈ List.range 16,
      String.utf8EncodeChar (digit value) = [(digit value).toNat.toUInt8] ∧
      value? (digit value).toNat.toUInt8 = some (UInt8.ofNat value) ∧
      Text.isBlank (digit value) = false := by decide
  exact ⟨_, checked value (List.mem_range.mpr small)⟩

theorem nibbles (byte : UInt8) :
    16 * UInt8.ofNat (byte.toNat / 16) + UInt8.ofNat (byte.toNat % 16) = byte := by
  have size := byte.toNat_lt
  apply UInt8.toNat_inj.mp
  simp only [UInt8.toNat_add, UInt8.toNat_mul, UInt8.toNat_ofNat, UInt8.toNat_ofNat']
  omega

theorem utf8_digitPair (byte : UInt8) : ∃ high low, utf8 (digitPair byte) = [high, low] ∧
    value? high = some (UInt8.ofNat (byte.toNat / 16)) ∧
    value? low = some (UInt8.ofNat (byte.toNat % 16)) := by
  have size := byte.toNat_lt
  obtain ⟨high, highBytes, highValue, _⟩ := digit_facts (byte.toNat / 16) (by omega)
  obtain ⟨low, lowBytes, lowValue, _⟩ := digit_facts (byte.toNat % 16) (by omega)
  refine ⟨high, low, ?_, highValue, lowValue⟩
  simp only [digitPair, utf8, List.flatMap_cons, List.flatMap_nil, highBytes, lowBytes,
    List.singleton_append, List.append_nil]

theorem length_utf8_digits (bytes : Bytes) :
    (utf8 (bytes.flatMap digitPair)).length = 2 * bytes.length := by
  induction bytes with
  | nil => rfl
  | cons byte bytes ih =>
    obtain ⟨high, low, pair, _⟩ := utf8_digitPair byte
    have head : utf8 (digitPair byte ++ bytes.flatMap digitPair) =
        utf8 (digitPair byte) ++ utf8 (bytes.flatMap digitPair) := List.flatMap_append
    rw [List.flatMap_cons, head, pair, List.length_append, ih, List.length_cons]
    simp only [List.length_cons, List.length_nil]
    omega

theorem pairs_digits (bytes read : Bytes) (index : Nat) :
    pairs index read (utf8 (bytes.flatMap digitPair)) = .ok (read.reverse ++ bytes) := by
  induction bytes generalizing read index with
  | nil => simp [utf8, pairs]
  | cons byte bytes ih =>
    obtain ⟨high, low, pair, highValue, lowValue⟩ := utf8_digitPair byte
    have head : utf8 (digitPair byte ++ bytes.flatMap digitPair) =
        utf8 (digitPair byte) ++ utf8 (bytes.flatMap digitPair) := List.flatMap_append
    rw [List.flatMap_cons, head, pair, List.cons_append, List.cons_append, List.nil_append, pairs,
      highValue, lowValue]
    simp only [nibbles, ih, List.reverse_cons, List.append_assoc, List.singleton_append]

theorem decode_encode (bytes : Bytes) : decode (encode bytes) = .ok bytes := by
  have even : ¬ (utf8 (bytes.flatMap digitPair)).length % 2 = 1 := by
    rw [length_utf8_digits]
    omega
  have text : (encode bytes).toList = bytes.flatMap digitPair := String.toList_ofList
  rw [decode, text]
  simp only [even, if_false, pairs_digits, List.reverse_nil, List.nil_append]

theorem value?_of_le {byte : UInt8} (large : 0x67 ≤ byte.toNat) : value? byte = none := by
  have above (limit : UInt8) (small : limit.toNat < 0x67) : ¬ byte ≤ limit := by
    rw [UInt8.le_iff_toNat_le]
    omega
  unfold value?
  rw [if_neg fun digit => above 0x39 (by decide) digit.2, if_neg fun digit => above 0x46 (by decide) digit.2,
    if_neg fun digit => above 0x66 (by decide) digit.2]

/-- A digit is an ASCII character, and its lower-case form is the one that is written for its value. -/
theorem digit_of_value? {c : Char} {first value : UInt8} {others : Bytes}
    (written : String.utf8EncodeChar c = first :: others) (known : value? first = some value) :
    others = [] ∧ c.toLower = digit value.toNat ∧ value.toNat < 16 := by
  by_cases ascii : c.val.toNat ≤ 127
  · have checked : ∀ code ∈ List.range 128, (value? (UInt8.ofNat code)).all fun value =>
        (Char.ofNat code).toLower = digit value.toNat ∧ value.toNat < 16 := by decide +kernel
    have own := checked c.toNat (List.mem_range.mpr (Nat.lt_succ_of_le ascii))
    simp only [String.utf8EncodeChar, if_pos ascii] at written
    cases written
    have same : value? (UInt8.ofNat c.toNat) = some value := known
    rw [same, Char.ofNat_toNat] at own
    exact ⟨rfl, of_decide_eq_true own⟩
  · have large := Text.le_first_of_not_ascii written ascii
    cases (value?_of_le (Nat.le_trans (by decide) large)).symm.trans known

theorem nibbles_of_values {high low : UInt8} (highBound : high.toNat < 16) (lowBound : low.toNat < 16) :
    (16 * high + low).toNat / 16 = high.toNat ∧ (16 * high + low).toNat % 16 = low.toNat := by
  have sum : (16 * high + low).toNat = 16 * high.toNat + low.toNat := by
    simp only [UInt8.toNat_add, UInt8.toNat_mul, UInt8.toNat_ofNat]
    omega
  omega

/-- The reader goes by bytes, but no digit is a part of a longer character. -/
theorem digit_of_pairs {c : Char} {index : Nat} {read following bytes : Bytes}
    (paired : pairs index read (String.utf8EncodeChar c ++ following) = .ok bytes) :
    ∃ first value, String.utf8EncodeChar c = [first] ∧ value? first = some value ∧
      c.toLower = digit value.toNat ∧ value.toNat < 16 := by
  obtain ⟨first, others, written⟩ := Text.exists_first c
  rw [written, List.cons_append] at paired
  cases behind : others ++ following with
  | nil =>
    rw [behind] at paired
    cases paired
  | cons low rest =>
    rw [behind, pairs] at paired
    split at paired
    · rename_i value _ known _
      obtain ⟨rfl, lower, bound⟩ := digit_of_value? written known
      exact ⟨first, value, written, known, lower, bound⟩
    · cases paired
    · cases paired

/-- What is read is what would be written for the text in lower case. -/
theorem lowered_of_pairs {text : List Char} {index : Nat} {read bytes : Bytes}
    (paired : pairs index read (utf8 text) = .ok bytes) :
    ∃ more, bytes = read.reverse ++ more ∧ Text.lowered text = more.flatMap digitPair := by
  match text with
  | [] =>
    cases paired
    exact ⟨[], (List.append_nil _).symm, rfl⟩
  | [c] =>
    rw [Text.utf8_cons] at paired
    obtain ⟨first, value, written, _⟩ := digit_of_pairs paired
    rw [written] at paired
    cases paired
  | c :: d :: rest =>
    rw [Text.utf8_cons, Text.utf8_cons] at paired
    obtain ⟨first, high, written, known, lower, bound⟩ := digit_of_pairs paired
    obtain ⟨second, others, writtenNext⟩ := Text.exists_first d
    rw [written, writtenNext, List.singleton_append, List.cons_append, pairs, known] at paired
    split at paired
    · rename_i same knownNext
      cases same
      obtain ⟨rfl, lowerNext, boundNext⟩ := digit_of_value? writtenNext knownNext
      obtain ⟨more, rfl, same⟩ := lowered_of_pairs paired
      refine ⟨_ :: more, by rw [List.reverse_cons, List.append_assoc, List.singleton_append], ?_⟩
      obtain ⟨highPart, lowPart⟩ := nibbles_of_values bound boundNext
      rw [List.flatMap_cons, digitPair, highPart, lowPart, ← same, ← lower, ← lowerNext]
      rfl
    · cases paired
    · cases paired

theorem lowered_of_decode {text : String} {bytes : Bytes} (read : decode text = .ok bytes) :
    Text.lowered text.toList = (encode bytes).toList := by
  unfold decode at read
  simp only at read
  split at read
  · cases read
  · obtain ⟨more, rfl, same⟩ := lowered_of_pairs read
    rw [same, encode, String.toList_ofList]
    rfl

/-- Texts name the same bytes just if they are the same up to the case of their digits. -/
theorem sameName_iff {text again : String} {bytes other : Bytes} (read : decode text = .ok bytes)
    (reread : decode again = .ok other) : Text.sameName text again = true ↔ bytes = other := by
  rw [Text.sameName, beq_iff_eq, lowered_of_decode read, lowered_of_decode reread, String.toList_inj]
  constructor
  · intro same
    have written := decode_encode bytes
    rw [same, decode_encode] at written
    exact (Except.ok.inj written).symm
  · rintro rfl
    rfl

theorem isBlank_encode {bytes : Bytes} {c : Char} (member : c ∈ (encode bytes).toList) :
    Text.isBlank c = false := by
  rw [encode, String.toList_ofList] at member
  obtain ⟨byte, _, written⟩ := List.mem_flatMap.mp member
  have size := byte.toNat_lt
  obtain ⟨_, _, _, high⟩ := digit_facts (byte.toNat / 16) (by omega)
  obtain ⟨_, _, _, low⟩ := digit_facts (byte.toNat % 16) (by omega)
  simp only [List.mem_cons, List.not_mem_nil, or_false] at written
  rcases written with rfl | rfl
  · exact high
  · exact low

theorem decodeTrimmed_encode (bytes : Bytes) : decodeTrimmed (encode bytes) = .ok bytes := by
  have solid : Text.trim (encode bytes) = encode bytes := by
    rw [Text.trim, Text.trimmed_of_no_blank fun c member => isBlank_encode member, String.ofList_toList]
  rw [decodeTrimmed, solid, decode_encode]
  rfl

end CoinSpend.Hex
