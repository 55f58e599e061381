import CoinSpend.Proofs.Address.Numerals
import CoinSpend.Proofs.Related
import CoinSpend.Proofs.Text

/-! Base58Check texts read back. A byte string and its text are one number in two bases, with the same leading zeros;
so every text of the alphabet is the encoding of exactly what it decodes to. -/
namespace CoinSpend.Base58

def character (digit : Nat) : Char := alphabet.getD digit '1'

theorem idxOf?_alphabet (c : Char) (digit : Nat) : alphabet.idxOf? c = some digit ↔ c = character digit ∧ digit < 58 :=
  idxOf?_eq_some_iff_of_nodup (by decide) '1'

/-- Every character of the alphabet is visible. -/
theorem isBlank_character {digit : Nat} (small : digit < 58) : Text.isBlank (character digit) = false := by
  have visible : ∀ digit ∈ List.range 58, Text.isBlank (character digit) = false := by decide
  exact visible digit (List.mem_range.mpr small)

/-- The numeral of a value in another base, behind the zeros it starts with. -/
def rebase (base target : Nat) (large : 1 < target) (numeral : List Nat) : List Nat :=
  numeral.takeWhile (· == 0) ++ digits target large (ofDigits base numeral)

section

variable {base target : Nat} {numeral : List Nat}

theorem eq_zero_of_mem_leading {digit : Nat} (member : digit ∈ numeral.takeWhile (· == 0)) : digit = 0 := by
  simpa using List.mem_takeWhile_imp member

theorem ofDigits_leading (base : Nat) (numeral : List Nat) : ofDigits base (numeral.takeWhile (· == 0)) = 0 := by
  have zeros : ∀ digit ∈ numeral.takeWhile (· == 0), digit = 0 := fun digit => eq_zero_of_mem_leading
  rw [List.eq_replicate_of_mem zeros]
  induction (numeral.takeWhile (· == 0)).length with
  | zero => rfl
  | succ count ih => rw [List.replicate_succ, ofDigits_cons, ih, Nat.zero_mul, Nat.zero_add]

theorem rebase_lt (large : 1 < target) {digit : Nat} (member : digit ∈ rebase base target large numeral) :
    digit < target := by
  rcases List.mem_append.mp member with zero | digits
  · rw [eq_zero_of_mem_leading zero]
    omega
  · exact digits_lt large digits

theorem takeWhile_zero_rebase (large : 1 < target) (numeral : List Nat) :
    (rebase base target large numeral).takeWhile (· == 0) = numeral.takeWhile (· == 0) := by
  have zeros : ∀ digit ∈ numeral.takeWhile (· == 0), (digit == 0) = true := by
    intro digit member
    simp [eq_zero_of_mem_leading member]
  rw [rebase, List.takeWhile_append_of_pos zeros, takeWhile_zero_digits, List.append_nil]

theorem ofDigits_rebase (large : 1 < target) (numeral : List Nat) :
    ofDigits target (rebase base target large numeral) = ofDigits base numeral := by
  rw [rebase, ofDigits_append, ofDigits_leading, ofDigits_digits, Nat.zero_mul, Nat.zero_add]

theorem rebase_rebase (large : 1 < base) (targetLarge : 1 < target) (small : ∀ digit ∈ numeral, digit < base) :
    rebase target base large (rebase base target targetLarge numeral) = numeral := by
  rw [rebase, takeWhile_zero_rebase, ofDigits_rebase]
  exact zeros_append_digits large small

/-- A numeral in the other base with the same value and as many zeros in front is this one. -/
theorem eq_rebase_iff (large : 1 < target) {written : List Nat} : written = rebase base target large numeral ↔
    (∀ digit ∈ written, digit < target) ∧
      (written.takeWhile (· == 0)).length = (numeral.takeWhile (· == 0)).length ∧
      ofDigits target written = ofDigits base numeral := by
  constructor
  · rintro rfl
    exact ⟨fun digit => rebase_lt large, by rw [takeWhile_zero_rebase], ofDigits_rebase large numeral⟩
  · rintro ⟨small, zeros, value⟩
    have leading : written.takeWhile (· == 0) = numeral.takeWhile (· == 0) := by
      rw [List.eq_replicate_of_mem fun digit => eq_zero_of_mem_leading, zeros]
      exact (List.eq_replicate_of_mem fun digit => eq_zero_of_mem_leading).symm
    rw [rebase, ← leading, ← value, zeros_append_digits large small]

/-- What follows the leading zeros has the value of the whole. -/
theorem ofDigits_dropWhile (base : Nat) (numeral : List Nat) :
    ofDigits base (numeral.dropWhile (· == 0)) = ofDigits base numeral := by
  conv_rhs => rw [← List.takeWhile_append_dropWhile (p := (· == 0)) (l := numeral)]
  rw [ofDigits_append, ofDigits_leading, Nat.zero_mul, Nat.zero_add]

/-- Two digits of base 256 take at most three of base 58, and one takes at most two. -/
theorem pow_le_pow_rebased (count : Nat) : 256 ^ count ≤ 58 ^ ((3 * count + 1) / 2) := by
  induction count using Nat.twoStepInduction with
  | zero => decide
  | one => decide
  | more count ih _ =>
    have grows : (3 * (count + 2) + 1) / 2 = (3 * count + 1) / 2 + 3 := by omega
    calc 256 ^ (count + 2) = 256 ^ count * 256 ^ 2 := pow_add 256 count 2
      _ ≤ 58 ^ ((3 * count + 1) / 2) * 58 ^ 3 := Nat.mul_le_mul ih (by decide)
      _ = 58 ^ ((3 * (count + 2) + 1) / 2) := by rw [grows, pow_add]

theorem length_rebase_le (small : ∀ digit ∈ numeral, digit < 256) :
    2 * (rebase 256 58 (by decide) numeral).length ≤ 3 * numeral.length + 1 := by
  have parts := congrArg List.length (List.takeWhile_append_dropWhile (p := (· == 0)) (l := numeral))
  rw [List.length_append] at parts
  have rest : ∀ digit ∈ numeral.dropWhile (· == 0), digit < 256 :=
    fun digit member => small digit ((List.dropWhile_suffix _).subset member)
  have bound := ofDigits_lt (by decide) rest
  rw [ofDigits_dropWhile] at bound
  have digits := length_digits_le (by decide) (Nat.lt_of_lt_of_le bound (pow_le_pow_rebased _))
  rw [rebase, List.length_append]
  omega

end

/-- A byte string as a numeral. -/
def numeral (bytes : Bytes) : List Nat := bytes.map UInt8.toNat

theorem numeral_lt {bytes : Bytes} {digit : Nat} (member : digit ∈ numeral bytes) : digit < 256 := by
  obtain ⟨byte, _, rfl⟩ := List.mem_map.mp member
  exact byte.toNat_lt

theorem numeral_ofNat {values : List Nat} (small : ∀ value ∈ values, value < 256) :
    numeral (values.map UInt8.ofNat) = values := by
  rw [numeral, List.map_map, List.map_congr_left (g := id), List.map_id]
  intro value member
  exact UInt8.toNat_ofNat_of_lt' (small value member)

theorem ofNat_numeral (bytes : Bytes) : (numeral bytes).map UInt8.ofNat = bytes := by
  rw [numeral, List.map_map, List.map_congr_left (g := id), List.map_id]
  intro byte _
  exact UInt8.ofNat_toNat

theorem takeWhile_zero_numeral (bytes : Bytes) :
    (numeral bytes).takeWhile (· == 0) = numeral (bytes.takeWhile (· == 0)) := by
  have same : (fun digit => digit == 0) ∘ UInt8.toNat = fun byte => byte == 0 := by
    funext byte
    rw [Function.comp_apply, Bool.eq_iff_iff, beq_iff_eq, beq_iff_eq, ← UInt8.toNat_inj]
    rfl
  rw [numeral, numeral, List.takeWhile_map, same]

theorem ofDigits_numeral (bytes : Bytes) : ofDigits 256 (numeral bytes) = ofBigEndian bytes := List.foldl_map

theorem encode_eq (bytes : Bytes) : encode bytes = (rebase 256 58 (by decide) (numeral bytes)).map character := by
  have zeros : ((numeral bytes).takeWhile (· == 0)).map character =
      (bytes.takeWhile (· == 0)).map fun _ => '1' := by
    rw [takeWhile_zero_numeral, numeral, List.map_map]
    apply List.map_congr_left
    intro byte member
    have zero : byte = 0 := by simpa using List.mem_takeWhile_imp member
    rw [zero]
    rfl
  rw [rebase, List.map_append, zeros, ofDigits_numeral]
  rfl

/-- The text and the byte string are one number in base 58 and in base 256, and the text has a `1` in front for each zero
byte in front. -/
def Writes (text : List Char) (bytes : Bytes) : Prop :=
  ∃ written : List Nat, text = written.map character ∧ (∀ digit ∈ written, digit < 58) ∧
    (written.takeWhile (· == 0)).length = (bytes.takeWhile (· == 0)).length ∧ ofDigits 58 written = ofBigEndian bytes

theorem writes_iff {text : List Char} {bytes : Bytes} : Writes text bytes ↔ text = encode bytes := by
  have rebased (written : List Nat) : written = rebase 256 58 (by decide) (numeral bytes) ↔
      (∀ digit ∈ written, digit < 58) ∧ (written.takeWhile (· == 0)).length = (bytes.takeWhile (· == 0)).length ∧
        ofDigits 58 written = ofBigEndian bytes := by
    rw [eq_rebase_iff, takeWhile_zero_numeral, numeral, List.length_map, ofDigits_numeral]
  simp only [Writes, ← rebased, exists_eq_right, encode_eq]

theorem decode?_eq (text : List Char) : decode? text = (text.mapM fun c => alphabet.idxOf? c).map fun values =>
    (rebase 58 256 (by decide) values).map UInt8.ofNat := by
  unfold decode? rebase
  cases text.mapM fun c => alphabet.idxOf? c with
  | none => rfl
  | some values =>
    have zeros : ((values.takeWhile (· == 0)).map UInt8.ofNat) = (values.takeWhile (· == 0)).map fun _ => 0 := by
      apply List.map_congr_left
      intro digit member
      rw [eq_zero_of_mem_leading member]
      rfl
    rw [Option.map_some, List.map_append, zeros]
    rfl

/-- A text decodes just if it is an encoding, and then to what it encodes. -/
theorem decode?_eq_some_iff {text : List Char} {bytes : Bytes} : decode? text = some bytes ↔ text = encode bytes := by
  simp only [decode?_eq, Option.map_eq_some_iff, mapM_eq_some_iff idxOf?_alphabet, encode_eq]
  constructor
  · rintro ⟨values, ⟨rfl, small⟩, rfl⟩
    rw [numeral_ofNat fun digit => rebase_lt _, rebase_rebase _ _ small]
  · rintro rfl
    refine ⟨_, ⟨rfl, fun digit => rebase_lt _⟩, ?_⟩
    rw [rebase_rebase (by decide) _ fun digit => numeral_lt, ofNat_numeral]

theorem length_encode_le (bytes : Bytes) : 2 * (encode bytes).length ≤ 3 * bytes.length + 1 := by
  have bound : 2 * _ ≤ 3 * (numeral bytes).length + 1 := length_rebase_le fun digit => numeral_lt
  rw [numeral, List.length_map] at bound
  rw [encode_eq, List.length_map]
  exact bound

theorem isBlank_encode {bytes : Bytes} {c : Char} (member : c ∈ encode bytes) : Text.isBlank c = false := by
  rw [encode_eq] at member
  obtain ⟨digit, written, rfl⟩ := List.mem_map.mp member
  exact isBlank_character (rebase_lt _ written)

/-- The bytes behind a Base58Check text. -/
def checked (version : UInt8) (payload : Bytes) : Bytes :=
  version :: payload ++ (sha256d (version :: payload)).bytes.take 4

theorem length_checked (version : UInt8) (payload : Bytes) : (checked version payload).length = payload.length + 5 := by
  have long := (sha256d (version :: payload)).length_bytes
  simp only [checked, List.length_append, List.length_cons, List.length_take, long]
  omega

theorem encodeCheck_eq (version : UInt8) (payload : Bytes) :
    encodeCheck version payload = String.ofList (encode (checked version payload)) := rfl

/-- A text decodes just if it is an encoding with blanks around it. -/
theorem decodeCheck?_eq_some_iff {address : String} {version : UInt8} {payload : Bytes} :
    decodeCheck? address = some (version, payload) ↔ Text.trim address = encodeCheck version payload := by
  rw [Text.trim, encodeCheck_eq, String.ofList_inj, ← decode?_eq_some_iff]
  unfold decodeCheck?
  rw [Option.bind_eq_bind, Option.bind_eq_some_iff]
  constructor
  · rintro ⟨bytes, read, split⟩
    rw [read, Option.some.injEq, checked]
    dsimp only at split
    split at split
    · cases split
    · rename_i front body
      split at split
      · rename_i check
        cases split
        rw [beq_iff_eq.mp check, ← body, List.take_append_drop]
      · cases split
  · intro read
    have size : (checked version payload).length - 4 = (version :: payload).length := by
      rw [length_checked, List.length_cons]
      omega
    refine ⟨_, read, ?_⟩
    dsimp only
    rw [size, checked, List.take_left, List.drop_left]
    dsimp only
    rw [beq_self_eq_true, if_pos rfl]

theorem trim_encodeCheck (version : UInt8) (payload : Bytes) :
    Text.trim (encodeCheck version payload) = encodeCheck version payload := by
  rw [encodeCheck_eq, Text.trim, String.toList_ofList, Text.trimmed_of_no_blank fun c => isBlank_encode]

theorem decodeCheck?_encodeCheck (version : UInt8) (payload : Bytes) :
    decodeCheck? (encodeCheck version payload) = some (version, payload) :=
  decodeCheck?_eq_some_iff.mpr (trim_encodeCheck version payload)

/-- Base58Check is one to one. A text decodes just if it is, but for blanks around it, the encoding of what it decodes to; and
that encoding is the number that version, payload and checksum make in base 256, written in base 58 with its leading zeros.
So every version and payload is read back, from one trimmed text only. -/
theorem decodeCheck_exact (version : UInt8) (payload : Bytes) :
    (∀ address, decodeCheck? address = some (version, payload) ↔ Text.trim address = encodeCheck version payload) ∧
    Writes (encodeCheck version payload).toList
      (version :: payload ++ (sha256d (version :: payload)).bytes.take 4) ∧
    decodeCheck? (encodeCheck version payload) = some (version, payload) ∧
    (∀ first second, decodeCheck? first = some (version, payload) → decodeCheck? second = some (version, payload) →
      Text.trim first = Text.trim second) ∧
    ∀ other hash, encodeCheck other hash = encodeCheck version payload ↔ other = version ∧ hash = payload := by
  refine ⟨fun address => decodeCheck?_eq_some_iff, ?_, decodeCheck?_encodeCheck version payload,
    fun first second own again => ?_, fun other hash => ⟨fun same => ?_, ?_⟩⟩
  · rw [writes_iff, encodeCheck_eq, String.toList_ofList, checked]
  · rw [decodeCheck?_eq_some_iff.mp own, decodeCheck?_eq_some_iff.mp again]
  · have read := decodeCheck?_encodeCheck other hash
    rw [same, decodeCheck?_encodeCheck] at read
    cases read
    exact ⟨rfl, rfl⟩
  · rintro ⟨rfl, rfl⟩
    rfl

/-- Zero bytes in front are kept, and blanks around a text are read over. -/
theorem decodeCheck_exact_zeros : decodeCheck? " 1115rFQDMi\n" = some (0, [0, 0, 42]) ∧
    decodeCheck? "1115rFQDMi" = some (0, [0, 0, 42]) ∧ Text.trim " 1115rFQDMi\n" = Text.trim "1115rFQDMi" := by
  have written : encodeCheck 0 [0, 0, 42] = "1115rFQDMi" := by decide +kernel
  obtain ⟨reads, _, own, unique, _⟩ := decodeCheck_exact 0 [0, 0, 42]
  have blank : decodeCheck? " 1115rFQDMi\n" = some (0, [0, 0, 42]) := (reads _).mpr (by rw [written]; decide +kernel)
  rw [written] at own
  exact ⟨blank, own, unique _ _ blank own⟩

end CoinSpend.Base58
