import CoinSpend.Proofs.Bytes.Integers
import CoinSpend.Proofs.Failure
import CoinSpend.Proofs.Signature.Positions
import CoinSpend.Proofs.Signature.Strict

/-! The byte strings that read as a signature: a sequence of two integers of at most thirty-three bytes, and behind it a
hash type or nothing. The lengths fit each other, and the only leniency is in the integers, which may be padded. Those
that are not padded are what is written. -/
namespace CoinSpend.Der

/-- `digits` are a form of `number` that is read: at most thirty-three bytes, where the thirty-third is a zero. -/
structure Denotes (digits : Bytes) (number : Octets 32) : Prop where
  filled : 1 ≤ digits.length
  short : digits.length ≤ 33
  lead : digits.length = 33 → digits.head? = some 0
  value : number.toNat = ofBigEndian digits

/-- The bytes `30 L 02 lr r 02 ls s T`: each length is that of what it stands before, and `T` is at most one byte. -/
def Sequence (bytes r s : Bytes) (hashType : Option UInt8) : Prop :=
  ∃ whole rLength sLength : UInt8,
    bytes = [0x30, whole, 0x02, rLength] ++ r ++ [0x02, sLength] ++ s ++ hashType.toList ∧
      rLength.toNat = r.length ∧ sLength.toNat = s.length ∧ whole.toNat = 4 + r.length + s.length

/-- `bytes` are a form of the signature that is read, with the integers `r` and `s` in it. -/
structure Encloses (bytes r s : Bytes) (signature : Signature) (hashType : Option UInt8) : Prop where
  sequence : Sequence bytes r s hashType
  denotesR : Denotes r signature.r
  denotesS : Denotes s signature.s

variable {name : String} {bytes digits r s rest : Bytes} {number : Octets 32} {signature : Signature}
  {hashType : Option UInt8}

/-! ### Integers -/

/-- In up to thirty-two bytes the leading zeros of the number may be missing. -/
theorem denotes_iff_of_fits (fits : digits.length ≤ 32) : Denotes digits number ↔
    digits ≠ [] ∧ List.replicate (32 - digits.length) 0 ++ digits = number.bytes := by
  have long := length_padded fits
  have padded : number.toNat = ofBigEndian digits ↔
      List.replicate (32 - digits.length) 0 ++ digits = number.bytes := by
    rw [← ofBigEndian_replicate_append (32 - digits.length) digits, eq_comm]
    exact Octets.toNat_inj.trans (Octets.ext_iff (x := ⟨_, long⟩))
  rw [← padded, ← List.length_pos_iff]
  constructor
  · exact fun denotes => ⟨denotes.filled, denotes.value⟩
  · rintro ⟨filled, value⟩
    exact ⟨filled, by omega, by omega, value⟩

/-- More bytes are read only if they are a zero and the whole number. -/
theorem denotes_iff_of_long (long : ¬ digits.length ≤ 32) : Denotes digits number ↔ digits = 0 :: number.bytes := by
  constructor
  · intro denotes
    have full : digits.length = 33 := by
      have short := denotes.short
      omega
    obtain ⟨tail, rfl⟩ := List.head?_eq_some_iff.mp (denotes.lead full)
    have same : number = ⟨tail, Nat.succ.inj full⟩ := by
      rw [← Octets.toNat_inj, denotes.value]
      exact ofBigEndian_replicate_append 1 tail
    rw [same]
  · rintro rfl
    have full : (0 :: number.bytes).length = 33 := congrArg (· + 1) number.length_bytes
    exact ⟨by omega, by omega, fun _ => rfl, (ofBigEndian_replicate_append 1 number.bytes).symm⟩

theorem value_eq_ok_iff : value name digits = .ok number ↔ Denotes digits number := by
  fun_cases value name digits with
  | case1 _ fits empty =>
    rw [denotes_iff_of_fits fits, List.isEmpty_iff.mp empty]
    simp
  | case2 _ fits filled =>
    rw [List.isEmpty_iff] at filled
    rw [denotes_iff_of_fits fits, Except.ok.injEq, Octets.ext_iff]
    exact (and_iff_right filled).symm
  | case3 rest _ full long =>
    rw [denotes_iff_of_long long, Except.ok.injEq, Octets.ext_iff, List.cons.injEq]
    exact (and_iff_right rfl).symm
  | case4 rest _ other long =>
    have different : rest ≠ number.bytes := fun same => other (same ▸ number.length_bytes)
    rw [denotes_iff_of_long long, List.cons.injEq]
    simp [different]
  | case5 _ long _ other =>
    have different : digits ≠ 0 :: number.bytes :=
      fun same => other number.bytes (same ▸ long) same (proof_irrel_heq _ _)
    rw [denotes_iff_of_long long]
    simp [different]

theorem readInteger_eq_ok_iff : readInteger name bytes = .ok (number, rest) ↔
    ∃ (length : UInt8) (digits : Bytes), bytes = integerTag :: length :: (digits ++ rest) ∧
      length.toNat = digits.length ∧ Denotes digits number := by
  constructor
  · fun_cases readInteger name bytes with
    | case1 | case3 | case4 => exact nofun
    | case2 length behind digits rest split =>
      intro read
      obtain ⟨counted, rfl⟩ := split?_eq_some_iff.mp split
      obtain ⟨_, valued, same⟩ := map_eq_ok.mp read
      cases same
      exact ⟨length, digits, rfl, counted.symm, value_eq_ok_iff.mp valued⟩
  · rintro ⟨length, digits, rfl, counted, denotes⟩
    rw [readInteger, if_pos rfl, counted]
    simp only [split?_append, value_eq_ok_iff.mpr denotes]
    rfl

theorem readBody_eq_ok_iff : readBody bytes = .ok signature ↔
    ∃ (rLength sLength : UInt8) (r s : Bytes), bytes = integerTag :: rLength :: (r ++ integerTag :: sLength :: s) ∧
      rLength.toNat = r.length ∧ sLength.toNat = s.length ∧ Denotes r signature.r ∧ Denotes s signature.s := by
  simp only [readBody, bind_eq_ok, Prod.exists, readInteger_eq_ok_iff]
  constructor
  · rintro ⟨_, _, ⟨rLength, r, rfl, rCounted, denotesR⟩, _, rest, ⟨sLength, s, rfl, sCounted, denotesS⟩, read⟩
    cases rest with
    | nil =>
      cases read
      exact ⟨rLength, sLength, r, s, by rw [List.append_nil], rCounted, sCounted, denotesR, denotesS⟩
    | cons => cases read
  · rintro ⟨rLength, sLength, r, s, rfl, rCounted, sCounted, denotesR, denotesS⟩
    refine ⟨_, _, ⟨rLength, r, rfl, rCounted, denotesR⟩, _, [], ⟨sLength, s, ?_, sCounted, denotesS⟩, rfl⟩
    rw [List.append_nil]

/-! ### The whole -/

/-- The stated length leaves one byte at most, and that byte is the hash type. -/
theorem decodeTyped_eq_ok_iff : decodeTyped bytes = .ok (signature, hashType) ↔ 8 ≤ bytes.length ∧
    ∃ (stated : UInt8) (body : Bytes), bytes = sequenceTag :: stated :: (body ++ hashType.toList) ∧
      stated.toNat = body.length ∧ readBody body = .ok signature := by
  constructor
  · fun_cases decodeTyped bytes with
    | case1 | case4 | case5 | case6 => exact nofun
    | case2 stated behind body split long =>
      intro read
      obtain ⟨counted, rfl⟩ := split?_eq_some_iff.mp split
      obtain ⟨_, body_read, same⟩ := map_eq_ok.mp read
      cases same
      exact ⟨Nat.le_of_not_lt long, stated, body, rfl, counted.symm, body_read⟩
    | case3 stated behind body hashType split long =>
      intro read
      obtain ⟨counted, rfl⟩ := split?_eq_some_iff.mp split
      obtain ⟨_, body_read, same⟩ := map_eq_ok.mp read
      cases same
      exact ⟨Nat.le_of_not_lt long, stated, body, rfl, counted.symm, body_read⟩
  · rintro ⟨long, stated, body, rfl, counted, read⟩
    unfold decodeTyped
    rw [if_neg (Nat.not_lt.mpr long)]
    cases hashType with
    | none =>
      simp only [if_true, counted, Option.toList_none, split?_append, read]
      rfl
    | some hashType =>
      simp only [if_true, counted, Option.toList_some, split?_append, read]
      rfl

theorem decodeTyped_eq_ok_iff_encloses : decodeTyped bytes = .ok (signature, hashType) ↔
    ∃ r s, Encloses bytes r s signature hashType := by
  rw [decodeTyped_eq_ok_iff]
  constructor
  · rintro ⟨_, whole, body, rfl, counted, read⟩
    obtain ⟨rLength, sLength, r, s, rfl, rCounted, sCounted, denotesR, denotesS⟩ := readBody_eq_ok_iff.mp read
    refine ⟨r, s, ⟨whole, rLength, sLength, ?_, rCounted, sCounted, ?_⟩, denotesR, denotesS⟩
    · simp [sequenceTag, integerTag]
    · simp only [List.length_cons, List.length_append] at counted
      omega
  · rintro ⟨r, s, ⟨whole, rLength, sLength, rfl, rCounted, sCounted, counted⟩, denotesR, denotesS⟩
    have someR := denotesR.filled
    have someS := denotesS.filled
    have read := readBody_eq_ok_iff.mpr ⟨rLength, sLength, r, s, rfl, rCounted, sCounted, denotesR, denotesS⟩
    refine ⟨?_, whole, _, ?_, ?_, read⟩
    · simp only [List.length_append, List.length_cons, List.length_nil]
      omega
    · simp [sequenceTag, integerTag]
    · simp only [List.length_cons, List.length_append]
      omega

/-! ### What is written again -/

/-- The shortest form with the same value. -/
def shortest (digits : Bytes) : Bytes :=
  match digits.dropWhile (· == 0) with
  | [] => [0]
  | first :: rest => if first < 0x80 then first :: rest else 0 :: first :: rest

theorem length_shortest_le (digits : Bytes) : (shortest digits).length ≤ digits.length + 1 := by
  have shorter := (List.dropWhile_sublist (· == 0) (l := digits)).length_le
  unfold shortest
  split
  · simp
  · rename_i first rest significant
    rw [significant, List.length_cons] at shorter
    split <;> simp only [List.length_cons] <;> omega

theorem shortest_zero_cons (digits : Bytes) : shortest (0 :: digits) = shortest digits := by
  rw [shortest, List.dropWhile_cons_of_pos rfl, shortest]

theorem shortest_of_nonzero {first : UInt8} (nonzero : first ≠ 0) (rest : Bytes) :
    shortest (first :: rest) = if first < 0x80 then first :: rest else 0 :: first :: rest := by
  rw [shortest, List.dropWhile_cons_of_neg (by simpa using nonzero)]

/-- A form is the shortest exactly if it is minimal: no zero leads it but one that keeps its top bit clear. -/
theorem shortest_eq_self_iff : shortest digits = digits ↔ isMinimal digits = true := by
  match digits with
  | [] => decide
  | [digit] =>
    by_cases zero : digit = 0
    · subst zero
      decide
    · rw [shortest_of_nonzero zero]
      simp [isMinimal]
  | first :: second :: rest =>
    by_cases zero : first = 0
    · subst zero
      rw [shortest_zero_cons]
      by_cases again : second = 0
      · subst again
        have shorter := length_shortest_le rest
        have different : shortest rest ≠ 0 :: 0 :: rest := by
          intro same
          rw [same, List.length_cons, List.length_cons] at shorter
          omega
        rw [shortest_zero_cons]
        simp [isMinimal, different]
      · rw [shortest_of_nonzero again]
        simp [isMinimal]
    · rw [shortest_of_nonzero zero]
      simp [isMinimal, zero]

theorem shortest_replicate_append (count : Nat) (digits : Bytes) :
    shortest (List.replicate count 0 ++ digits) = shortest digits := by
  induction count with
  | zero => rfl
  | succ count ih => rw [List.replicate_succ, List.cons_append, shortest_zero_cons, ih]

/-- Every form of a number has the same shortest form, the one that is written. -/
theorem Denotes.shortest_eq (denotes : Denotes digits number) : shortest digits = minimal number := by
  change shortest digits = shortest number.bytes
  by_cases fits : digits.length ≤ 32
  · obtain ⟨_, padded⟩ := (denotes_iff_of_fits fits).mp denotes
    rw [← padded, shortest_replicate_append]
  · rw [(denotes_iff_of_long fits).mp denotes, shortest_zero_cons]

theorem Denotes.minimal_eq_iff (denotes : Denotes digits number) :
    minimal number = digits ↔ isMinimal digits = true := by
  rw [← denotes.shortest_eq, shortest_eq_self_iff]

/-- What is written is a sequence of the shortest forms, and a sequence determines what is in it. -/
theorem Sequence.encode_eq_iff (sequence : Sequence bytes r s hashType) :
    encode signature ++ hashType.toList = bytes ↔ minimal signature.r = r ∧ minimal signature.s = s := by
  have boundR := (length_minimal signature.r).2
  have boundS := (length_minimal signature.s).2
  obtain ⟨whole, rLength, sLength, rfl, rCounted, sCounted, counted⟩ := sequence
  have small {count : Nat} (bound : count ≤ 33) : (UInt8.ofNat count).toNat = count := by
    apply UInt8.toNat_ofNat_of_lt
    rw [UInt8.size]
    omega
  constructor
  · intro same
    simp only [encode, integer, List.cons_append, List.append_assoc, List.cons.injEq, List.nil_append] at same
    obtain ⟨_, _, _, lengthR, rest⟩ := same
    have longR : (minimal signature.r).length = r.length := by rw [← rCounted, ← lengthR, small boundR]
    obtain ⟨sameR, rest⟩ := List.append_inj rest longR
    simp only [List.cons.injEq] at rest
    obtain ⟨_, lengthS, rest⟩ := rest
    have longS : (minimal signature.s).length = s.length := by rw [← sCounted, ← lengthS, small boundS]
    exact ⟨sameR, (List.append_inj rest longS).1⟩
  · rintro ⟨rfl, rfl⟩
    have all : (integer signature.r ++ integer signature.s).length = whole.toNat := by
      rw [counted]
      simp only [integer, List.length_append, List.length_cons]
      omega
    simp only [encode, all, UInt8.ofNat_toNat]
    simp [integer, sequenceTag, integerTag, ← rCounted, ← sCounted]

/-- The texts that read as a signature are those of the grammar, and all others fail with one code; in neither case is
a byte read outside the text. A text is written again as it was exactly if both its integers are minimal. -/
theorem decodeTyped_exact (bytes : Bytes) :
    (∀ signature hashType, decodeTyped bytes = .ok (signature, hashType) ↔
      ∃ r s, Encloses bytes r s signature hashType) ∧
    ((¬ ∃ r s signature hashType, Encloses bytes r s signature hashType) ↔
      ∃ error, decodeTyped bytes = .error error ∧ error.toFailure.code = .malformedSignature) ∧
    (decodeAt bytes).run = some (decodeTyped bytes) ∧
    ∀ r s signature hashType, Encloses bytes r s signature hashType →
      (encode signature ++ hashType.toList = bytes ↔ isMinimal r = true ∧ isMinimal s = true) := by
  refine ⟨fun _ _ => decodeTyped_eq_ok_iff_encloses, ?_, run_decodeAt bytes, fun r s signature hashType encloses => ?_⟩
  · constructor
    · intro other
      cases read : decodeTyped bytes with
      | error error => exact ⟨error, rfl, rfl⟩
      | ok found =>
        obtain ⟨r, s, encloses⟩ := decodeTyped_eq_ok_iff_encloses.mp read
        exact absurd ⟨r, s, _, _, encloses⟩ other
    · rintro ⟨error, failed, _⟩ ⟨r, s, signature, hashType, encloses⟩
      cases failed.symm.trans (decodeTyped_eq_ok_iff_encloses.mpr ⟨r, s, encloses⟩)
  · rw [encloses.sequence.encode_eq_iff, encloses.denotesR.minimal_eq_iff, encloses.denotesS.minimal_eq_iff]

/-- A padded zero and a padded one, with a hash type: read, but not written again. -/
theorem decodeTyped_exact_padded : ∃ signature,
    Encloses [0x30, 0x08, 0x02, 0x02, 0x00, 0x00, 0x02, 0x02, 0x00, 0x01, 0x41] [0x00, 0x00] [0x00, 0x01] signature
      (some 0x41) ∧
    ¬ encode signature ++ [0x41] = [0x30, 0x08, 0x02, 0x02, 0x00, 0x00, 0x02, 0x02, 0x00, 0x01, 0x41] := by
  obtain ⟨_, _, _, again⟩ := decodeTyped_exact [0x30, 0x08, 0x02, 0x02, 0x00, 0x00, 0x02, 0x02, 0x00, 0x01, 0x41]
  have encloses : Encloses [0x30, 0x08, 0x02, 0x02, 0x00, 0x00, 0x02, 0x02, 0x00, 0x01, 0x41] [0x00, 0x00] [0x00, 0x01]
      ⟨.ofNat 32 0, .ofNat 32 1⟩ (some 0x41) :=
    ⟨⟨0x08, 0x02, 0x02, by decide⟩, ⟨by decide, by decide, by decide, by decide⟩,
      ⟨by decide, by decide, by decide, by decide⟩⟩
  exact ⟨_, encloses, fun same => absurd ((again _ _ _ _ encloses).mp same) (by decide)⟩

end CoinSpend.Der
