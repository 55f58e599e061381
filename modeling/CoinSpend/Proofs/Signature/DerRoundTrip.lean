import CoinSpend.Signature.Der

/-! A signature written in DER reads back as itself, with the hash type behind it. The numbers are never changed on the
way: leading zeros go when they are written and come back when they are read. -/
namespace CoinSpend.Der

theorem zeros_dropWhile (bytes : Bytes) :
    List.replicate (bytes.length - (bytes.dropWhile (· == 0)).length) 0 ++ bytes.dropWhile (· == 0) =
      bytes := by
  induction bytes with
  | nil => rfl
  | cons byte bytes ih =>
    by_cases zero : byte = 0
    · have shorter : (bytes.dropWhile (· == 0)).length ≤ bytes.length :=
        (List.dropWhile_sublist _).length_le
      have counted : (byte :: bytes).length - (bytes.dropWhile (· == 0)).length =
          bytes.length - (bytes.dropWhile (· == 0)).length + 1 := by
        rw [List.length_cons]
        omega
      rw [List.dropWhile_cons, if_pos (by simp [zero]), counted, List.replicate_succ, List.cons_append,
        ih, zero]
    · rw [List.dropWhile_cons, if_neg (by simpa using zero), Nat.sub_self, List.replicate_zero,
        List.nil_append]

theorem length_significant_le (number : Octets 32) :
    (number.bytes.dropWhile (· == 0)).length ≤ 32 :=
  Nat.le_trans (List.dropWhile_sublist _).length_le (Nat.le_of_eq number.length_bytes)

theorem length_minimal (number : Octets 32) :
    0 < (minimal number).length ∧ (minimal number).length ≤ 33 := by
  have bound := length_significant_le number
  unfold minimal
  split
  · simp
  · rename_i first rest significant
    rw [significant, List.length_cons] at bound
    split <;> simp only [List.length_cons] <;> omega

theorem value_of_fits (name : String) {digits : Bytes} {number : Octets 32} (some : digits ≠ [])
    (fits : digits.length ≤ 32)
    (padded : List.replicate (32 - digits.length) 0 ++ digits = number.bytes) :
    value name digits = .ok number := by
  have filled : digits.isEmpty = false := by simpa using some
  rw [value, dif_pos fits, filled, if_neg Bool.false_ne_true]
  exact congrArg Except.ok (Octets.ext padded)

/-- A number of 32 bytes whose first bit is one is the only one that gets a thirty-third byte. -/
theorem value_minimal (name : String) (number : Octets 32) : value name (minimal number) = .ok number := by
  have whole := zeros_dropWhile number.bytes
  have bound := length_significant_le number
  rw [number.length_bytes] at whole
  unfold minimal
  split
  · rename_i significant
    rw [significant, List.append_nil, List.length_nil] at whole
    exact value_of_fits name (by simp) (by simp) whole
  · rename_i first rest significant
    rw [significant] at whole bound
    split
    · exact value_of_fits name (by simp) bound whole
    · by_cases full : rest.length = 31
      · have exact : first :: rest = number.bytes := by
          simpa only [List.length_cons, full, Nat.sub_self, List.replicate_zero, List.nil_append]
            using whole
        have long : ¬ (0 :: first :: rest).length ≤ 32 := by simp [full]
        have fits : (first :: rest).length = 32 := by simp [full]
        rw [value, dif_neg long]
        exact (dif_pos fits).trans (congrArg Except.ok (Octets.ext exact))
      · have shorter : (0 :: first :: rest).length ≤ 32 := by
          simp only [List.length_cons] at bound ⊢
          omega
        have moved : 32 - (first :: rest).length = 32 - (0 :: first :: rest).length + 1 := by
          simp only [List.length_cons] at shorter ⊢
          omega
        rw [moved, List.replicate_succ', List.append_assoc, List.singleton_append] at whole
        exact value_of_fits name (by simp) shorter whole

theorem readInteger_integer (name : String) (number : Octets 32) (rest : Bytes) :
    readInteger name (integer number ++ rest) = .ok (number, rest) := by
  have length : (UInt8.ofNat (minimal number).length).toNat = (minimal number).length :=
    UInt8.toNat_ofNat_of_lt (Nat.lt_of_le_of_lt (length_minimal number).2 (by decide))
  rw [integer, List.cons_append, List.cons_append, readInteger, if_pos rfl, length]
  simp only [split?_append, value_minimal]
  rfl

theorem readBody_integers (signature : Signature) :
    readBody (integer signature.r ++ integer signature.s) = .ok signature := by
  have last := readInteger_integer "s" signature.s []
  rw [List.append_nil] at last
  rw [readBody, readInteger_integer]
  simp only [bind, Except.bind, last]
  rfl

theorem length_integer (number : Octets 32) :
    3 ≤ (integer number).length ∧ (integer number).length ≤ 35 := by
  have bounds := length_minimal number
  simp only [integer, List.length_cons]
  omega

theorem length_encodeTyped (signature : Signature) (hashType : UInt8) :
    8 < (encodeTyped signature hashType).length ∧ (encodeTyped signature hashType).length ≤ 73 := by
  have first := length_integer signature.r
  have second := length_integer signature.s
  simp only [encodeTyped, encode, List.length_append, List.length_cons, List.length_nil]
  omega

/-- What is written reads back, with the hash type if there is one behind it. -/
theorem decodeTyped_written (signature : Signature) (hashType : Option UInt8) :
    decodeTyped (encode signature ++ hashType.toList) = .ok (signature, hashType) := by
  have first := length_integer signature.r
  have second := length_integer signature.s
  have long : ¬ (encode signature ++ hashType.toList).length < 8 := by
    simp only [encode, List.length_append, List.length_cons]
    omega
  have stated : (UInt8.ofNat (integer signature.r ++ integer signature.s).length).toNat =
      (integer signature.r ++ integer signature.s).length := by
    apply UInt8.toNat_ofNat_of_lt
    rw [List.length_append, UInt8.size]
    omega
  have written : encode signature ++ hashType.toList =
      sequenceTag :: UInt8.ofNat (integer signature.r ++ integer signature.s).length ::
        (integer signature.r ++ integer signature.s ++ hashType.toList) := rfl
  unfold decodeTyped
  rw [if_neg long, written]
  cases hashType with
  | none =>
    simp only [if_true, stated, split?_append, Option.toList_none, readBody_integers]
    rfl
  | some hashType =>
    simp only [if_true, stated, split?_append, Option.toList_some, readBody_integers]
    rfl

theorem decodeTyped_encodeTyped (signature : Signature) (hashType : UInt8) :
    decodeTyped (encodeTyped signature hashType) = .ok (signature, some hashType) :=
  decodeTyped_written signature (some hashType)

end CoinSpend.Der
