import CoinSpend.Proofs.Signature.DerRoundTrip

/-! The signatures that nodes accept in a script (BIP-66): strict DER with a hash type behind it. What is written passes
that check whatever the two numbers are, and reads back as it was. -/
namespace CoinSpend.Der

/-- The one strict form of a number: not empty, its top bit clear, and a zero in front only where the next byte has its
top bit set. -/
def isMinimal : Bytes → Bool
  | [] => false
  | [digit] => digit < 0x80
  | first :: second :: _ => first < 0x80 && (first != 0 || 0x80 ≤ second)

/-- The check by positions, as it is laid down: the size, the sequence that covers all but the hash type, the lengths of
both numbers within it, and each number behind its tag. -/
def isStrict (bytes : Bytes) : Bool :=
  let byte (index : Nat) : UInt8 := bytes.getD index 0
  let r := (byte 3).toNat
  let s := (byte (r + 5)).toNat
  9 ≤ bytes.length && bytes.length ≤ 73 &&
    byte 0 == 0x30 && (byte 1).toNat + 3 == bytes.length &&
    r + 5 < bytes.length && r + s + 7 == bytes.length &&
    byte 2 == 0x02 && isMinimal ((bytes.drop 4).take r) &&
    byte (r + 4) == 0x02 && isMinimal ((bytes.drop (r + 6)).take s)

theorem isMinimal_minimal (number : Octets 32) : isMinimal (minimal number) = true := by
  unfold minimal
  split
  · rfl
  · rename_i first rest significant
    have nonzero : first ≠ 0 := by
      have kept := List.head?_dropWhile_not (· == 0) number.bytes
      rw [significant] at kept
      simpa using kept
    split
    · rename_i low
      cases rest <;> simp [isMinimal, low, nonzero]
    · rename_i high
      simpa [isMinimal] using high

theorem length_pos_of_isMinimal {digits : Bytes} (strict : isMinimal digits = true) : 0 < digits.length := by
  cases digits with
  | nil => cases strict
  | cons digit digits => exact Nat.succ_pos _

/-- Two numbers in the form of a signature pass the check exactly if each has its strict form. -/
theorem isStrict_sequence {r s : Bytes} (hashType : UInt8) (fits : r.length + s.length ≤ 66) :
    isStrict (sequenceTag :: UInt8.ofNat (r.length + s.length + 4) :: integerTag :: UInt8.ofNat r.length ::
      (r ++ integerTag :: UInt8.ofNat s.length :: (s ++ [hashType]))) = (isMinimal r && isMinimal s) := by
  have small {count : Nat} (bound : count ≤ 70) : (UInt8.ofNat count).toNat = count := by
    apply UInt8.toNat_ofNat_of_lt
    rw [UInt8.size]
    omega
  have first : (UInt8.ofNat r.length).toNat = r.length := small (by omega)
  have second : (UInt8.ofNat s.length).toNat = s.length := small (by omega)
  have whole : (UInt8.ofNat (r.length + s.length + 4)).toNat = r.length + s.length + 4 := small (by omega)
  have tag (behind : Bytes) : (r ++ integerTag :: behind).getD r.length 0 = integerTag := by simp
  have length (behind : Bytes) : (r ++ integerTag :: UInt8.ofNat s.length :: behind).getD (r.length + 1) 0 =
      UInt8.ofNat s.length := by simp
  have digits : ((r ++ integerTag :: UInt8.ofNat s.length :: (s ++ [hashType])).drop (r.length + 2)).take s.length =
      s := by simp
  rw [Bool.eq_iff_iff]
  simp only [isStrict, List.getD_cons_succ, List.getD_cons_zero, List.length_cons, List.length_append, List.length_nil,
    List.drop_succ_cons, List.drop_zero, List.take_left', first, second, whole, tag, length, digits, Bool.and_eq_true,
    decide_eq_true_eq, beq_iff_eq]
  constructor
  · rintro ⟨⟨⟨_, strictR⟩, _⟩, strictS⟩
    exact ⟨strictR, strictS⟩
  · rintro ⟨strictR, strictS⟩
    have someR := length_pos_of_isMinimal strictR
    have someS := length_pos_of_isMinimal strictS
    refine ⟨⟨⟨⟨⟨⟨⟨⟨⟨?_, ?_⟩, rfl⟩, ?_⟩, ?_⟩, ?_⟩, rfl⟩, strictR⟩, rfl⟩, strictS⟩ <;> omega

theorem isStrict_encodeTyped (signature : Signature) (hashType : UInt8) :
    isStrict (encodeTyped signature hashType) = true := by
  have boundR := length_minimal signature.r
  have boundS := length_minimal signature.s
  have counted : (integer signature.r ++ integer signature.s).length =
      (minimal signature.r).length + (minimal signature.s).length + 4 := by
    simp only [integer, List.length_append, List.length_cons]
    omega
  have written : encodeTyped signature hashType =
      sequenceTag :: UInt8.ofNat ((minimal signature.r).length + (minimal signature.s).length + 4) :: integerTag ::
        UInt8.ofNat (minimal signature.r).length :: (minimal signature.r ++
          integerTag :: UInt8.ofNat (minimal signature.s).length :: (minimal signature.s ++ [hashType])) := by
    rw [encodeTyped, encode, counted]
    simp only [integer, List.cons_append, List.append_assoc]
  rw [written, isStrict_sequence hashType (by omega), isMinimal_minimal, isMinimal_minimal]
  rfl

/-- A signature in a script is strict whatever its numbers are. With and without the hash type it reads back. -/
theorem encode_strict (signature : Signature) (hashType : UInt8) :
    isStrict (encodeTyped signature hashType) = true ∧
      decodeTyped (encodeTyped signature hashType) = .ok (signature, some hashType) ∧
      decodeTyped (encode signature) = .ok (signature, none) := by
  refine ⟨isStrict_encodeTyped signature hashType, decodeTyped_written signature (some hashType), ?_⟩
  have plain := decodeTyped_written signature none
  rwa [Option.toList_none, List.append_nil] at plain

end CoinSpend.Der
