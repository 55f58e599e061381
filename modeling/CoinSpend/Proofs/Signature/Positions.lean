import Mathlib.Data.Nat.Init
import CoinSpend.Proofs.Failure
import CoinSpend.Signature.Der

/-! Signatures read by positions, where every access to a byte or to a range of bytes may leave the text. Whatever
lengths a text states, none of these accesses leaves it, and what is read is the same. -/
namespace CoinSpend.Der

/-- Reading by accesses; where one of them leaves the text there is no result, not even an error. -/
abbrev Access := ExceptT Error Option

/-- The bytes from `start` up to `stop`, if they lie in the text. -/
def slice? (bytes : Bytes) (start stop : Nat) : Option Bytes :=
  if start ≤ stop ∧ stop ≤ bytes.length then some ((bytes.take stop).drop start) else none

def byteAt (bytes : Bytes) (index : Nat) : Access UInt8 := ExceptT.lift bytes[index]?

def slice (bytes : Bytes) (start stop : Nat) : Access Bytes := ExceptT.lift (slice? bytes start stop)

/-- Puts zeros in front of at most thirty-two bytes. -/
def padded (digits : Bytes) : Access (Octets 32) :=
  ExceptT.lift (Octets.ofBytes? 32 (List.replicate (32 - digits.length) 0 ++ digits))

def valueAt (name : String) (digits : Bytes) : Access (Octets 32) := do
  if digits.length = 0 then throw (.empty name)
  else if digits.length = 33 then
    let first ← byteAt digits 0
    if first = 0 then padded (← slice digits 1 33) else throw (.noLeadingZero name)
  else if 33 < digits.length then throw (.tooLong name digits.length)
  else padded digits

def integerAt (name : String) (data : Bytes) : Access (Octets 32 × Bytes) := do
  if data.length < 2 then throw (.noInteger name)
  else
    let tag ← byteAt data 0
    if tag = integerTag then
      let length ← byteAt data 1
      match slice? data 2 (2 + length.toNat) with
      | none => throw (.overrun name length.toNat)
      | some digits => return (← valueAt name digits, ← slice data (2 + length.toNat) data.length)
    else throw (.noInteger name)

def bodyAt (body : Bytes) : Access Signature := do
  let (r, rest) ← integerAt "r" body
  let (s, rest) ← integerAt "s" rest
  if rest.length = 0 then return ⟨r, s⟩ else throw (.trailing rest.length)

def decodeAt (bytes : Bytes) : Access (Signature × Option UInt8) := do
  if bytes.length < 8 then throw (.tooShort bytes.length)
  else
    let tag ← byteAt bytes 0
    if tag = sequenceTag then
      let stated ← byteAt bytes 1
      if bytes.length = 2 + stated.toNat then
        return (← bodyAt (← slice bytes 2 (2 + stated.toNat)), none)
      else if bytes.length = 2 + stated.toNat + 1 then
        let hashType ← byteAt bytes (bytes.length - 1)
        return (← bodyAt (← slice bytes 2 (2 + stated.toNat)), some hashType)
      else throw (.sequenceLength stated.toNat bytes.length)
    else throw (.noSequence tag)

variable {α β : Type} {name : String} {bytes front middle rest digits : Bytes}

theorem run_bind {reading : Access α} {value : α} (read : reading.run = some (.ok value)) (next : α → Access β) :
    (reading >>= next).run = (next value).run := by
  rw [ExceptT.run_bind, read]
  rfl

/-- Readings that give the same one after the other give the same. -/
theorem run_bind_both {reading : Access α} {read : Except Error α} {next : α → Access β} {after : α → Except Error β}
    (first : reading.run = some read) (second : ∀ value, (next value).run = some (after value)) :
    (reading >>= next).run = some (read >>= after) := by
  cases read with
  | error error =>
    rw [ExceptT.run_bind, first]
    rfl
  | ok value =>
    rw [run_bind first, second]
    rfl

theorem run_byteAt {index : Nat} {byte : UInt8} (present : bytes[index]? = some byte) :
    (byteAt bytes index).run = some (.ok byte) := by
  rw [byteAt, present]
  rfl

theorem slice?_append (front middle rest : Bytes) :
    slice? (front ++ (middle ++ rest)) front.length (front.length + middle.length) = some middle := by
  have inside : front.length ≤ front.length + middle.length ∧
      front.length + middle.length ≤ (front ++ (middle ++ rest)).length := by
    simp only [List.length_append]
    omega
  rw [slice?, if_pos inside, ← List.append_assoc, ← List.length_append, List.take_left, List.drop_left]

theorem run_slice (front rest : Bytes) {start stop : Nat} (whole : bytes = front ++ (middle ++ rest))
    (begins : start = front.length) (ends : stop = front.length + middle.length) :
    (slice bytes start stop).run = some (.ok middle) := by
  rw [slice, whole, begins, ends, slice?_append]
  rfl

theorem length_padded (fits : digits.length ≤ 32) :
    (List.replicate (32 - digits.length) 0 ++ digits).length = 32 := by
  rw [List.length_append, List.length_replicate]
  omega

theorem run_padded (fits : digits.length ≤ 32) : (padded digits).run =
    some (.ok ⟨List.replicate (32 - digits.length) 0 ++ digits, length_padded fits⟩) := by
  rw [padded, Octets.ofBytes?, dif_pos (length_padded fits)]
  rfl

theorem run_valueAt (name : String) (digits : Bytes) : (valueAt name digits).run = some (value name digits) := by
  unfold valueAt
  fun_cases value name digits with
  | case1 _ _ empty =>
    rw [List.isEmpty_iff.mp empty]
    rfl
  | case2 _ fits filled =>
    rw [List.isEmpty_iff, ← List.length_eq_zero_iff] at filled
    rw [if_neg filled, if_neg (by omega), if_neg (by omega), run_padded fits]
  | case3 rest _ full _ =>
    have read : (slice (0 :: rest) 1 33).run = some (.ok rest) :=
      run_slice [0] [] (by simp) rfl (by simp [full])
    have unpadded : (⟨List.replicate (32 - rest.length) 0 ++ rest, length_padded (Nat.le_of_eq full)⟩ : Octets 32) =
        ⟨rest, full⟩ := by
      apply Octets.ext
      change List.replicate (32 - rest.length) 0 ++ rest = rest
      rw [full]
      rfl
    rw [if_neg (by simp), if_pos (by simp [full]), run_bind (run_byteAt rfl), if_pos rfl, run_bind read,
      run_padded (Nat.le_of_eq full), unpadded]
  | case4 rest _ other long =>
    rw [List.length_cons] at long ⊢
    rw [if_neg (by omega), if_neg (by omega), if_pos (by omega)]
    rfl
  | case5 _ long _ other =>
    rw [if_neg (by omega)]
    split
    · rename_i full
      obtain ⟨first, tail, rfl⟩ := List.exists_cons_of_length_eq_add_one full
      have nonzero : first ≠ 0 := by
        rintro rfl
        exact other tail long rfl (proof_irrel_heq _ _)
      rw [run_bind (run_byteAt rfl), if_neg nonzero]
      rfl
    · rw [if_pos (by omega)]
      rfl

theorem split?_eq_none_iff {count : Nat} : split? count bytes = none ↔ bytes.length < count := by
  constructor
  · intro absent
    rw [← Nat.not_le]
    intro long
    have found := split?_append (bytes.take count) (bytes.drop count)
    rw [List.take_append_drop, List.length_take, Nat.min_eq_left long] at found
    cases absent.symm.trans found
  · intro short
    cases found : split? count bytes with
    | none => rfl
    | some parts =>
      obtain ⟨rfl, rfl⟩ := split?_eq_some_iff.mp found
      rw [List.length_append] at short
      omega

theorem run_integerAt (name : String) (data : Bytes) : (integerAt name data).run = some (readInteger name data) := by
  unfold integerAt
  match data with
  | [] => rfl
  | [_] => rfl
  | tag :: length :: rest =>
    have long : ¬ (tag :: length :: rest).length < 2 := by simp
    rw [if_neg long, run_bind (run_byteAt rfl), readInteger]
    split
    · rw [run_bind (run_byteAt rfl)]
      cases split : split? length.toNat rest with
      | none =>
        have outside : slice? (tag :: length :: rest) 2 (2 + length.toNat) = none := by
          have short := split?_eq_none_iff.mp split
          rw [slice?, if_neg]
          simp only [List.length_cons]
          omega
        rw [outside]
        rfl
      | some parts =>
        obtain ⟨digits, behind⟩ := parts
        obtain ⟨counted, rfl⟩ := split?_eq_some_iff.mp split
        have inside : slice? (tag :: length :: (digits ++ behind)) 2 (2 + length.toNat) = some digits :=
          counted ▸ slice?_append [tag, length] digits behind
        have last : (slice (tag :: length :: (digits ++ behind)) (2 + length.toNat)
            (tag :: length :: (digits ++ behind)).length).run = some (.ok behind) := by
          apply run_slice (tag :: length :: digits) []
          · simp
          · simp [counted]; omega
          · simp; omega
        rw [inside]
        simp only [map_eq_bind]
        refine run_bind_both (run_valueAt name digits) fun number => ?_
        rw [run_bind last]
        rfl
    · rfl

theorem run_bodyAt (body : Bytes) : (bodyAt body).run = some (readBody body) := by
  refine run_bind_both (run_integerAt "r" body) fun first => ?_
  refine run_bind_both (run_integerAt "s" first.2) fun second => ?_
  obtain ⟨s, rest⟩ := second
  cases rest <;> rfl

/-- No access leaves the text, and what is read is the same. -/
theorem run_decodeAt (bytes : Bytes) : (decodeAt bytes).run = some (decodeTyped bytes) := by
  unfold decodeAt decodeTyped
  split
  · rfl
  · rename_i long
    match bytes with
    | [] => exact absurd (by decide) long
    | [_] => exact absurd (by simp) long
    | tag :: stated :: rest =>
      rw [run_bind (run_byteAt rfl)]
      simp only
      split
      · rw [run_bind (run_byteAt rfl)]
        cases parted : split? stated.toNat rest with
        | none =>
          have short := split?_eq_none_iff.mp parted
          simp only [List.length_cons]
          rw [if_neg (by omega), if_neg (by omega)]
          rfl
        | some parts =>
          obtain ⟨body, behind⟩ := parts
          obtain ⟨counted, rfl⟩ := split?_eq_some_iff.mp parted
          have read : (slice (tag :: stated :: (body ++ behind)) 2 (2 + stated.toNat)).run = some (.ok body) :=
            run_slice [tag, stated] behind rfl rfl (by simp [counted])
          -- nothing, one byte or more behind the sequence
          match behind with
          | [] =>
            rw [if_pos (by simp [← counted]; omega), run_bind read]
            simp only [map_eq_bind]
            exact run_bind_both (run_bodyAt body) fun _ => rfl
          | [hashType] =>
            have last : (byteAt (tag :: stated :: (body ++ [hashType]))
                ((tag :: stated :: (body ++ [hashType])).length - 1)).run = some (.ok hashType) :=
              run_byteAt (by simp)
            rw [if_neg (by simp [← counted]; omega), if_pos (by simp [← counted]; omega), run_bind last, run_bind read]
            simp only [map_eq_bind]
            exact run_bind_both (run_bodyAt body) fun _ => rfl
          | _ :: _ :: _ =>
            rw [if_neg (by simp [← counted]; omega), if_neg (by simp [← counted]; omega)]
            rfl
      · rfl

end CoinSpend.Der
