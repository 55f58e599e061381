import Mathlib.Data.Nat.Bitwise
import CoinSpend.Proofs.Address.CashAddr

/-! Damage to an address that stays within eight neighbouring characters. The checksum is a register of eight symbols that
can be run backwards: behind a window of that width two different texts leave it in two different states, and equal symbols
keep these apart. So of two such texts one at most is an address. -/
namespace CoinSpend

/-- Two lists of one length that agree outside a window of `width` places. -/
structure DifferWithin {α : Type} (width : Nat) (left right : List α) : Prop where
  length : left.length = right.length
  window : ∃ start, ∀ index : Nat, left[index]? ≠ right[index]? → start ≤ index ∧ index < start + width

namespace DifferWithin

variable {α β : Type} {width : Nat} {left right : List α}

theorem map (differ : DifferWithin width left right) (change : α → β) :
    DifferWithin width (left.map change) (right.map change) := by
  obtain ⟨length, start, window⟩ := differ
  refine ⟨by simp only [List.length_map, length], start, fun index apart => window index fun same => apart ?_⟩
  simp only [List.getElem?_map, same]

theorem parts (differ : DifferWithin width left right) : ∃ front middle other back, middle.length = other.length ∧
    middle.length ≤ width ∧ left = front ++ (middle ++ back) ∧ right = front ++ (other ++ back) := by
  obtain ⟨length, start, window⟩ := differ
  have same {index : Nat} (outside : index < start ∨ start + width ≤ index) : left[index]? = right[index]? := by
    by_contra apart
    have inside := window index apart
    omega
  have front : right.take start = left.take start := by
    apply List.ext_getElem?
    intro index
    simp only [List.getElem?_take]
    split
    · rename_i before
      exact (same (.inl before)).symm
    · rfl
  have back : (right.drop start).drop width = (left.drop start).drop width := by
    apply List.ext_getElem?
    intro index
    simp only [List.getElem?_drop]
    exact (same (.inr (by omega))).symm
  refine ⟨left.take start, (left.drop start).take width, (right.drop start).take width,
    (left.drop start).drop width, ?_, List.length_take_le _ _, ?_, ?_⟩
  · simp only [List.length_take, List.length_drop, length]
  · rw [List.take_append_drop, List.take_append_drop]
  · rw [← front, ← back, List.take_append_drop, List.take_append_drop]

theorem of_parts (front back : List α) {middle other : List α} (same : middle.length = other.length)
    (narrow : middle.length ≤ width) : DifferWithin width (front ++ (middle ++ back)) (front ++ (other ++ back)) := by
  refine ⟨by simp only [List.length_append, same], front.length, fun index apart => ?_⟩
  by_contra outside
  apply apart
  by_cases before : index < front.length
  · rw [List.getElem?_append_left before, List.getElem?_append_left before]
  · have after : front.length ≤ index := by omega
    have behind : middle.length ≤ index - front.length := by omega
    rw [List.getElem?_append_right after, List.getElem?_append_right after, List.getElem?_append_right behind,
      List.getElem?_append_right (same ▸ behind), same]

end DifferWithin

namespace Checksum

variable {σ : Type} {step : σ → UInt8 → σ} {value : σ → Nat} {low : Nat}

/-- A register whose steps can be undone: the bits that a step moves out can be told from what it leaves. -/
structure Reversible (step : σ → UInt8 → σ) (value : σ → Nat) (low : Nat) : Prop extends Shifts step value low where
  lost : ∀ remainder other symbol, value remainder < 2 ^ (low + 5) → value other < 2 ^ (low + 5) →
    value (step remainder symbol) = value (step other symbol) → value remainder / 2 ^ low = value other / 2 ^ low

namespace Reversible

variable {remainder other : σ} {symbols : Bytes}

theorem step_injective (reversible : Reversible step value low) {symbol : UInt8} (fits : value remainder < 2 ^ (low + 5))
    (otherFits : value other < 2 ^ (low + 5)) (same : value (step remainder symbol) = value (step other symbol)) :
    value remainder = value other := by
  have high := reversible.lost remainder other symbol fits otherFits same
  obtain ⟨feedback, _, moves⟩ := reversible.feedback remainder
  rw [moves remainder symbol rfl, moves other symbol high.symm, Nat.xor_left_inj, Nat.xor_left_inj, Nat.shiftLeft_eq,
    Nat.shiftLeft_eq] at same
  have lows := Nat.eq_of_mul_eq_mul_right (Nat.two_pow_pos 5) same
  rw [← Nat.div_add_mod (value remainder) (2 ^ low), ← Nat.div_add_mod (value other) (2 ^ low), high, lows]

theorem run_injective (reversible : Reversible step value low) (small : ∀ symbol ∈ symbols, symbol.toNat < 32)
    (fits : value remainder < 2 ^ (low + 5)) (otherFits : value other < 2 ^ (low + 5))
    (same : value (symbols.foldl step remainder) = value (symbols.foldl step other)) : value remainder = value other := by
  induction symbols generalizing remainder other with
  | nil => exact same
  | cons symbol symbols ih =>
    obtain ⟨own, later⟩ := List.forall_mem_cons.mp small
    have next := ih later (reversible.step_lt remainder own) (reversible.step_lt other own) same
    exact reversible.step_injective fits otherFits next

theorem run_fits (reversible : Reversible step value low) (small : ∀ symbol ∈ symbols, symbol.toNat < 32)
    (fits : value remainder < 2 ^ (low + 5)) : value (symbols.foldl step remainder) < 2 ^ (low + 5) := by
  by_cases filled : symbols = []
  · rwa [filled]
  · exact reversible.run_lt small filled remainder

/-- Two windows that leave the same remainder behind equal symbols are equal. -/
theorem window_injective (reversible : Reversible step value low) {front middle window back : Bytes}
    (small : ∀ symbol ∈ front ++ (middle ++ back), symbol.toNat < 32)
    (windowSmall : ∀ symbol ∈ window, symbol.toNat < 32) (long : middle.length = window.length)
    (narrow : 5 * middle.length ≤ low + 5) (fits : value remainder < 2 ^ (low + 5))
    (same : value ((front ++ (middle ++ back)).foldl step remainder) =
      value ((front ++ (window ++ back)).foldl step remainder)) : middle = window := by
  obtain ⟨frontSmall, rest⟩ := List.forall_mem_append.mp small
  obtain ⟨middleSmall, backSmall⟩ := List.forall_mem_append.mp rest
  have start := reversible.run_fits frontSmall fits
  simp only [List.foldl_append] at same
  have ends := reversible.run_injective backSmall (reversible.run_fits middleSmall start)
    (reversible.run_fits windowSmall start) same
  rw [reversible.run_xor middleSmall narrow, reversible.run_xor windowSmall (long ▸ narrow), long, Nat.xor_right_inj] at ends
  exact Symbols.number_injective (by decide) long middleSmall windowSmall ends

end Reversible

end Checksum

namespace CashAddr

variable {lead : String}

/-- Each of the generators has one low bit of its own. -/
theorem feedback_low {out : UInt64} (small : out.toNat < 32) : (feedback out).toNat % 2 ^ 5 = out.toNat := by
  have own : ∀ bits ∈ List.range 32, (feedback (UInt64.ofNat bits)).toNat % 2 ^ 5 = bits := by decide
  have low := own out.toNat (List.mem_range.mpr small)
  rwa [UInt64.ofNat_toNat] at low

theorem polymodStep_low {remainder : UInt64} (fits : remainder.toNat < 2 ^ 40) (symbol : UInt8) :
    (polymodStep remainder symbol).toNat % 2 ^ 5 = symbol.toNat % 2 ^ 5 ^^^ remainder.toNat / 2 ^ 35 := by
  have out : (remainder >>> 35).toNat = remainder.toNat / 2 ^ 35 := by
    rw [UInt64.toNat_shiftRight, Nat.shiftRight_eq_div_pow]
    rfl
  have small : (remainder >>> 35).toNat < 32 := by
    rw [out]
    omega
  rw [(toNat_polymodStep remainder symbol).1, Nat.xor_mod_two_pow, Nat.xor_mod_two_pow, Nat.shiftLeft_eq,
    Nat.mul_mod_left, Nat.zero_xor, feedback_low small, out]

theorem reversible : Checksum.Reversible polymodStep UInt64.toNat 35 where
  toShifts := shifts
  lost := by
    intro remainder other symbol fits otherFits same
    have low := congrArg (· % 2 ^ 5) same
    simp only [polymodStep_low fits, polymodStep_low otherFits, Nat.xor_right_inj] at low
    exact low

/-- The symbols of a text that has no other characters. -/
def symbolsOf (body : List Char) : Bytes := body.map fun c => (Symbols.value? c).getD 0

theorem symbolsOf_spec {body : List Char} (letters : ∀ c ∈ body, c ∈ Symbols.alphabet) :
    (symbolsOf body).map Symbols.character = body ∧ ∀ symbol ∈ symbolsOf body, symbol.toNat < 32 := by
  have own (c : Char) (member : c ∈ Symbols.alphabet) : Symbols.character ((Symbols.value? c).getD 0) = c ∧
      ((Symbols.value? c).getD 0).toNat < 32 := by
    cases known : Symbols.value? c with
    | none => exact absurd member (List.idxOf?_eq_none_iff.mp (Option.map_eq_none_iff.mp known))
    | some symbol =>
      obtain ⟨same, small⟩ := (Symbols.value?_eq_some_iff c symbol).mp known
      exact ⟨same.symm, small⟩
  constructor
  · have same : body.map (Symbols.character ∘ fun c => (Symbols.value? c).getD 0) = body.map id :=
      List.map_congr_left fun c member => (own c (letters c member)).1
    rw [symbolsOf, List.map_map, same, List.map_id]
  · exact List.forall_mem_map.mpr fun c member => (own c (letters c member)).2

/-- A text is read as it stands or behind a colon and whatever is written before it. -/
def Reads (lead : String) (body : List Char) : Prop :=
  ∃ address result, (address = String.ofList body ∨ ∃ written : String, address = written ++ ":" ++ String.ofList body) ∧
    decode address lead = .ok result

theorem Reads.readBody {body : List Char} (letters : ∀ c ∈ body, c ∈ Symbols.alphabet) (reads : Reads lead body) :
    ∃ result, readBody lead body = .ok result := by
  obtain ⟨spelled, small⟩ := symbolsOf_spec letters
  obtain ⟨address, result, rfl | ⟨written, rfl⟩, read⟩ := reads
  · refine ⟨result, ?_⟩
    rw [← spelled] at read ⊢
    exact (decode_characters small).mp read
  · obtain ⟨_, rest, read, same⟩ := decode_iff.mp read
    have absent : ':' ∉ body := by
      rw [← spelled]
      exact fun member => (Symbols.mem_characters small member).2.2.2 rfl
    have solid : ∀ c ∈ ':' :: body, Text.isBlank c = false := by
      rw [← spelled, List.forall_mem_cons]
      exact ⟨by decide, fun c member => (Symbols.mem_characters small member).2.1⟩
    have lowered : Text.lowered body = body := by
      rw [← spelled, Symbols.lowered_characters small]
    rw [toList_behind, Text.trimmed_append_cons solid, Text.lowered_append_cons (by decide), lowered] at same
    rcases same with ⟨rfl, bare⟩ | ⟨same, bare⟩
    · exact absurd (List.mem_append_right _ List.mem_cons_self) bare
    · -- no colon stands in what is read, so the one before it is the one before the text
      have plain : ':' ∉ rest := (readBody_iff.mp read).plain
      have counts := congrArg (List.count ':') same
      simp only [List.count_append, List.count_cons_self, List.count_eq_zero.mpr absent, List.count_eq_zero.mpr bare,
        List.count_eq_zero.mpr plain, Nat.add_eq_right, Nat.zero_add] at counts
      have parts := Text.splitFirst_eq_some_iff.mpr ⟨same, bare⟩
      rw [Text.splitFirst_eq_some_iff.mpr ⟨rfl, List.count_eq_zero.mp counts⟩] at parts
      obtain ⟨_, behind⟩ := Prod.mk.inj (Option.some.inj parts)
      rw [behind]
      exact ⟨result, read⟩

theorem readBody_run {symbols : Bytes} (small : ∀ symbol ∈ symbols, symbol.toNat < 32) {result : Kind × Bytes}
    (read : readBody lead (symbols.map Symbols.character) = .ok result) :
    (covered lead symbols).foldl polymodStep 1 = 1 := by
  obtain ⟨found, characters, read⟩ := bind_eq_ok.mp read
  cases characters.symm.trans (mapM_symbol_iff.mpr ⟨rfl, small⟩)
  split at read
  · cases read
  · split at read
    · cases read
    · rename_i valid
      rwa [Decidable.not_not, polymod, UInt64.xor_eq_zero_iff] at valid

theorem covered_lt (lead : String) {symbols : Bytes} (small : ∀ symbol ∈ symbols, symbol.toNat < 32) :
    ∀ symbol ∈ covered lead symbols, symbol.toNat < 32 := by
  have masked : ∀ byte : UInt8, (byte &&& 0x1f).toNat < 32 := by
    intro byte
    rw [UInt8.toNat_and]
    exact Nat.lt_of_le_of_lt Nat.and_le_right (by decide)
  rw [covered, List.forall_mem_append, List.forall_mem_cons]
  exact ⟨List.forall_mem_map.mpr fun byte _ => masked byte, by decide, small⟩

/-- Of two texts that differ within eight neighbouring symbols, one at most is read. -/
theorem not_reads_both {body other : List Char} (letters : ∀ c ∈ body ++ other, c ∈ Symbols.alphabet)
    (different : body ≠ other) (differ : DifferWithin 8 body other) : ¬ (Reads lead body ∧ Reads lead other) := by
  rintro ⟨reads, readsToo⟩
  obtain ⟨own, others⟩ := List.forall_mem_append.mp letters
  obtain ⟨spelled, small⟩ := symbolsOf_spec own
  obtain ⟨otherSpelled, otherSmall⟩ := symbolsOf_spec others
  obtain ⟨result, read⟩ := reads.readBody own
  obtain ⟨otherResult, otherRead⟩ := readsToo.readBody others
  rw [← spelled] at read
  rw [← otherSpelled] at otherRead
  have same := (readBody_run small read).trans (readBody_run otherSmall otherRead).symm
  have apart : DifferWithin 8 (symbolsOf body) (symbolsOf other) := differ.map _
  obtain ⟨front, middle, window, back, long, narrow, whole, otherWhole⟩ := apart.parts
  rw [whole] at small same
  rw [otherWhole] at otherSmall same
  obtain ⟨_, behind⟩ := List.forall_mem_append.mp otherSmall
  have inside := covered_lt lead small
  rw [covered_append] at same inside
  rw [covered_append] at same
  have equal := reversible.window_injective inside (List.forall_mem_append.mp behind).1 long (by omega) (by decide)
    (congrArg UInt64.toNat same)
  rw [← spelled, ← otherSpelled, whole, otherWhole, equal] at different
  exact different rfl

/-- The checksum finds out local damage. Two different texts of the symbols and of one length that agree outside a window
of eight places are not both read, for one lead and with whatever is written before them. So it finds out one character
put in the place of another, and two neighbours that changed places, in an address of any length. -/
theorem decode_detects (lead : String) :
    (∀ body other, (∀ c ∈ body ++ other, c ∈ Symbols.alphabet) → body ≠ other → DifferWithin 8 body other →
      ¬ (Reads lead body ∧ Reads lead other)) ∧
    (∀ front back c d, (∀ x ∈ front ++ c :: d :: back, x ∈ Symbols.alphabet) → c ≠ d →
      ¬ (Reads lead (front ++ c :: back) ∧ Reads lead (front ++ d :: back)) ∧
      ¬ (Reads lead (front ++ c :: d :: back) ∧ Reads lead (front ++ d :: c :: back))) := by
  refine ⟨fun body other => not_reads_both, fun front back c d letters different => ?_⟩
  simp only [List.forall_mem_append, List.forall_mem_cons] at letters
  obtain ⟨before, first, second, behind⟩ := letters
  have distinct {rest others : List Char} : front ++ c :: rest ≠ front ++ d :: others := fun same =>
    different (List.cons.inj (List.append_cancel_left same)).1
  have one : [c].length = [d].length := rfl
  have two : [c, d].length = [d, c].length := rfl
  have replaced : DifferWithin 8 (front ++ c :: back) (front ++ d :: back) := .of_parts front back one (by simp)
  have swapped : DifferWithin 8 (front ++ c :: d :: back) (front ++ d :: c :: back) :=
    .of_parts front back two (by simp)
  refine ⟨not_reads_both ?_ distinct replaced, not_reads_both ?_ distinct swapped⟩ <;>
    simp only [List.forall_mem_append, List.forall_mem_cons]
  · exact ⟨⟨before, first, behind⟩, before, second, behind⟩
  · exact ⟨⟨before, first, second, behind⟩, before, second, first, behind⟩

/-- The last letter of an address is put in the place of another one, or the two before it change places. -/
theorem decode_detects_sample :
    Reads "bitcoincash" "qpm2qsznhks23z7629mms6s4cwef74vcwvy22gdx6a".toList ∧
      ¬ Reads "bitcoincash" "qpm2qsznhks23z7629mms6s4cwef74vcwvy22gdx6q".toList ∧
      ¬ Reads "bitcoincash" "qpm2qsznhks23z7629mms6s4cwef74vcwvy22gd6xa".toList := by
  have reads : Reads "bitcoincash" "qpm2qsznhks23z7629mms6s4cwef74vcwvy22gdx6a".toList := by
    refine ⟨"bitcoincash:qpm2qsznhks23z7629mms6s4cwef74vcwvy22gdx6a", (.p2pkh, [0x76, 0xa0, 0x40, 0x53, 0xbd, 0xa0,
      0xa8, 0x8b, 0xda, 0x51, 0x77, 0xb8, 0x6a, 0x15, 0xc3, 0xb2, 0x9f, 0x55, 0x98, 0x73]), .inr ⟨"bitcoincash", ?_⟩, ?_⟩
    · decide
    · decide +kernel
  have letters : "qpm2qsznhks23z7629mms6s4cwef74vcwvy22gdx6aq".toList ⊆ Symbols.alphabet := by decide
  have replaced := (decode_detects "bitcoincash").2 "qpm2qsznhks23z7629mms6s4cwef74vcwvy22gdx6".toList [] 'a' 'q'
    (fun _ member => letters member) (by decide)
  have swapped := (decode_detects "bitcoincash").2 "qpm2qsznhks23z7629mms6s4cwef74vcwvy22gd".toList ['a'] 'x' '6'
    (fun _ member => letters (List.mem_append_left ['q'] member)) (by decide)
  exact ⟨reads, fun damaged => replaced.1 ⟨reads, damaged⟩, fun damaged => swapped.2 ⟨reads, damaged⟩⟩

end CashAddr

end CoinSpend
