import CoinSpend.Proofs.Bytes.Integers
import CoinSpend.Proofs.Failure
import CoinSpend.Proofs.Script.Instructions

/-! The scripts that are complete opcodes with their data, one after another. They divide in one way, so it is settled which
of their bytes are code separators and which are data. Other scripts are refused. -/
namespace CoinSpend.Script

/-- The opcodes that write the length of their data, and in how many bytes. -/
def countedPushes : List (UInt8 × Nat) := [(0x4c, 1), (0x4d, 2), (0x4e, 4)]

/-- What a complete opcode is: a push whose opcode is the length of its data, a push with its length written behind the
opcode, or an opcode that stands alone. -/
inductive Instruction.Formed : Instruction → Prop
  | direct {data : Bytes} (filled : data ≠ []) (short : data.length ≤ 75) : Formed ⟨UInt8.ofNat data.length, [], data⟩
  | counted {opcode : UInt8} {width : Nat} {data : Bytes} (form : (opcode, width) ∈ countedPushes)
      (fits : data.length < 256 ^ width) : Formed ⟨opcode, littleEndian width data.length, data⟩
  | alone {opcode : UInt8} (other : opcode = 0 ∨ 0x4e < opcode) : Formed ⟨opcode, [], []⟩

variable {opcode : UInt8} {width : Nat} {instruction : Instruction} {found others : List Instruction} {script out : Bytes}

theorem opcode_cases (opcode : UInt8) :
    opcode ≤ 0x4b ∨ (∃ width, (opcode, width) ∈ countedPushes) ∨ 0x4e < opcode := by
  by_cases counts : opcode = 0x4c ∨ opcode = 0x4d ∨ opcode = 0x4e
  · refine .inr (.inl ?_)
    rcases counts with rfl | rfl | rfl
    · exact ⟨1, by decide⟩
    · exact ⟨2, by decide⟩
    · exact ⟨4, by decide⟩
  · grind

theorem lengthWidth_counted (form : (opcode, width) ∈ countedPushes) :
    lengthWidth opcode = width ∧ ∀ lengthBytes, dataLength opcode lengthBytes = ofLittleEndian lengthBytes := by
  simp only [countedPushes, List.mem_cons, Prod.mk.injEq, List.not_mem_nil, or_false] at form
  rcases form with ⟨rfl, rfl⟩ | ⟨rfl, rfl⟩ | ⟨rfl, rfl⟩ <;> exact ⟨rfl, fun _ => rfl⟩

theorem lengthWidth_low (low : opcode ≤ 0x4b) :
    lengthWidth opcode = 0 ∧ ∀ lengthBytes, dataLength opcode lengthBytes = opcode.toNat := by
  refine ⟨?_, fun _ => if_pos low⟩
  rw [lengthWidth, if_neg (by grind), if_neg (by grind), if_neg (by grind)]

theorem lengthWidth_high (high : 0x4e < opcode) : lengthWidth opcode = 0 ∧ dataLength opcode [] = 0 := by
  refine ⟨?_, if_neg (by grind)⟩
  rw [lengthWidth, if_neg (by grind), if_neg (by grind), if_neg (by grind)]

theorem Instruction.Formed.complete (formed : instruction.Formed) : instruction.Complete := by
  cases formed with
  | @direct data filled short =>
    have number : (UInt8.ofNat data.length).toNat = data.length :=
      UInt8.toNat_ofNat_of_lt' (Nat.lt_of_le_of_lt short (by decide))
    have low : UInt8.ofNat data.length ≤ 0x4b := by
      rw [UInt8.le_iff_toNat_le, number]
      exact short
    obtain ⟨noLength, size⟩ := lengthWidth_low low
    exact ⟨noLength.symm, by rw [size, number]⟩
  | counted form fits =>
    obtain ⟨width, size⟩ := lengthWidth_counted form
    exact ⟨by rw [length_littleEndian, width], by rw [size, ofLittleEndian_littleEndian fits]⟩
  | alone other =>
    rcases other with rfl | high
    · exact ⟨rfl, rfl⟩
    · obtain ⟨noLength, noData⟩ := lengthWidth_high high
      exact ⟨noLength.symm, noData.symm⟩

theorem Instruction.Complete.formed (complete : instruction.Complete) : instruction.Formed := by
  obtain ⟨opcode, lengthBytes, data⟩ := instruction
  obtain ⟨width, size⟩ := complete
  dsimp only at width size
  -- the opcode alone decides which form it can be
  rcases opcode_cases opcode with low | ⟨expected, form⟩ | high
  · obtain ⟨noLength, reads⟩ := lengthWidth_low low
    rw [reads] at size
    cases List.eq_nil_of_length_eq_zero (width.trans noLength)
    by_cases filled : data = []
    · cases filled
      have zero : opcode = 0 := UInt8.toNat_inj.mp size.symm
      exact .alone (.inl zero)
    · have spelled : opcode = UInt8.ofNat data.length := by rw [size, UInt8.ofNat_toNat]
      have short : data.length ≤ 75 := by
        rw [size]
        exact UInt8.le_iff_toNat_le.mp low
      rw [spelled]
      exact .direct filled short
  · obtain ⟨same, reads⟩ := lengthWidth_counted form
    rw [same] at width
    rw [reads] at size
    cases width
    have written : lengthBytes = littleEndian lengthBytes.length data.length := by
      rw [size, littleEndian_ofLittleEndian]
    rw [written]
    exact .counted form (size ▸ ofLittleEndian_lt lengthBytes)
  · obtain ⟨noLength, noData⟩ := lengthWidth_high high
    cases List.eq_nil_of_length_eq_zero (width.trans noLength)
    cases List.eq_nil_of_length_eq_zero (size.trans noData)
    exact .alone (.inr high)

/-- A script is these complete opcodes, one after another. -/
def Divides (script : Bytes) (found : List Instruction) : Prop :=
  (∀ instruction ∈ found, instruction.Formed) ∧ found.flatMap Instruction.bytes = script

theorem complete_of_instruction {input rest : Bytes} (read : Script.instruction opcode input = .ok (instruction, rest)) :
    instruction.Complete := by
  unfold Script.instruction at read
  split at read
  · contradiction
  · rename_i first
    split at read
    · contradiction
    · rename_i second
      cases read
      exact ⟨(split?_eq_some_iff.mp first).1, (split?_eq_some_iff.mp second).1⟩

theorem complete_of_instructionsFrom {read : List Instruction} (earlier : ∀ instruction ∈ read, instruction.Complete)
    (divided : instructionsFrom read script = .ok found) : ∀ instruction ∈ found, instruction.Complete := by
  -- along the reading, what was read so far is complete
  fun_induction instructionsFrom read script with
  | case1 read =>
    cases divided
    exact fun instruction member => earlier instruction (List.mem_reverse.mp member)
  | case2 read opcode input error failed => cases divided
  | case3 read opcode input first rest taken ih =>
    exact ih (List.forall_mem_cons.mpr ⟨complete_of_instruction taken, earlier⟩) divided

theorem instructions_eq_ok_iff : instructions script = .ok found ↔ Divides script found := by
  constructor
  · intro divided
    have complete := complete_of_instructionsFrom (List.forall_mem_nil _) divided
    exact ⟨fun instruction member => (complete instruction member).formed, bytes_of_instructions divided⟩
  · rintro ⟨formed, rfl⟩
    exact instructions_complete fun instruction member => (formed instruction member).complete

theorem Divides.unique (divides : Divides script found) (divided : Divides script others) : found = others :=
  Except.ok.inj ((instructions_eq_ok_iff.mpr divides).symm.trans (instructions_eq_ok_iff.mpr divided))

/-- The opcode that splits what is signed. -/
def separator : Instruction := ⟨codeSeparator, [], []⟩

/-- All but the separators. -/
def kept (found : List Instruction) : List Instruction := found.filter (· ≠ separator)

theorem Instruction.Formed.opcode_eq_codeSeparator (formed : instruction.Formed) :
    instruction.opcode = codeSeparator ↔ instruction = separator := by
  obtain ⟨opcode, lengthBytes, data⟩ := instruction
  obtain ⟨width, size⟩ := formed.complete
  constructor
  · rintro rfl
    cases List.eq_nil_of_length_eq_zero width
    cases List.eq_nil_of_length_eq_zero size
    rfl
  · intro same
    cases same
    rfl

theorem Divides.kept_eq (divides : Divides script found) : found.filter (·.opcode != codeSeparator) = kept found := by
  refine List.filter_congr fun instruction member => ?_
  have same := (divides.1 instruction member).opcode_eq_codeSeparator
  rw [Bool.eq_iff_iff, bne_iff_ne, decide_eq_true_iff, ne_eq, ne_eq, same]

theorem Divides.kept (divides : Divides script found) :
    Divides ((Script.kept found).flatMap Instruction.bytes) (Script.kept found) :=
  ⟨fun instruction member => divides.1 instruction (List.mem_of_mem_filter member), rfl⟩

theorem withoutCodeSeparators_of_divides (divides : Divides script found) :
    withoutCodeSeparators script = .ok ((kept found).flatMap Instruction.bytes) := by
  rw [withoutCodeSeparators, instructions_eq_ok_iff.mpr divides, Except.map, divides.kept_eq]

theorem withoutCodeSeparators_eq_ok_iff : withoutCodeSeparators script = .ok out ↔
    ∃ found, Divides script found ∧ out = (kept found).flatMap Instruction.bytes := by
  constructor
  · intro stripped
    obtain ⟨found, divided, _⟩ := map_eq_ok.mp stripped
    have divides := instructions_eq_ok_iff.mp divided
    exact ⟨found, divides, Except.ok.inj (stripped.symm.trans (withoutCodeSeparators_of_divides divides))⟩
  · rintro ⟨found, divides, rfl⟩
    exact withoutCodeSeparators_of_divides divides

/-- A refusal is a complaint about the transaction, whatever is wrong with the script. -/
theorem withoutCodeSeparators_refuses_iff : (¬ ∃ found, Divides script found) ↔
    ∃ error : Error, withoutCodeSeparators script = .error error ∧ error.toFailure.code = .invalidTransaction := by
  constructor
  · intro none
    cases stripped : withoutCodeSeparators script with
    | error error => exact ⟨error, rfl, rfl⟩
    | ok out =>
      obtain ⟨found, divides, _⟩ := withoutCodeSeparators_eq_ok_iff.mp stripped
      exact absurd ⟨found, divides⟩ none
  · rintro ⟨error, refused, _⟩ ⟨found, divides⟩
    cases refused.symm.trans (withoutCodeSeparators_of_divides divides)

/-- Data is never touched: the instructions that carry any are the same before and after. -/
theorem filter_data_kept (found : List Instruction) :
    (kept found).filter (·.data ≠ []) = found.filter (·.data ≠ []) := by
  rw [kept, List.filter_filter]
  refine List.filter_congr fun instruction _ => ?_
  have bare : instruction.data ≠ [] → instruction ≠ separator := by
    rintro filled rfl
    exact filled rfl
  rw [Bool.eq_iff_iff, Bool.and_eq_true, decide_eq_true_iff, decide_eq_true_iff]
  exact ⟨And.left, fun filled => ⟨filled, bare filled⟩⟩

theorem withoutCodeSeparators_bare (divides : Divides script found) (bare : separator ∉ found) :
    withoutCodeSeparators script = .ok script := by
  have all : kept found = found := List.filter_eq_self.mpr fun instruction member =>
    decide_eq_true fun same => bare (same ▸ member)
  rw [withoutCodeSeparators_of_divides divides, all, divides.2]

theorem withoutCodeSeparators_idempotent (stripped : withoutCodeSeparators script = .ok out) :
    withoutCodeSeparators out = .ok out := by
  obtain ⟨found, divides, rfl⟩ := withoutCodeSeparators_eq_ok_iff.mp stripped
  have bare : separator ∉ kept found := fun member => of_decide_eq_true (List.mem_filter.mp member).2 rfl
  exact withoutCodeSeparators_bare divides.kept bare

theorem withoutCodeSeparators_append (stripped : withoutCodeSeparators script = .ok out) (rest : Bytes) :
    withoutCodeSeparators (script ++ rest) = (withoutCodeSeparators rest).map (out ++ ·) := by
  obtain ⟨found, divided, rfl⟩ := map_eq_ok.mp stripped
  obtain ⟨formed, rfl⟩ := instructions_eq_ok_iff.mp divided
  have complete : ∀ instruction ∈ found, instruction.Complete := fun instruction member =>
    (formed instruction member).complete
  rw [withoutCodeSeparators, instructions_append complete, withoutCodeSeparators]
  cases instructions rest with
  | error error => rfl
  | ok others =>
    simp only [Except.map, List.filter_append, List.flatMap_append]

/-- Removing the code separators goes by the opcodes. It succeeds exactly on the scripts that divide into complete opcodes,
which they do in one way; it then gives these opcodes with their data in their order, less the separators, and refuses all
other scripts. So no data changes, a second removal has no effect, a script without separators stays as it is, and a script
behind one that divides is treated as it is alone. -/
theorem withoutCodeSeparators_exact (script : Bytes) :
    (∀ out, withoutCodeSeparators script = .ok out ↔
      ∃ found, Divides script found ∧ out = (kept found).flatMap Instruction.bytes) ∧
    ((¬ ∃ found, Divides script found) ↔
      ∃ error : Error, withoutCodeSeparators script = .error error ∧ error.toFailure.code = .invalidTransaction) ∧
    (∀ found, Divides script found → (∀ others, Divides script others → others = found) ∧
      Divides ((kept found).flatMap Instruction.bytes) (kept found) ∧
      (kept found).filter (·.data ≠ []) = found.filter (·.data ≠ []) ∧
      (separator ∉ found → withoutCodeSeparators script = .ok script)) ∧
    ∀ out, withoutCodeSeparators script = .ok out → withoutCodeSeparators out = .ok out ∧
      ∀ rest, withoutCodeSeparators (script ++ rest) = (withoutCodeSeparators rest).map (out ++ ·) := by
  refine ⟨fun out => withoutCodeSeparators_eq_ok_iff, withoutCodeSeparators_refuses_iff, fun found divides => ?_,
    fun out stripped => ?_⟩
  · exact ⟨fun others divided => divided.unique divides, divides.kept, filter_data_kept found,
      withoutCodeSeparators_bare divides⟩
  · exact ⟨withoutCodeSeparators_idempotent stripped, withoutCodeSeparators_append stripped⟩

/-- A separator, a push of two bytes that look like separators, a separator, and the check of a signature. -/
theorem withoutCodeSeparators_exact_sample :
    Divides [0xab, 0x02, 0xab, 0xab, 0xab, 0xac] [separator, ⟨0x02, [], [0xab, 0xab]⟩, separator, ⟨0xac, [], []⟩] ∧
      separator ∉ [(⟨0x02, [], [0xab, 0xab]⟩ : Instruction), ⟨0xac, [], []⟩] ∧
      withoutCodeSeparators [0xab, 0x02, 0xab, 0xab, 0xab, 0xac] = .ok [0x02, 0xab, 0xab, 0xac] ∧
      withoutCodeSeparators [0x02, 0xab, 0xab, 0xac] = .ok [0x02, 0xab, 0xab, 0xac] ∧
      withoutCodeSeparators [0xab, 0x02, 0xab, 0xab, 0xab, 0xac, 0x02, 0xab, 0xab, 0xac] =
        .ok [0x02, 0xab, 0xab, 0xac, 0x02, 0xab, 0xab, 0xac] := by
  have twoBytes : Instruction.Formed ⟨0x02, [], [0xab, 0xab]⟩ := @Instruction.Formed.direct [0xab, 0xab] (by decide) (by decide)
  have divides : Divides [0xab, 0x02, 0xab, 0xab, 0xab, 0xac]
      [separator, ⟨0x02, [], [0xab, 0xab]⟩, separator, ⟨0xac, [], []⟩] := by
    refine ⟨?_, rfl⟩
    simp only [List.forall_mem_cons]
    exact ⟨.alone (by decide), twoBytes, .alone (by decide), .alone (by decide), List.forall_mem_nil _⟩
  have bare : separator ∉ [(⟨0x02, [], [0xab, 0xab]⟩ : Instruction), ⟨0xac, [], []⟩] := by decide
  obtain ⟨strips, _, whole, again⟩ := withoutCodeSeparators_exact [0xab, 0x02, 0xab, 0xab, 0xab, 0xac]
  have stripped := (strips [0x02, 0xab, 0xab, 0xac]).mpr ⟨_, divides, by decide⟩
  obtain ⟨_, dividesOut, _⟩ := whole _ divides
  obtain ⟨_, behind⟩ := again _ stripped
  have kept := ((withoutCodeSeparators_exact [0x02, 0xab, 0xab, 0xac]).2.2.1 _ dividesOut).2.2.2 bare
  have twice := behind [0x02, 0xab, 0xab, 0xac]
  rw [kept] at twice
  exact ⟨divides, bare, stripped, kept, twice⟩

end CoinSpend.Script
