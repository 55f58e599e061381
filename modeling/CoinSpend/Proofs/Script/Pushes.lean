import CoinSpend.Proofs.Related
import CoinSpend.Proofs.Script.Separators

/-! Pushes of data, one after another behind a script that divides. Each of them is one opcode with its data, in the shortest
form that a push of that data can have. So the data is found again in the script, and none of its bytes is taken for a
separator. -/
namespace CoinSpend.Script

/-- The script with a push of each item put behind it, in order. -/
def pushAll (script : Bytes) (items : List Bytes) : Bytes := items.foldl (fun script item => script ++ push item) script

/-- The forms of a push: with the length of its data as the opcode, or with the length written behind the opcode. -/
inductive PushForm (data : Bytes) : Instruction → Prop
  | direct (short : data.length ≤ 75) : PushForm data ⟨UInt8.ofNat data.length, [], data⟩
  | counted {opcode : UInt8} {width : Nat} (form : (opcode, width) ∈ countedPushes) (fits : data.length < 256 ^ width) :
      PushForm data ⟨opcode, littleEndian width data.length, data⟩

/-- A push of the data that is shorter than all others. -/
structure ShortestPush (data : Bytes) (instruction : Instruction) : Prop where
  form : PushForm data instruction
  shortest : ∀ other, PushForm data other → other ≠ instruction → instruction.bytes.length < other.bytes.length

variable {data script : Bytes} {items others : List Bytes} {found : List Instruction} {instruction other : Instruction}

theorem counted_unique {opcode opcode' : UInt8} {width : Nat} (form : (opcode, width) ∈ countedPushes)
    (again : (opcode', width) ∈ countedPushes) : opcode = opcode' := by
  simp only [countedPushes, List.mem_cons, Prod.mk.injEq, List.not_mem_nil, or_false] at form again
  grind

namespace PushForm

theorem data_eq (form : PushForm data instruction) : instruction.data = data := by
  cases form with
  | direct short => rfl
  | counted form fits => rfl

theorem formed (form : PushForm data instruction) : instruction.Formed := by
  cases form with
  | direct short =>
    by_cases filled : data = []
    · rw [filled]
      exact .alone (.inl rfl)
    · exact .direct filled short
  | counted form fits => exact .counted form fits

theorem length_bytes (form : PushForm data instruction) :
    instruction.bytes.length = instruction.lengthBytes.length + data.length + 1 := by
  rw [Instruction.bytes, List.length_cons, List.length_append, form.data_eq]

/-- Which length bytes there are, and the data for which they are enough. -/
theorem length_lengthBytes (form : PushForm data instruction) :
    instruction.lengthBytes.length = 0 ∧ data.length ≤ 75 ∨ instruction.lengthBytes.length = 1 ∧ data.length < 2 ^ 8 ∨
      instruction.lengthBytes.length = 2 ∧ data.length < 2 ^ 16 ∨
      instruction.lengthBytes.length = 4 ∧ data.length < 2 ^ 32 := by
  cases form with
  | direct short => exact .inl ⟨rfl, short⟩
  | counted form fits =>
    rw [length_littleEndian]
    simp only [countedPushes, List.mem_cons, Prod.mk.injEq, List.not_mem_nil, or_false] at form
    rcases form with ⟨rfl, rfl⟩ | ⟨rfl, rfl⟩ | ⟨rfl, rfl⟩ <;> omega

theorem ne_separator (form : PushForm data instruction) : instruction ≠ separator := by
  intro same
  have bare : data = [] := by
    rw [← form.data_eq, same]
    rfl
  subst bare
  have opcode := congrArg Instruction.opcode same
  cases form with
  | direct short => exact absurd opcode (by decide)
  | counted form fits =>
    have others : ∀ counted ∈ countedPushes, counted.1 ≠ codeSeparator := by decide
    exact others _ form opcode

/-- The number of length bytes tells the forms apart. -/
theorem eq_of_length_eq (form : PushForm data instruction) (again : PushForm data other)
    (same : instruction.lengthBytes.length = other.lengthBytes.length) : instruction = other := by
  have counts : ∀ counted ∈ countedPushes, counted.2 ≠ 0 := by decide
  cases form with
  | direct short =>
    cases again with
    | direct short => rfl
    | counted form fits =>
      rw [length_littleEndian] at same
      exact absurd same.symm (counts _ form)
  | counted form fits =>
    cases again with
    | direct short =>
      rw [length_littleEndian] at same
      exact absurd same (counts _ form)
    | counted again fits =>
      rw [length_littleEndian, length_littleEndian] at same
      subst same
      rw [counted_unique form again]

theorem shortestPush (form : PushForm data instruction)
    (least : ∀ other, PushForm data other → instruction.lengthBytes.length ≤ other.lengthBytes.length) :
    ShortestPush data instruction := by
  refine ⟨form, fun other again differs => ?_⟩
  have fewer := least other again
  have unequal : instruction.lengthBytes.length ≠ other.lengthBytes.length :=
    fun same => differs (form.eq_of_length_eq again same).symm
  rw [form.length_bytes, again.length_bytes]
  omega

/-- A counted push is the shortest if the data has no room in the form with the next fewer length bytes. -/
theorem exists_counted {opcode : UInt8} {width : Nat} (form : (opcode, width) ∈ countedPushes)
    (fits : data.length < 256 ^ width)
    (crowded : width = 1 ∧ 75 < data.length ∨ width = 2 ∧ 2 ^ 8 ≤ data.length ∨ width = 4 ∧ 2 ^ 16 ≤ data.length) :
    ∃ instruction, ShortestPush data instruction ∧
      instruction.bytes = opcode :: littleEndian width data.length ++ data := by
  have pushed : PushForm data ⟨opcode, littleEndian width data.length, data⟩ := .counted form fits
  refine ⟨_, pushed.shortestPush fun other again => ?_, rfl⟩
  have length := again.length_lengthBytes
  rw [length_littleEndian]
  omega

end PushForm

/-- What is written for data is the shortest push of it. -/
theorem exists_shortestPush (fits : data.length < 2 ^ 32) :
    ∃ instruction, ShortestPush data instruction ∧ instruction.bytes = push data := by
  rw [push, pushHeader]
  split
  · rename_i short
    have form : PushForm data _ := .direct (Nat.le_of_lt_succ short)
    exact ⟨_, form.shortestPush fun other _ => Nat.zero_le _, rfl⟩
  -- each branch of the header is taken just where the form before it has no room
  · split
    · exact PushForm.exists_counted (by decide) (by omega) (by omega)
    · split
      · exact PushForm.exists_counted (by decide) (by omega) (by omega)
      · exact PushForm.exists_counted (by decide) (by omega) (by omega)

theorem ShortestPush.bytes_eq (pushed : ShortestPush data instruction) : instruction.bytes = push data := by
  have length := pushed.form.length_lengthBytes
  have fits : data.length < 2 ^ 32 := by omega
  obtain ⟨written, shortest, same⟩ := exists_shortestPush fits
  by_cases differs : written = instruction
  · rw [← differs, same]
  · have longer := pushed.shortest written shortest.form differs
    have shorter := shortest.shortest instruction pushed.form (Ne.symm differs)
    omega

theorem exists_shortestPushes (fit : ∀ item ∈ items, item.length < 2 ^ 32) :
    ∃ pushes, List.Forall₂ ShortestPush items pushes :=
  exists_forall₂ fun item member => (exists_shortestPush (fit item member)).imp fun _ => And.left

theorem map_data_of_pushes {pushes : List Instruction} (each : List.Forall₂ ShortestPush items pushes) :
    pushes.map (·.data) = items := by
  induction each with
  | nil => rfl
  | cons shortest _ ih => rw [List.map_cons, shortest.form.data_eq, ih]

theorem separator_notMem_pushes {pushes : List Instruction} (each : List.Forall₂ ShortestPush items pushes) :
    separator ∉ pushes := by
  induction each with
  | nil => exact List.not_mem_nil
  | cons shortest _ ih => exact fun member => (List.mem_cons.mp member).elim shortest.form.ne_separator.symm ih

/-- A push behind a script that divides is one opcode more. -/
theorem Divides.push (divides : Divides script found) (shortest : ShortestPush data instruction) :
    Divides (script ++ Script.push data) (found ++ [instruction]) := by
  refine ⟨List.forall_mem_append.mpr ⟨divides.1, List.forall_mem_singleton.mpr shortest.form.formed⟩, ?_⟩
  rw [List.flatMap_append, List.flatMap_singleton, divides.2, shortest.bytes_eq]

theorem Divides.pushAll {pushes : List Instruction} (divides : Divides script found)
    (each : List.Forall₂ ShortestPush items pushes) : Divides (Script.pushAll script items) (found ++ pushes) := by
  induction each generalizing script found with
  | nil => rwa [List.append_nil]
  | cons shortest _ ih =>
    rw [List.append_cons]
    exact ih (divides.push shortest)

theorem pushAll_eq (script : Bytes) (items : List Bytes) : pushAll script items = script ++ items.flatMap push := by
  rw [pushAll, List.foldl_append_eq_append, List.flatMap_def]

theorem divides_nil : Divides [] [] := ⟨List.forall_mem_nil _, rfl⟩

/-- Pushes that are put behind a script can be told apart there. -/
theorem pushAll_injective (divides : Divides script found) (fit : ∀ item ∈ items, item.length < 2 ^ 32)
    (fitOthers : ∀ item ∈ others, item.length < 2 ^ 32) (same : pushAll script others = pushAll script items) :
    others = items := by
  obtain ⟨pushes, each⟩ := exists_shortestPushes fit
  obtain ⟨pushes', each'⟩ := exists_shortestPushes fitOthers
  have equal := (divides.pushAll each).unique (same ▸ divides.pushAll each')
  rw [← map_data_of_pushes each, ← map_data_of_pushes each', List.append_cancel_left equal]

theorem withoutCodeSeparators_pushAll {code : Bytes} (fit : ∀ item ∈ items, item.length < 2 ^ 32)
    (stripped : withoutCodeSeparators script = .ok code) :
    withoutCodeSeparators (pushAll script items) = .ok (pushAll code items) := by
  obtain ⟨pushes, each⟩ := exists_shortestPushes fit
  have bare := withoutCodeSeparators_bare (divides_nil.pushAll each) (separator_notMem_pushes each)
  rw [pushAll_eq, List.nil_append] at bare
  rw [pushAll_eq, withoutCodeSeparators_append stripped, bare, pushAll_eq, Except.map]

/-- Items that are pushed one after another, on their own or behind a script that divides, are one opcode each, in their
order, and each opcode is the shortest push of its item. So the items can be read off the script, and removing the code
separators from it takes none of their bytes. -/
theorem pushAll_exact (fit : ∀ item ∈ items, item.length < 2 ^ 32) :
    ∃ pushes, List.Forall₂ ShortestPush items pushes ∧ pushes.map (·.data) = items ∧
      instructions (pushAll [] items) = .ok pushes ∧
      withoutCodeSeparators (pushAll [] items) = .ok (pushAll [] items) ∧
      ∀ front found, Divides front found → instructions (pushAll front items) = .ok (found ++ pushes) ∧
        (∀ others, (∀ item ∈ others, item.length < 2 ^ 32) → pushAll front others = pushAll front items →
          others = items) ∧
        ∀ code, withoutCodeSeparators front = .ok code →
          withoutCodeSeparators (pushAll front items) = .ok (pushAll code items) := by
  obtain ⟨pushes, each⟩ := exists_shortestPushes fit
  have nothing := withoutCodeSeparators_bare divides_nil List.not_mem_nil
  refine ⟨pushes, each, map_data_of_pushes each, instructions_eq_ok_iff.mpr (divides_nil.pushAll each),
    withoutCodeSeparators_pushAll fit nothing, fun front found divides => ⟨?_, ?_, ?_⟩⟩
  · exact instructions_eq_ok_iff.mpr (divides.pushAll each)
  · exact fun others fitOthers same => pushAll_injective divides fit fitOthers same
  · exact fun code stripped => withoutCodeSeparators_pushAll fit stripped

/-- Two bytes that look like separators, nothing, and seventy-six such bytes, all behind a separator, which alone
is removed. -/
theorem pushAll_exact_sample : let items : List Bytes := [[0xab, 0xab], [], List.replicate 76 0xab]
    (∀ item ∈ items, item.length < 2 ^ 32) ∧ Divides [0xab] [separator] ∧
      (∃ pushes, instructions (pushAll [0xab] items) = .ok (separator :: pushes) ∧ pushes.map (·.data) = items) ∧
      withoutCodeSeparators (pushAll [0xab] items) =
        .ok ([0x02, 0xab, 0xab, 0x00, 0x4c, 76] ++ List.replicate 76 0xab) := by
  intro items
  have fit : ∀ item ∈ items, item.length < 2 ^ 32 := by decide
  have divides : Divides [0xab] [separator] := ⟨List.forall_mem_singleton.mpr (.alone (by decide)), rfl⟩
  have removed : withoutCodeSeparators [0xab] = .ok [] := withoutCodeSeparators_of_divides divides
  obtain ⟨pushes, _, carried, _, _, behind⟩ := pushAll_exact fit
  obtain ⟨divided, _, strips⟩ := behind [0xab] [separator] divides
  exact ⟨fit, divides, ⟨pushes, divided, carried⟩, strips [] removed⟩

end CoinSpend.Script
