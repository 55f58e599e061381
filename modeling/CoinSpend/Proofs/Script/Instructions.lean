import Mathlib.Data.List.Flatten
import CoinSpend.Script

/-! A script written instruction by instruction divides into the same instructions. The templates are such scripts, so
removing code separators leaves them alone; their sizes are bounded by those of the hashes in them. -/
namespace CoinSpend.Script

/-- The length bytes and the data are those that the opcode announces. -/
def Instruction.Complete (instruction : Instruction) : Prop :=
  instruction.lengthBytes.length = lengthWidth instruction.opcode ∧
    instruction.data.length = dataLength instruction.opcode instruction.lengthBytes

theorem instruction_complete {found : Instruction} (complete : found.Complete) (rest : Bytes) :
    instruction found.opcode (found.lengthBytes ++ found.data ++ rest) = .ok (found, rest) := by
  obtain ⟨width, size⟩ := complete
  have first : split? (lengthWidth found.opcode) (found.lengthBytes ++ (found.data ++ rest)) =
      some (found.lengthBytes, found.data ++ rest) := split?_eq_some_iff.mpr ⟨width, rfl⟩
  have second : split? (dataLength found.opcode found.lengthBytes) (found.data ++ rest) =
      some (found.data, rest) := split?_eq_some_iff.mpr ⟨size, rfl⟩
  rw [instruction, List.append_assoc, first]
  simp only [second]

/-- What was read before does not bear on what is read. -/
theorem instructionsFrom_reading (before read : List Instruction) (script : Bytes) :
    instructionsFrom (read ++ before) script = (instructionsFrom read script).map (before.reverse ++ ·) := by
  fun_induction instructionsFrom read script with
  | case1 read => rw [instructionsFrom, List.reverse_append, Except.map]
  | case2 read opcode input error failed =>
    rw [instructionsFrom]
    split
    · rename_i same
      cases same.symm.trans failed
      rfl
    · rename_i taken
      cases taken.symm.trans failed
  | case3 read opcode input first rest taken ih =>
    rw [instructionsFrom]
    split
    · rename_i failed
      cases failed.symm.trans taken
    · rename_i same
      cases same.symm.trans taken
      exact ih

/-- A complete instruction at the front of a script is taken off, and the rest divides as it does alone. -/
theorem instructions_bytes {first : Instruction} (complete : first.Complete) (rest : Bytes) :
    instructions (first.bytes ++ rest) = (instructions rest).map (first :: ·) := by
  have step := instruction_complete complete rest
  have behind := instructionsFrom_reading [first] [] rest
  rw [instructions, Instruction.bytes, List.cons_append, instructionsFrom]
  split
  · rename_i failed
    cases step.symm.trans failed
  · rename_i instruction rest taken
    cases step.symm.trans taken
    exact behind

theorem instructions_append {found : List Instruction} (complete : ∀ instruction ∈ found, instruction.Complete)
    (rest : Bytes) :
    instructions (found.flatMap Instruction.bytes ++ rest) = (instructions rest).map (found ++ ·) := by
  induction found with
  | nil =>
    rw [List.flatMap_nil, List.nil_append]
    cases instructions rest <;> rfl
  | cons first others ih =>
    obtain ⟨own, later⟩ := List.forall_mem_cons.mp complete
    rw [List.flatMap_cons, List.append_assoc, instructions_bytes own, ih later]
    cases instructions rest <;> rfl

theorem instructions_complete {found : List Instruction}
    (complete : ∀ instruction ∈ found, instruction.Complete) :
    instructions (found.flatMap Instruction.bytes) = .ok found := by
  have nothing : instructions [] = .ok [] := by rw [instructions, instructionsFrom, List.reverse_nil]
  have read := instructions_append complete []
  rwa [nothing, Except.map, List.append_nil, List.append_nil] at read

theorem bytes_of_instructionsFrom {read found : List Instruction} {script : Bytes}
    (divided : instructionsFrom read script = .ok found) :
    found.flatMap Instruction.bytes = read.reverse.flatMap Instruction.bytes ++ script := by
  fun_induction instructionsFrom read script with
  | case1 read =>
    cases divided
    exact (List.append_nil _).symm
  | case2 read opcode input error failed => cases divided
  | case3 read opcode input first rest taken ih =>
    rw [ih divided, bytes_of_instruction taken]
    simp only [List.reverse_cons, List.flatMap_append, List.flatMap_cons, List.flatMap_nil, List.append_nil,
      List.append_assoc]

/-- No byte is lost or moved when a script is divided. -/
theorem bytes_of_instructions {found : List Instruction} {script : Bytes}
    (divided : instructions script = .ok found) : found.flatMap Instruction.bytes = script :=
  bytes_of_instructionsFrom divided

theorem length_withoutCodeSeparators_le {script code : Bytes}
    (stripped : withoutCodeSeparators script = .ok code) : code.length ≤ script.length := by
  unfold withoutCodeSeparators at stripped
  cases divided : instructions script with
  | error cause =>
    rw [divided] at stripped
    cases stripped
  | ok found =>
    rw [divided] at stripped
    cases stripped
    rw [← bytes_of_instructions divided]
    exact (List.filter_sublist.flatMap _).length_le

/-- Duplicate, hash, the hash itself, compare, check the signature. -/
def p2pkhInstructions (hash : Octets 20) : List Instruction :=
  [⟨0x76, [], []⟩, ⟨0xa9, [], []⟩, ⟨0x14, [], hash.bytes⟩, ⟨0x88, [], []⟩, ⟨0xac, [], []⟩]

theorem push_short {data : Bytes} (short : data.length < 0x4c) : push data = data.length.toUInt8 :: data := by
  rw [push, pushHeader, if_pos short]
  rfl

theorem push_hash (hash : Octets 20) : push hash.bytes = 0x14 :: hash.bytes := by
  rw [push_short (by rw [hash.length_bytes]; decide), hash.length_bytes]
  rfl

theorem p2pkh_instructions (hash : Octets 20) :
    p2pkh hash.bytes = (p2pkhInstructions hash).flatMap Instruction.bytes := by
  rw [p2pkh, push_hash]
  simp [p2pkhInstructions, Instruction.bytes]

theorem p2pkhInstructions_complete (hash : Octets 20) :
    ∀ instruction ∈ p2pkhInstructions hash, instruction.Complete := by
  intro instruction member
  simp only [p2pkhInstructions, List.mem_cons, List.not_mem_nil, or_false] at member
  rcases member with rfl | rfl | rfl | rfl | rfl
  · exact ⟨rfl, rfl⟩
  · exact ⟨rfl, rfl⟩
  · exact ⟨rfl, hash.length_bytes⟩
  · exact ⟨rfl, rfl⟩
  · exact ⟨rfl, rfl⟩

theorem withoutCodeSeparators_p2pkh (hash : Octets 20) :
    withoutCodeSeparators (p2pkh hash.bytes) = .ok (p2pkh hash.bytes) := by
  have kept : (p2pkhInstructions hash).filter (·.opcode != codeSeparator) = p2pkhInstructions hash := rfl
  rw [p2pkh_instructions, withoutCodeSeparators,
    instructions_complete (p2pkhInstructions_complete hash), Except.map, kept]

theorem length_push_le (data : Bytes) : (push data).length ≤ data.length + 5 := by
  have header : (pushHeader data.length).length ≤ 5 := by
    unfold pushHeader
    split
    · simp
    · split
      · simp
      · split <;> simp
  rw [push, List.length_append]
  omega

theorem length_p2pkh_le (hash : Bytes) : (p2pkh hash).length ≤ hash.length + 9 := by
  have pushed := length_push_le hash
  simp only [p2pkh, List.length_append, List.length_cons, List.length_nil]
  omega

theorem length_p2sh_le (hash : Bytes) : (p2sh hash).length ≤ hash.length + 7 := by
  have pushed := length_push_le hash
  simp only [p2sh, List.length_append, List.length_cons, List.length_nil]
  omega

theorem length_witnessV0_le (program : Bytes) : (witnessV0 program).length ≤ program.length + 6 := by
  have pushed := length_push_le program
  simp only [witnessV0, List.length_append, List.length_cons, List.length_nil]
  omega

/-- The script pays to the hash of a single key, byte by byte. -/
def PaysToKey (hash : Octets 20) (scriptType : ScriptType) (script : Bytes) : Prop :=
  match scriptType with
  | .p2pkh => script = [0x76, 0xa9, 0x14] ++ hash.bytes ++ [0x88, 0xac]
  | .p2shP2wpkh => script = [0xa9, 0x14] ++ (hash160 ([0x00, 0x14] ++ hash.bytes)).bytes ++ [0x87]
  | .p2wpkh => script = [0x00, 0x14] ++ hash.bytes
  | _ => False

theorem paysToKey_of_forKey {hash : Octets 20} {scriptType : ScriptType} {script : Bytes}
    (made : forKey hash scriptType = .ok script) : PaysToKey hash scriptType script := by
  cases scriptType with
  | p2pkh =>
    cases made
    rw [PaysToKey, p2pkh, push_hash]
    rfl
  | p2shP2wpkh =>
    cases made
    rw [PaysToKey, p2sh, push_hash, witnessV0, push_hash]
    simp only [List.cons_append, List.nil_append]
  | p2wpkh =>
    cases made
    rw [PaysToKey, witnessV0, push_hash]
    rfl
  | p2sh | p2wsh | p2shP2wsh => contradiction

/-- The script does nothing but carry data. Its length is one byte, with an opcode of its own if it could be taken for
another opcode. -/
def Carries (data script : Bytes) : Prop :=
  data.length ≤ 80 ∧
    script = [0x6a] ++ (if data.length < 0x4c then [] else [0x4c]) ++ [data.length.toUInt8] ++ data

theorem carries_of_opReturn {data script : Bytes} (made : opReturn data = .ok script) : Carries data script := by
  unfold opReturn at made
  split at made
  · contradiction
  · rename_i small
    cases made
    refine ⟨Nat.le_of_not_lt small, ?_⟩
    by_cases short : data.length < 0x4c
    · rw [push_short short, if_pos short]
      rfl
    · have single : data.length ≤ 0xff := Nat.le_trans (Nat.le_of_not_lt small) (by decide)
      rw [push, pushHeader, if_neg short, if_pos single, if_neg short]
      simp only [littleEndian, List.cons_append, List.nil_append, Nat.mod_eq_of_lt (Nat.lt_succ_of_le single)]

theorem forKey_of_singleKey (hash : Octets 20) {scriptType : ScriptType}
    (single : scriptType.isMultisig = false) : ∃ script, forKey hash scriptType = .ok script := by
  cases scriptType with
  | p2pkh | p2shP2wpkh | p2wpkh => exact ⟨_, rfl⟩
  | p2sh | p2wsh | p2shP2wsh => contradiction

theorem length_forKey_le {hash : Octets 20} {scriptType : ScriptType} {script : Bytes}
    (found : forKey hash scriptType = .ok script) : script.length ≤ 29 := by
  cases scriptType with
  | p2pkh =>
    cases found
    exact Nat.le_trans (length_p2pkh_le _) (Nat.le_of_eq (by rw [hash.length_bytes]))
  | p2shP2wpkh =>
    cases found
    exact Nat.le_trans (length_p2sh_le _) (by rw [Octets.length_bytes]; decide)
  | p2wpkh =>
    cases found
    exact Nat.le_trans (length_witnessV0_le _) (by rw [hash.length_bytes]; decide)
  | p2sh | p2wsh | p2shP2wsh => contradiction

theorem length_opReturn_le {data script : Bytes} (made : opReturn data = .ok script) :
    script.length ≤ 86 := by
  unfold opReturn at made
  split at made
  · contradiction
  · rename_i small
    cases made
    have pushed := length_push_le data
    simp only [maxReturnData, List.length_append, List.length_cons, List.length_nil] at small ⊢
    omega

end CoinSpend.Script
