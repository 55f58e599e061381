import CoinSpend.Proofs.Bytes.Hex
import CoinSpend.Proofs.Failure
import CoinSpend.Proofs.Wire.Reading
import CoinSpend.Wire.Spent

/-! A written transaction reads back as itself, in either wire form. The conditions are those of the network's
reader: some input, counts and scripts of 64-bit length, and witnesses within its allocation limit. -/
namespace CoinSpend

namespace Wire

/-- The bytes that witness items take, each behind its length. -/
def witnessSpace : List Bytes → Nat
  | [] => 0
  | item :: items => item.length + (CompactSize.encode item.length).length + witnessSpace items

def WitnessFits (witness : List Bytes) : Prop :=
  witness.length ≤ maxAllocation ∧ witnessSpace witness ≤ maxAllocation

instance (witness : List Bytes) : Decidable (WitnessFits witness) := inferInstanceAs (Decidable (_ ∧ _))

end Wire

/-- What the network's reader asks of a transaction. -/
structure Transaction.Readable (tx : Transaction) : Prop where
  spends : tx.inputs ≠ []
  inputCount : tx.inputs.length < UInt64.size
  outputCount : tx.outputs.length < UInt64.size
  scriptSigs : ∀ input ∈ tx.inputs, input.scriptSig.length < UInt64.size
  scripts : ∀ output ∈ tx.outputs, output.script.length < UInt64.size
  witnesses : ∀ input ∈ tx.inputs, Wire.WitnessFits input.witness

/-- The input without its witness, as the base form has it. -/
def TxIn.withoutWitness (input : TxIn) : TxIn := { input with witness := [] }

namespace Wire

theorem reads_outpoint (outpoint : Outpoint) : Reads readOutpoint outpoint outpoint.bytes := by
  intro rest
  rw [readOutpoint, Outpoint.bytes, List.append_assoc, reads_octets]
  simp only [reads_uint32 outpoint.vout rest]

theorem reads_input {input : TxIn} (fits : input.scriptSig.length < UInt64.size) :
    Reads readInput input.withoutWitness input.bytes := by
  intro rest
  rw [readInput, TxIn.bytes, List.append_assoc, List.append_assoc, reads_outpoint]
  simp only [reads_sized fits _, reads_uint32 input.sequence rest]
  rfl

theorem reads_output {output : TxOut} (fits : output.script.length < UInt64.size) :
    Reads readOutput output output.bytes := by
  intro rest
  rw [readOutput, TxOut.bytes, List.append_assoc, reads_uint64]
  simp only [reads_sized fits rest]

/-- Writing an input twice over is writing it without its witness. -/
theorem flatMap_bytes_withoutWitness (inputs : List TxIn) :
    (inputs.map TxIn.withoutWitness).flatMap TxIn.bytes = inputs.flatMap TxIn.bytes := by
  rw [List.flatMap_map]
  rfl

theorem reads_inputs {inputs : List TxIn} (count : inputs.length < UInt64.size)
    (fits : ∀ input ∈ inputs, input.scriptSig.length < UInt64.size) :
    Reads (readCounted readInput) (inputs.map TxIn.withoutWitness) (counted TxIn.bytes inputs) := by
  have each : ∀ input ∈ inputs.map TxIn.withoutWitness, Reads readInput input input.bytes := by
    intro input member
    obtain ⟨full, inside, rfl⟩ := List.mem_map.mp member
    exact reads_input (fits full inside)
  have reads := reads_counted (by simpa only [List.length_map] using count) each
  simpa only [counted, List.length_map, flatMap_bytes_withoutWitness] using reads

/-- The reader's cursor stays within the limit as long as what is still to come fits. -/
theorem reads_witnessItems {items : List Bytes} {total used : Nat} (bounded : total ≤ maxAllocation)
    (fits : used + witnessSpace items ≤ maxAllocation + 4 * total) (before : List Bytes) :
    Reads (readWitnessItems total items.length used before) (before.reverse ++ items)
      (items.flatMap sized) := by
  have limit : maxAllocation + 4 * total < UInt64.size := by
    simp only [maxAllocation, UInt64.size] at bounded ⊢
    omega
  induction items generalizing used before with
  | nil =>
    intro rest
    rw [List.length_nil, readWitnessItems, List.flatMap_nil, List.nil_append, List.append_nil]
  | cons item items ih =>
    intro rest
    simp only [witnessSpace] at fits
    have remaining : used + item.length + (CompactSize.encode item.length).length +
        witnessSpace items ≤ maxAllocation + 4 * total := by omega
    have later := ih remaining (item :: before) rest
    have short : item.length < UInt64.size := by omega
    have whole : ¬ UInt64.size ≤ used + item.length + (CompactSize.encode item.length).length := by
      omega
    have room : ¬ maxAllocation + 4 * total <
        used + item.length + (CompactSize.encode item.length).length := by omega
    rw [List.length_cons, readWitnessItems, List.flatMap_cons, sized, List.append_assoc,
      List.append_assoc, CompactSize.reads_encode short]
    simp only [whole, room, if_false, reads_bytes item _, later, List.reverse_cons,
      List.append_assoc, List.singleton_append]

theorem reads_witness {witness : List Bytes} (fits : WitnessFits witness) :
    Reads readWitness witness (counted sized witness) := by
  obtain ⟨count, space⟩ := fits
  intro rest
  have short : witness.length < UInt64.size := Nat.lt_of_le_of_lt count (by decide)
  have room : 4 * witness.length + witnessSpace witness ≤ maxAllocation + 4 * witness.length := by
    omega
  have items := reads_witnessItems count room [] rest
  rw [readWitness, counted, List.append_assoc, CompactSize.reads_encode short]
  simpa only [Nat.not_lt.mpr count, if_false, List.reverse_nil, List.nil_append] using items

theorem reads_witnesses {inputs : List TxIn} (fits : ∀ input ∈ inputs, WitnessFits input.witness)
    (before : List TxIn) :
    Reads (readWitnesses (inputs.map TxIn.withoutWitness) before) (before.reverse ++ inputs)
      (inputs.flatMap TxIn.witnessBytes) := by
  induction inputs generalizing before with
  | nil =>
    intro rest
    rw [List.map_nil, readWitnesses, List.flatMap_nil, List.nil_append, List.append_nil]
  | cons input inputs ih =>
    intro rest
    have later := ih (fun next member => fits next (List.mem_cons_of_mem _ member))
      (input :: before) rest
    rw [List.map_cons, readWitnesses, List.flatMap_cons, List.append_assoc, TxIn.witnessBytes,
      reads_witness (fits input List.mem_cons_self)]
    simpa only [TxIn.withoutWitness, List.reverse_cons, List.append_assoc, List.singleton_append]
      using later

theorem reads_lockTime (version : Int32) (inputs : List TxIn) (outputs : List TxOut) (lockTime : UInt32) :
    Reads (readLockTime version inputs outputs) ⟨version, inputs, outputs, lockTime⟩
      (littleEndian 4 lockTime.toNat) := by
  intro rest
  rw [readLockTime, reads_uint32]

theorem reads_outputs {outputs : List TxOut} (count : outputs.length < UInt64.size)
    (fits : ∀ output ∈ outputs, output.script.length < UInt64.size) :
    Reads (readCounted readOutput) outputs (counted TxOut.bytes outputs) :=
  reads_counted count fun output member => reads_output (fits output member)

theorem withoutWitness_of_no_witness {inputs : List TxIn}
    (none : inputs.any (fun input => !input.witness.isEmpty) = false) :
    inputs.map TxIn.withoutWitness = inputs := by
  refine (List.map_congr_left fun input member => ?_).trans (List.map_id inputs)
  have empty : input.witness = [] := by
    have bare := List.any_eq_false.mp none input member
    simpa using bare
  cases input
  simp_all [TxIn.withoutWitness]

theorem reads_withWitnesses {tx : Transaction} (readable : tx.Readable) (marked : tx.hasWitness = true) :
    Reads (readWithWitnesses tx.version) tx
      (tx.body ++ tx.inputs.flatMap TxIn.witnessBytes ++ tx.lockTimeBytes) := by
  intro rest
  have present : (!tx.inputs.isEmpty && tx.inputs.all (·.witness.isEmpty)) = false := by
    obtain ⟨input, member, filled⟩ := List.any_eq_true.mp marked
    have unlike : tx.inputs.all (·.witness.isEmpty) = false :=
      List.all_eq_false.mpr ⟨input, member, by simpa using filled⟩
    rw [unlike, Bool.and_false]
  simp only [Transaction.body, List.append_assoc]
  rw [readWithWitnesses, reads_inputs readable.inputCount readable.scriptSigs]
  simp only [reads_outputs readable.outputCount readable.scripts _,
    reads_witnesses readable.witnesses [] _, List.reverse_nil, List.nil_append, present,
    Bool.false_eq_true, if_false]
  exact reads_lockTime tx.version tx.inputs tx.outputs tx.lockTime rest

theorem reads_version (tx : Transaction) : Reads Reader.uint32 tx.version.toUInt32 tx.versionBytes :=
  reads_uint32 tx.version.toUInt32

/-- Both wire forms are told apart by the count of inputs, which is zero only in the marker. -/
theorem reads_transaction {tx : Transaction} (readable : tx.Readable) :
    Reads readTransaction tx tx.bytes := by
  intro rest
  unfold Transaction.bytes
  split
  · rename_i marked
    have empty : ∀ following, readCounted readInput (0x00 :: following) = .ok ([], following) :=
      fun _ => rfl
    simp only [List.append_assoc, List.cons_append, List.nil_append]
    rw [readTransaction, reads_version]
    simp only [empty, if_true, Int32.toInt32_toUInt32]
    simpa only [List.append_assoc] using reads_withWitnesses readable marked rest
  · rename_i bare
    have same := withoutWitness_of_no_witness (Bool.not_eq_true _ ▸ bare)
    have inputs := reads_inputs readable.inputCount readable.scriptSigs
    rw [same] at inputs
    obtain ⟨first, others, filled⟩ := List.exists_cons_of_ne_nil readable.spends
    rw [Transaction.baseBytes, Transaction.body, List.append_assoc, List.append_assoc,
      List.append_assoc, readTransaction, reads_version]
    simp only [inputs _]
    rw [filled]
    simp only [reads_outputs readable.outputCount readable.scripts _]
    rw [← filled]
    simp only [Int32.toInt32_toUInt32]
    exact reads_lockTime tx.version tx.inputs tx.outputs tx.lockTime rest

end Wire

namespace Transaction

variable {tx : Transaction}

/-- What was written can be spent: its outputs are found in its hexadecimal form, under its own name. -/
theorem spentOutput_bytes (readable : tx.Readable) (vout : UInt32) {output : TxOut}
    (found : tx.outputs[vout.toNat]? = some output) :
    spentOutput (Hex.encode tx.bytes) vout = .ok ⟨tx.txid, output.value, output.script⟩ := by
  have decoded := Wire.whole_of_reads (Wire.reads_transaction readable)
  refine bind_eq_ok.mpr ⟨tx.bytes, Hex.decodeTrimmed_encode _, bind_eq_ok.mpr ⟨tx, mapError_eq_ok.mpr decoded, ?_⟩⟩
  rw [found]
  rfl

/-- The transaction as it is named: without witnesses. -/
def withoutWitnesses (tx : Transaction) : Transaction := { tx with inputs := tx.inputs.map TxIn.withoutWitness }

theorem hasWitness_withoutWitnesses (tx : Transaction) : tx.withoutWitnesses.hasWitness = false := by
  rw [hasWitness, withoutWitnesses, List.any_map, List.any_eq_false]
  exact fun _ _ => Bool.false_ne_true

theorem baseBytes_withoutWitnesses (tx : Transaction) : tx.withoutWitnesses.baseBytes = tx.baseBytes := by
  simp only [baseBytes, body, withoutWitnesses, Wire.counted, List.length_map, Wire.flatMap_bytes_withoutWitness]
  rfl

theorem Readable.withoutWitnesses (readable : tx.Readable) : tx.withoutWitnesses.Readable where
  spends := fun none => readable.spends (List.map_eq_nil_iff.mp none)
  inputCount := (List.length_map _).trans_lt readable.inputCount
  outputCount := readable.outputCount
  scriptSigs := List.forall_mem_map.mpr readable.scriptSigs
  scripts := readable.scripts
  witnesses := List.forall_mem_map.mpr fun _ _ => ⟨Nat.zero_le _, Nat.zero_le _⟩

theorem bytes_withoutWitnesses (tx : Transaction) : tx.withoutWitnesses.bytes = tx.baseBytes := by
  rw [bytes, hasWitness_withoutWitnesses, if_neg Bool.false_ne_true, baseBytes_withoutWitnesses]

/-- A transaction within the reader's limits reads back as itself with nothing left over; so each of its outputs is found
in its hexadecimal form under its own name. The name is the hash of what reads back as the transaction without
witnesses, and witnesses never change it. -/
theorem bytes_read_back :
    (∀ tx : Transaction, tx.Readable →
      Wire.Reader.whole Wire.readTransaction tx.bytes = .ok tx ∧
      (∀ (vout : UInt32) (inside : vout.toNat < tx.outputs.length), spentOutput (Hex.encode tx.bytes) vout =
        .ok ⟨tx.txid, tx.outputs[vout.toNat].value, tx.outputs[vout.toNat].script⟩) ∧
      ∃ base, tx.txid = (sha256d base).reverse ∧
        Wire.Reader.whole Wire.readTransaction base = .ok tx.withoutWitnesses) ∧
    ∀ tx other : Transaction, other.withoutWitnesses = tx.withoutWitnesses → other.txid = tx.txid := by
  refine ⟨fun tx readable => ⟨Wire.whole_of_reads (Wire.reads_transaction readable), fun vout inside => ?_,
    tx.baseBytes, rfl, ?_⟩, fun tx other same => ?_⟩
  · exact spentOutput_bytes readable vout (List.getElem?_eq_getElem inside)
  · rw [← bytes_withoutWitnesses]
    exact Wire.whole_of_reads (Wire.reads_transaction readable.withoutWitnesses)
  · rw [txid, txid, ← baseBytes_withoutWitnesses, same, baseBytes_withoutWitnesses]

/-- Spends one output the older way and one with a witness, in the form with marker and flag. -/
def mixed : Transaction where
  version := 2
  inputs := [⟨⟨.zeros 32, 0⟩, [0x51], 0xffffffff, []⟩, ⟨⟨.zeros 32, 1⟩, [], 0, [[0x30, 0x01], []]⟩]
  outputs := [⟨390000, [0x6a]⟩, ⟨1, []⟩]
  lockTime := 17

theorem bytes_read_back_mixed : mixed.Readable ∧
    Wire.Reader.whole Wire.readTransaction mixed.bytes = .ok mixed ∧
      spentOutput (Hex.encode mixed.bytes) 0 = .ok ⟨mixed.txid, 390000, [0x6a]⟩ := by
  have readable : mixed.Readable := ⟨by decide, by decide, by decide, by decide, by decide, by decide⟩
  have read := bytes_read_back.1 mixed readable
  exact ⟨readable, read.1, read.2.1 0 (by decide)⟩

end Transaction

end CoinSpend
