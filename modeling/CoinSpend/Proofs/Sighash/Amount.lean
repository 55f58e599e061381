import CoinSpend.Proofs.Sighash.Legacy

/-! What a pre-image with the spent amount commits to. Its fields have fixed places but for the script code, which
carries its length. Outpoints, sequence numbers and outputs enter as hashes only, so that lists which differ under
equal pre-images are a collision of the double hash. -/
namespace CoinSpend

namespace Transaction

def outpoints (tx : Transaction) : List Outpoint := tx.inputs.map (·.outpoint)

def sequences (tx : Transaction) : List UInt32 := tx.inputs.map (·.sequence)

end Transaction

namespace Sighash

/-- Two messages with one double hash. -/
structure Collide (message other : Bytes) : Prop where
  differ : message ≠ other
  hashed : sha256d message = sha256d other

def outpointBytes (tx : Transaction) : Bytes := tx.outpoints.flatMap Outpoint.bytes

def sequenceBytes (tx : Transaction) : Bytes := tx.sequences.flatMap fun value => littleEndian 4 value.toNat

def outputBytes (tx : Transaction) : Bytes := tx.outputs.flatMap TxOut.bytes

theorem hashPrevouts_eq (tx : Transaction) : hashPrevouts tx = sha256d (outpointBytes tx) := by
  rw [hashPrevouts, outpointBytes, Transaction.outpoints, List.flatMap_map]

theorem hashSequence_eq (tx : Transaction) : hashSequence tx = sha256d (sequenceBytes tx) := by
  rw [hashSequence, sequenceBytes, Transaction.sequences, List.flatMap_map]

theorem hashOutputs_eq (tx : Transaction) : hashOutputs tx = sha256d (outputBytes tx) := rfl

/-- If equal messages mean equal contents, equal hashes mean equal contents or a collision. -/
theorem sha256d_eq_iff {content : Prop} {message other : Bytes} (means : message = other ↔ content) :
    sha256d message = sha256d other ↔ content ∨ Collide message other := by
  constructor
  · intro hashed
    by_cases same : message = other
    · exact .inl (means.mp same)
    · exact .inr ⟨same, hashed⟩
  · rintro (same | ⟨_, hashed⟩)
    · rw [means.mpr same]
    · exact hashed

theorem hashPrevouts_eq_iff {tx other : Transaction} : hashPrevouts tx = hashPrevouts other ↔
    tx.outpoints = other.outpoints ∨ Collide (outpointBytes tx) (outpointBytes other) := by
  have filled (outpoint : Outpoint) : outpoint.bytes ≠ [] := by
    apply List.ne_nil_of_length_pos
    simp [Outpoint.bytes]
  rw [hashPrevouts_eq, hashPrevouts_eq]
  apply sha256d_eq_iff
  constructor
  · intro same
    exact Wire.eq_of_flatMap_eq (fun outpoint _ => Wire.reads_outpoint outpoint)
      (fun outpoint _ => Wire.reads_outpoint outpoint) filled same
  · intro same
    rw [outpointBytes, same, outpointBytes]

theorem hashSequence_eq_iff {tx other : Transaction} : hashSequence tx = hashSequence other ↔
    tx.sequences = other.sequences ∨ Collide (sequenceBytes tx) (sequenceBytes other) := by
  have filled (value : UInt32) : littleEndian 4 value.toNat ≠ [] := by simp [littleEndian]
  rw [hashSequence_eq, hashSequence_eq]
  apply sha256d_eq_iff
  constructor
  · intro same
    exact Wire.eq_of_flatMap_eq (fun value _ => Wire.reads_uint32 value)
      (fun value _ => Wire.reads_uint32 value) filled same
  · intro same
    rw [sequenceBytes, same, sequenceBytes]

theorem hashOutputs_eq_iff {tx other : Transaction}
    (scripts : ∀ output ∈ tx.outputs, output.script.length < UInt64.size)
    (otherScripts : ∀ output ∈ other.outputs, output.script.length < UInt64.size) :
    hashOutputs tx = hashOutputs other ↔
      tx.outputs = other.outputs ∨ Collide (outputBytes tx) (outputBytes other) := by
  have filled (output : TxOut) : output.bytes ≠ [] := by
    apply List.ne_nil_of_length_pos
    simp [TxOut.bytes]
  rw [hashOutputs_eq, hashOutputs_eq]
  apply sha256d_eq_iff
  constructor
  · intro same
    exact Wire.eq_of_flatMap_eq (fun output member => Wire.reads_output (scripts output member))
      (fun output member => Wire.reads_output (otherScripts output member)) filled same
  · intro same
    rw [outputBytes, same, outputBytes]

/-- An input of the transaction with what its signature states besides: script code, amount and hash type. -/
structure AmountSpend where
  tx : Transaction
  input : TxIn
  code : Bytes
  amount : UInt64
  hashType : UInt32

namespace AmountSpend

/-- The input is one of the transaction, and scripts have lengths of 64 bits. -/
structure At (spend : AmountSpend) (index : Nat) : Prop where
  found : spend.tx.inputs[index]? = some spend.input
  scripts : ∀ output ∈ spend.tx.outputs, output.script.length < UInt64.size

def image (spend : AmountSpend) : Bytes :=
  spend.tx.versionBytes ++ (hashPrevouts spend.tx).bytes ++ (hashSequence spend.tx).bytes ++
    spend.input.outpoint.bytes ++ Wire.sized spend.code ++ littleEndian 8 spend.amount.toNat ++
    littleEndian 4 spend.input.sequence.toNat ++ (hashOutputs spend.tx).bytes ++ spend.tx.lockTimeBytes ++
    littleEndian 4 spend.hashType.toNat

/-- What equal pre-images have in common. -/
structure Agrees (spend other : AmountSpend) : Prop where
  version : spend.tx.version = other.tx.version
  lockTime : spend.tx.lockTime = other.tx.lockTime
  outpoint : spend.input.outpoint = other.input.outpoint
  sequence : spend.input.sequence = other.input.sequence
  code : spend.code = other.code
  amount : spend.amount = other.amount
  hashType : spend.hashType = other.hashType
  outpoints : spend.tx.outpoints = other.tx.outpoints ∨ Collide (outpointBytes spend.tx) (outpointBytes other.tx)
  sequences : spend.tx.sequences = other.tx.sequences ∨ Collide (sequenceBytes spend.tx) (sequenceBytes other.tx)
  outputs : spend.tx.outputs = other.tx.outputs ∨ Collide (outputBytes spend.tx) (outputBytes other.tx)

variable {spend other : AmountSpend} {index place : Nat} {kind : Kind}

theorem At.preimage_eq (signs : spend.At index) (counts : kind.commitsToAmount = true) :
    preimage spend.tx spend.hashType index ⟨kind, spend.code, some spend.amount⟩ = .ok spend.image := by
  cases kind with
  | legacy => cases counts
  | witnessV0 | forkId => simp only [preimage, amountPreimage, signs.found, image]

/-- The parts of an image, as far as its bytes tell them apart. -/
structure SameParts (spend other : AmountSpend) : Prop where
  version : spend.tx.versionBytes = other.tx.versionBytes
  prevouts : hashPrevouts spend.tx = hashPrevouts other.tx
  sequences : hashSequence spend.tx = hashSequence other.tx
  outpoint : spend.input.outpoint.bytes = other.input.outpoint.bytes
  code : Wire.sized spend.code = Wire.sized other.code
  amount : littleEndian 8 spend.amount.toNat = littleEndian 8 other.amount.toNat
  sequence : littleEndian 4 spend.input.sequence.toNat = littleEndian 4 other.input.sequence.toNat
  outputs : hashOutputs spend.tx = hashOutputs other.tx
  lockTime : littleEndian 4 spend.tx.lockTime.toNat = littleEndian 4 other.tx.lockTime.toNat
  hashType : littleEndian 4 spend.hashType.toNat = littleEndian 4 other.hashType.toNat

/-- What stands behind the script code is taken off from the right and what stands before it from the left, so the
code needs no bound. -/
theorem image_eq_iff_sameParts : spend.image = other.image ↔ spend.SameParts other := by
  constructor
  · intro same
    unfold image at same
    obtain ⟨same, hashType⟩ := List.append_inj' same (by simp)
    obtain ⟨same, lockTime⟩ := List.append_inj' same (by simp [Transaction.lockTimeBytes])
    obtain ⟨same, outputs⟩ := List.append_inj' same (by simp [Octets.length_bytes])
    obtain ⟨same, sequence⟩ := List.append_inj' same (by simp)
    obtain ⟨same, amount⟩ := List.append_inj' same (by simp)
    obtain ⟨same, code⟩ := List.append_inj same
      (by simp [Transaction.versionBytes, Octets.length_bytes, Outpoint.bytes])
    obtain ⟨same, outpoint⟩ := List.append_inj' same (by simp [Outpoint.bytes, Octets.length_bytes])
    obtain ⟨same, sequences⟩ := List.append_inj' same (by simp [Octets.length_bytes])
    obtain ⟨version, prevouts⟩ := List.append_inj' same (by simp [Octets.length_bytes])
    exact ⟨version, Octets.ext prevouts, Octets.ext sequences, outpoint, code, amount, sequence,
      Octets.ext outputs, lockTime, hashType⟩
  · rintro ⟨version, prevouts, sequences, outpoint, code, amount, sequence, outputs, lockTime, hashType⟩
    simp only [image, Transaction.lockTimeBytes, version, prevouts, sequences, outpoint, code, amount, sequence,
      outputs, lockTime, hashType]

/-- Only outputs need their bound: the count in front of a script has to be read back. -/
theorem sameParts_iff_agrees (signs : spend.At index) (otherSigns : other.At place) :
    spend.SameParts other ↔ spend.Agrees other := by
  constructor
  · rintro ⟨version, prevouts, sequences, outpoint, code, amount, sequence, outputs, lockTime, hashType⟩
    constructor
    · have word := (Wire.reads_version spend.tx).unique (version ▸ Wire.reads_version other.tx)
      simpa using congrArg UInt32.toInt32 word
    · exact (Wire.reads_uint32 spend.tx.lockTime).unique (lockTime ▸ Wire.reads_uint32 other.tx.lockTime)
    · exact (Wire.reads_outpoint spend.input.outpoint).unique (outpoint ▸ Wire.reads_outpoint other.input.outpoint)
    · exact (Wire.reads_uint32 spend.input.sequence).unique (sequence ▸ Wire.reads_uint32 other.input.sequence)
    · exact Wire.sized_injective code
    · exact (Wire.reads_uint64 spend.amount).unique (amount ▸ Wire.reads_uint64 other.amount)
    · exact (Wire.reads_uint32 spend.hashType).unique (hashType ▸ Wire.reads_uint32 other.hashType)
    · exact hashPrevouts_eq_iff.mp prevouts
    · exact hashSequence_eq_iff.mp sequences
    · exact (hashOutputs_eq_iff signs.scripts otherSigns.scripts).mp outputs
  · rintro ⟨version, lockTime, outpoint, sequence, code, amount, hashType, outpoints, sequences, outputs⟩
    constructor
    · rw [Transaction.versionBytes, version, Transaction.versionBytes]
    · exact hashPrevouts_eq_iff.mpr outpoints
    · exact hashSequence_eq_iff.mpr sequences
    · rw [outpoint]
    · rw [code]
    · rw [amount]
    · rw [sequence]
    · exact (hashOutputs_eq_iff signs.scripts otherSigns.scripts).mpr outputs
    · rw [lockTime]
    · rw [hashType]

end AmountSpend

/-- Pre-images with an amount are the same bytes just if version, lock time, the input's outpoint and sequence number,
script code, amount and hash type are the same, and the lists of outpoints, of sequence numbers and of outputs are
either the same or written as messages that collide; and they stem from nothing else. -/
theorem amount_preimage_commits {spend other : AmountSpend} {index place : Nat} {kind otherKind : Kind}
    (signs : spend.At index) (otherSigns : other.At place) (counts : kind.commitsToAmount = true)
    (otherCounts : otherKind.commitsToAmount = true) :
    ∃ image otherImage,
      preimage spend.tx spend.hashType index ⟨kind, spend.code, some spend.amount⟩ = .ok image ∧
      preimage other.tx other.hashType place ⟨otherKind, other.code, some other.amount⟩ = .ok otherImage ∧
      (image = otherImage ↔ spend.Agrees other) ∧
      ∀ unlocked : Transaction, unlocked.Agrees spend.tx →
        preimage unlocked spend.hashType index ⟨kind, spend.code, some spend.amount⟩ = .ok image := by
  refine ⟨_, _, signs.preimage_eq counts, otherSigns.preimage_eq otherCounts, ?_, ?_⟩
  · rw [AmountSpend.image_eq_iff_sameParts, AmountSpend.sameParts_iff_agrees signs otherSigns]
  · intro unlocked agree
    rw [preimage_congr agree, signs.preimage_eq counts]

namespace TwoInputs

def spend (amount : UInt64) : AmountSpend where
  tx := tx
  input := .unsigned ⟨.zeros 32, 0⟩ 0xffffffff
  code := script
  amount := amount
  hashType := 1

theorem scripts : ∀ output ∈ tx.outputs, output.script.length < UInt64.size := by decide

theorem spend_at (amount : UInt64) {index : Nat} (inside : index < 2) : (spend amount).At index where
  found := by
    cases index with
    | zero => rfl
    | succ index =>
      cases index with
      | zero => rfl
      | succ index => omega
  scripts := TwoInputs.scripts

end TwoInputs

/-- Inputs that are alike in everything but their place share a pre-image in this layout, and another amount makes
another pre-image. -/
theorem amount_preimage_commits_sample : ∃ image otherImage,
    preimage TwoInputs.tx 1 0 ⟨.witnessV0, TwoInputs.script, some 1000⟩ = .ok image ∧
      preimage TwoInputs.tx 1 1 ⟨.forkId, TwoInputs.script, some 1000⟩ = .ok image ∧
      preimage TwoInputs.tx 1 0 ⟨.witnessV0, TwoInputs.script, some 1001⟩ = .ok otherImage ∧ image ≠ otherImage := by
  have first : (TwoInputs.spend 1000).At 0 := TwoInputs.spend_at 1000 (by decide)
  have second : (TwoInputs.spend 1000).At 1 := TwoInputs.spend_at 1000 (by decide)
  have dearer : (TwoInputs.spend 1001).At 0 := TwoInputs.spend_at 1001 (by decide)
  have witness : Kind.witnessV0.commitsToAmount = true := rfl
  have fork : Kind.forkId.commitsToAmount = true := rfl
  obtain ⟨image, again, made, remade, alike, _⟩ := amount_preimage_commits first second witness fork
  obtain ⟨same, otherImage, made', otherMade, commits, _⟩ := amount_preimage_commits first dearer witness witness
  obtain rfl := Except.ok.inj (made.symm.trans made')
  have shared : image = again :=
    alike.mpr ⟨rfl, rfl, rfl, rfl, rfl, rfl, rfl, .inl rfl, .inl rfl, .inl rfl⟩
  refine ⟨image, otherImage, made, shared ▸ remade, otherMade, fun equal => ?_⟩
  exact absurd (commits.mp equal).amount (by decide)

end Sighash

end CoinSpend
