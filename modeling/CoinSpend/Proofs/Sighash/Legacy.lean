import CoinSpend.Proofs.Script.Instructions
import CoinSpend.Proofs.Sighash
import CoinSpend.Proofs.Wire.RoundTrip

/-! What a legacy pre-image commits to. It is a transaction in wire form with one script in it, so a reader takes that
transaction back out of it; the place of the script is the index of the signing input. -/
namespace CoinSpend

namespace Transaction

/-- The transactions differ at most in the scripts and witnesses of their inputs. -/
structure Agrees (tx other : Transaction) : Prop where
  version : tx.version = other.version
  lockTime : tx.lockTime = other.lockTime
  inputs : tx.inputs.map (fun input => (input.outpoint, input.sequence)) =
    other.inputs.map fun input => (input.outpoint, input.sequence)
  outputs : tx.outputs = other.outputs

theorem agrees_iff_stripped_eq {tx other : Transaction} : tx.Agrees other ↔ tx.stripped = other.stripped := by
  have blank (tx : Transaction) : tx.stripped.inputs =
      (tx.inputs.map fun input => (input.outpoint, input.sequence)).map fun pair => .unsigned pair.1 pair.2 := by
    rw [List.map_map]
    rfl
  constructor
  · rintro ⟨version, lockTime, inputs, outputs⟩
    have same : tx.stripped.inputs = other.stripped.inputs := by rw [blank, blank, inputs]
    simp only [stripped] at same ⊢
    rw [version, lockTime, outputs, same]
  · intro same
    have back (tx : Transaction) : tx.stripped.inputs.map (fun input => (input.outpoint, input.sequence)) =
        tx.inputs.map fun input => (input.outpoint, input.sequence) := by
      rw [stripped, List.map_map]
      rfl
    exact ⟨(mk.inj same).1, (mk.inj same).2.2.2, by rw [← back, same, back], (mk.inj same).2.2.1⟩

end Transaction

namespace Sighash

theorem preimage_congr {tx other : Transaction} (agree : tx.Agrees other) (hashType : UInt32) (index : Nat)
    (spent : Spent) : preimage tx hashType index spent = preimage other hashType index spent := by
  rw [← preimage_stripped, Transaction.agrees_iff_stripped_eq.mp agree, preimage_stripped]

/-- An input in range spends a script that leaves some code, and all counts and lengths have 64 bits. -/
structure LegacySpend (tx : Transaction) (index : Nat) (script code : Bytes) : Prop where
  inside : index < tx.inputs.length
  inputCount : tx.inputs.length < UInt64.size
  outputCount : tx.outputs.length < UInt64.size
  scripts : ∀ output ∈ tx.outputs, output.script.length < UInt64.size
  spent : script.length < UInt64.size
  strips : Script.withoutCodeSeparators script = .ok code
  covers : code ≠ []

/-- What a legacy pre-image is the wire form of. -/
def legacyForm (tx : Transaction) (index : Nat) (code : Bytes) : Transaction := withScriptAt tx.stripped index code

theorem input_of_legacyForm {tx : Transaction} {index place : Nat} {code : Bytes} {input : TxIn}
    (found : (legacyForm tx index code).inputs[place]? = some input) :
    input.scriptSig = (if place = index then code else []) ∧ input.witness = [] := by
  simp only [legacyForm, withScriptAt, Transaction.stripped, List.getElem?_mapIdx, List.getElem?_map,
    Option.map_map, Option.map_eq_some_iff, Function.comp_apply] at found
  obtain ⟨own, _, rfl⟩ := found
  exact ⟨rfl, rfl⟩

theorem length_inputs_legacyForm (tx : Transaction) (index : Nat) (code : Bytes) :
    (legacyForm tx index code).inputs.length = tx.inputs.length := by
  simp only [legacyForm, withScriptAt, Transaction.stripped, List.length_mapIdx, List.length_map]

theorem stripped_legacyForm (tx : Transaction) (index : Nat) (code : Bytes) :
    (legacyForm tx index code).stripped = tx.stripped := by
  have inputs : (legacyForm tx index code).stripped.inputs = tx.stripped.inputs := by
    apply List.ext_getElem?
    intro place
    simp only [legacyForm, withScriptAt, Transaction.stripped, List.getElem?_map, List.getElem?_mapIdx,
      Option.map_map]
    rfl
  simp only [Transaction.stripped, legacyForm, withScriptAt] at inputs ⊢
  rw [inputs]

namespace LegacySpend

variable {tx other : Transaction} {index place : Nat} {script spent code covered : Bytes}

theorem readable (signs : LegacySpend tx index script code) : (legacyForm tx index code).Readable := by
  have short : code.length < UInt64.size :=
    Nat.lt_of_le_of_lt (Script.length_withoutCodeSeparators_le signs.strips) signs.spent
  have each : ∀ input ∈ (legacyForm tx index code).inputs,
      input.scriptSig.length < UInt64.size ∧ Wire.WitnessFits input.witness := by
    intro input member
    obtain ⟨place, found⟩ := List.mem_iff_getElem?.mp member
    obtain ⟨own, bare⟩ := input_of_legacyForm found
    rw [own, bare]
    refine ⟨?_, by decide, by decide⟩
    split
    · exact short
    · decide
  have count := length_inputs_legacyForm tx index code
  constructor
  · apply List.ne_nil_of_length_pos
    rw [count]
    exact Nat.zero_lt_of_lt signs.inside
  · rw [count]
    exact signs.inputCount
  · exact signs.outputCount
  · exact fun input member => (each input member).1
  · exact signs.scripts
  · exact fun input member => (each input member).2

/-- The pre-image is the form's wire bytes, since none of its inputs has a witness, with the hash type behind them. -/
theorem preimage_eq (signs : LegacySpend tx index script code) (hashType : UInt32) (amount : Option UInt64) :
    preimage tx hashType index ⟨.legacy, script, amount⟩ =
      .ok ((legacyForm tx index code).bytes ++ littleEndian 4 hashType.toNat) := by
  have bare : ¬ (legacyForm tx index code).hasWitness = true := by
    rw [Transaction.hasWitness, List.any_eq_true]
    rintro ⟨input, member, filled⟩
    obtain ⟨place, found⟩ := List.mem_iff_getElem?.mp member
    rw [(input_of_legacyForm found).2] at filled
    cases filled
  obtain ⟨input, found⟩ : ∃ input, tx.inputs[index]? = some input := ⟨_, List.getElem?_eq_getElem signs.inside⟩
  rw [Transaction.bytes, if_neg bare, legacyForm, baseBytes_withScriptAt_stripped]
  simp only [preimage, legacyPreimage, found, signs.strips]

/-- A script is found where it was put, and it is the only one. -/
theorem place_of_form_eq (signs : LegacySpend tx index script code)
    (same : legacyForm tx index code = legacyForm other place covered) : index = place ∧ code = covered := by
  have inside : index < (legacyForm tx index code).inputs.length := by
    rw [length_inputs_legacyForm]
    exact signs.inside
  obtain ⟨input, found⟩ : ∃ input, (legacyForm tx index code).inputs[index]? = some input :=
    ⟨_, List.getElem?_eq_getElem inside⟩
  have here := (input_of_legacyForm found).1
  rw [same] at found
  have there := (input_of_legacyForm found).1
  rw [here, if_pos rfl] at there
  split at there
  · rename_i at_place
    exact ⟨at_place, there⟩
  · exact absurd there signs.covers

end LegacySpend

/-- Legacy pre-images are the same bytes only if they stem from the same version, lock time, outpoints, sequence
numbers and outputs, from the same input, the same script without its separators and the same hash type; and they
stem from nothing else. -/
theorem legacy_preimage_commits {tx other : Transaction} {index place : Nat} {script spent code covered : Bytes}
    (hashType otherType : UInt32) (amount otherAmount : Option UInt64)
    (first : LegacySpend tx index script code) (second : LegacySpend other place spent covered) :
    ∃ image otherImage, preimage tx hashType index ⟨.legacy, script, amount⟩ = .ok image ∧
      preimage other otherType place ⟨.legacy, spent, otherAmount⟩ = .ok otherImage ∧
      (image = otherImage ↔
        tx.Agrees other ∧ index = place ∧ code = covered ∧ hashType = otherType) ∧
      ∀ unlocked : Transaction, unlocked.Agrees tx →
        preimage unlocked hashType index ⟨.legacy, script, amount⟩ = .ok image := by
  refine ⟨_, _, first.preimage_eq hashType amount, second.preimage_eq otherType otherAmount, ⟨?_, ?_⟩, ?_⟩
  · intro same
    have read := Wire.reads_transaction first.readable (littleEndian 4 hashType.toNat)
    rw [same, Wire.reads_transaction second.readable] at read
    obtain ⟨form, type⟩ := Prod.mk.inj (Except.ok.inj read)
    have agree : tx.Agrees other := by
      rw [Transaction.agrees_iff_stripped_eq, ← stripped_legacyForm tx index code, ← form, stripped_legacyForm]
    obtain ⟨at_place, covers⟩ := first.place_of_form_eq form.symm
    refine ⟨agree, at_place, covers, ?_⟩
    have value := congrArg ofLittleEndian type.symm
    rw [ofLittleEndian_littleEndian hashType.toNat_lt, ofLittleEndian_littleEndian otherType.toNat_lt] at value
    exact UInt32.toNat_inj.mp value
  · rintro ⟨agree, rfl, rfl, rfl⟩
    rw [legacyForm, legacyForm, Transaction.agrees_iff_stripped_eq.mp agree]
  · intro unlocked agree
    rw [preimage_congr agree, first.preimage_eq]

namespace TwoInputs

def tx : Transaction where
  version := 1
  inputs := [.unsigned ⟨.zeros 32, 0⟩ 0xffffffff, .unsigned ⟨.zeros 32, 0⟩ 0xffffffff]
  outputs := [⟨1000, []⟩]
  lockTime := 0

/-- A key's script behind a separator. -/
def script : Bytes := Script.codeSeparator :: Script.p2pkh (Octets.zeros 20).bytes

theorem strips : Script.withoutCodeSeparators script = .ok (Script.p2pkh (Octets.zeros 20).bytes) := by
  have complete : ∀ instruction ∈ ⟨Script.codeSeparator, [], []⟩ :: Script.p2pkhInstructions (Octets.zeros 20),
      instruction.Complete :=
    List.forall_mem_cons.mpr ⟨⟨rfl, rfl⟩, Script.p2pkhInstructions_complete _⟩
  rw [Script.withoutCodeSeparators, script, Script.p2pkh_instructions]
  exact congrArg (Except.map _) (Script.instructions_complete complete)

theorem legacySpend {index : Nat} (inside : index < 2) :
    LegacySpend tx index script (Script.p2pkh (Octets.zeros 20).bytes) where
  inside := inside
  inputCount := by decide
  outputCount := by decide
  scripts := by decide
  spent := by decide
  strips := strips
  covers := by decide

end TwoInputs

/-- Inputs that are alike in everything but their place have pre-images of their own. -/
theorem legacy_preimage_commits_sample : ∃ image otherImage,
    preimage TwoInputs.tx 1 0 ⟨.legacy, TwoInputs.script, none⟩ = .ok image ∧
      preimage TwoInputs.tx 1 1 ⟨.legacy, TwoInputs.script, none⟩ = .ok otherImage ∧ image ≠ otherImage := by
  have first : LegacySpend TwoInputs.tx 0 TwoInputs.script (Script.p2pkh (Octets.zeros 20).bytes) :=
    TwoInputs.legacySpend (by decide)
  have second : LegacySpend TwoInputs.tx 1 TwoInputs.script (Script.p2pkh (Octets.zeros 20).bytes) :=
    TwoInputs.legacySpend (by decide)
  obtain ⟨image, otherImage, made, otherMade, commits, _⟩ :=
    legacy_preimage_commits 1 1 none none first second
  refine ⟨image, otherImage, made, otherMade, fun same => ?_⟩
  obtain ⟨_, places, _⟩ := commits.mp same
  cases places

end Sighash

end CoinSpend
