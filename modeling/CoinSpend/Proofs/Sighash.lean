import CoinSpend.Sighash

/-! The pre-images cover neither the scripts nor the witnesses that inputs carry, so that a transaction has the same
ones before and after signing. -/
namespace CoinSpend

/-- The transaction as it stands before signing. -/
def Transaction.stripped (tx : Transaction) : Transaction :=
  { tx with inputs := tx.inputs.map fun input => .unsigned input.outpoint input.sequence }

namespace Sighash

theorem hashPrevouts_stripped (tx : Transaction) : hashPrevouts tx.stripped = hashPrevouts tx := by
  rw [hashPrevouts, hashPrevouts, Transaction.stripped, List.flatMap_map]
  rfl

theorem hashSequence_stripped (tx : Transaction) : hashSequence tx.stripped = hashSequence tx := by
  rw [hashSequence, hashSequence, Transaction.stripped, List.flatMap_map]
  rfl

/-- A script is put into each input anyway, and the base form leaves witnesses out. -/
theorem baseBytes_withScriptAt_stripped (tx : Transaction) (index : Nat) (script : Bytes) :
    (withScriptAt tx.stripped index script).baseBytes = (withScriptAt tx index script).baseBytes := by
  have written : (withScriptAt tx.stripped index script).inputs.map TxIn.bytes =
      (withScriptAt tx index script).inputs.map TxIn.bytes := by
    apply List.ext_getElem?
    intro place
    simp only [withScriptAt, Transaction.stripped, List.getElem?_map, List.getElem?_mapIdx, Option.map_map]
    rfl
  have count : (withScriptAt tx.stripped index script).inputs.length =
      (withScriptAt tx index script).inputs.length := by
    simpa only [List.length_map] using congrArg List.length written
  have counted : Wire.counted TxIn.bytes (withScriptAt tx.stripped index script).inputs =
      Wire.counted TxIn.bytes (withScriptAt tx index script).inputs := by
    rw [Wire.counted, Wire.counted, count, List.flatMap_def, List.flatMap_def, written]
  unfold Transaction.baseBytes Transaction.body
  rw [counted]
  rfl

theorem legacyPreimage_stripped (tx : Transaction) (hashType : UInt32) (index : Nat) (script : Bytes) :
    legacyPreimage tx.stripped hashType index script = legacyPreimage tx hashType index script := by
  unfold legacyPreimage
  have input : tx.stripped.inputs[index]? =
      tx.inputs[index]?.map fun input => .unsigned input.outpoint input.sequence := List.getElem?_map
  rw [input]
  cases tx.inputs[index]? with
  | none => rfl
  | some input => simp only [Option.map_some, baseBytes_withScriptAt_stripped]

theorem amountPreimage_stripped (tx : Transaction) (hashType : UInt32) (index : Nat) (scriptCode : Bytes)
    (amount : UInt64) :
    amountPreimage tx.stripped hashType index scriptCode amount =
      amountPreimage tx hashType index scriptCode amount := by
  unfold amountPreimage
  have input : tx.stripped.inputs[index]? =
      tx.inputs[index]?.map fun input => .unsigned input.outpoint input.sequence := List.getElem?_map
  rw [input, hashPrevouts_stripped, hashSequence_stripped]
  cases tx.inputs[index]? with
  | none => rfl
  | some input => rfl

theorem preimage_stripped (tx : Transaction) (hashType : UInt32) (index : Nat) (spent : Spent) :
    preimage tx.stripped hashType index spent = preimage tx hashType index spent := by
  unfold preimage
  split
  · exact legacyPreimage_stripped tx hashType index spent.scriptCode
  · rfl
  · exact amountPreimage_stripped tx hashType index spent.scriptCode _

end Sighash

end CoinSpend
