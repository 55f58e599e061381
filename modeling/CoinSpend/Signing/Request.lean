import CoinSpend.Account.Path
import CoinSpend.Bytes.Hex
import CoinSpend.Coin

/-! What a caller asks to have signed, and what comes back. -/
namespace CoinSpend

structure RequestedInput where
  /-- Path of the key that owns the spent output. -/
  path : KeyPath
  scriptType : ScriptType
  /-- Hash of the earlier transaction, as it is shown. -/
  prevTxid : String
  vout : UInt32
  amount : Option UInt64
  rawPrevTx : Option String
  sequence : Option UInt32
deriving DecidableEq

/-- Pays to an address, to a key of the caller, or carries data. -/
structure RequestedOutput where
  amount : UInt64
  address : Option String := none
  path : Option KeyPath := none
  scriptType : Option ScriptType := none
  isChange : Bool := false
  returnData : Option String := none
deriving DecidableEq

structure SigningRequest where
  coin : String
  inputs : List RequestedInput
  outputs : List RequestedOutput
  version : Option Int32
  lockTime : Option UInt32
  /-- Both lists have counts of 64 bits. -/
  countable : inputs.length < UInt64.size ∧ outputs.length < UInt64.size
deriving DecidableEq

structure SignedTransaction where
  /-- One for each input in order, without hash types. -/
  signatures : List Bytes
  bytes : Bytes
  /-- As it is shown. -/
  txid : Octets 32
  fee : Nat
deriving DecidableEq

namespace RequestedOutput

def toAddress (address : String) (amount : UInt64) : RequestedOutput :=
  { amount, address := some address }

def change (path : KeyPath) (scriptType : ScriptType) (amount : UInt64) : RequestedOutput :=
  { amount, path := some path, scriptType := some scriptType, isChange := true }

def data (bytes : Bytes) : RequestedOutput := { amount := 0, returnData := some (Hex.encode bytes) }

def ofJson? (json : Json) : Option RequestedOutput := do
  let get ← json.fields? ["amount", "address", "address_n", "script_type", "is_change", "op_return_data"]
  let amount ← Json.required? get "amount" Json.uint64?
  let address ← Json.optional? get "address" Json.string?
  let path ← Json.optional? get "address_n" (Json.listOf? Json.uint32?)
  let scriptType ← Json.optional? get "script_type" Coin.scriptType?
  let isChange ← Json.defaulted? get "is_change" false Json.bool?
  let returnData ← Json.optional? get "op_return_data" Json.string?
  return ⟨amount, address, path, scriptType, isChange, returnData⟩

end RequestedOutput

def RequestedInput.ofJson? (json : Json) : Option RequestedInput := do
  let get ← json.fields? ["address_n", "script_type", "prev_tx_id", "vout", "amount", "raw_prev_tx_hex",
    "sequence"]
  let path ← Json.required? get "address_n" (Json.listOf? Json.uint32?)
  let scriptType ← Json.required? get "script_type" Coin.scriptType?
  let prevTxid ← Json.required? get "prev_tx_id" Json.string?
  let vout ← Json.required? get "vout" Json.uint32?
  let amount ← Json.optional? get "amount" Json.uint64?
  let rawPrevTx ← Json.optional? get "raw_prev_tx_hex" Json.string?
  let sequence ← Json.optional? get "sequence" Json.uint32?
  return ⟨path, scriptType, prevTxid, vout, amount, rawPrevTx, sequence⟩

def SigningRequest.ofJson? (json : Json) : Option SigningRequest := do
  let get ← json.fields? ["coin", "inputs", "outputs", "version", "lock_time"]
  let coin ← Json.required? get "coin" Json.string?
  let inputs ← Json.required? get "inputs" (Json.listOf? RequestedInput.ofJson?)
  let outputs ← Json.required? get "outputs" (Json.listOf? RequestedOutput.ofJson?)
  let version ← Json.optional? get "version" Json.int32?
  let lockTime ← Json.optional? get "lock_time" Json.uint32?
  if countable : inputs.length < UInt64.size ∧ outputs.length < UInt64.size then
    return ⟨coin, inputs, outputs, version, lockTime, countable⟩
  else none

end CoinSpend
