import CoinSpend.Address
import CoinSpend.Sighash
import CoinSpend.Signing.Config
import CoinSpend.Signing.Request
import CoinSpend.Wire.Spent

/-! Everything about a request that can be checked without an oracle. -/
namespace CoinSpend

/-- Why a request is refused. -/
inductive Refusal where
  | noInputs
  | noOutputs
  | multisig (scriptType : ScriptType)
  | missing (field : String)
  | txidLength (length : Nat)
  | otherTransaction (actual : Octets 32) (claimed : String)
  | otherAmount (declared actual : UInt64)
  | spentTwice (txid : String) (vout : UInt32)
  | severalTargets
  | valuedReturn
  | totalOverflows
  | insufficient (inputs outputs : Nat)
deriving DecidableEq

def Refusal.toFailure : Refusal → Failure
  | noInputs => .plain .invalidInput "Transaction has no inputs"
  | noOutputs => .plain .invalidInput "Transaction has no outputs"
  | multisig scriptType =>
    let type := scriptType.name
    .plain .unsupportedScriptType s!"Multisig script type {type} is not supported for signing"
  | missing field => .missingField field
  | txidLength length => .plain .invalidInput s!"prev_tx_id must be 32 bytes, got {length}"
  | otherTransaction actual claimed =>
    let hash := Hex.encode actual.bytes
    .plain .invalidInput s!"raw_prev_tx_hex hashes to {hash}, not {claimed}"
  | otherAmount declared actual =>
    .plain .invalidInput
      s!"Declared amount {declared} does not match spent output value {actual}"
  | spentTwice txid vout => .plain .invalidInput s!"Outpoint {txid}:{vout} is spent twice"
  | severalTargets =>
    .plain .invalidInput "Output must set exactly one of address, address_n or op_return_data"
  | valuedReturn => .plain .invalidInput "OP_RETURN output must carry zero value"
  | totalOverflows => .plain .invalidInput "Amount total overflows"
  | insufficient inputs outputs => .insufficientInputValue inputs outputs

def refuse {α : Type} (refusal : Refusal) : Except Failure α := .error refusal.toFailure

/-- An input that has passed validation. -/
structure PreparedInput where
  outpoint : Outpoint
  sequence : UInt32
  path : KeyPath
  scriptType : ScriptType
  kind : Sighash.Kind
  amount : UInt64
  /-- Script of the spent output, known when the raw earlier transaction was given. -/
  prevScript : Option Bytes
deriving DecidableEq

inductive OutputScript where
  | fixed (script : Bytes)
  | change (path : KeyPath) (scriptType : ScriptType)
deriving DecidableEq

structure PlannedOutput where
  amount : UInt64
  script : OutputScript
deriving DecidableEq

structure ValidatedRequest where
  version : Int32
  lockTime : UInt32
  inputs : List PreparedInput
  outputs : List PlannedOutput
  fee : Nat
deriving DecidableEq

namespace Validation

def ensureSignable (coin : Coin) (scriptType : ScriptType) : Except Failure Unit :=
  if scriptType.isMultisig then refuse (.multisig scriptType)
  else if coin.supports scriptType then .ok ()
  else .error (coin.unsupported scriptType)

def previousTxid (text : String) : Except Failure (Octets 32) := do
  let bytes ← Hex.decodeTrimmed text
  match Octets.ofBytes? 32 bytes with
  | some txid => return txid
  | none => refuse (.txidLength bytes.length)

/-- Looks up the spent output and compares it with what the input claims. -/
def checkedSpent (config : SigningConfig) (input : RequestedInput) (txid : Octets 32) (raw : String) :
    Except Failure SpentOutput := do
  let spent ← spentOutput raw input.vout
  if config.verifyPrevTxHash ∧ spent.txid ≠ txid then
    refuse (.otherTransaction spent.txid input.prevTxid)
  else
    match input.amount with
    | some declared =>
      if declared ≠ spent.value then refuse (.otherAmount declared spent.value) else return spent
    | none => return spent

/-- The amount of the spent output, and its script if it is known. The legacy layout needs the script. -/
def spentAmount (config : SigningConfig) (input : RequestedInput) (kind : Sighash.Kind)
    (txid : Octets 32) : Except Failure (UInt64 × Option Bytes) := do
  match input.rawPrevTx with
  | some raw =>
    let spent ← checkedSpent config input txid raw
    return (spent.value, some spent.script)
  | none =>
    if kind = .legacy then refuse (.missing "raw_prev_tx_hex")
    else
      match input.amount with
      | some amount => return (amount, none)
      | none => refuse (.missing "amount")

def prepareInput (coin : Coin) (config : SigningConfig) (input : RequestedInput) :
    Except Failure PreparedInput := do
  ensureSignable coin input.scriptType
  if input.path.isEmpty then refuse (.missing "address_n")
  else
    let txid ← previousTxid input.prevTxid
    let kind := Sighash.Kind.select coin input.scriptType
    let (amount, prevScript) ← spentAmount config input kind txid
    return {
      outpoint := ⟨txid.reverse, input.vout⟩
      sequence := input.sequence.getD config.defaultSequence
      path := input.path
      scriptType := input.scriptType
      kind, amount, prevScript }

def atInput {α : Type} (index : Nat) (result : Except Failure α) : Except Failure α :=
  result.mapError (·.withDetails s!"input #{index}")

def atOutput {α : Type} (index : Nat) (result : Except Failure α) : Except Failure α :=
  result.mapError (·.withDetails s!"output #{index}")

/-- Prepares inputs in turn. No two may spend one outpoint; `ready` holds the earlier ones, last first. -/
def prepareInputs (coin : Coin) (config : SigningConfig) (ready : List PreparedInput) :
    List RequestedInput → Except Failure (List PreparedInput)
  | [] => .ok ready.reverse
  | input :: inputs => do
    let prepared ← atInput ready.length do
      let prepared ← prepareInput coin config input
      if ready.any (·.outpoint == prepared.outpoint) then
        refuse (.spentTwice input.prevTxid input.vout)
      else return prepared
    prepareInputs coin config (prepared :: ready) inputs

def planScript (coin : Coin) (output : RequestedOutput) : Except Failure OutputScript :=
  match output.address, output.path, output.returnData with
  | some address, none, none => return .fixed (← coin.classify address).script
  | none, some path, none =>
    match output.scriptType with
    | none => refuse (.missing "script_type")
    | some scriptType => do
      ensureSignable coin scriptType
      return .change path scriptType
  | none, none, some data =>
    if output.amount ≠ 0 then refuse .valuedReturn
    else return .fixed (← Script.opReturn (← Hex.decodeTrimmed data))
  | none, none, none => refuse (.missing "address")
  | _, _, _ => refuse .severalTargets

def planOutputs (coin : Coin) (planned : List PlannedOutput) :
    List RequestedOutput → Except Failure (List PlannedOutput)
  | [] => .ok planned.reverse
  | output :: outputs => do
    let script ← atOutput planned.length (planScript coin output)
    planOutputs coin (⟨output.amount, script⟩ :: planned) outputs

def exactSum : List UInt64 → Nat
  | [] => 0
  | amount :: amounts => amount.toNat + exactSum amounts

/-- The exact sum, which must fit into 64 bits. -/
def total (amounts : List UInt64) : Except Failure Nat :=
  if exactSum amounts < UInt64.size then .ok (exactSum amounts) else refuse .totalOverflows

end Validation

open Validation in
/-- Checks a request of the given coin. -/
def SigningRequest.validate (request : SigningRequest) (coin : Coin) (config : SigningConfig) :
    Except Failure ValidatedRequest := do
  if request.inputs.isEmpty then refuse .noInputs
  else if request.outputs.isEmpty then refuse .noOutputs
  else
    let inputs ← prepareInputs coin config [] request.inputs
    let outputs ← planOutputs coin [] request.outputs
    let totalIn ← total (inputs.map (·.amount))
    let totalOut ← total (request.outputs.map (·.amount))
    if totalIn < totalOut then refuse (.insufficient totalIn totalOut)
    else return {
      version := request.version.getD config.defaultVersion
      lockTime := request.lockTime.getD 0
      inputs, outputs
      fee := totalIn - totalOut }

end CoinSpend
