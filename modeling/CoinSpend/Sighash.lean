import CoinSpend.Coin
import CoinSpend.Script
import CoinSpend.Wire.Transaction

/-! The pre-images that signatures commit to: the legacy layout, which is the transaction with the spent script in
the signing input, and the layout of BIP-143, which also serves coins with replay protection. -/
namespace CoinSpend

namespace Sighash

inductive Kind where
  | legacy
  | witnessV0
  | forkId
deriving DecidableEq

namespace Kind

def name : Kind → String
  | legacy => "Legacy"
  | witnessV0 => "WitnessV0"
  | forkId => "ForkId"

/-- Coins with a fork id use its layout for every input. -/
def select (coin : Coin) (scriptType : ScriptType) : Kind :=
  if coin.usesForkId then forkId else if scriptType.isSegwit then witnessV0 else legacy

def commitsToAmount (kind : Kind) : Bool := kind != legacy

end Kind

inductive Error where
  | noSuchInput (index : Nat)
  | noAmount (index : Nat)
  | malformedScript (cause : Script.Error)
deriving DecidableEq

def Error.message : Error → String
  | .noSuchInput index => s!"Invalid input index: {index}"
  | .noAmount index => s!"Input {index} needs the spent amount"
  | .malformedScript cause => s!"Malformed script: {cause.message}"

def Error.toFailure (error : Error) : Failure :=
  match error with
  | .noSuchInput _ => .plain .internal error.message
  | .noAmount _ => .plain .missingRequiredField error.message
  | .malformedScript _ => .plain .invalidTransaction error.message

/-- What the signing input spends: the spent script for the legacy layout, a script code for the others. -/
structure Spent where
  kind : Kind
  scriptCode : Bytes
  amount : Option UInt64
deriving DecidableEq

def hashPrevouts (tx : Transaction) : Octets 32 :=
  sha256d (tx.inputs.flatMap fun input => input.outpoint.bytes)

def hashSequence (tx : Transaction) : Octets 32 :=
  sha256d (tx.inputs.flatMap fun input => littleEndian 4 input.sequence.toNat)

def hashOutputs (tx : Transaction) : Octets 32 := sha256d (tx.outputs.flatMap TxOut.bytes)

/-- The transaction with `script` in input `index` and empty scripts in all others. -/
def withScriptAt (tx : Transaction) (index : Nat) (script : Bytes) : Transaction :=
  { tx with inputs := tx.inputs.mapIdx fun i input =>
      { input with scriptSig := if i = index then script else [] } }

def legacyPreimage (tx : Transaction) (hashType : UInt32) (index : Nat) (script : Bytes) :
    Except Error Bytes :=
  match tx.inputs[index]? with
  | none => .error (.noSuchInput index)
  | some _ =>
    match Script.withoutCodeSeparators script with
    | .error cause => .error (.malformedScript cause)
    | .ok code => .ok ((withScriptAt tx index code).baseBytes ++ littleEndian 4 hashType.toNat)

/-- The layout of BIP-143. -/
def amountPreimage (tx : Transaction) (hashType : UInt32) (index : Nat) (scriptCode : Bytes)
    (amount : UInt64) : Except Error Bytes :=
  match tx.inputs[index]? with
  | none => .error (.noSuchInput index)
  | some input =>
    .ok (tx.versionBytes ++ (hashPrevouts tx).bytes ++ (hashSequence tx).bytes ++
      input.outpoint.bytes ++ Wire.sized scriptCode ++ littleEndian 8 amount.toNat ++
      littleEndian 4 input.sequence.toNat ++ (hashOutputs tx).bytes ++ tx.lockTimeBytes ++
      littleEndian 4 hashType.toNat)

/-- The pre-image for input `index`. Scripts and witnesses that the inputs carry do not matter. -/
def preimage (tx : Transaction) (hashType : UInt32) (index : Nat) (spent : Spent) :
    Except Error Bytes :=
  match spent.kind, spent.amount with
  | .legacy, _ => legacyPreimage tx hashType index spent.scriptCode
  | _, none => .error (.noAmount index)
  | _, some amount => amountPreimage tx hashType index spent.scriptCode amount

/-- The digest that a signature of input `index` signs. -/
def digest (tx : Transaction) (hashType : UInt32) (index : Nat) (spent : Spent) :
    Except Error (Octets 32) :=
  (preimage tx hashType index spent).map sha256d

end Sighash

end CoinSpend
