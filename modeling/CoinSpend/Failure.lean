import CoinSpend.Json.Fields
import CoinSpend.Json.Reader

/-! What a caller is told when an operation fails: a code to match on, a message, and sometimes where it happened. -/
namespace CoinSpend

namespace Failure

inductive Code where
  | unsupportedCoin
  | unsupportedScriptType
  | unrecognizedAddressFormat
  | insufficientInputValue
  | missingRequiredField
  | invalidInput
  | invalidTransaction
  | malformedSignature
  | oracleRejected
  | oracleTimeout
  | oracleError
  | cancelled
  | internal
deriving DecidableEq

namespace Code

def all : List Code :=
  [.unsupportedCoin, .unsupportedScriptType, .unrecognizedAddressFormat, .insufficientInputValue,
    .missingRequiredField, .invalidInput, .invalidTransaction, .malformedSignature, .oracleRejected,
    .oracleTimeout, .oracleError, .cancelled, .internal]

/-- The name shown to people. -/
def name : Code → String
  | unsupportedCoin => "UnsupportedCoin"
  | unsupportedScriptType => "UnsupportedScriptType"
  | unrecognizedAddressFormat => "UnrecognizedAddressFormat"
  | insufficientInputValue => "InsufficientInputValue"
  | missingRequiredField => "MissingRequiredField"
  | invalidInput => "InvalidInput"
  | invalidTransaction => "InvalidTransaction"
  | malformedSignature => "MalformedSignature"
  | oracleRejected => "OracleRejected"
  | oracleTimeout => "OracleTimeout"
  | oracleError => "OracleError"
  | cancelled => "Cancelled"
  | internal => "Internal"

/-- The name used in data. -/
def key : Code → String
  | unsupportedCoin => "unsupported_coin"
  | unsupportedScriptType => "unsupported_script_type"
  | unrecognizedAddressFormat => "unrecognized_address_format"
  | insufficientInputValue => "insufficient_input_value"
  | missingRequiredField => "missing_required_field"
  | invalidInput => "invalid_input"
  | invalidTransaction => "invalid_transaction"
  | malformedSignature => "malformed_signature"
  | oracleRejected => "oracle_rejected"
  | oracleTimeout => "oracle_timeout"
  | oracleError => "oracle_error"
  | cancelled => "cancelled"
  | internal => "internal"

def ofKey? (key : String) : Option Code := all.find? (·.key == key)

/-- Codes for requests refused before an oracle is asked. -/
def isValidation : Code → Bool
  | unsupportedCoin | unsupportedScriptType | unrecognizedAddressFormat | insufficientInputValue
  | missingRequiredField | invalidInput | invalidTransaction => true
  | _ => false

def isOracle : Code → Bool
  | oracleRejected | oracleTimeout | oracleError | cancelled => true
  | _ => false

end Code

end Failure

structure Failure where
  code : Failure.Code
  message : String
  details : Option String
deriving DecidableEq

namespace Failure

def plain (code : Code) (message : String) : Failure := ⟨code, message, none⟩

def withDetails (failure : Failure) (details : String) : Failure :=
  { failure with details := some details }

def unsupportedCoin (coin : String) : Failure :=
  plain .unsupportedCoin s!"Unsupported coin: {coin}"

def unrecognizedAddress (address : String) : Failure :=
  plain .unrecognizedAddressFormat s!"Unrecognized address format: {address}"

def insufficientInputValue (inputs outputs : Nat) : Failure :=
  plain .insufficientInputValue s!"Outputs ({outputs} sats) exceed inputs ({inputs} sats)"

def missingField (field : String) : Failure :=
  plain .missingRequiredField s!"Missing required field: {field}"

/-- JSON text that is not what is read for; the reason is not kept. -/
def json : Failure := plain .invalidInput "JSON error"

/-- Code and message on one line, the details in brackets. -/
def render (failure : Failure) : String :=
  let line := s!"[{failure.code.name}] {failure.message}"
  match failure.details with
  | some details => s!"{line} ({details})"
  | none => line

def ofJson? (json : Json) : Option Failure := do
  let get ← json.allFields? ["code", "message", "details"]
  let code ← Json.required? get "code" fun value => value.constant?.bind Code.ofKey?
  let message ← Json.required? get "message" Json.string?
  let details ← Json.optional? get "details" Json.string?
  return ⟨code, message, details⟩

end Failure

/-- Reads a typed value from JSON text. -/
def Json.readText {α : Type} (read : Json → Option α) (text : String) : Except Failure α :=
  match (Json.parse text).bind read with
  | some value => .ok value
  | none => .error .json

end CoinSpend
