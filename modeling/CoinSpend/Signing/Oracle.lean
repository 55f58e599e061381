import CoinSpend.Account.Path
import CoinSpend.Failure
import CoinSpend.Signature
import CoinSpend.Signing.Config

/-! The holder of the keys. It may answer, fail or fall silent, and its behaviour may depend on everything it was
asked before; while it is asked, the request may be cancelled. -/
namespace CoinSpend

namespace Oracle

inductive Error where
  | rejected
  | timeout
  | cancelled
  | device (message : String)
deriving DecidableEq

namespace Error

def message : Error → String
  | rejected => "Request rejected on device"
  | timeout => "Oracle did not respond in time"
  | cancelled => "Request cancelled"
  | device text => s!"Device error: {text}"

def code : Error → Failure.Code
  | rejected => .oracleRejected
  | timeout => .oracleTimeout
  | cancelled => .cancelled
  | device _ => .oracleError

def toFailure (error : Error) : Failure := .plain error.code error.message

end Error

inductive Answer where
  | raw (signature : Signature)
  /-- DER bytes, with or without a hash type behind them. -/
  | der (bytes : Bytes)
deriving DecidableEq

/-- The course of one call. Without an answer, the call stays open until it is cancelled or times out; `cancels`
says that the request is cancelled before the call ends. -/
structure Response (α : Type) where
  answer : Option (Except Error α)
  cancels : Bool := false

end Oracle

/-- An oracle whose memory is a value of type `σ`. -/
structure Oracle (σ : Type) where
  publicKey : KeyPath → σ → Oracle.Response Bytes × σ
  sign : KeyPath → Bytes → HashAlgorithm → σ → Oracle.Response Oracle.Answer × σ

/-- What a request sees of the handle that may cancel it. `armed` can still fire; `never` has lost its handle. -/
inductive CancelSignal where
  | armed
  | fired
  | never
deriving DecidableEq

namespace CancelSignal

def isCancelled (signal : CancelSignal) : Bool := signal == fired

/-- The handle cancels. -/
def cancel : CancelSignal → CancelSignal
  | armed => fired
  | fired => fired
  | never => never

/-- The handle is given up; what it has done stays done. -/
def dropHandle : CancelSignal → CancelSignal
  | armed => never
  | fired => fired
  | never => never

end CancelSignal

end CoinSpend
