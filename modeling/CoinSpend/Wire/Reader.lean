import CoinSpend.Failure
import CoinSpend.Bytes

/-! Reading of wire-format data: a reader takes a value from the front of the bytes and leaves the rest. -/
namespace CoinSpend.Wire

inductive Error where
  | ended
  | nonMinimalSize
  | segwitFlag (flag : UInt8)
  | noWitnesses
  | leftOver
  | oversized (requested : Nat)
deriving DecidableEq

/-- The size from which a witness is refused before it is read. -/
def maxAllocation : Nat := 4000000

def Error.message : Error → String
  | .ended => "IO error"
  | .nonMinimalSize => "non-minimal varint"
  | .segwitFlag flag => s!"unsupported segwit version: {flag}"
  | .noWitnesses => "parse failed: witness flag set but no witnesses present"
  | .leftOver => "parse failed: data not consumed entirely when explicitly deserializing"
  | .oversized requested =>
    s!"allocation of oversized vector: requested {requested}, maximum {maxAllocation}"

def Error.toFailure (error : Error) : Failure :=
  .plain .invalidTransaction s!"Consensus decode error: {error.message}"

abbrev Reader (α : Type) := Bytes → Except Error (α × Bytes)

namespace Reader

variable {α : Type}

def bytes (count : Nat) : Reader Bytes := fun input =>
  match split? count input with
  | some found => .ok found
  | none => .error .ended

def octets (n : Nat) : Reader (Octets n) := fun input =>
  match found : split? n input with
  | some (first, rest) => .ok (⟨first, (split?_eq_some_iff.mp found).1⟩, rest)
  | none => .error .ended

/-- A little-endian integer of `width` bytes. -/
def integer (width : Nat) : Reader Nat := fun input =>
  match bytes width input with
  | .ok (found, rest) => .ok (ofLittleEndian found, rest)
  | .error error => .error error

def uint32 : Reader UInt32 := fun input =>
  match integer 4 input with
  | .ok (value, rest) => .ok (UInt32.ofNat value, rest)
  | .error error => .error error

def uint64 : Reader UInt64 := fun input =>
  match integer 8 input with
  | .ok (value, rest) => .ok (UInt64.ofNat value, rest)
  | .error error => .error error

/-- `count` values one after another; `read` holds earlier ones, last first. -/
def repeated (item : Reader α) : Nat → List α → Reader (List α)
  | 0, read, input => .ok (read.reverse, input)
  | count + 1, read, input =>
    match item input with
    | .ok (value, rest) => repeated item count (value :: read) rest
    | .error error => .error error

/-- The whole input is one value. -/
def whole (item : Reader α) (input : Bytes) : Except Error α :=
  match item input with
  | .ok (value, []) => .ok value
  | .ok (_, _ :: _) => .error .leftOver
  | .error error => .error error

end Reader

end CoinSpend.Wire
