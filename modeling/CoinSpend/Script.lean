import CoinSpend.Failure
import CoinSpend.Hash.Hmac
import CoinSpend.ScriptType

/-! Scripts: pushes of data, the standard output templates, and the division of a script into
instructions. -/
namespace CoinSpend.Script

/-- The shortest opcode and length bytes for a push; for lengths below 2^32. -/
def pushHeader (length : Nat) : Bytes :=
  if length < 0x4c then [UInt8.ofNat length]
  else if length ≤ 0xff then 0x4c :: littleEndian 1 length
  else if length ≤ 0xffff then 0x4d :: littleEndian 2 length
  else 0x4e :: littleEndian 4 length

def push (data : Bytes) : Bytes := pushHeader data.length ++ data

/-- Duplicate, hash, compare with the hash, check the signature. -/
def p2pkh (hash : Bytes) : Bytes := [0x76, 0xa9] ++ push hash ++ [0x88, 0xac]

/-- Hash and compare with the hash. -/
def p2sh (hash : Bytes) : Bytes := [0xa9] ++ push hash ++ [0x87]

/-- A version-0 witness program. -/
def witnessV0 (program : Bytes) : Bytes := [0x00] ++ push program

/-- The most data that nodes relay in an output of this kind. -/
def maxReturnData : Nat := 80

def opReturn (data : Bytes) : Except Failure Bytes :=
  if maxReturnData < data.length then
    let size := data.length
    .error (.plain .invalidInput s!"OP_RETURN data is {size} bytes, maximum is {maxReturnData}")
  else .ok ([0x6a] ++ push data)

/-- The output script that pays to one key under a script type. -/
def forKey (hash : Octets 20) : ScriptType → Except Failure Bytes
  | .p2pkh => .ok (p2pkh hash.bytes)
  | .p2shP2wpkh => .ok (p2sh (hash160 (witnessV0 hash.bytes)).bytes)
  | .p2wpkh => .ok (witnessV0 hash.bytes)
  | other =>
    let name := other.name
    .error (.plain .unsupportedScriptType s!"{name} is not a single-key script type")

/-- One opcode with the length bytes and data that belong to it. -/
structure Instruction where
  opcode : UInt8
  lengthBytes : Bytes
  data : Bytes
deriving DecidableEq

def Instruction.bytes (instruction : Instruction) : Bytes :=
  instruction.opcode :: (instruction.lengthBytes ++ instruction.data)

inductive Error where
  | pushOverruns
  | lengthTruncated
deriving DecidableEq

def Error.message : Error → String
  | .pushOverruns => "Script push runs past end of script"
  | .lengthTruncated => "Truncated push length in script"

def Error.toFailure (error : Error) : Failure := .plain .invalidTransaction error.message

/-- How many length bytes follow an opcode. -/
def lengthWidth (opcode : UInt8) : Nat :=
  if opcode = 0x4c then 1 else if opcode = 0x4d then 2 else if opcode = 0x4e then 4 else 0

/-- How many data bytes follow an opcode and its length bytes. -/
def dataLength (opcode : UInt8) (lengthBytes : Bytes) : Nat :=
  if opcode ≤ 0x4b then opcode.toNat else ofLittleEndian lengthBytes

/-- The instruction with the given opcode, and what follows it. -/
def instruction (opcode : UInt8) (input : Bytes) : Except Error (Instruction × Bytes) :=
  match split? (lengthWidth opcode) input with
  | none => .error .lengthTruncated
  | some (lengthBytes, rest) =>
    match split? (dataLength opcode lengthBytes) rest with
    | none => .error .pushOverruns
    | some (data, rest) => .ok (⟨opcode, lengthBytes, data⟩, rest)

theorem bytes_of_instruction {opcode : UInt8} {input rest : Bytes} {found : Instruction}
    (read : instruction opcode input = .ok (found, rest)) :
    opcode :: input = found.bytes ++ rest := by
  unfold instruction at read
  split at read
  · contradiction
  · rename_i first
    split at read
    · contradiction
    · rename_i second
      cases read
      obtain ⟨_, rfl⟩ := split?_eq_some_iff.mp first
      obtain ⟨_, rfl⟩ := split?_eq_some_iff.mp second
      simp [Instruction.bytes]

/-- Divides a script from the front; `read` holds earlier instructions, last first. -/
def instructionsFrom (read : List Instruction) (script : Bytes) : Except Error (List Instruction) :=
  match script with
  | [] => .ok read.reverse
  | opcode :: input =>
    match _step : instruction opcode input with
    | .error error => .error error
    | .ok (found, rest) => instructionsFrom (found :: read) rest
termination_by script.length
decreasing_by
  have same := congrArg List.length (bytes_of_instruction _step)
  simp only [List.length_cons, List.length_append, Instruction.bytes] at same ⊢
  omega

def instructions (script : Bytes) : Except Error (List Instruction) := instructionsFrom [] script

def codeSeparator : UInt8 := 0xab

/-- The script without its code separators; the same byte inside data stays. -/
def withoutCodeSeparators (script : Bytes) : Except Error Bytes :=
  (instructions script).map fun found =>
    (found.filter (·.opcode != codeSeparator)).flatMap Instruction.bytes

end CoinSpend.Script
