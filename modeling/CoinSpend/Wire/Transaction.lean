import CoinSpend.Hash.Sha256
import CoinSpend.Wire.CompactSize

/-! Transactions and their two wire forms: the base form, whose hash names the transaction, and the form
with witnesses (BIP-144). Reading accepts what the network's consensus rules accept. -/
namespace CoinSpend

/-- An output of an earlier transaction; the transaction's hash is in wire order. -/
structure Outpoint where
  txid : Octets 32
  vout : UInt32
deriving DecidableEq

structure TxIn where
  outpoint : Outpoint
  scriptSig : Bytes
  sequence : UInt32
  witness : List Bytes
deriving DecidableEq

structure TxOut where
  value : UInt64
  script : Bytes
deriving DecidableEq

structure Transaction where
  version : Int32
  inputs : List TxIn
  outputs : List TxOut
  lockTime : UInt32
deriving DecidableEq

def Outpoint.bytes (outpoint : Outpoint) : Bytes :=
  outpoint.txid.bytes ++ littleEndian 4 outpoint.vout.toNat

/-- An input as it stands before signing. -/
def TxIn.unsigned (outpoint : Outpoint) (sequence : UInt32) : TxIn := ⟨outpoint, [], sequence, []⟩

def TxIn.bytes (input : TxIn) : Bytes :=
  input.outpoint.bytes ++ Wire.sized input.scriptSig ++ littleEndian 4 input.sequence.toNat

def TxIn.witnessBytes (input : TxIn) : Bytes := Wire.counted Wire.sized input.witness

def TxOut.bytes (output : TxOut) : Bytes :=
  littleEndian 8 output.value.toNat ++ Wire.sized output.script

namespace Transaction

def hasWitness (tx : Transaction) : Bool := tx.inputs.any fun input => !input.witness.isEmpty

def versionBytes (tx : Transaction) : Bytes := littleEndian 4 tx.version.toUInt32.toNat

def lockTimeBytes (tx : Transaction) : Bytes := littleEndian 4 tx.lockTime.toNat

/-- Inputs and outputs, each list behind its count. -/
def body (tx : Transaction) : Bytes :=
  Wire.counted TxIn.bytes tx.inputs ++ Wire.counted TxOut.bytes tx.outputs

/-- The form without witnesses. -/
def baseBytes (tx : Transaction) : Bytes := tx.versionBytes ++ tx.body ++ tx.lockTimeBytes

/-- The form sent to the network: marker, flag and witnesses appear when some input has a witness. -/
def bytes (tx : Transaction) : Bytes :=
  if tx.hasWitness then
    tx.versionBytes ++ [0x00, 0x01] ++ tx.body ++ tx.inputs.flatMap TxIn.witnessBytes ++
      tx.lockTimeBytes
  else tx.baseBytes

/-- The name of the transaction, in the order in which it is shown. -/
def txid (tx : Transaction) : Octets 32 := (sha256d tx.baseBytes).reverse

end Transaction

namespace Wire

def readOutpoint : Reader Outpoint := fun input =>
  match Reader.octets 32 input with
  | .ok (txid, rest) =>
    match Reader.uint32 rest with
    | .ok (vout, rest) => .ok (⟨txid, vout⟩, rest)
    | .error error => .error error
  | .error error => .error error

def readInput : Reader TxIn := fun input =>
  match readOutpoint input with
  | .ok (outpoint, rest) =>
    match readSized rest with
    | .ok (script, rest) =>
      match Reader.uint32 rest with
      | .ok (sequence, rest) => .ok (⟨outpoint, script, sequence, []⟩, rest)
      | .error error => .error error
    | .error error => .error error
  | .error error => .error error

def readOutput : Reader TxOut := fun input =>
  match Reader.uint64 input with
  | .ok (value, rest) =>
    match readSized rest with
    | .ok (script, rest) => .ok (⟨value, script⟩, rest)
    | .error error => .error error
  | .error error => .error error

/-- Witness items are laid out behind an index of four bytes for each of `total`; `used` bytes are taken
so far, and the items may take `maxAllocation` in all. -/
def readWitnessItems (total : Nat) : Nat → Nat → List Bytes → Reader (List Bytes)
  | 0, _, read, input => .ok (read.reverse, input)
  | count + 1, used, read, input =>
    match CompactSize.read input with
    | .ok (size, rest) =>
      let needed := used + size + (CompactSize.encode size).length
      if UInt64.size ≤ needed then .error (.oversized (UInt64.size - 1))
      else if maxAllocation + 4 * total < needed then .error (.oversized needed)
      else
        match Reader.bytes size rest with
        | .ok (item, rest) => readWitnessItems total count needed (item :: read) rest
        | .error error => .error error
    | .error error => .error error

def readWitness : Reader (List Bytes) := fun input =>
  match CompactSize.read input with
  | .ok (count, rest) =>
    if maxAllocation < count then .error (.oversized count)
    else readWitnessItems count count (4 * count) [] rest
  | .error error => .error error

/-- A witness for each input in turn; `read` holds the inputs that have theirs, last first. -/
def readWitnesses : List TxIn → List TxIn → Reader (List TxIn)
  | [], read, input => .ok (read.reverse, input)
  | txIn :: others, read, input =>
    match readWitness input with
    | .ok (witness, rest) => readWitnesses others ({ txIn with witness := witness } :: read) rest
    | .error error => .error error

def readLockTime (version : Int32) (inputs : List TxIn) (outputs : List TxOut) :
    Reader Transaction := fun input =>
  match Reader.uint32 input with
  | .ok (lockTime, rest) => .ok (⟨version, inputs, outputs, lockTime⟩, rest)
  | .error error => .error error

/-- What follows the marker and the flag. -/
def readWithWitnesses (version : Int32) : Reader Transaction := fun input =>
  match readCounted readInput input with
  | .ok (inputs, rest) =>
    match readCounted readOutput rest with
    | .ok (outputs, rest) =>
      match readWitnesses inputs [] rest with
      | .ok (inputs, rest) =>
        if !inputs.isEmpty && inputs.all (·.witness.isEmpty) then .error .noWitnesses
        else readLockTime version inputs outputs rest
      | .error error => .error error
    | .error error => .error error
  | .error error => .error error

/-- An empty list of inputs is the marker of the form with witnesses. -/
def readTransaction : Reader Transaction := fun input =>
  match Reader.uint32 input with
  | .ok (version, rest) =>
    match readCounted readInput rest with
    | .ok ([], rest) =>
      match rest with
      | [] => .error .ended
      | flag :: rest =>
        if flag = 0x01 then readWithWitnesses version.toInt32 rest else .error (.segwitFlag flag)
    | .ok (inputs, rest) =>
      match readCounted readOutput rest with
      | .ok (outputs, rest) => readLockTime version.toInt32 inputs outputs rest
      | .error error => .error error
    | .error error => .error error
  | .error error => .error error

end Wire

end CoinSpend
