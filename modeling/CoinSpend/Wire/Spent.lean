import CoinSpend.Bytes.Hex
import CoinSpend.Text.Blank
import CoinSpend.Wire.Transaction

/-! The output that an input spends, looked up in the raw earlier transaction. -/
namespace CoinSpend

def Hex.Error.toFailure (error : Hex.Error) : Failure :=
  .plain .invalidInput s!"Hex error: {error.message}"

/-- Hexadecimal text with blanks around it. -/
def Hex.decodeTrimmed (text : String) : Except Failure Bytes :=
  (Hex.decode (Text.trim text)).mapError Hex.Error.toFailure

/-- An output together with the shown name of its transaction. -/
structure SpentOutput where
  txid : Octets 32
  value : UInt64
  script : Bytes
deriving DecidableEq

def spentOutput (raw : String) (vout : UInt32) : Except Failure SpentOutput := do
  let bytes ← Hex.decodeTrimmed raw
  let tx ← (Wire.Reader.whole Wire.readTransaction bytes).mapError Wire.Error.toFailure
  match tx.outputs[vout.toNat]? with
  | some output => return ⟨tx.txid, output.value, output.script⟩
  | none =>
    let count := tx.outputs.length
    .error (.plain .invalidInput
      s!"Output index {vout} out of range, previous transaction has {count} outputs")

end CoinSpend
