import CoinSpend.Address.Bech32
import CoinSpend.Failure
import CoinSpend.Text.Blank

/-! Addresses of version-0 witness programs. -/
namespace CoinSpend.Segwit

def encode (hrp : String) (program : Bytes) : Except Failure String :=
  match Bech32.encode hrp.toList (0 :: (Symbols.ofBytes? program).getD []) with
  | .ok address => .ok (String.ofList address)
  | .error error =>
    let reason := error.message
    .error (.plain .internal s!"Bech32 encoding failed: {reason}")

/-- The program of an address with the given human-readable part; only 20 and 32 bytes are programs. -/
def decode? (hrp address : String) : Option Bytes := do
  let (lead, symbols) ← Bech32.decode? (Text.trimmed address.toList)
  guard (lead == hrp.toList)
  match symbols with
  | [] => none
  | version :: rest =>
    guard (version == 0)
    let program ← Symbols.toBytes? rest
    guard (program.length == 20 || program.length == 32)
    return program

end CoinSpend.Segwit
