import CoinSpend.Address.Base58
import CoinSpend.Address.CashAddr
import CoinSpend.Address.Segwit
import CoinSpend.Coin.Registry
import CoinSpend.Key.Secp256k1
import CoinSpend.Script

/-! Addresses of a coin: the address of a key, and the template an address pays to. -/
namespace CoinSpend

inductive AddressKind where
  | p2pkh
  | p2sh
  | p2wpkh
  | p2wsh
  | cashAddrP2pkh
  | cashAddrP2sh
deriving DecidableEq

namespace AddressKind

def name : AddressKind → String
  | p2pkh => "P2pkh"
  | p2sh => "P2sh"
  | p2wpkh => "P2wpkh"
  | p2wsh => "P2wsh"
  | cashAddrP2pkh => "CashAddrP2pkh"
  | cashAddrP2sh => "CashAddrP2sh"

/-- Whether the script type has addresses of this kind. -/
def fits (kind : AddressKind) : ScriptType → Bool
  | .p2pkh => kind == p2pkh || kind == cashAddrP2pkh
  | .p2shP2wpkh | .p2sh | .p2shP2wsh => kind == p2sh || kind == cashAddrP2sh
  | .p2wpkh => kind == p2wpkh
  | .p2wsh => kind == p2wsh

end AddressKind

/-- What an address pays to. -/
structure AddressTarget where
  kind : AddressKind
  hash : Bytes
deriving DecidableEq

def AddressTarget.script (target : AddressTarget) : Bytes :=
  match target.kind with
  | .p2pkh | .cashAddrP2pkh => Script.p2pkh target.hash
  | .p2sh | .cashAddrP2sh => Script.p2sh target.hash
  | .p2wpkh | .p2wsh => Script.witnessV0 target.hash

namespace Coin

def unsupported (coin : Coin) (scriptType : ScriptType) : Failure :=
  let type := scriptType.name
  .plain .unsupportedScriptType s!"{coin.name} does not support {type}"

/-- The address of a key hash under a script type. -/
def addressOfHash (coin : Coin) (hash : Octets 20) : ScriptType → Except Failure String
  | .p2pkh =>
    match coin.cashAddrLead with
    | some lead => (CashAddr.encode lead .p2pkh hash.bytes).mapError CashAddr.Error.toFailure
    | none => .ok (Base58.encodeCheck coin.keyVersion hash.bytes)
  | .p2shP2wpkh =>
    .ok (Base58.encodeCheck coin.scriptVersion (hash160 (Script.witnessV0 hash.bytes)).bytes)
  | .p2wpkh =>
    match coin.hrp with
    | some hrp => Segwit.encode hrp hash.bytes
    | none => .error (.plain .unsupportedScriptType s!"{coin.name} has no bech32 prefix")
  | other =>
    let type := other.name
    .error (.plain .unsupportedScriptType s!"Cannot derive a single-key address for {type}")

/-- The address of a public key of 33 or 65 bytes. -/
def address (coin : Coin) (publicKey : Bytes) (scriptType : ScriptType) : Except Failure String := do
  if coin.supports scriptType then
    let key ← (PublicKey.compress publicKey).mapError PublicKey.Error.toFailure
    coin.addressOfHash (hash160 key.bytes) scriptType
  else .error (coin.unsupported scriptType)

/-- Reads a witness program in an address that begins with the coin's human-readable part. -/
def segwitTarget? (coin : Coin) (address : String) : Option AddressTarget := do
  let hrp ← coin.hrp
  guard ((hrp.toList ++ ['1']).isPrefixOf (Text.lowered address.toList))
  let program ← Segwit.decode? hrp address
  return ⟨if program.length = 20 then .p2wpkh else .p2wsh, program⟩

def cashAddrTarget? (coin : Coin) (address : String) : Option AddressTarget := do
  let lead ← coin.cashAddrLead
  let (kind, hash) ← (CashAddr.decode address lead).toOption
  guard (hash.length == 20)
  return ⟨match kind with | .p2pkh => .cashAddrP2pkh | .p2sh => .cashAddrP2sh, hash⟩

def base58Target? (coin : Coin) (address : String) : Option AddressTarget := do
  let (version, hash) ← Base58.decodeCheck? address
  guard (hash.length == 20)
  if version = coin.keyVersion then some ⟨.p2pkh, hash⟩
  else if version = coin.scriptVersion then some ⟨.p2sh, hash⟩
  else none

/-- What an address of the coin pays to. Witness programs are tried first, then CashAddr, then Base58Check. -/
def classify (coin : Coin) (address : String) : Except Failure AddressTarget :=
  let trimmed := Text.trim address
  match coin.segwitTarget? trimmed <|> coin.cashAddrTarget? trimmed <|> coin.base58Target? trimmed with
  | some target => .ok target
  | none => .error ((Failure.unrecognizedAddress trimmed).withDetails s!"coin {coin.name}")

end Coin

end CoinSpend
