import CoinSpend.Json.Fields
import CoinSpend.ScriptType

/-! The network parameters of a coin. -/
namespace CoinSpend

structure Coin where
  name : String
  /-- Coin type in derivation paths (SLIP-44). -/
  slip44 : UInt32
  /-- Base58 version byte of addresses that pay to a key hash. -/
  keyVersion : UInt8
  /-- Base58 version byte of addresses that pay to a script hash. -/
  scriptVersion : UInt8
  /-- Human-readable part of Bech32 addresses. -/
  hrp : Option String
  /-- Human-readable part of CashAddr addresses. -/
  cashAddrLead : Option String
  /-- A fork id makes every input of the coin sign the replay-protected layout. -/
  forkId : Option UInt32
  /-- Supported types in the order accounts are shown. -/
  scriptTypes : List ScriptType
  /-- Coin types of the chains this one split from, whose paths it still recognizes. -/
  preforkSlip44 : List UInt32
deriving DecidableEq

namespace Coin

def sighashAll : UInt32 := 0x01

def sighashForkId : UInt32 := 0x40

def usesForkId (coin : Coin) : Bool := coin.forkId.isSome

def supports (coin : Coin) (scriptType : ScriptType) : Bool := coin.scriptTypes.contains scriptType

def supportsSegwit (coin : Coin) : Bool := coin.scriptTypes.any ScriptType.isSegwit

def isPrefork (coin : Coin) (slip44 : UInt32) : Bool := coin.preforkSlip44.contains slip44

/-- The hash type that every signature of the coin commits to; the fork id is kept modulo 2^24. -/
def sighashType (coin : Coin) : UInt32 :=
  match coin.forkId with
  | some forkId => sighashAll ||| sighashForkId ||| (forkId <<< 8)
  | none => sighashAll

def scriptType? (json : Json) : Option ScriptType := json.constant?.bind ScriptType.ofName?

def ofJson? (json : Json) : Option Coin := do
  let get ← json.fields? ["name", "slip44", "pub_key_hash", "script_hash", "bech32_prefix",
    "cashaddr_prefix", "fork_id", "script_types", "prefork_slip44"]
  let name ← Json.required? get "name" Json.string?
  let slip44 ← Json.required? get "slip44" Json.uint32?
  let keyVersion ← Json.required? get "pub_key_hash" Json.uint8?
  let scriptVersion ← Json.required? get "script_hash" Json.uint8?
  let hrp ← Json.optional? get "bech32_prefix" Json.string?
  let cashAddrLead ← Json.optional? get "cashaddr_prefix" Json.string?
  let forkId ← Json.optional? get "fork_id" Json.uint32?
  let scriptTypes ← Json.required? get "script_types" (Json.listOf? scriptType?)
  let preforkSlip44 ← Json.defaulted? get "prefork_slip44" [] (Json.listOf? Json.uint32?)
  return ⟨name, slip44, keyVersion, scriptVersion, hrp, cashAddrLead, forkId, scriptTypes, preforkSlip44⟩

end Coin

end CoinSpend
