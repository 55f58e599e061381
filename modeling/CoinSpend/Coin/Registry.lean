import CoinSpend.Coin
import CoinSpend.Failure
import CoinSpend.Text.Blank
import CoinSpend.Text.Letters

/-! The table of coins, looked up by name without regard to ASCII case. -/
namespace CoinSpend

/-- Coins in the order in which they were added. -/
structure Registry where
  coins : List Coin
deriving DecidableEq

namespace Registry

def segwitTypes : List ScriptType := [.p2pkh, .p2shP2wpkh, .p2wpkh]

def builtin : Registry where
  coins := [
    ⟨"Bitcoin", 0, 0x00, 0x05, some "bc", none, none, segwitTypes, []⟩,
    ⟨"Testnet", 1, 0x6f, 0xc4, some "tb", none, none, segwitTypes, []⟩,
    ⟨"BitcoinCash", 145, 0x00, 0x05, none, some "bitcoincash", some 0, [.p2pkh], [0]⟩,
    ⟨"BitcoinSV", 236, 0x00, 0x05, none, none, some 0, [.p2pkh], [0, 145]⟩,
    ⟨"BitcoinGold", 156, 0x26, 0x17, some "btg", none, some 79, segwitTypes, [0]⟩,
    ⟨"Litecoin", 2, 0x30, 0x32, some "ltc", none, none, segwitTypes, []⟩,
    ⟨"Dogecoin", 3, 0x1e, 0x16, none, none, none, [.p2pkh], []⟩,
    ⟨"Dash", 5, 0x4c, 0x10, none, none, none, [.p2pkh], []⟩,
    ⟨"DigiByte", 20, 0x1e, 0x3f, some "dgb", none, none, segwitTypes, []⟩]

def get? (registry : Registry) (name : String) : Option Coin :=
  registry.coins.find? fun coin => Text.sameName coin.name name

def require (registry : Registry) (name : String) : Except Failure Coin :=
  match registry.get? name with
  | some coin => .ok coin
  | none => .error (.unsupportedCoin name)

/-- The first coin with the given coin type. -/
def bySlip44? (registry : Registry) (slip44 : UInt32) : Option Coin :=
  registry.coins.find? (·.slip44 == slip44)

/-- Puts `coin` in the place of the first coin of its name, or at the end. -/
def put (coin : Coin) : List Coin → List Coin
  | [] => [coin]
  | other :: others =>
    if Text.sameName other.name coin.name then coin :: others else other :: put coin others

def insert (registry : Registry) (coin : Coin) : Except Failure Registry :=
  if (Text.trimmed coin.name.toList).isEmpty then
    .error (.plain .invalidInput "Coin name must not be empty")
  else if coin.scriptTypes.isEmpty then
    let name := coin.name
    .error (.plain .invalidInput s!"Coin {name} declares no script types")
  else .ok ⟨put coin registry.coins⟩

/-- Inserts coins in turn, up to the first that is refused. -/
def insertAll (registry : Registry) (coins : List Coin) : Except Failure Registry :=
  coins.foldlM insert registry

/-- The built-in table with the coins of a JSON list inserted. -/
def ofJsonText (text : String) : Except Failure Registry := do
  builtin.insertAll (← Json.readText (Json.listOf? Coin.ofJson?) text)

end Registry

end CoinSpend
