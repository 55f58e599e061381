import CoinSpend.Account.Description

/-! The accounts of a coin: their paths, and the step from one account to the next. -/
namespace CoinSpend

structure AccountPath where
  coin : String
  purpose : UInt32
  accountIndex : UInt32
  scriptType : ScriptType
  /-- Purpose, coin type and account, all hardened. -/
  path : KeyPath
deriving DecidableEq

namespace AccountPath

/-- The account of a script type; types without purpose have none. -/
def ofScriptType? (coin : Coin) (index : UInt32) (scriptType : ScriptType) : Option AccountPath :=
  scriptType.purpose?.map fun purpose =>
    ⟨coin.name, purpose, index, scriptType, [purpose, coin.slip44, index].map KeyPath.harden⟩

def ofJson? (json : Json) : Option AccountPath := do
  let get ← json.fields? ["coin", "purpose", "account_index", "script_type", "address_n"]
  let coin ← Json.required? get "coin" Json.string?
  let purpose ← Json.required? get "purpose" Json.uint32?
  let accountIndex ← Json.required? get "account_index" Json.uint32?
  let scriptType ← Json.required? get "script_type" Coin.scriptType?
  let path ← Json.required? get "address_n" (Json.listOf? Json.uint32?)
  return ⟨coin, purpose, accountIndex, scriptType, path⟩

end AccountPath

namespace Registry

/-- The accounts with one index, for each script type of the coin in its order; `wanted` keeps one type. -/
def accountPaths (registry : Registry) (coin : String) (index : UInt32)
    (wanted : Option ScriptType) : Except Failure (List AccountPath) := do
  let coin ← registry.require coin
  if KeyPath.hardenedBit ≤ index then
    .error (.plain .invalidInput s!"Account index {index} out of range")
  else
    let types := coin.scriptTypes.filter fun scriptType => wanted.all (· == scriptType)
    return types.filterMap (AccountPath.ofScriptType? coin index)

/-- The account after a recognized one. There is none after the last index. -/
def nextAccountPath (registry : Registry) (account : AccountPath) : Option AccountPath :=
  match registry.describe account.path account.coin (some account.scriptType), account.path with
  | .ok described, [purpose, slip44, index] =>
    let next := KeyPath.unharden index + 1
    if !described.isKnown || KeyPath.hardenedBit ≤ next then none
    else
      let path := [purpose, slip44, KeyPath.harden next]
      match registry.describe path account.coin (some account.scriptType) with
      | .ok described =>
        if described.isKnown then some { account with accountIndex := next, path } else none
      | .error _ => none
  | _, _ => none

/-- One signing session serves one script type, so only a single path is one account. -/
def isSameAccount (paths : List AccountPath) : Bool := paths.length == 1

end Registry

end CoinSpend
