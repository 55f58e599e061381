import CoinSpend.Account.Path
import CoinSpend.Coin.Registry

/-! Recognition of account and address paths, with a description for people. A path is recognized if it has
the form purpose/coin/account or purpose/coin/account/change/index that the coin's accounts use. -/
namespace CoinSpend

structure PathDescription where
  verbose : String
  coin : String
  isKnown : Bool
  accountIndex : Option UInt32
  addressIndex : Option UInt32
  isChange : Option Bool
  wholeAccount : Option Bool
  isPrefork : Option Bool
  scriptType : Option ScriptType
deriving DecidableEq

/-- What the first three levels of a recognized path say. -/
structure AccountLevels where
  scriptType : ScriptType
  accountIndex : UInt32
  isPrefork : Bool
deriving DecidableEq

namespace PathDescription

def unknown (coin : Coin) (path : KeyPath) (scriptType : Option ScriptType) : PathDescription :=
  ⟨path.format, coin.name, false, none, none, none, none, none, scriptType⟩

/-- Reads three levels. Without a given script type the purpose decides. -/
def accountLevels? (coin : Coin) (purpose slip44 account : UInt32) (given : Option ScriptType) :
    Option AccountLevels := do
  guard (KeyPath.isHardened purpose && KeyPath.isHardened slip44 && KeyPath.isHardened account)
  let scriptType ← given <|> ScriptType.ofPurpose? (KeyPath.unharden purpose)
  let expected ← scriptType.purpose?
  guard (expected == KeyPath.unharden purpose && coin.supports scriptType)
  let chain := KeyPath.unharden slip44
  if chain == coin.slip44 then some ⟨scriptType, KeyPath.unharden account, false⟩
  else if coin.isPrefork chain then some ⟨scriptType, KeyPath.unharden account, true⟩
  else none

/-- The attributes in brackets; the type is named only where the coin has several. -/
def attributes (coin : Coin) (levels : AccountLevels) : String :=
  let prefork := if levels.isPrefork then ["Prefork"] else []
  let label := if 1 < coin.scriptTypes.length then levels.scriptType.label?.toList else []
  match prefork ++ label with
  | [] => ""
  | words => " (" ++ ", ".intercalate words ++ ")"

def account (coin : Coin) (levels : AccountLevels) : PathDescription where
  verbose := s!"{coin.name} Account #{levels.accountIndex}{attributes coin levels}"
  coin := coin.name
  isKnown := true
  accountIndex := some levels.accountIndex
  addressIndex := none
  isChange := none
  wholeAccount := some true
  isPrefork := some levels.isPrefork
  scriptType := some levels.scriptType

def address (coin : Coin) (levels : AccountLevels) (isChange : Bool) (index : UInt32) :
    PathDescription :=
  let kind := if isChange then "Change " else ""
  let place := s!"{coin.name} Account #{levels.accountIndex}"
  { account coin levels with
    verbose := s!"{place}, {kind}Address #{index}{attributes coin levels}"
    addressIndex := some index
    isChange := some isChange
    wholeAccount := some false }

def ofPath (coin : Coin) (path : KeyPath) (given : Option ScriptType) : PathDescription :=
  match path with
  | [purpose, slip44, index] =>
    match accountLevels? coin purpose slip44 index given with
    | some levels => account coin levels
    | none => unknown coin path given
  | [purpose, slip44, index, change, addressIndex] =>
    match accountLevels? coin purpose slip44 index given with
    | some levels =>
      if 1 < change || KeyPath.isHardened addressIndex then unknown coin path given
      else address coin levels (change == 1) addressIndex
    | none => unknown coin path given
  | _ => unknown coin path given

end PathDescription

/-- Describes a path of the named coin. -/
def Registry.describe (registry : Registry) (path : KeyPath) (coin : String)
    (given : Option ScriptType) : Except Failure PathDescription :=
  (registry.require coin).map fun coin => PathDescription.ofPath coin path given

end CoinSpend
