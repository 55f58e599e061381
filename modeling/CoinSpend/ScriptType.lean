/-! The spending templates of an account, with their purposes in derivation paths. -/
namespace CoinSpend

/-- The first three pay to a single key; the last three are multisignature templates. -/
inductive ScriptType where
  | p2pkh
  | p2shP2wpkh
  | p2wpkh
  | p2sh
  | p2wsh
  | p2shP2wsh
deriving DecidableEq

namespace ScriptType

def all : List ScriptType := [p2pkh, p2shP2wpkh, p2wpkh, p2sh, p2wsh, p2shP2wsh]

/-- The single-key types in the order accounts are shown. -/
def singleKey : List ScriptType := [p2pkh, p2shP2wpkh, p2wpkh]

def name : ScriptType → String
  | p2pkh => "p2pkh"
  | p2shP2wpkh => "p2sh-p2wpkh"
  | p2wpkh => "p2wpkh"
  | p2sh => "p2sh"
  | p2wsh => "p2wsh"
  | p2shP2wsh => "p2sh-p2wsh"

def ofName? (name : String) : Option ScriptType := all.find? (·.name == name)

/-- The purpose level of paths to keys of this type (BIP-44, BIP-49, BIP-84). -/
def purpose? : ScriptType → Option UInt32
  | p2pkh => some 44
  | p2shP2wpkh => some 49
  | p2wpkh => some 84
  | _ => none

def ofPurpose? (purpose : UInt32) : Option ScriptType :=
  if purpose = 44 then some p2pkh
  else if purpose = 49 then some p2shP2wpkh
  else if purpose = 84 then some p2wpkh
  else none

def isSegwit : ScriptType → Bool
  | p2shP2wpkh | p2wpkh | p2wsh | p2shP2wsh => true
  | p2pkh | p2sh => false

def isMultisig : ScriptType → Bool
  | p2sh | p2wsh | p2shP2wsh => true
  | p2pkh | p2shP2wpkh | p2wpkh => false

/-- The word for the type in descriptions of paths. -/
def label? : ScriptType → Option String
  | p2pkh => some "Legacy"
  | p2shP2wpkh => some "Segwit"
  | p2wpkh => some "Segwit Native"
  | _ => none

end ScriptType

end CoinSpend
