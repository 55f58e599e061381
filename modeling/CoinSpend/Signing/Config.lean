import CoinSpend.Failure
import CoinSpend.Text.Letters

/-! What a deployment chooses: what an oracle is given to sign, how long it may take, and which checks are made. -/
namespace CoinSpend

/-- What an oracle does to a payload before it signs. -/
inductive HashAlgorithm where
  | none
  | sha256
deriving DecidableEq

def HashAlgorithm.name : HashAlgorithm → String
  | .none => "none"
  | .sha256 => "sha256"

/-- Either the oracle gets the finished digest, or it applies the second round of hashing itself. -/
inductive PayloadHashing where
  | digest
  | singleSha256
deriving DecidableEq

namespace PayloadHashing

def name : PayloadHashing → String
  | digest => "digest"
  | singleSha256 => "single_sha256"

def ofName? (name : String) : Option PayloadHashing :=
  [digest, singleSha256].find? (·.name == name)

def algorithm : PayloadHashing → HashAlgorithm
  | digest => .none
  | singleSha256 => .sha256

def ofJson? (json : Json) : Option PayloadHashing := json.constant?.bind ofName?

end PayloadHashing

structure SigningConfig where
  payloadHashing : PayloadHashing := .digest
  /-- Exceptions by coin name. -/
  coinPayloadHashing : List (String × PayloadHashing) := []
  /-- Time for one oracle call. -/
  oracleTimeoutMs : Option UInt64 := none
  verifySignatures : Bool := true
  /-- Whether a raw earlier transaction must have the hash that the input names. -/
  verifyPrevTxHash : Bool := true
  defaultSequence : UInt32 := 0xffffffff
  defaultVersion : Int32 := 1
deriving DecidableEq

namespace SigningConfig

/-- The first exception whose name is the coin's up to ASCII case, else the general choice. -/
def payloadHashingFor (config : SigningConfig) (coin : String) : PayloadHashing :=
  match config.coinPayloadHashing.find? fun entry => Text.sameName entry.1 coin with
  | some entry => entry.2
  | none => config.payloadHashing

def withPayloadHashing (config : SigningConfig) (hashing : PayloadHashing) : SigningConfig :=
  { config with payloadHashing := hashing }

/-- Sets the timeout in whole milliseconds, a fraction being dropped. -/
def withOracleTimeout (config : SigningConfig) (microseconds : UInt64) : SigningConfig :=
  { config with oracleTimeoutMs := some (microseconds / 1000) }

def withoutPrevTxHashCheck (config : SigningConfig) : SigningConfig :=
  { config with verifyPrevTxHash := false }

/-- Adds an entry, or gives an entry of the same name a new value. -/
def putEntry (entries : List (String × PayloadHashing)) (entry : String × PayloadHashing) :
    List (String × PayloadHashing) :=
  if entries.any (·.1 == entry.1) then
    entries.map fun old => if old.1 == entry.1 then entry else old
  else entries ++ [entry]

def entries? (json : Json) : Option (List (String × PayloadHashing)) := do
  let members ← json.members?
  let entries ← members.mapM fun (name, value) => (PayloadHashing.ofJson? value).map (name, ·)
  return entries.foldl putEntry []

def ofJson? (json : Json) : Option SigningConfig := do
  let base : SigningConfig := {}
  let get ← json.fields? ["payload_hashing", "coin_payload_hashing", "oracle_timeout_ms",
    "verify_signatures", "verify_prev_tx_hash", "default_sequence", "default_version"]
  let payloadHashing ← Json.defaulted? get "payload_hashing" base.payloadHashing PayloadHashing.ofJson?
  let coinPayloadHashing ← Json.defaulted? get "coin_payload_hashing" [] entries?
  let oracleTimeoutMs ← Json.optional? get "oracle_timeout_ms" Json.uint64?
  let verifySignatures ← Json.defaulted? get "verify_signatures" base.verifySignatures Json.bool?
  let verifyPrevTxHash ← Json.defaulted? get "verify_prev_tx_hash" base.verifyPrevTxHash Json.bool?
  let defaultSequence ← Json.defaulted? get "default_sequence" base.defaultSequence Json.uint32?
  let defaultVersion ← Json.defaulted? get "default_version" base.defaultVersion Json.int32?
  return ⟨payloadHashing, coinPayloadHashing, oracleTimeoutMs, verifySignatures, verifyPrevTxHash,
    defaultSequence, defaultVersion⟩

def ofJsonText (text : String) : Except Failure SigningConfig := Json.readText ofJson? text

end SigningConfig

end CoinSpend
