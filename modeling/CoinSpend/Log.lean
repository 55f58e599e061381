import CoinSpend.Text.Blank

/-! Log lines. A field's key decides how much of its value is shown: nothing of secrets, both ends of addresses
and hashes, all of the rest. -/
namespace CoinSpend.Log

inductive Level where
  | debug
  | info
  | warn
  | error
deriving DecidableEq

namespace Level

def name : Level → String
  | debug => "DEBUG"
  | info => "INFO"
  | warn => "WARN"
  | error => "ERROR"

def severity : Level → Nat
  | debug => 0
  | info => 1
  | warn => 2
  | error => 3

end Level

inductive Redaction where
  | plain
  /-- Only the number of characters is shown. -/
  | secret
  /-- Both ends of an address or public key are shown. -/
  | address
  /-- Both ends of a hash are shown. -/
  | digest
deriving DecidableEq

namespace Redaction

def name : Redaction → String
  | plain => "Plain"
  | secret => "Secret"
  | address => "Address"
  | digest => "Digest"

/-- Parts of keys with the redaction they call for; the first rule that applies decides. -/
def rules : List (List String × Redaction) :=
  [(["private", "secret", "seed", "mnemonic", "passphrase", "password", "xprv", "wif"], secret),
    (["address", "recipient", "pubkey", "public_key", "xpub"], address),
    (["txid", "tx_id", "hash", "signature", "preimage", "payload"], digest)]

/-- Lower case, as far as it yields ASCII letters: two letters beyond ASCII do. -/
def lowered (c : Char) : List Char :=
  if c = '\u212a' then ['k'] else if c = '\u0130' then ['i', '\u0307'] else [c.toLower]

def occurs (part : List Char) : List Char → Bool
  | [] => part.isEmpty
  | c :: rest => part.isPrefixOf (c :: rest) || occurs part rest

/-- The redaction that a key calls for. -/
def ofKey (key : String) : Redaction :=
  let letters := key.toList.flatMap lowered
  match rules.find? fun rule => rule.1.any fun part => occurs part.toList letters with
  | some rule => rule.2
  | none => plain

/-- All that is shown of a secret of so many characters. -/
def hidden (count : Nat) : String :=
  if count = 0 then "[EMPTY]" else if count ≤ 4 then "[REDACTED]" else s!"[REDACTED:{count}chars]"

/-- The ends of a value, if more than three characters are left out between them. -/
def ends? (value : List Char) (head tail : Nat) : Option String :=
  if value.length ≤ head + tail + 3 then none
  else some (String.ofList (value.take head) ++ "..." ++ String.ofList (value.drop (value.length - tail)))

/-- How many characters of an address are shown at its head: four beyond a colon, else six. -/
def headLength (value : List Char) : Nat :=
  match value.idxOf? ':' with
  | some colon => colon + 5
  | none => 6

def shownAddress (value : String) : String :=
  let trimmed := Text.trimmed value.toList
  if trimmed.isEmpty then "[EMPTY]"
  else (ends? trimmed (headLength trimmed) 4).getD (hidden trimmed.length)

def shownDigest (value : String) : String :=
  let trimmed := Text.trimmed value.toList
  if trimmed.isEmpty then "[EMPTY]" else (ends? trimmed 10 6).getD (String.ofList trimmed)

def apply (redaction : Redaction) (value : String) : String :=
  match redaction with
  | plain => value
  | secret => hidden value.length
  | address => shownAddress value
  | digest => shownDigest value

end Redaction

/-- A log line with its fields, values already redacted. -/
structure Entry where
  level : Level
  origin : String
  message : String
  fields : List (String × String) := []
deriving DecidableEq

namespace Entry

def add (entry : Entry) (key value : String) (redaction : Redaction) : Entry :=
  { entry with fields := entry.fields ++ [(key, redaction.apply value)] }

/-- Adds a field, redacted as its key says. -/
def field (entry : Entry) (key value : String) : Entry := entry.add key value (.ofKey key)

/-- Adds a field of which nothing is shown, whatever its key. -/
def redactedField (entry : Entry) (key value : String) : Entry := entry.add key value .secret

def addressField (entry : Entry) (key value : String) : Entry := entry.add key value .address

def render (entry : Entry) : String :=
  let line := s!"{entry.level.name} [{entry.origin}] {entry.message}"
  match entry.fields.map fun (key, value) => key ++ "=" ++ value with
  | [] => line
  | shown => line ++ " | " ++ " ".intercalate shown

end Entry

end CoinSpend.Log
