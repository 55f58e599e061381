import CoinSpend.Address.Symbols
import CoinSpend.Text.Letters

/-! Bech32 (BIP-173): a human-readable part, the separator `1`, symbols, and a checksum of six symbols. -/
namespace CoinSpend.Bech32

inductive Error where
  | invalidLength
  | invalidByte (byte : UInt8)
  | mixedCase
deriving DecidableEq

def Error.message : Error → String
  | .invalidLength => "invalid length"
  | .invalidByte byte =>
    let character := Char.ofNat byte.toNat
    s!"invalid character (code={character})"
  | .mixedCase => "mixed-case strings not allowed"

/-- Which cases of letters have occurred. -/
structure Cases where
  lower : Bool
  upper : Bool
deriving DecidableEq

def Cases.add (cases : Cases) (c : Char) : Cases :=
  ⟨cases.lower || c.isLower, cases.upper || c.isUpper⟩

def Cases.mixed (cases : Cases) : Bool := cases.lower && cases.upper

/-- Bytes are checked in order: first that they are visible ASCII, then that their cases do not mix. -/
def checkBytes (cases : Cases) : Bytes → Except Error Cases
  | [] => .ok cases
  | byte :: rest =>
    if byte < 33 ∨ 126 < byte then .error (.invalidByte byte)
    else
      let cases := cases.add (Char.ofNat byte.toNat)
      if cases.mixed then .error .mixedCase else checkBytes cases rest

/-- The cases in a human-readable part, which has one to eighty-three bytes. -/
def checkLead (lead : List Char) : Except Error Cases :=
  let bytes := utf8 lead
  if bytes.isEmpty || 83 < bytes.length then .error .invalidLength
  else checkBytes ⟨false, false⟩ bytes

def generators : List UInt32 := [0x3b6a57b2, 0x26508e6d, 0x1ea119fa, 0x3d4233dd, 0x2a1462b3]

def polymodStep (remainder : UInt32) (symbol : UInt8) : UInt32 :=
  let out := remainder >>> 25
  let moved := ((remainder &&& 0x1ffffff) <<< 5) ^^^ symbol.toUInt32
  generators.zipIdx.foldl (fun value (generator, index) =>
    if (out >>> UInt32.ofNat index) &&& 1 != 0 then value ^^^ generator else value) moved

def polymod (symbols : Bytes) : UInt32 := symbols.foldl polymodStep 1

/-- The human-readable part as the checksum covers it: high bits, a zero, low bits. -/
def expand (lead : List Char) : Bytes :=
  let bytes := utf8 lead
  bytes.map (fun byte => byte >>> (5 : UInt8)) ++ 0 :: bytes.map (fun byte => byte &&& 0x1f)

/-- The remainder that marks Bech32, as against its successor Bech32m. -/
def constant : UInt32 := 1

def checksum (lead : List Char) (symbols : Bytes) : Bytes :=
  let remainder := polymod (expand lead ++ symbols ++ List.replicate 6 0) ^^^ constant
  [25, 20, 15, 10, 5, 0].map fun (shift : UInt32) => ((remainder >>> shift) &&& 0x1f).toUInt8

/-- Encodes symbols; an upper-case human-readable part is lowered first. -/
def encode (lead : List Char) (symbols : Bytes) : Except Error (List Char) :=
  match checkLead lead with
  | .error error => .error error
  | .ok _ =>
    let lead := Text.lowered lead
    .ok (lead ++ '1' :: (symbols ++ checksum lead symbols).map Symbols.character)

/-- What stands before and after the last separator. -/
def splitLast (separator : Char) (text : List Char) : Option (List Char × List Char) :=
  (Text.splitFirst separator text.reverse).map fun (after, before) => (before.reverse, after.reverse)

/-- The lowered human-readable part and the symbols of a text with a valid checksum. -/
def decode? (text : List Char) : Option (List Char × Bytes) := do
  let (lead, data) ← splitLast '1' text
  let cases ← (checkLead lead).toOption
  guard !(data.foldl Cases.add cases).mixed
  let symbols ← data.mapM fun c => Symbols.value? c.toLower
  guard (6 ≤ symbols.length)
  let lead := Text.lowered lead
  guard (polymod (expand lead ++ symbols) == constant)
  return (lead, symbols.take (symbols.length - 6))

end CoinSpend.Bech32
