import CoinSpend.Address.Symbols
import CoinSpend.Failure
import CoinSpend.Text.Blank
import CoinSpend.Text.Letters

/-! CashAddr addresses: a lead, a colon, and symbols for a version byte, a hash and a checksum of forty bits
that covers the lead too. -/
namespace CoinSpend.CashAddr

inductive Kind where
  | p2pkh
  | p2sh
deriving DecidableEq

inductive Error where
  | mixedCase
  | unexpectedLead (lead : String)
  | invalidCharacter (character : Char)
  | tooShort
  | wrongChecksum
  | nonZeroPadding
  | unsupportedSize (size : Nat)
  | unknownType (type : Nat)
deriving DecidableEq

def Error.message : Error → String
  | .mixedCase => "Mixed-case address"
  | .unexpectedLead lead => s!"Unexpected prefix: {lead}"
  | .invalidCharacter character => s!"Invalid character: {character}"
  | .tooShort => "Payload too short"
  | .wrongChecksum => "Checksum mismatch"
  | .nonZeroPadding => "Non-zero padding"
  | .unsupportedSize size => s!"Unsupported hash size: {size}"
  | .unknownType type => s!"Unknown address type: {type}"

def Error.toFailure (error : Error) : Failure :=
  .plain .unrecognizedAddressFormat s!"CashAddr: {error.message}"

def Kind.code : Kind → UInt8
  | .p2pkh => 0
  | .p2sh => 1

def Kind.ofCode? (code : UInt8) : Option Kind :=
  if code = 0 then some .p2pkh else if code = 1 then some .p2sh else none

/-- Hash sizes in bytes, in the order of their codes. -/
def sizes : List Nat := [20, 24, 28, 32, 40, 48, 56, 64]

def sizeCode? (size : Nat) : Option UInt8 := (sizes.idxOf? size).map UInt8.ofNat

def sizeOfCode (code : UInt8) : Nat := sizes.getD code.toNat 64

def generators : List UInt64 :=
  [0x98f2bc8e61, 0x79b76d99e2, 0xf33e5fb3c4, 0xae2eabe2a8, 0x1e4f43e470]

/-- One symbol more: the remainder moves up by five bits, and the bits moved out are reduced. -/
def polymodStep (remainder : UInt64) (symbol : UInt8) : UInt64 :=
  let out := remainder >>> 35
  let moved := ((remainder &&& 0x07ffffffff) <<< 5) ^^^ symbol.toUInt64
  generators.zipIdx.foldl (fun value (generator, index) =>
    if (out >>> UInt64.ofNat index) &&& 1 != 0 then value ^^^ generator else value) moved

/-- Remainder modulo the generator polynomial over symbols; zero for an address with its checksum. -/
def polymod (symbols : Bytes) : UInt64 := symbols.foldl polymodStep 1 ^^^ 1

/-- What the checksum covers: the low bits of the lead's bytes, a zero, and the payload. -/
def covered (lead : String) (symbols : Bytes) : Bytes :=
  (utf8 lead.toList).map (· &&& 0x1f) ++ 0 :: symbols

def checksum (lead : String) (symbols : Bytes) : Bytes :=
  let remainder := polymod (covered lead (symbols ++ List.replicate 8 0))
  [35, 30, 25, 20, 15, 10, 5, 0].map fun (shift : UInt64) => ((remainder >>> shift) &&& 0x1f).toUInt8

def encode (lead : String) (kind : Kind) (hash : Bytes) : Except Error String :=
  match sizeCode? hash.length with
  | none => .error (.unsupportedSize hash.length)
  | some size =>
    match Symbols.ofBytes? (((kind.code <<< 3) ||| size) :: hash) with
    | none => .error .nonZeroPadding
    | some symbols =>
      let body := (symbols ++ checksum lead symbols).map Symbols.character
      .ok (lead ++ ":" ++ String.ofList body)

def symbol (c : Char) : Except Error UInt8 :=
  match Symbols.value? c with
  | some value => .ok value
  | none => .error (.invalidCharacter c)

/-- The version byte and the hash behind a payload. -/
def ofPayload : Bytes → Except Error (Kind × Bytes)
  | [] => .error .tooShort
  | version :: hash =>
    if hash.length ≠ sizeOfCode (version &&& 0x07) then .error (.unsupportedSize hash.length)
    else
      match Kind.ofCode? (version >>> 3) with
      | some kind => .ok (kind, hash)
      | none => .error (.unknownType (version >>> 3).toNat)

/-- Decodes an address with its lead or without one, in either case but not in both. -/
def decode (address expectedLead : String) : Except Error (Kind × Bytes) := do
  let trimmed := Text.trimmed address.toList
  if Text.mixesCase trimmed then .error .mixedCase
  else
    let lowered := Text.lowered trimmed
    let (lead, body) := match Text.splitFirst ':' lowered with
      | some (lead, body) => (String.ofList lead, body)
      | none => (expectedLead, lowered)
    if lead ≠ expectedLead then .error (.unexpectedLead lead)
    else
      let symbols ← body.mapM symbol
      if symbols.length ≤ 8 then .error .tooShort
      else if polymod (covered lead symbols) ≠ 0 then .error .wrongChecksum
      else
        match Symbols.toBytes? (symbols.take (symbols.length - 8)) with
        | none => .error .nonZeroPadding
        | some payload => ofPayload payload

end CoinSpend.CashAddr
