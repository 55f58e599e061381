import CoinSpend.Bytes

/-! Hexadecimal text of byte strings. Writing uses lower-case digits; reading takes digits of either
case, two to a byte, and works on the UTF-8 bytes of the text. -/
namespace CoinSpend.Hex

inductive Error where
  | oddLength
  | invalidDigit (byte : UInt8) (index : Nat)
deriving DecidableEq

def digit (value : Nat) : Char := "0123456789abcdef".toList.getD value '0'

def encode (bytes : Bytes) : String :=
  String.ofList (bytes.flatMap fun byte => [digit (byte.toNat / 16), digit (byte.toNat % 16)])

/-- The value of an ASCII digit. -/
def value? (byte : UInt8) : Option UInt8 :=
  if 0x30 ≤ byte ∧ byte ≤ 0x39 then some (byte - 0x30)
  else if 0x41 ≤ byte ∧ byte ≤ 0x46 then some (byte - 0x37)
  else if 0x61 ≤ byte ∧ byte ≤ 0x66 then some (byte - 0x57)
  else none

/-- Pairs digits from position `index` on; `read` holds the bytes before it, last first. -/
def pairs (index : Nat) (read : Bytes) : Bytes → Except Error Bytes
  | high :: low :: rest =>
    match value? high, value? low with
    | some h, some l => pairs (index + 2) ((16 * h + l) :: read) rest
    | none, _ => .error (.invalidDigit high index)
    | some _, none => .error (.invalidDigit low (index + 1))
  | [_] => .error .oddLength
  | [] => .ok read.reverse

/-- An odd number of digits is reported before any digit is looked at. -/
def decode (text : String) : Except Error Bytes :=
  let bytes := utf8 text.toList
  if bytes.length % 2 = 1 then .error .oddLength else pairs 0 [] bytes

/-- A byte as the Latin-1 character it numbers, in single quotes; controls and blanks are escaped. -/
def quoted (byte : UInt8) : String :=
  let code := byte.toNat
  let inner :=
    if code = 0 then "\\0"
    else if code = 0x09 then "\\t"
    else if code = 0x0a then "\\n"
    else if code = 0x0d then "\\r"
    else if code = 0x27 then "\\'"
    else if code = 0x5c then "\\\\"
    else if code < 0x20 ∨ (0x7f ≤ code ∧ code ≤ 0xa0) ∨ code = 0xad then
      "\\u\x7b" ++ String.ofList (Nat.toDigits 16 code) ++ "\x7d"
    else String.singleton (Char.ofNat code)
  "'" ++ inner ++ "'"

def Error.message : Error → String
  | .oddLength => "Odd number of digits"
  | .invalidDigit byte index => s!"Invalid character {quoted byte} at position {index}"

end CoinSpend.Hex
