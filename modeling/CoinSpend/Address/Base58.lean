import CoinSpend.Hash.Sha256
import CoinSpend.Text.Blank

/-! Base58 and Base58Check: a byte string as a number in base 58, with one `1` for each leading zero byte. -/
namespace CoinSpend.Base58

def alphabet : List Char := "123456789ABCDEFGHJKLMNPQRSTUVWXYZabcdefghijkmnopqrstuvwxyz".toList

/-- Digits of a number, most significant first, put before `found`; none for zero. -/
def digitsBefore (base : Nat) (large : 1 < base) (found : List Nat) (value : Nat) : List Nat :=
  if _zero : value = 0 then found
  else digitsBefore base large (value % base :: found) (value / base)
termination_by value
decreasing_by exact Nat.div_lt_self (Nat.pos_of_ne_zero _zero) large

def digits (base : Nat) (large : 1 < base) (value : Nat) : List Nat := digitsBefore base large [] value

def ofDigits (base : Nat) (digits : List Nat) : Nat :=
  digits.foldl (fun value digit => base * value + digit) 0

def encode (bytes : Bytes) : List Char :=
  (bytes.takeWhile (· == 0)).map (fun _ => '1') ++
    (digits 58 (by decide) (ofBigEndian bytes)).map fun digit => alphabet.getD digit '1'

def decode? (text : List Char) : Option Bytes := do
  let values ← text.mapM fun c => alphabet.idxOf? c
  let bytes := (digits 256 (by decide) (ofDigits 58 values)).map UInt8.ofNat
  return (values.takeWhile (· == 0)).map (fun _ => 0) ++ bytes

/-- Version, payload and the first four bytes of their double hash. -/
def encodeCheck (version : UInt8) (payload : Bytes) : String :=
  let body := version :: payload
  String.ofList (encode (body ++ (sha256d body).bytes.take 4))

def decodeCheck? (address : String) : Option (UInt8 × Bytes) := do
  let bytes ← decode? (Text.trimmed address.toList)
  let size := bytes.length - 4
  match bytes.take size with
  | [] => none
  | version :: payload =>
    if (sha256d (version :: payload)).bytes.take 4 == bytes.drop size then some (version, payload)
    else none

end CoinSpend.Base58
