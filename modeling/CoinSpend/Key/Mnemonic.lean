import CoinSpend.Failure
import CoinSpend.Hash.Hmac
import CoinSpend.Key.WordList
import CoinSpend.Text.Blank
import CoinSpend.Text.Decomposition

/-! Mnemonic phrases (BIP-39) and the seeds made of them. -/
namespace CoinSpend.Mnemonic

inductive Error where
  | wordCount (count : Nat)
  | unknownWord (index : Nat)
  | wrongChecksum
deriving DecidableEq

def Error.message : Error → String
  | .wordCount count =>
    s!"mnemonic has an invalid word count: {count}. Word count must be 12, 15, 18, 21, or 24"
  | .unknownWord index => s!"mnemonic contains an unknown word (word {index})"
  | .wrongChecksum => "the mnemonic has an invalid checksum"

def Error.toFailure (error : Error) : Failure := .plain .invalidInput s!"BIP39 error: {error.message}"

/-- The numbers of the words, the first word having position `position`. -/
def numbers (position : Nat) : List String → Except Error (List Nat)
  | [] => .ok []
  | word :: words =>
    match wordList.idxOf? word with
    | none => .error (.unknownWord position)
    | some number => (numbers (position + 1) words).map (number :: ·)

/-- Of eleven bits a word, one in thirty-three belongs to the checksum at the end. -/
def checksumHolds (numbers : List Nat) : Bool :=
  let value := numbers.foldl (fun value number => 2048 * value + number) 0
  let width := numbers.length / 3
  let entropy := bigEndian (4 * width) (value >>> width)
  (sha256 entropy).toNat >>> (256 - width) == value % (1 <<< width)

/-- The words of a valid phrase. -/
def parse (phrase : String) : Except Error (List String) := do
  let words := (Text.words (Text.decompose phrase.toList)).map String.ofList
  if [12, 15, 18, 21, 24].contains words.length then
    let found ← numbers 0 words
    if checksumHolds found then .ok words else .error .wrongChecksum
  else .error (.wordCount words.length)

def seed (words : List String) (passphrase : String) : Octets 64 :=
  let salt := "mnemonic".toList ++ Text.decompose passphrase.toList
  pbkdf2Sha512 (utf8 (" ".intercalate words).toList) (utf8 salt) 2048

end CoinSpend.Mnemonic
