import CoinSpend.Hash.Sha256
import CoinSpend.Hash.Sha512
import CoinSpend.Hash.Ripemd160

/-! Hashes built from the block hashes: HASH160, HMAC and PBKDF2. -/
namespace CoinSpend

/-- RIPEMD-160 of SHA-256. -/
def hash160 (message : Bytes) : Octets 20 := ripemd160 (sha256 message).bytes

/-- HMAC (RFC 2104): a key longer than a block is hashed first, and a shorter one padded with zeros. -/
def hmac {n : Nat} (hash : Bytes → Octets n) (block : Nat) (key message : Bytes) : Octets n :=
  let short := if block < key.length then (hash key).bytes else key
  let full := short ++ List.replicate (block - short.length) 0
  hash (full.map (· ^^^ 0x5c) ++ (hash (full.map (· ^^^ 0x36) ++ message)).bytes)

def hmacSha256 (key message : Bytes) : Octets 32 := hmac sha256 64 key message

def hmacSha512 (key message : Bytes) : Octets 64 := hmac sha512 128 key message

/-- `rounds` further applications of the pseudorandom function, each added to the sum. -/
def pbkdf2Rounds (password : Bytes) : Nat → Octets 64 → Octets 64 → Octets 64
  | 0, _, sum => sum
  | rounds + 1, last, sum =>
    let next := hmacSha512 password last.bytes
    pbkdf2Rounds password rounds next (sum.xor next)

/-- The first block of PBKDF2 with HMAC-SHA-512 (RFC 8018), for `rounds` of at least one. -/
def pbkdf2Sha512 (password salt : Bytes) (rounds : Nat) : Octets 64 :=
  let first := hmacSha512 password (salt ++ bigEndian 4 1)
  pbkdf2Rounds password (rounds - 1) first first

end CoinSpend
