import CoinSpend.Account.Path
import CoinSpend.Hash.Hmac
import CoinSpend.Key.Secp256k1

/-! Hierarchical private keys (BIP-32). -/
namespace CoinSpend

/-- A private key with the chain code and the depth that its children need. -/
structure ExtendedKey where
  secret : Nat
  chain : Octets 32
  depth : Nat

namespace ExtendedKey

inductive Error where
  | tooDeep
  | hardenedFromPublic
  | unusable
deriving DecidableEq

def Error.message : Error → String
  | .tooDeep => "cannot derive child of depth 256 or higher"
  | .hardenedFromPublic => "cannot derive hardened key from public key"
  | .unusable => "secp256k1 error: malformed or out-of-range secret key"

def Error.toFailure (error : Error) : Failure :=
  .plain .oracleError s!"BIP32 error: {error.message}"

def publicKey? (key : ExtendedKey) : Option (Octets 33) :=
  (Secp256k1.multiple? key.secret Secp256k1.generator).map PublicKey.compressed

/-- The key whose secret is the left half of `code` plus `offset`, and whose chain code is the right half. -/
def ofCode (code : Octets 64) (offset depth : Nat) : Except Error ExtendedKey :=
  let tweak := ofBigEndian (code.bytes.take 32)
  let secret := (tweak + offset) % Secp256k1.n
  if Secp256k1.n ≤ tweak ∨ secret = 0 then .error .unusable
  else .ok ⟨secret, ⟨code.bytes.drop 32, by simp [code.length_bytes]⟩, depth⟩

def master (seed : Bytes) : Except Error ExtendedKey :=
  ofCode (hmacSha512 (utf8 "Bitcoin seed".toList) seed) 0 0

/-- A hardened child depends on the secret, any other on the public key. -/
def child (key : ExtendedKey) (level : UInt32) : Except Error ExtendedKey := do
  let head ← if KeyPath.isHardened level then .ok (0 :: bigEndian 32 key.secret)
    else match key.publicKey? with
      | some publicKey => .ok publicKey.bytes
      | none => .error .unusable
  let code := hmacSha512 key.chain.bytes (head ++ bigEndian 4 level.toNat)
  if key.depth = 255 then .error .tooDeep else ofCode code key.secret (key.depth + 1)

def derive (key : ExtendedKey) (path : KeyPath) : Except Error ExtendedKey := path.foldlM child key

end ExtendedKey

end CoinSpend
