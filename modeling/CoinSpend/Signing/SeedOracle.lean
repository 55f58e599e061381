import CoinSpend.Key.Ecdsa
import CoinSpend.Key.Extended
import CoinSpend.Key.Mnemonic
import CoinSpend.Signing.Oracle

/-! An oracle in software: its keys are derived from a seed, and it signs deterministically. -/
namespace CoinSpend

structure SeedOracle where
  seed : Octets 64

namespace SeedOracle

def ofMnemonic (phrase passphrase : String) : Except Failure SeedOracle :=
  match Mnemonic.parse phrase with
  | .ok words => .ok ⟨Mnemonic.seed words passphrase⟩
  | .error error => .error error.toFailure

def key (oracle : SeedOracle) (path : KeyPath) : Except Oracle.Error ExtendedKey :=
  match ExtendedKey.master oracle.seed.bytes >>= fun master => master.derive path with
  | .ok key => .ok key
  | .error error => .error (.device error.message)

def publicKey (oracle : SeedOracle) (path : KeyPath) : Except Oracle.Error Bytes := do
  match (← oracle.key path).publicKey? with
  | some key => return key.bytes
  | none => .error (.device ExtendedKey.Error.unusable.message)

/-- Signs a digest of 32 bytes, or the hash of a payload of any length. -/
def sign (oracle : SeedOracle) (path : KeyPath) (payload : Bytes) (algorithm : HashAlgorithm) :
    Except Oracle.Error Signature := do
  let message := match algorithm with
    | .none => payload
    | .sha256 => (sha256 payload).bytes
  match Octets.ofBytes? 32 message with
  | none =>
    .error (.device ("Payload is not a 32-byte digest: " ++
      "message was not 32 bytes (do you need to hash?)"))
  | some digest =>
    let key ← oracle.key path
    match Ecdsa.sign? key.secret digest with
    | some signature => return signature
    | none => .error (.device "no usable nonce")

/-- The oracle remembers nothing and always answers. -/
def toOracle (oracle : SeedOracle) : Oracle Unit where
  publicKey path _ := ({ answer := some (oracle.publicKey path) }, ())
  sign path payload algorithm _ :=
    ({ answer := some ((oracle.sign path payload algorithm).map .raw) }, ())

end SeedOracle

end CoinSpend
