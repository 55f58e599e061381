import CoinSpend.Bytes

/-! ECDSA signatures. -/
namespace CoinSpend

/-- The two numbers of an ECDSA signature, big-endian. -/
structure Signature where
  r : Octets 32
  s : Octets 32
deriving DecidableEq

def Signature.compact (signature : Signature) : Bytes := signature.r.bytes ++ signature.s.bytes

end CoinSpend
