import CoinSpend.Bytes

/-! The frame common to the hashes here: a message is padded to whole blocks and the blocks are absorbed
one after another into a chaining state. -/
namespace CoinSpend

/-- The message, a one bit, zeros up to a block boundary less `width`, and the bit length. -/
def padded (block : Nat) (lengthBytes : Nat → Bytes) (width : Nat) (message : Bytes) : Bytes :=
  let used := message.length + 1 + width
  message ++ 0x80 :: (List.replicate ((block - used % block) % block) 0 ++
    lengthBytes (8 * message.length))

def absorbBlocks {σ : Type} (block : Nat) (compress : σ → Bytes → σ) : Nat → σ → Bytes → σ
  | 0, state, _ => state
  | count + 1, state, bytes =>
    absorbBlocks block compress count (compress state (bytes.take block)) (bytes.drop block)

def absorb {σ : Type} (block : Nat) (compress : σ → Bytes → σ) (state : σ) (bytes : Bytes) : σ :=
  absorbBlocks block compress (bytes.length / block) state bytes

end CoinSpend
