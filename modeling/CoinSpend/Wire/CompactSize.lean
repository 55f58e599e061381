import CoinSpend.Wire.Reader

/-! Bitcoin's variable-length count: one byte below 253, else a marker and two, four or eight
little-endian bytes. Only the shortest form of a count is read. -/
namespace CoinSpend.Wire.CompactSize

/-- For counts below 2^64. -/
def encode (count : Nat) : Bytes :=
  if count < 0xfd then [UInt8.ofNat count]
  else if count ≤ 0xffff then 0xfd :: littleEndian 2 count
  else if count ≤ 0xffffffff then 0xfe :: littleEndian 4 count
  else 0xff :: littleEndian 8 count

/-- An integer of `width` bytes that no shorter form could hold, so one of at least `least`. -/
def wide (width least : Nat) : Reader Nat := fun input =>
  match Reader.integer width input with
  | .ok (count, rest) => if count < least then .error .nonMinimalSize else .ok (count, rest)
  | .error error => .error error

def read : Reader Nat
  | [] => .error .ended
  | marker :: rest =>
    if marker < 0xfd then .ok (marker.toNat, rest)
    else if marker = 0xfd then wide 2 0xfd rest
    else if marker = 0xfe then wide 4 0x10000 rest
    else wide 8 0x100000000 rest

end CoinSpend.Wire.CompactSize

namespace CoinSpend.Wire

/-- A byte string behind its length. -/
def sized (data : Bytes) : Bytes := CompactSize.encode data.length ++ data

def readSized : Reader Bytes := fun input =>
  match CompactSize.read input with
  | .ok (count, rest) => Reader.bytes count rest
  | .error error => .error error

/-- A list behind its count. -/
def counted {α : Type} (item : α → Bytes) (items : List α) : Bytes :=
  CompactSize.encode items.length ++ items.flatMap item

def readCounted {α : Type} (item : Reader α) : Reader (List α) := fun input =>
  match CompactSize.read input with
  | .ok (count, rest) => Reader.repeated item count [] rest
  | .error error => .error error

end CoinSpend.Wire
