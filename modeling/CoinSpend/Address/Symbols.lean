import CoinSpend.Bytes

/-! The thirty-two symbols of Bech32 and CashAddr, and the regrouping of bits between bytes and symbols. -/
namespace CoinSpend.Symbols

def alphabet : List Char := "qpzry9x8gf2tvdw0s3jn54khce6mua7l".toList

def character (symbol : UInt8) : Char := alphabet.getD symbol.toNat 'q'

/-- The value of a lower-case symbol. -/
def value? (c : Char) : Option UInt8 := (alphabet.idxOf? c).map UInt8.ofNat

/-- A 32-bit register of which the `bits` low bits are pending, and the groups found, last first. -/
structure Register where
  bits : Nat
  value : UInt32
  groups : Bytes
deriving DecidableEq

/-- The low bits of the register shifted right, as one group of `width` bits. -/
def group (width : Nat) (value : UInt32) : UInt8 := (value &&& ((1 <<< UInt32.ofNat width) - 1)).toUInt8

/-- Takes whole groups off the top of the pending bits. -/
def emit (width : Nat) (positive : 0 < width) (register : Register) : Register :=
  if _enough : width ≤ register.bits then
    let bits := register.bits - width
    emit width positive
      ⟨bits, register.value, group width (register.value >>> UInt32.ofNat bits) :: register.groups⟩
  else register
termination_by register.bits
decreasing_by exact Nat.sub_lt (Nat.lt_of_lt_of_le positive _enough) positive

def feed (width : Nat) (output : Nat) (positive : 0 < output) (register : Register) (value : UInt8) :
    Register :=
  emit output positive
    ⟨register.bits + width, (register.value <<< UInt32.ofNat width) ||| value.toUInt32, register.groups⟩

/-- Regroups values of `width` bits into groups of `output` bits. With `pad`, a last group is filled up
with zeros; without, fewer than `width` bits may be left over, all zero. -/
def regroup? (width output : Nat) (positive : 0 < output) (pad : Bool) (values : Bytes) : Option Bytes :=
  let last := values.foldl (feed width output positive) ⟨0, 0, []⟩
  let rest := group output (last.value <<< UInt32.ofNat (output - last.bits))
  if pad then
    some (if 0 < last.bits then (rest :: last.groups).reverse else last.groups.reverse)
  else if width ≤ last.bits ∨ rest ≠ 0 then none
  else some last.groups.reverse

/-- Bytes to symbols, the last one filled up. -/
def ofBytes? (bytes : Bytes) : Option Bytes := regroup? 8 5 (by decide) true bytes

/-- Symbols to bytes; less than a symbol may be left over, all zero. -/
def toBytes? (symbols : Bytes) : Option Bytes := regroup? 5 8 (by decide) false symbols

end CoinSpend.Symbols
