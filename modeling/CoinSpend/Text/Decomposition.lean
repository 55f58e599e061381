import CoinSpend.Text.CombiningClass
import CoinSpend.Text.CompatibilityMapping

/-! Compatibility decomposition (NFKD) of text: characters are replaced by what they are made of, and the
marks that follow a base stand in the order of their classes. -/
namespace CoinSpend.Text

/-- A Hangul syllable is numbered by its lead consonant, vowel and tail consonant; tail 0 is no tail. -/
def hangulParts? (c : Char) : Option (List Char) :=
  let code := c.toNat
  if 0xac00 ≤ code ∧ code ≤ 0xd7a3 then
    let syllable := code - 0xac00
    let lead := Char.ofNat (0x1100 + syllable / 28 / 21)
    let vowel := Char.ofNat (0x1161 + syllable / 28 % 21)
    let tail := syllable % 28
    some (if tail = 0 then [lead, vowel] else [lead, vowel, Char.ofNat (0x11a7 + tail)])
  else none

def decomposeChar (c : Char) : List Char :=
  if c.toNat < 0x80 then [c] else (hangulParts? c <|> compatibilityMapping? c).getD [c]

/-- Adds a character before ordered ones; a mark passes the marks next to it that are of a lower class. -/
def insertMark (mark : Char × Nat) : List (Char × Nat) → List (Char × Nat)
  | [] => [mark]
  | next :: rest =>
    if 0 < next.2 ∧ next.2 < mark.2 then next :: insertMark mark rest else mark :: next :: rest

/-- The canonical order: between characters of class 0, marks stand by class, equal classes as they came. -/
def orderMarks (text : List Char) : List Char :=
  ((text.map fun c => (c, combiningClass c)).foldr insertMark []).map Prod.fst

def decompose (text : List Char) : List Char := orderMarks (text.flatMap decomposeChar)

end CoinSpend.Text
