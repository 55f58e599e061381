/-! Case folding of ASCII letters, and splitting at a separator. -/
namespace CoinSpend.Text

/-- ASCII upper-case letters become lower-case; every other character stays. -/
def lowered (text : List Char) : List Char := text.map Char.toLower

def lower (text : String) : String := String.ofList (lowered text.toList)

/-- Equality up to the case of ASCII letters. -/
def sameName (x y : String) : Bool := lowered x.toList == lowered y.toList

/-- Both an ASCII lower-case and an ASCII upper-case letter occur. -/
def mixesCase (text : List Char) : Bool := text.any Char.isLower && text.any Char.isUpper

/-- What stands before and after the first separator. -/
def splitFirst (separator : Char) : List Char → Option (List Char × List Char)
  | [] => none
  | c :: rest =>
    if c = separator then some ([], rest)
    else (splitFirst separator rest).map fun (before, after) => (c :: before, after)

/-- The parts between separators; a text without separators is one part. -/
def splitAll (separator : Char) : List Char → List (List Char)
  | [] => [[]]
  | c :: rest =>
    match splitAll separator rest with
    | [] => [[c]]
    | part :: parts => if c = separator then [] :: part :: parts else (c :: part) :: parts

end CoinSpend.Text
