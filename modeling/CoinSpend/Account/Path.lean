import CoinSpend.Failure
import CoinSpend.Text.Blank
import CoinSpend.Text.Letters

/-! Derivation paths and their text: `m`, then a slash before each level, hardened levels marked. -/
namespace CoinSpend

/-- The levels of a path; the top bit of a level marks it as hardened. -/
abbrev KeyPath := List UInt32

namespace KeyPath

def hardenedBit : UInt32 := 0x80000000

def harden (level : UInt32) : UInt32 := level ||| hardenedBit

def isHardened (level : UInt32) : Bool := level &&& hardenedBit != 0

def unharden (level : UInt32) : UInt32 := level &&& ~~~ hardenedBit

def formatLevel (level : UInt32) : String :=
  toString (unharden level) ++ if isHardened level then "'" else ""

def format (path : KeyPath) : String :=
  String.join ("m" :: path.map fun level => "/" ++ formatLevel level)

inductive Error where
  | noRoot (text : String)
  | notALevel (text : String)
  | outOfRange (text : String)
deriving DecidableEq

def Error.message : Error → String
  | .noRoot text => s!"Derivation path '{text}' must start with 'm/'"
  | .notALevel text => s!"Invalid path component '{text}'"
  | .outOfRange text => s!"Path component '{text}' is out of range"

def Error.toFailure (error : Error) : Failure := .plain .invalidInput error.message

/-- The digits of a level, and whether a hardening mark follows them. -/
def markOff (level : List Char) : List Char × Bool :=
  match level.getLast? with
  | some mark =>
    if mark = '\'' ∨ mark = 'h' ∨ mark = 'H' then (level.dropLast, true) else (level, false)
  | none => (level, false)

def decimal (digits : List Char) : Nat :=
  digits.foldl (fun value digit => 10 * value + (digit.toNat - 0x30)) 0

/-- A level: decimal digits below 2^31 in value, at most one mark, blanks around them. -/
def parseLevel (text : List Char) : Except Error UInt32 :=
  let level := Text.trimmed text
  let (digits, hardened) := markOff level
  if digits.isEmpty || !digits.all Char.isDigit then .error (.notALevel (String.ofList level))
  else
    let value := decimal digits
    if value < hardenedBit.toNat then
      .ok (if hardened then harden (UInt32.ofNat value) else UInt32.ofNat value)
    else .error (.outOfRange (String.ofList level))

/-- The root is `m` in either case. -/
def isRoot (text : List Char) : Bool := Text.lowered text == ['m']

def parse (text : String) : Except Error KeyPath :=
  let trimmed := Text.trimmed text.toList
  match Text.splitFirst '/' trimmed with
  | none => if isRoot trimmed then .ok [] else .error (.noRoot text)
  | some (root, levels) =>
    if isRoot root then (Text.splitAll '/' levels).mapM parseLevel else .error (.noRoot text)

end KeyPath

end CoinSpend
