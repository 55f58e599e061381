import CoinSpend.Failure
import CoinSpend.Signature

/-! The DER form of signatures: a sequence of two integers, as scripts carry it with a hash type behind. Writing
uses the fewest bytes for each integer; reading accepts padded integers and an optional hash type. -/
namespace CoinSpend.Der

inductive Error where
  | tooShort (size : Nat)
  | noSequence (tag : UInt8)
  | sequenceLength (stated size : Nat)
  | noInteger (name : String)
  | overrun (name : String) (length : Nat)
  | empty (name : String)
  | noLeadingZero (name : String)
  | tooLong (name : String) (length : Nat)
  | trailing (count : Nat)
deriving DecidableEq

/-- A byte as two lower-case hexadecimal digits. -/
def hexByte (byte : UInt8) : String :=
  let digits := Nat.toDigits 16 byte.toNat
  String.ofList (List.replicate (2 - digits.length) '0' ++ digits)

def Error.message : Error → String
  | .tooShort size => s!"Signature too short: {size} bytes"
  | .noSequence tag =>
    let found := hexByte tag
    s!"Expected SEQUENCE tag 0x30, found 0x{found}"
  | .sequenceLength stated size =>
    s!"Sequence length {stated} does not match signature length {size}"
  | .noInteger name => s!"Expected INTEGER tag for {name}"
  | .overrun name length => s!"{name} length {length} overruns signature"
  | .empty name => s!"{name} is empty"
  | .noLeadingZero name => s!"33-byte {name} without a leading zero"
  | .tooLong name length => s!"{name} is {length} bytes"
  | .trailing count => s!"{count} trailing bytes inside signature sequence"

def Error.toFailure (error : Error) : Failure := .plain .malformedSignature error.message

def sequenceTag : UInt8 := 0x30

def integerTag : UInt8 := 0x02

/-- The fewest bytes of a non-negative number whose first bit is zero. -/
def minimal (value : Octets 32) : Bytes :=
  match value.bytes.dropWhile (· == 0) with
  | [] => [0]
  | first :: rest => if first < 0x80 then first :: rest else 0 :: first :: rest

def integer (value : Octets 32) : Bytes :=
  let digits := minimal value
  integerTag :: UInt8.ofNat digits.length :: digits

def encode (signature : Signature) : Bytes :=
  let body := integer signature.r ++ integer signature.s
  sequenceTag :: UInt8.ofNat body.length :: body

/-- The form that scripts carry. -/
def encodeTyped (signature : Signature) (hashType : UInt8) : Bytes := encode signature ++ [hashType]

/-- Pads the bytes of an integer on the left; a thirty-third byte must be a leading zero. -/
def value (name : String) (digits : Bytes) : Except Error (Octets 32) :=
  if fits : digits.length ≤ 32 then
    if digits.isEmpty then .error (.empty name)
    else .ok ⟨List.replicate (32 - digits.length) 0 ++ digits, by simp; omega⟩
  else
    match digits with
    | 0 :: rest =>
      if full : rest.length = 32 then .ok ⟨rest, full⟩ else .error (.tooLong name digits.length)
    | _ => .error (if digits.length = 33 then .noLeadingZero name else .tooLong name digits.length)

def readInteger (name : String) : Bytes → Except Error (Octets 32 × Bytes)
  | tag :: length :: rest =>
    if tag = integerTag then
      match split? length.toNat rest with
      | none => .error (.overrun name length.toNat)
      | some (digits, rest) => (value name digits).map (·, rest)
    else .error (.noInteger name)
  | _ => .error (.noInteger name)

def readBody (body : Bytes) : Except Error Signature := do
  let (r, rest) ← readInteger "r" body
  let (s, rest) ← readInteger "s" rest
  match rest with
  | [] => return ⟨r, s⟩
  | _ :: _ => .error (.trailing rest.length)

/-- A signature and the hash type behind it, if there is one. -/
def decodeTyped (bytes : Bytes) : Except Error (Signature × Option UInt8) :=
  if bytes.length < 8 then .error (.tooShort bytes.length)
  else
    match bytes with
    | tag :: stated :: rest =>
      if tag = sequenceTag then
        match split? stated.toNat rest with
        | some (body, []) => (readBody body).map (·, none)
        | some (body, [hashType]) => (readBody body).map (·, some hashType)
        | _ => .error (.sequenceLength stated.toNat bytes.length)
      else .error (.noSequence tag)
    | _ => .error (.tooShort bytes.length)

def decode (bytes : Bytes) : Except Error Signature := (decodeTyped bytes).map (·.1)

end CoinSpend.Der
