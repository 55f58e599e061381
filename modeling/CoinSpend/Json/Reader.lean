import CoinSpend.Json.Value
import CoinSpend.Text.Digits

/-! The strict reader of JSON text: one value, nothing but blanks after it, no trailing commas, no leading
zeros, no raw control characters in strings. -/
namespace CoinSpend.Json

def isSpace (c : Char) : Bool := c == ' ' || c == '\n' || c == '\r' || c == '\t'

def skip (input : List Char) : List Char := input.dropWhile isSpace

/-- The character a one-letter escape stands for. -/
def escaped? (c : Char) : Option Char :=
  if c = '"' ∨ c = '\\' ∨ c = '/' then some c
  else if c = 'b' then some '\x08'
  else if c = 'f' then some '\x0c'
  else if c = 'n' then some '\n'
  else if c = 'r' then some '\r'
  else if c = 't' then some '\t'
  else none

/-- Reads up to the closing quote. The units are code points and, from escapes, surrogate halves. -/
def units (read : List Nat) : List Char → Option (List Nat × List Char)
  | [] => none
  | '"' :: rest => some (read.reverse, rest)
  | '\\' :: 'u' :: a :: b :: c :: d :: rest =>
    match Text.hexNumber? [a, b, c, d] with
    | some n => units (n :: read) rest
    | none => none
  | '\\' :: c :: rest =>
    match escaped? c with
    | some c => units (c.toNat :: read) rest
    | none => none
  | c :: rest => if c.toNat < 0x20 ∨ c = '\\' then none else units (c.toNat :: read) rest

/-- Joins surrogate halves; an unpaired one makes the whole denote nothing. -/
def joined (read : List Char) : List Nat → Option (List Char)
  | [] => some read.reverse
  | [n] => if 0xd800 ≤ n ∧ n < 0xe000 then none else some (Char.ofNat n :: read).reverse
  | n :: m :: rest =>
    if 0xd800 ≤ n ∧ n < 0xdc00 then
      if 0xdc00 ≤ m ∧ m < 0xe000 then
        joined (Char.ofNat (0x10000 + (n - 0xd800) * 0x400 + (m - 0xdc00)) :: read) rest
      else none
    else if 0xdc00 ≤ n ∧ n < 0xe000 then none
    else joined (Char.ofNat n :: read) (m :: rest)

def string (input : List Char) : Option (Option String × List Char) :=
  (units [] input).map fun (found, rest) => ((joined [] found).map String.ofList, rest)

def fraction (input : List Char) : Option (Bool × List Char) :=
  match input with
  | '.' :: rest =>
    let digits := rest.takeWhile Char.isDigit
    if digits.isEmpty then none else some (true, rest.dropWhile Char.isDigit)
  | _ => some (false, input)

def exponent (input : List Char) : Option (Bool × List Char) :=
  match input with
  | c :: rest =>
    if c = 'e' ∨ c = 'E' then
      let rest := match rest with
        | sign :: after => if sign = '+' ∨ sign = '-' then after else rest
        | [] => rest
      let digits := rest.takeWhile Char.isDigit
      if digits.isEmpty then none else some (true, rest.dropWhile Char.isDigit)
    else some (false, input)
  | [] => some (false, input)

/-- A number without sign. A fraction, an exponent or a negated zero make it other than whole. -/
def number (negative : Bool) (input : List Char) : Option (Json × List Char) := do
  let digits := match input with
    | '0' :: _ => ['0']
    | _ => input.takeWhile Char.isDigit
  if digits.isEmpty then none
  let (fractional, rest) ← fraction (input.drop digits.length)
  let (scaled, rest) ← exponent rest
  let value := digits.foldl (fun n c => 10 * n + (c.toNat - 0x30)) 0
  if fractional || scaled || (negative && value == 0) then some (.real, rest)
  else some (.whole (if negative then -(value : Int) else value), rest)

mutual

/-- One value, blanks before it skipped. The fuel bounds nesting and list length together. -/
def value : Nat → List Char → Option (Json × List Char)
  | 0, _ => none
  | fuel + 1, input =>
    match skip input with
    | '{' :: rest =>
      match skip rest with
      | '}' :: rest => some (.record [], rest)
      | rest => members fuel [] rest
    | '[' :: rest =>
      match skip rest with
      | ']' :: rest => some (.list [], rest)
      | rest => items fuel [] rest
    | '"' :: rest => (string rest).map fun (found, rest) => (.text found, rest)
    | 'n' :: 'u' :: 'l' :: 'l' :: rest => some (.null, rest)
    | 't' :: 'r' :: 'u' :: 'e' :: rest => some (.bool true, rest)
    | 'f' :: 'a' :: 'l' :: 's' :: 'e' :: rest => some (.bool false, rest)
    | '-' :: rest => number true rest
    | rest => number false rest

def items : Nat → List Json → List Char → Option (Json × List Char)
  | 0, _, _ => none
  | fuel + 1, read, input =>
    match value fuel input with
    | none => none
    | some (item, rest) =>
      match skip rest with
      | ',' :: rest => items fuel (item :: read) rest
      | ']' :: rest => some (.list (item :: read).reverse, rest)
      | _ => none

def members : Nat → List (Option String × Json) → List Char → Option (Json × List Char)
  | 0, _, _ => none
  | fuel + 1, read, input =>
    match skip input with
    | '"' :: rest =>
      match string rest with
      | none => none
      | some (name, rest) =>
        match skip rest with
        | ':' :: rest =>
          match value fuel rest with
          | none => none
          | some (item, rest) =>
            match skip rest with
            | ',' :: rest => members fuel ((name, item) :: read) rest
            | '}' :: rest => some (.record ((name, item) :: read).reverse, rest)
            | _ => none
        | _ => none
    | _ => none

end

/-- The fuel suffices because of any two nested calls one takes a character. -/
def parse (input : String) : Option Json :=
  let characters := input.toList
  match value (2 * characters.length + 2) characters with
  | some (found, rest) => if (skip rest).isEmpty then some found else none
  | none => none

end CoinSpend.Json
