import CoinSpend.Json.Value

/-! Typed reading of JSON values: bounded integers, lists, and records with required, optional and defaulted
fields. Unknown members are ignored, a known member may not be repeated, and a list may stand for a record by
giving its fields in order. -/
namespace CoinSpend.Json

def string? : Json → Option String
  | .text value => value
  | _ => none

def bool? : Json → Option Bool
  | .bool value => some value
  | _ => none

/-- A whole number below `limit`. -/
def natBelow? (limit : Nat) : Json → Option Nat
  | .whole value => if 0 ≤ value ∧ value < limit then some value.toNat else none
  | _ => none

def uint8? (json : Json) : Option UInt8 := (json.natBelow? UInt8.size).map UInt8.ofNat

def uint32? (json : Json) : Option UInt32 := (json.natBelow? UInt32.size).map UInt32.ofNat

def uint64? (json : Json) : Option UInt64 := (json.natBelow? UInt64.size).map UInt64.ofNat

def int32? : Json → Option Int32
  | .whole value =>
    if Int32.minValue.toInt ≤ value ∧ value ≤ Int32.maxValue.toInt then some (Int32.ofInt value)
    else none
  | _ => none

def listOf? {α : Type} (read : Json → Option α) : Json → Option (List α)
  | .list items => items.mapM read
  | _ => none

/-- The name of a constant: a string, or a record whose one member has that name and the value null. -/
def constant? : Json → Option String
  | .text value => value
  | .record [(some name, .null)] => some name
  | _ => none

/-- The members of a record, all of whose names denote text. -/
def members? : Json → Option (List (String × Json))
  | .record members => members.mapM fun (name, value) => name.map (·, value)
  | _ => none

/-- Access to the fields with the given names. -/
def fields? (names : List String) : Json → Option (String → Option Json)
  | .list items =>
    if items.length ≤ names.length then some fun name => (names.zip items).lookup name else none
  | json => do
    let members ← json.members?
    if names.all fun name => (members.filter (·.1 == name)).length ≤ 1 then
      some fun name => members.lookup name
    else none

/-- Like `fields?`, but a list has to give every field. -/
def allFields? (names : List String) (json : Json) : Option (String → Option Json) :=
  match json with
  | .list items => if items.length = names.length then json.fields? names else none
  | json => json.fields? names

def required? {α : Type} (get : String → Option Json) (name : String) (read : Json → Option α) :
    Option α :=
  (get name).bind read

/-- A field that may be missing or null. -/
def optional? {α : Type} (get : String → Option Json) (name : String) (read : Json → Option α) :
    Option (Option α) :=
  match get name with
  | none | some .null => some none
  | some value => (read value).map some

/-- A field that may be missing, but not null. -/
def defaulted? {α : Type} (get : String → Option Json) (name : String) (default : α)
    (read : Json → Option α) : Option α :=
  match get name with
  | none => some default
  | some value => read value

end CoinSpend.Json
