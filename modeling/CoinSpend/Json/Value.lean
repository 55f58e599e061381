/-! JSON values (RFC 8259) as far as typed reading needs them: member order and repeated members are
kept, and a number is either a whole number or not. -/
namespace CoinSpend

/-- A text is `none` when it has an unpaired surrogate escape and so denotes no character string. -/
inductive Json where
  | null
  | bool (value : Bool)
  | whole (value : Int)
  | real
  | text (value : Option String)
  | list (items : List Json)
  | record (members : List (Option String × Json))

end CoinSpend
