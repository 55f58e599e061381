import CoinSpend.Proofs.Address
import CoinSpend.Proofs.Address.Base58
import CoinSpend.Proofs.Address.Bech32
import CoinSpend.Proofs.Address.CashAddr

/-! What the addresses of a coin say. An address is read just as it would be written, and no text is an address in two of
the formats: they differ in length or in where their separators stand. So the order in which they are tried is of no
consequence. -/
namespace CoinSpend

/-- The versions of a coin differ, its human-readable parts are in lower case, and the one of CashAddr has no colon. -/
structure Coin.Distinct (coin : Coin) : Prop where
  versions : coin.keyVersion ≠ coin.scriptVersion
  hrp : ∀ hrp ∈ coin.hrp, Text.lowered hrp.toList = hrp.toList
  lead : ∀ lead ∈ coin.cashAddrLead, Text.lowered lead.toList = lead.toList ∧ ':' ∉ lead.toList

def CashAddr.Kind.addressKind : CashAddr.Kind → AddressKind
  | p2pkh => .cashAddrP2pkh
  | p2sh => .cashAddrP2sh

namespace Coin

variable {coin : Coin} {text : String} {target other : AddressTarget}

/-- The text is, up to the case of its letters, the address of a witness program. -/
def WritesProgram (coin : Coin) (text : String) (target : AddressTarget) : Prop :=
  ∃ hrp ∈ coin.hrp, Text.mixesCase text.toList = false ∧ Segwit.encode hrp target.hash = .ok (Text.lower text) ∧
    (target.kind = .p2wpkh ∧ target.hash.length = 20 ∨ target.kind = .p2wsh ∧ target.hash.length = 32)

/-- The text is, up to the case of its letters, a CashAddr address of twenty bytes, with its lead or without it. -/
def WritesCashAddr (coin : Coin) (text : String) (target : AddressTarget) : Prop :=
  ∃ lead ∈ coin.cashAddrLead, Text.mixesCase text.toList = false ∧ target.hash.length = 20 ∧
    ∃ kind : CashAddr.Kind, target.kind = kind.addressKind ∧
      ∃ written, CashAddr.encode lead kind target.hash = .ok written ∧
        (written = Text.lower text ∨ written = lead ++ ":" ++ Text.lower text)

/-- The text is the Base58Check encoding of a version of the coin and twenty bytes. -/
def WritesBase58 (coin : Coin) (text : String) (target : AddressTarget) : Prop :=
  target.hash.length = 20 ∧
    (target.kind = .p2pkh ∧ text = Base58.encodeCheck coin.keyVersion target.hash ∨
      target.kind = .p2sh ∧ text = Base58.encodeCheck coin.scriptVersion target.hash)

/-- The text is an address of the coin that pays to the target. -/
def Writes (coin : Coin) (text : String) (target : AddressTarget) : Prop :=
  coin.WritesProgram text target ∨ coin.WritesCashAddr text target ∨ coin.WritesBase58 text target

theorem segwitTarget?_iff (distinct : coin.Distinct) (solid : Text.trim text = text) :
    coin.segwitTarget? text = some target ↔ coin.WritesProgram text target := by
  have bare : Text.trimmed text.toList = text.toList := by
    simpa [Text.trim] using congrArg String.toList solid
  simp only [segwitTarget?, Option.bind_eq_bind, Option.bind_eq_some_iff, Option.guard_eq_some']
  constructor
  · rintro ⟨hrp, own, _, _, program, read, same⟩
    cases same
    obtain ⟨single, sized, written⟩ := (Segwit.decode?_eq_some_iff (distinct.hrp hrp own)).mp read
    rw [bare] at single written
    refine ⟨hrp, own, single, written, ?_⟩
    dsimp only
    rcases sized with short | long
    · exact .inl ⟨if_pos short, short⟩
    · exact .inr ⟨if_neg (by omega), long⟩
  · rintro ⟨hrp, own, single, written, form⟩
    have lower := distinct.hrp hrp own
    have sized : target.hash.length = 20 ∨ target.hash.length = 32 := form.imp And.right And.right
    have begins : (hrp.toList ++ ['1']).isPrefixOf (Text.lowered text.toList) = true := by
      obtain ⟨_, symbols, _, _, same⟩ := Segwit.encode_shape lower sized written
      rw [Text.lower, String.toList_ofList] at same
      rw [same, List.isPrefixOf_iff_prefix]
      exact ⟨symbols.map Symbols.character, by simp⟩
    refine ⟨hrp, own, (), begins, target.hash, ?_, ?_⟩
    · rw [Segwit.decode?_eq_some_iff lower, bare]
      exact ⟨single, sized, written⟩
    · obtain ⟨kind, hash⟩ := target
      dsimp only at form ⊢
      rcases form with ⟨rfl, short⟩ | ⟨rfl, long⟩
      · rw [if_pos short]
        rfl
      · rw [if_neg (by omega)]
        rfl

theorem cashAddrTarget?_iff (distinct : coin.Distinct) (solid : Text.trim text = text) :
    coin.cashAddrTarget? text = some target ↔ coin.WritesCashAddr text target := by
  have bare : Text.trimmed text.toList = text.toList := by
    simpa [Text.trim] using congrArg String.toList solid
  have plain (lead written : String) : (written.toList = Text.lowered text.toList ∨
      written.toList = lead.toList ++ ':' :: Text.lowered text.toList) ↔
        (written = Text.lower text ∨ written = lead ++ ":" ++ Text.lower text) := by
    rw [← String.toList_inj, ← String.toList_inj]
    simp [Text.lower]
  simp only [cashAddrTarget?, Option.bind_eq_bind, Option.bind_eq_some_iff, Option.guard_eq_some',
    toOption_eq_some_iff, beq_iff_eq]
  constructor
  · rintro ⟨lead, own, ⟨kind, hash⟩, read, _, sized, same⟩
    cases same
    rw [CashAddr.decode_eq_ok_iff (distinct.lead lead own).2, bare] at read
    obtain ⟨single, written, encoded, same⟩ := read
    exact ⟨lead, own, single, sized, kind, by cases kind <;> rfl, written, encoded, (plain lead written).mp same⟩
  · rintro ⟨lead, own, single, sized, kind, form, written, encoded, same⟩
    refine ⟨lead, own, (kind, target.hash), ?_, (), sized, ?_⟩
    · rw [CashAddr.decode_eq_ok_iff (distinct.lead lead own).2, bare]
      exact ⟨single, written, encoded, (plain lead written).mpr same⟩
    · obtain ⟨_, hash⟩ := target
      obtain rfl := form
      cases kind <;> rfl

theorem base58Target?_iff (distinct : coin.Distinct) (solid : Text.trim text = text) :
    coin.base58Target? text = some target ↔ coin.WritesBase58 text target := by
  simp only [base58Target?, Option.bind_eq_bind, Option.bind_eq_some_iff, Option.guard_eq_some', Prod.exists,
    Base58.decodeCheck?_eq_some_iff, solid, beq_iff_eq]
  constructor
  · rintro ⟨version, hash, written, _, sized, chosen⟩
    split at chosen
    · rename_i key
      cases chosen
      exact ⟨sized, .inl ⟨rfl, key ▸ written⟩⟩
    · split at chosen
      · rename_i script
        cases chosen
        exact ⟨sized, .inr ⟨rfl, script ▸ written⟩⟩
      · cases chosen
  · obtain ⟨kind, hash⟩ := target
    rintro ⟨sized, ⟨rfl, written⟩ | ⟨rfl, written⟩⟩
    · exact ⟨coin.keyVersion, hash, written, (), sized, if_pos rfl⟩
    · refine ⟨coin.scriptVersion, hash, written, (), sized, ?_⟩
      rw [if_neg distinct.versions.symm, if_pos rfl]

theorem length_lower (text : String) : (Text.lower text).toList.length = text.toList.length := by
  rw [Text.lower, String.toList_ofList, Text.lowered, List.length_map]

/-- Of two separators one stands behind the other. -/
theorem separator_behind {first second : Char} (differ : first ≠ second) {front rest before after : List Char}
    (same : front ++ first :: rest = before ++ second :: after) : second ∈ rest ∨ first ∈ after := by
  have behind {x y : Char} (apart : x ≠ y) {between others ends : List Char} (split : x :: others = between ++ y :: ends) :
      y ∈ others := by
    cases between with
    | nil => exact absurd (List.cons.inj split).1 apart
    | cons c between =>
      rw [(List.cons.inj split).2]
      simp
  rcases List.append_eq_append_iff.mp same with ⟨between, _, split⟩ | ⟨between, _, split⟩
  · exact .inl (behind differ split)
  · exact .inr (behind differ.symm split)

theorem WritesProgram.shape (distinct : coin.Distinct) (writes : coin.WritesProgram text target) :
    41 ≤ text.toList.length ∧
      ∃ front rest, Text.lowered text.toList = front ++ '1' :: rest ∧ ':' ∉ rest := by
  obtain ⟨hrp, own, _, written, form⟩ := writes
  obtain ⟨readable, symbols, small, long, same⟩ :=
    Segwit.encode_shape (distinct.hrp hrp own) (form.imp And.right And.right) written
  have filled := List.length_pos_iff.mpr readable.filled
  constructor
  · rw [← length_lower, same, List.length_append, List.length_cons, List.length_map]
    omega
  · rw [Text.lower, String.toList_ofList] at same
    exact ⟨_, _, same, fun member => (Symbols.mem_characters small member).2.2.2 rfl⟩

theorem WritesCashAddr.shape (writes : coin.WritesCashAddr text target) :
    42 ≤ text.toList.length ∧ ∃ body, '1' ∉ body ∧
      (Text.lowered text.toList = body ∨ ∃ lead, Text.lowered text.toList = lead ++ ':' :: body) := by
  obtain ⟨lead, _, _, sized, kind, _, written, encoded, same⟩ := writes
  obtain ⟨body, carries, whole⟩ := CashAddr.encode_iff.mp encoded
  obtain ⟨symbols, small, long, rfl⟩ := carries.shape
  have absent : '1' ∉ symbols.map Symbols.character := fun member => (Symbols.mem_characters small member).2.2.1 rfl
  rcases same with rfl | rfl
  · constructor
    · rw [← length_lower, whole, List.length_append, List.length_cons, List.length_map]
      omega
    · rw [Text.lower, String.toList_ofList] at whole
      exact ⟨_, absent, .inr ⟨_, whole⟩⟩
  · have bare : (Text.lower text).toList = symbols.map Symbols.character := by
      simpa using whole
    constructor
    · rw [← length_lower, bare, List.length_map]
      omega
    · rw [Text.lower, String.toList_ofList] at bare
      exact ⟨_, absent, .inl bare⟩

theorem WritesBase58.length_le (writes : coin.WritesBase58 text target) : text.toList.length ≤ 38 := by
  obtain ⟨sized, form⟩ := writes
  have short (version : UInt8) : (Base58.encodeCheck version target.hash).toList.length ≤ 38 := by
    have bound := Base58.length_encode_le (Base58.checked version target.hash)
    rw [Base58.length_checked, sized] at bound
    rw [Base58.encodeCheck_eq, String.toList_ofList]
    omega
  rcases form with ⟨_, rfl⟩ | ⟨_, rfl⟩
  · exact short _
  · exact short _

/-- A CashAddr text has no `1` behind its colon, and a witness program's has no colon behind its last `1`. -/
theorem not_cashAddr_of_program (distinct : coin.Distinct) (writes : coin.WritesProgram text target) :
    ¬ coin.WritesCashAddr text other := by
  intro again
  obtain ⟨_, front, rest, divided, plain⟩ := writes.shape distinct
  obtain ⟨_, body, absent, same | ⟨lead, same⟩⟩ := again.shape
  · rw [← same, divided] at absent
    exact absent (by simp)
  · rcases separator_behind (by decide) (divided.symm.trans same) with member | member
    · exact plain member
    · exact absent member

/-- The formats by which addresses are read, in the order in which they are tried. -/
def readers (coin : Coin) : List (String → Option AddressTarget) :=
  [coin.segwitTarget?, coin.cashAddrTarget?, coin.base58Target?]

theorem toOption_classify (coin : Coin) (address : String) :
    (coin.classify address).toOption = coin.readers.findSome? fun read => read (Text.trim address) := by
  unfold classify readers
  simp only [Option.orElse_eq_orElse, Option.orElse_eq_or, List.findSome?_cons, List.findSome?_nil]
  cases coin.segwitTarget? (Text.trim address) with
  | some target => rfl
  | none =>
    cases coin.cashAddrTarget? (Text.trim address) with
    | some target => rfl
    | none => cases coin.base58Target? (Text.trim address) <;> rfl

/-- No text is an address in two of the formats. -/
theorem readers_exclusive (distinct : coin.Distinct) (solid : Text.trim text = text) :
    coin.readers.Pairwise fun first second => first text = none ∨ second text = none := by
  have apart {first second : Option AddressTarget} (clash : ∀ x y, first = some x → second ≠ some y) :
      first = none ∨ second = none := by
    cases first with
    | none => exact .inl rfl
    | some target => exact .inr (Option.eq_none_iff_forall_ne_some.mpr fun other => clash target other rfl)
  have programs : coin.segwitTarget? text = none ∨ coin.cashAddrTarget? text = none := by
    refine apart fun target other program cashAddr => ?_
    exact not_cashAddr_of_program distinct ((segwitTarget?_iff distinct solid).mp program)
      ((cashAddrTarget?_iff distinct solid).mp cashAddr)
  have long : coin.segwitTarget? text = none ∨ coin.base58Target? text = none := by
    refine apart fun target other program base58 => ?_
    have least := (((segwitTarget?_iff distinct solid).mp program).shape distinct).1
    have most := ((base58Target?_iff distinct solid).mp base58).length_le
    omega
  have leads : coin.cashAddrTarget? text = none ∨ coin.base58Target? text = none := by
    refine apart fun target other cashAddr base58 => ?_
    have least := ((cashAddrTarget?_iff distinct solid).mp cashAddr).shape.1
    have most := ((base58Target?_iff distinct solid).mp base58).length_le
    omega
  simp only [readers, List.pairwise_cons, List.forall_mem_cons, List.not_mem_nil, false_imp_iff, implies_true,
    and_true, List.Pairwise.nil]
  exact ⟨⟨programs, long⟩, leads⟩

theorem classify_eq_ok_iff (distinct : coin.Distinct) {address : String} :
    coin.classify address = .ok target ↔ coin.Writes (Text.trim address) target := by
  have solid := Text.trim_trim address
  rw [← toOption_eq_some_iff, toOption_classify,
    findSome?_eq_some_iff_of_exclusive (readers_exclusive distinct solid), Writes, ← segwitTarget?_iff distinct solid,
    ← cashAddrTarget?_iff distinct solid, ← base58Target?_iff distinct solid]
  simp [readers]

/-- An address is read as the target that it is written for, up to blanks around it and the case of its letters, and a
text that is written for none is not recognized. No text is accepted in two formats, so they may be tried in any order. -/
theorem classify_canonical (distinct : coin.Distinct) (address : String) :
    (∀ target, coin.classify address = .ok target ↔ coin.Writes (Text.trim address) target) ∧
      ((∀ target, ¬ coin.Writes (Text.trim address) target) →
        ∃ failure, coin.classify address = .error failure ∧ failure.code = .unrecognizedAddressFormat) ∧
      (coin.readers.Pairwise fun first second =>
        first (Text.trim address) = none ∨ second (Text.trim address) = none) ∧
      ∀ order : List (String → Option AddressTarget), order.Perm coin.readers →
        (order.findSome? fun read => read (Text.trim address)) = (coin.classify address).toOption := by
  have exclusive := readers_exclusive distinct (Text.trim_trim address)
  refine ⟨fun target => classify_eq_ok_iff distinct, fun unwritten => ?_, exclusive, fun order perm => ?_⟩
  · cases read : coin.classify address with
    | ok target => exact absurd ((classify_eq_ok_iff distinct).mp read) (unwritten target)
    | error failure => exact ⟨failure, rfl, unrecognized_of_classify read⟩
  · rw [toOption_classify, findSome?_perm perm.symm exclusive]

/-- The first of the built-in coins. -/
def bitcoin : Coin := Registry.builtin.coins.head (by decide)

/-- An address in capitals, behind a blank, is that of a witness program, and would be with the formats in the opposite
order. -/
theorem classify_canonical_sample : ∃ target, target.kind = .p2wpkh ∧
    bitcoin.Writes (Text.trim " BC1QYJJKMDPU7METQT5R36JF872A34SYWS33S82Q2J") target ∧
    (bitcoin.readers.reverse.findSome? fun read => read (Text.trim " BC1QYJJKMDPU7METQT5R36JF872A34SYWS33S82Q2J")) =
      some target := by
  have distinct : bitcoin.Distinct := ⟨by decide, by decide, by decide⟩
  have observed : (bitcoin.classify " BC1QYJJKMDPU7METQT5R36JF872A34SYWS33S82Q2J").toOption.map (·.kind) =
      some .p2wpkh := by decide +kernel
  obtain ⟨target, found, kind⟩ := Option.map_eq_some_iff.mp observed
  obtain ⟨written, _, _, orders⟩ := classify_canonical distinct " BC1QYJJKMDPU7METQT5R36JF872A34SYWS33S82Q2J"
  refine ⟨target, kind, (written target).mp (toOption_eq_some_iff.mp found), ?_⟩
  rw [orders _ (List.reverse_perm _), found]

end Coin

end CoinSpend
