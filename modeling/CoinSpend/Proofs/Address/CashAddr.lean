import CoinSpend.Proofs.Address.Checksum
import CoinSpend.Proofs.Failure

/-! CashAddr texts read back. A text decodes just if its letters are of one case and it is, in lower case, what is written
for a kind and a hash, with the lead or without it. -/
namespace CoinSpend.CashAddr

theorem toOption_symbol (c : Char) : (symbol c).toOption = Symbols.value? c := by
  unfold symbol
  cases Symbols.value? c <;> rfl

theorem mapM_symbol_iff {body : List Char} {symbols : Bytes} :
    body.mapM symbol = .ok symbols ↔ body = symbols.map Symbols.character ∧ ∀ symbol ∈ symbols, symbol.toNat < 32 := by
  simp only [mapM_eq_ok, toOption_symbol]
  exact mapM_eq_some_iff Symbols.value?_eq_some_iff

/-- The version byte of a hash, which tells its kind and its size. -/
def version (kind : Kind) (size : UInt8) : UInt8 := (kind.code <<< 3) ||| size

theorem sizeCode?_iff {length : Nat} {size : UInt8} :
    sizeCode? length = some size ↔ length = sizeOfCode size ∧ size.toNat < 8 := by
  have place (index : Nat) : sizes.idxOf? length = some index ↔ length = sizes.getD index 64 ∧ index < 8 :=
    idxOf?_eq_some_iff_of_nodup (by decide) 64
  simp only [sizeCode?, Option.map_eq_some_iff, place, sizeOfCode]
  constructor
  · rintro ⟨index, ⟨same, inside⟩, rfl⟩
    rw [UInt8.toNat_ofNat_of_lt' (Nat.lt_trans inside (by decide))]
    exact ⟨same, inside⟩
  · rintro ⟨same, inside⟩
    exact ⟨size.toNat, ⟨same, inside⟩, UInt8.ofNat_toNat⟩

/-- Kind and size are found again in the version byte. -/
theorem version_fields (kind : Kind) {size : UInt8} (small : size.toNat < 8) :
    version kind size &&& 0x07 = size ∧ Kind.ofCode? (version kind size >>> 3) = some kind := by
  have fields : ∀ code ∈ List.range 8, version kind (UInt8.ofNat code) &&& 0x07 = UInt8.ofNat code ∧
      Kind.ofCode? (version kind (UInt8.ofNat code) >>> 3) = some kind := by
    cases kind <;> decide
  have own := fields size.toNat (List.mem_range.mpr small)
  rwa [UInt8.ofNat_toNat] at own

/-- There is no other version byte with a known kind. -/
theorem version_of_fields {code : UInt8} {kind : Kind} (known : Kind.ofCode? (code >>> 3) = some kind) :
    version kind (code &&& 0x07) = code ∧ (code &&& 0x07).toNat < 8 := by
  have fields : ∀ value ∈ List.range 256, (Kind.ofCode? (UInt8.ofNat value >>> 3)).all fun kind =>
      version kind (UInt8.ofNat value &&& 0x07) = UInt8.ofNat value ∧ (UInt8.ofNat value &&& 0x07).toNat < 8 := by
    decide +kernel
  have own := fields code.toNat (List.mem_range.mpr code.toNat_lt)
  rw [UInt8.ofNat_toNat, known] at own
  exact of_decide_eq_true own

theorem ofPayload_iff {payload hash : Bytes} {kind : Kind} :
    ofPayload payload = .ok (kind, hash) ↔
      ∃ size, sizeCode? hash.length = some size ∧ payload = version kind size :: hash := by
  simp only [sizeCode?_iff]
  constructor
  · intro read
    unfold ofPayload at read
    split at read
    · cases read
    · rename_i code rest
      split at read
      · cases read
      · rename_i sized
        split at read
        · rename_i found known
          cases read
          obtain ⟨whole, small⟩ := version_of_fields known
          exact ⟨code &&& 0x07, ⟨Decidable.not_not.mp sized, small⟩, by rw [whole]⟩
        · cases read
  · rintro ⟨size, ⟨sized, small⟩, rfl⟩
    obtain ⟨own, known⟩ := version_fields kind small
    rw [ofPayload, own, if_neg (not_not_intro sized), known]

/-- What stands behind the lead: the symbols of a kind and a hash, and their checksum. -/
def Carries (lead : String) (body : List Char) (kind : Kind) (hash : Bytes) : Prop :=
  ∃ symbols payload, Symbols.Spells symbols payload ∧ ofPayload payload = .ok (kind, hash) ∧
    body = (symbols ++ checksum lead symbols).map Symbols.character

variable {lead address : String} {kind : Kind} {hash : Bytes}

/-- The body is symbols for the version byte and the hash, and eight more. -/
theorem Carries.shape {body : List Char} (carries : Carries lead body kind hash) :
    ∃ symbols : Bytes, (∀ symbol ∈ symbols, symbol.toNat < 32) ∧ 8 * hash.length + 48 ≤ 5 * symbols.length ∧
      body = symbols.map Symbols.character := by
  obtain ⟨symbols, payload, spells, read, rfl⟩ := carries
  obtain ⟨size, _, rfl⟩ := ofPayload_iff.mp read
  obtain ⟨spare, _, long, _⟩ := spells.bits
  refine ⟨symbols ++ checksum lead symbols, List.forall_mem_append.mpr ⟨spells.small, checksum_lt _ _⟩, ?_, rfl⟩
  rw [List.length_cons] at long
  rw [List.length_append, length_checksum]
  omega

theorem Carries.plain {body : List Char} (carries : Carries lead body kind hash) : ':' ∉ body := by
  obtain ⟨symbols, small, _, rfl⟩ := carries.shape
  exact fun member => (Symbols.mem_characters small member).2.2.2 rfl

theorem toList_behind (lead : String) (body : List Char) :
    (lead ++ ":" ++ String.ofList body).toList = lead.toList ++ ':' :: body := by
  simp only [String.toList_append, String.toList_ofList, List.append_assoc]
  rfl

theorem encode_iff {written : String} :
    encode lead kind hash = .ok written ↔
      ∃ body, Carries lead body kind hash ∧ written.toList = lead.toList ++ ':' :: body := by
  unfold encode
  cases sized : sizeCode? hash.length with
  | none =>
    constructor
    · intro failed
      cases failed
    · rintro ⟨_, ⟨_, _, _, read, _⟩, _⟩
      obtain ⟨_, known, _⟩ := ofPayload_iff.mp read
      cases sized.symm.trans known
  | some size =>
    obtain ⟨symbols, regrouped, spells⟩ := Symbols.ofBytes?_spells (version kind size :: hash)
    rw [version] at regrouped
    dsimp only
    rw [regrouped]
    dsimp only
    rw [Except.ok.injEq]
    constructor
    · rintro rfl
      exact ⟨_, ⟨symbols, _, spells, ofPayload_iff.mpr ⟨size, sized, rfl⟩, rfl⟩, toList_behind _ _⟩
    · rintro ⟨_, ⟨others, _, again, read, rfl⟩, same⟩
      obtain ⟨_, known, rfl⟩ := ofPayload_iff.mp read
      cases sized.symm.trans known
      rw [← String.toList_inj, toList_behind, same, spells.symbols_unique again]

/-- What is read behind the lead. -/
def readBody (lead : String) (body : List Char) : Except Error (Kind × Bytes) := do
  let symbols ← body.mapM symbol
  if symbols.length ≤ 8 then .error .tooShort
  else if polymod (covered lead symbols) ≠ 0 then .error .wrongChecksum
  else
    match Symbols.toBytes? (symbols.take (symbols.length - 8)) with
    | none => .error .nonZeroPadding
    | some payload => ofPayload payload

theorem readBody_iff {body : List Char} : readBody lead body = .ok (kind, hash) ↔ Carries lead body kind hash := by
  simp only [readBody, bind_eq_ok, mapM_symbol_iff]
  constructor
  · rintro ⟨all, ⟨rfl, small⟩, read⟩
    split at read
    · cases read
    · rename_i long
      split at read
      · cases read
      · rename_i valid
        split at read
        · cases read
        · rename_i payload regrouped
          -- the last eight symbols are the checksum of those before them
          have parts := List.take_append_drop (all.length - 8) all
          have eighth : (all.drop (all.length - 8)).length = 8 := by
            rw [List.length_drop]
            omega
          rw [Decidable.not_not, ← parts,
            polymod_eq_zero_iff eighth fun symbol member => small symbol (List.mem_of_mem_drop member)] at valid
          have front : ∀ symbol ∈ all.take (all.length - 8), symbol.toNat < 32 :=
            fun symbol member => small symbol (List.mem_of_mem_take member)
          exact ⟨_, payload, (Symbols.toBytes?_eq_some_iff front).mp regrouped, read, by rw [← valid, parts]⟩
  · rintro ⟨symbols, payload, spells, read, rfl⟩
    have length : (symbols ++ checksum lead symbols).length = symbols.length + 8 := List.length_append
    have filled : symbols.length ≠ 0 := by
      obtain ⟨spare, _, long, _⟩ := spells.bits
      obtain ⟨size, _, rfl⟩ := ofPayload_iff.mp read
      rw [List.length_cons] at long
      omega
    refine ⟨_, ⟨rfl, List.forall_mem_append.mpr ⟨spells.small, checksum_lt _ _⟩⟩, ?_⟩
    rw [length, if_neg (by omega), (polymod_eq_zero_iff (length_checksum _ _) (checksum_lt _ _)).mpr rfl,
      if_neg (not_not_intro rfl), Nat.add_sub_cancel, List.take_left, (Symbols.toBytes?_eq_some_iff spells.small).mpr spells]
    exact read

theorem decode_iff {result : Kind × Bytes} :
    decode address lead = .ok result ↔
      Text.mixesCase (Text.trimmed address.toList) = false ∧ ∃ body, readBody lead body = .ok result ∧
        (Text.lowered (Text.trimmed address.toList) = body ∧ ':' ∉ body ∨
          Text.lowered (Text.trimmed address.toList) = lead.toList ++ ':' :: body ∧ ':' ∉ lead.toList) := by
  unfold decode
  dsimp only
  cases mixed : Text.mixesCase (Text.trimmed address.toList) with
  | true => simp
  | false =>
    rw [if_neg Bool.false_ne_true]
    cases divided : Text.splitFirst ':' (Text.lowered (Text.trimmed address.toList)) with
    | none =>
      have absent := Text.splitFirst_eq_none_iff.mp divided
      dsimp only
      rw [if_neg (not_not_intro rfl)]
      constructor
      · intro read
        exact ⟨rfl, _, read, .inl ⟨rfl, absent⟩⟩
      · rintro ⟨_, body, read, ⟨rfl, _⟩ | ⟨same, _⟩⟩
        · exact read
        · exact absurd (by simp [same]) absent
    | some parts =>
      obtain ⟨front, rest⟩ := parts
      have found := Text.splitFirst_eq_some_iff.mp divided
      dsimp only
      constructor
      · intro read
        split at read
        · cases read
        · rename_i own
          obtain rfl := Decidable.not_not.mp own
          refine ⟨rfl, rest, read, .inr ?_⟩
          rwa [String.toList_ofList]
      · rintro ⟨_, body, read, ⟨rfl, absent⟩ | here⟩
        · exact absurd (by simp [found.1]) absent
        · have parts := Text.splitFirst_eq_some_iff.mpr here
          cases divided.symm.trans parts
          rw [if_neg (not_not_intro String.ofList_toList)]
          simp only [String.ofList_toList]
          exact read

/-- A text decodes just if its letters are of one case and it is, in lower case, what is written for the kind and the
hash, with the lead or without it. -/
theorem decode_eq_ok_iff (plain : ':' ∉ lead.toList) :
    decode address lead = .ok (kind, hash) ↔
      Text.mixesCase (Text.trimmed address.toList) = false ∧ ∃ written, encode lead kind hash = .ok written ∧
        (written.toList = Text.lowered (Text.trimmed address.toList) ∨
          written.toList = lead.toList ++ ':' :: Text.lowered (Text.trimmed address.toList)) := by
  simp only [decode_iff, readBody_iff, plain, not_false_eq_true, and_true, encode_iff]
  constructor
  · rintro ⟨single, body, carries, same⟩
    refine ⟨single, String.ofList (lead.toList ++ ':' :: body), ⟨body, carries, String.toList_ofList⟩, ?_⟩
    rw [String.toList_ofList]
    rcases same with ⟨rfl, _⟩ | same
    · exact .inr rfl
    · exact .inl same.symm
  · rintro ⟨single, written, ⟨body, carries, whole⟩, same⟩
    refine ⟨single, body, carries, ?_⟩
    rw [whole] at same
    rcases same with same | same
    · exact .inr same.symm
    · obtain rfl := (List.cons.inj (List.append_cancel_left same)).2
      exact .inl ⟨rfl, carries.plain⟩

/-- What is written has no capitals and no blanks at its ends, if the lead has none. -/
theorem lowered_encode {written : String} (lower : Text.lowered lead.toList = lead.toList)
    (encoded : encode lead kind hash = .ok written) : Text.lowered written.toList = written.toList := by
  obtain ⟨body, carries, same⟩ := encode_iff.mp encoded
  obtain ⟨symbols, small, _, rfl⟩ := carries.shape
  rw [same, Text.lowered_append_cons (by decide), lower, Symbols.lowered_characters small]

theorem trim_encode {written : String} (solid : ∀ c ∈ lead.toList.head?, Text.isBlank c = false)
    (encoded : encode lead kind hash = .ok written) : Text.trim written = written := by
  obtain ⟨body, carries, same⟩ := encode_iff.mp encoded
  obtain ⟨symbols, small, long, rfl⟩ := carries.shape
  rw [Text.trim, Text.trimmed_eq_self, String.ofList_toList]
  · intro c first
    rw [same] at first
    cases front : lead.toList with
    | nil =>
      rw [front] at first
      cases first
      decide
    | cons d rest =>
      rw [front] at first solid
      cases first
      exact solid c rfl
  · intro c last
    rw [same, List.getLast?_append_cons] at last
    rcases List.mem_cons.mp (List.mem_of_mem_getLast? last) with rfl | member
    · decide
    · exact (Symbols.mem_characters small member).2.1

theorem mem_sizes_iff {length : Nat} : length ∈ sizes ↔ ∃ size, sizeCode? length = some size := by
  rw [← Option.isSome_iff_exists, sizeCode?, Option.isSome_map, Option.isSome_iff_ne_none, Ne, List.idxOf?_eq_none_iff,
    Decidable.not_not]

theorem length_of_encode {written : String} (encoded : encode lead kind hash = .ok written) : hash.length ∈ sizes := by
  obtain ⟨_, ⟨_, _, _, read, _⟩, _⟩ := encode_iff.mp encoded
  obtain ⟨size, sized, _⟩ := ofPayload_iff.mp read
  exact mem_sizes_iff.mpr ⟨size, sized⟩

/-- Every hash of a supported size is written down behind the lead. -/
theorem encode_defined (lead : String) (kind : Kind) (supported : hash.length ∈ sizes) :
    ∃ body, Carries lead body kind hash ∧ encode lead kind hash = .ok (lead ++ ":" ++ String.ofList body) := by
  obtain ⟨size, sized⟩ := mem_sizes_iff.mp supported
  obtain ⟨symbols, regrouped, spells⟩ := Symbols.ofBytes?_spells (version kind size :: hash)
  refine ⟨_, ⟨symbols, _, spells, ofPayload_iff.mpr ⟨size, sized, rfl⟩, rfl⟩, ?_⟩
  rw [version] at regrouped
  simp only [encode, sized, regrouped]

/-- A text of symbols alone is read as it stands. -/
theorem decode_characters {symbols : Bytes} (small : ∀ symbol ∈ symbols, symbol.toNat < 32) {result : Kind × Bytes} :
    decode (String.ofList (symbols.map Symbols.character)) lead = .ok result ↔
      readBody lead (symbols.map Symbols.character) = .ok result := by
  have lowered := Symbols.lowered_characters small
  have absent : ':' ∉ symbols.map Symbols.character := fun member => (Symbols.mem_characters small member).2.2.2 rfl
  rw [decode_iff, String.toList_ofList,
    Text.trimmed_of_no_blank fun c member => (Symbols.mem_characters small member).2.1, lowered]
  constructor
  · rintro ⟨_, body, read, ⟨rfl, _⟩ | ⟨same, _⟩⟩
    · exact read
    · exact absurd (by simp [same]) absent
  · exact fun read => ⟨Text.mixesCase_eq_false_of_lowered lowered, _, read, .inl ⟨rfl, absent⟩⟩

theorem Carries.decodes {body : List Char} (carries : Carries lead body kind hash) :
    decode (String.ofList body) lead = .ok (kind, hash) := by
  obtain ⟨symbols, small, _, rfl⟩ := carries.shape
  exact (decode_characters small).mpr (readBody_iff.mpr carries)

/-- Symbols carry a kind and a hash with one checksum only, and with none but zero bits behind the hash. -/
theorem carries_characters_iff {symbols check : Bytes} (small : ∀ symbol ∈ symbols ++ check, symbol.toNat < 32)
    (long : check.length = 8) :
    Carries lead ((symbols ++ check).map Symbols.character) kind hash ↔
      check = checksum lead symbols ∧
        ∃ size, sizeCode? hash.length = some size ∧ Symbols.Spells symbols (version kind size :: hash) := by
  constructor
  · rintro ⟨own, payload, spells, read, same⟩
    have valid : ∀ symbol ∈ own ++ checksum lead own, symbol.toNat < 32 :=
      List.forall_mem_append.mpr ⟨spells.small, checksum_lt _ _⟩
    have whole := (mapM_symbol_iff.mpr ⟨rfl, small⟩).symm.trans (mapM_symbol_iff.mpr ⟨same, valid⟩)
    obtain ⟨rfl, rfl⟩ := List.append_inj' (Except.ok.inj whole) long
    obtain ⟨size, sized, rfl⟩ := ofPayload_iff.mp read
    exact ⟨rfl, size, sized, spells⟩
  · rintro ⟨rfl, size, sized, spells⟩
    exact ⟨symbols, _, spells, ofPayload_iff.mpr ⟨size, sized, rfl⟩, rfl⟩

/-- Reading is exact. A text is read as a kind and a hash just if the hash has a supported size and the text, trimmed and
of one case, is in lower case what is written for them, whole or without its lead. So each hash of a supported size is
read back, and behind the lead there is one checksum, one version byte and one padding for it. -/
theorem decode_exact (plain : ':' ∉ lead.toList) :
    (∀ address kind hash, decode address lead = .ok (kind, hash) ↔
      hash.length ∈ [20, 24, 28, 32, 40, 48, 56, 64] ∧ Text.mixesCase (Text.trim address).toList = false ∧
        ∃ written, encode lead kind hash = .ok written ∧ (Text.lower (Text.trim address) = written ∨
          lead ++ ":" ++ Text.lower (Text.trim address) = written)) ∧
    (∀ kind hash, hash.length ∈ [20, 24, 28, 32, 40, 48, 56, 64] →
      ∃ body, encode lead kind hash = .ok (lead ++ ":" ++ body) ∧ decode body lead = .ok (kind, hash) ∧
        (Text.lower lead = lead → (∀ c ∈ lead.toList.head?, Text.isBlank c = false) →
          decode (lead ++ ":" ++ body) lead = .ok (kind, hash))) ∧
    (∀ symbols check kind hash, (∀ symbol ∈ symbols ++ check, symbol.toNat < 32) → check.length = 8 →
      (decode (String.ofList ((symbols ++ check).map Symbols.character)) lead = .ok (kind, hash) ↔
        check = checksum lead symbols ∧
          ∃ size, sizeCode? hash.length = some size ∧ Symbols.Spells symbols (version kind size :: hash))) := by
  refine ⟨fun address kind hash => ?_, fun kind hash supported => ?_, fun symbols check kind hash small long => ?_⟩
  · have trimmed : (Text.trim address).toList = Text.trimmed address.toList := String.toList_ofList
    have whole (written : String) : Text.lower (Text.trim address) = written ↔
        written.toList = Text.lowered (Text.trimmed address.toList) := by
      rw [← String.toList_inj, Text.lower, trimmed, String.toList_ofList, eq_comm]
    have bare (written : String) : lead ++ ":" ++ Text.lower (Text.trim address) = written ↔
        written.toList = lead.toList ++ ':' :: Text.lowered (Text.trimmed address.toList) := by
      rw [← String.toList_inj, Text.lower, toList_behind, trimmed, eq_comm]
    simp only [decode_eq_ok_iff plain, whole, bare, trimmed]
    constructor
    · rintro ⟨single, written, encoded, same⟩
      exact ⟨length_of_encode encoded, single, written, encoded, same⟩
    · rintro ⟨_, single, written, encoded, same⟩
      exact ⟨single, written, encoded, same⟩
  · obtain ⟨body, carries, encoded⟩ := encode_defined lead kind supported
    refine ⟨String.ofList body, encoded, carries.decodes, fun lower solid => ?_⟩
    have small : Text.lowered lead.toList = lead.toList := by
      rw [← congrArg String.toList lower, Text.lower, String.toList_ofList, Text.lowered_lowered]
    have kept := lowered_encode small encoded
    have untouched := congrArg String.toList (trim_encode solid encoded)
    rw [Text.trim, String.toList_ofList] at untouched
    rw [decode_eq_ok_iff plain, untouched, kept]
    exact ⟨Text.mixesCase_eq_false_of_lowered kept, _, encoded, .inl rfl⟩
  · rw [decode_characters small, readBody_iff, carries_characters_iff small long]

/-- Capitals and blanks around an address are read over. -/
theorem decode_exact_capitals : ':' ∉ "bitcoincash".toList ∧
    decode " BITCOINCASH:QPM2QSZNHKS23Z7629MMS6S4CWEF74VCWVY22GDX6A\n" "bitcoincash" =
      .ok (.p2pkh, [0x76, 0xa0, 0x40, 0x53, 0xbd, 0xa0, 0xa8, 0x8b, 0xda, 0x51, 0x77, 0xb8, 0x6a, 0x15, 0xc3, 0xb2,
        0x9f, 0x55, 0x98, 0x73]) := by
  have plain : ':' ∉ "bitcoincash".toList := by decide
  refine ⟨plain, ((decode_exact plain).1 _ _ _).mpr ⟨by decide, by decide +kernel, ?_⟩⟩
  refine ⟨"bitcoincash:qpm2qsznhks23z7629mms6s4cwef74vcwvy22gdx6a", ?_, .inl ?_⟩ <;> decide +kernel

end CoinSpend.CashAddr
