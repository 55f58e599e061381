import CoinSpend.Proofs.Address.Bech32

/-! What an address of a witness program consists of, and what keeps a text of that shape from being one: another
human-readable part or version, another checksum, bits left over behind the program, and programs of other sizes. -/
namespace CoinSpend.Segwit

/-- The address of a program: the human-readable part, a separator, the version zero, symbols that spell the program out,
and six symbols that make the remainder the one of Bech32. -/
def Addresses (lead : List Char) (program : Bytes) (text : List Char) : Prop :=
  ∃ symbols check : Bytes, Symbols.Spells symbols program ∧ check.length = 6 ∧ (∀ symbol ∈ check, symbol.toNat < 32) ∧
    Bech32.polymod (Bech32.expand lead ++ (0 :: symbols ++ check)) = Bech32.constant ∧
    text = lead ++ '1' :: (0 :: symbols ++ check).map Symbols.character

/-- What can be wrong with a human-readable part and the symbols behind it, a version first and a checksum last. -/
inductive Fault (hrp lead : List Char) (version : UInt8) (symbols check : Bytes) : Prop
  | foreign (other : lead ≠ hrp)
  | version (other : version ≠ 0)
  | checksum (wrong : Bech32.polymod (Bech32.expand lead ++ (version :: symbols ++ check)) ≠ Bech32.constant)
  | padding {program : Bytes} {spare rest : Nat} (divided : Symbols.Regrouped 5 8 symbols program spare rest)
      (left : 5 ≤ spare ∨ rest ≠ 0)
  | size {program : Bytes} {spare rest : Nat} (divided : Symbols.Regrouped 5 8 symbols program spare rest)
      (other : program.length ≠ 20 ∧ program.length ≠ 32)

/-- A text of one case that is, trimmed and in lower case, a human-readable part, a separator and symbols: a version, what
may be a program, and six for a checksum. -/
structure Consists (address : String) (lead : List Char) (version : UInt8) (symbols check : Bytes) : Prop where
  single : Text.mixesCase (Text.trim address).toList = false
  small : ∀ symbol ∈ version :: symbols ++ check, symbol.toNat < 32
  long : check.length = 6
  text_eq : (Text.lower (Text.trim address)).toList =
    lead ++ '1' :: (version :: symbols ++ check).map Symbols.character

/-- The remainder that marks Bech32m, the successor of Bech32. -/
def successor : UInt32 := 0x2bc830a3

variable {hrp text address : String} {program : Bytes} {lead : List Char} {version : UInt8} {symbols check : Bytes}

theorem encode_eq_ok_iff (lower : Text.lowered hrp.toList = hrp.toList) :
    encode hrp program = .ok text ↔ Bech32.Readable hrp.toList ∧ Addresses hrp.toList program text.toList := by
  simp only [encode_iff, Bech32.encode_iff lower, Addresses]
  constructor
  · rintro ⟨symbols, spells, readable, same⟩
    have small := Bech32.checksum_lt hrp.toList (0 :: symbols)
    refine ⟨readable, symbols, _, spells, Bech32.length_checksum _ _, small, ?_, same⟩
    exact (Bech32.polymod_eq_constant_iff (Bech32.length_checksum _ _) small).mpr rfl
  · rintro ⟨readable, symbols, check, spells, long, small, valid, same⟩
    rw [(Bech32.polymod_eq_constant_iff long small).mp valid] at same
    exact ⟨symbols, spells, readable, same⟩

theorem exists_encode (readable : Bech32.Readable hrp.toList) (lower : Text.lowered hrp.toList = hrp.toList)
    (program : Bytes) : ∃ text, encode hrp program = .ok text := by
  obtain ⟨symbols, _, spells⟩ := Symbols.ofBytes?_spells program
  have encoded : ∃ written, Bech32.encode hrp.toList (0 :: symbols) = .ok written :=
    ⟨_, (Bech32.encode_iff lower).mpr ⟨readable, rfl⟩⟩
  obtain ⟨written, encoded⟩ := encoded
  exact ⟨String.ofList written, encode_iff.mpr ⟨symbols, spells, by rw [encoded, String.toList_ofList]⟩⟩

/-- No symbol is the separator, so what stands before the last one and the symbols behind it are settled by the text. -/
theorem parts_unique {lead lead' : List Char} {symbols symbols' : Bytes} (small : ∀ symbol ∈ symbols, symbol.toNat < 32)
    (small' : ∀ symbol ∈ symbols', symbol.toNat < 32)
    (same : lead ++ '1' :: symbols.map Symbols.character = lead' ++ '1' :: symbols'.map Symbols.character) :
    lead = lead' ∧ symbols = symbols' := by
  have divided (lead : List Char) {symbols : Bytes} (small : ∀ symbol ∈ symbols, symbol.toNat < 32) :
      Bech32.splitLast '1' (lead ++ '1' :: symbols.map Symbols.character) =
        some (lead, symbols.map Symbols.character) :=
    Bech32.splitLast_eq_some_iff.mpr ⟨rfl, fun member => (Symbols.mem_characters small member).2.2.1 rfl⟩
  have read {symbols : Bytes} (small : ∀ symbol ∈ symbols, symbol.toNat < 32) :
      ((symbols.map Symbols.character).mapM fun c => Symbols.value? c.toLower) = some symbols :=
    Symbols.mapM_value?_iff.mpr ⟨Symbols.lowered_characters small, small⟩
  have parts := divided lead small
  rw [same, divided lead' small', Option.some.injEq, Prod.mk.injEq] at parts
  have symbol := read small
  rw [← parts.2, read small'] at symbol
  exact ⟨parts.1.symm, (Option.some.inj symbol).symm⟩

theorem decode?_trim (lower : Text.lowered hrp.toList = hrp.toList) : decode? hrp address = some program ↔
    (program.length = 20 ∨ program.length = 32) ∧ Text.mixesCase (Text.trim address).toList = false ∧
      encode hrp program = .ok (Text.lower (Text.trim address)) := by
  rw [decode?_eq_some_iff lower, Text.lower, Text.trim, String.toList_ofList, and_left_comm]

/-- A text whose symbols are a version, a program and a checksum decodes just if all of them are right. -/
theorem Consists.decode?_eq_some_iff (consists : Consists address lead version symbols check)
    (readable : Bech32.Readable hrp.toList) (lower : Text.lowered hrp.toList = hrp.toList) :
    decode? hrp address = some program ↔ lead = hrp.toList ∧ version = 0 ∧
      Bech32.polymod (Bech32.expand lead ++ (version :: symbols ++ check)) = Bech32.constant ∧
      Symbols.Spells symbols program ∧ (program.length = 20 ∨ program.length = 32) := by
  obtain ⟨single, small, long, same⟩ := consists
  rw [decode?_trim lower, encode_eq_ok_iff lower, same]
  constructor
  · rintro ⟨sized, _, _, own, check', spells, long', small', valid, written⟩
    have all : ∀ symbol ∈ 0 :: own ++ check', symbol.toNat < 32 :=
      List.forall_mem_append.mpr ⟨List.forall_mem_cons.mpr ⟨by decide, spells.small⟩, small'⟩
    obtain ⟨rfl, parts⟩ := parts_unique small all written
    obtain ⟨front, rfl⟩ := List.append_inj' parts (long.trans long'.symm)
    cases front
    exact ⟨rfl, rfl, valid, spells, sized⟩
  · rintro ⟨rfl, rfl, valid, spells, sized⟩
    have last := (List.forall_mem_append.mp small).2
    exact ⟨sized, single, readable, symbols, check, spells, long, last, valid, rfl⟩

/-- Only a fault keeps a text of this shape from being read. -/
theorem Consists.decode?_eq_none_iff (consists : Consists address lead version symbols check)
    (readable : Bech32.Readable hrp.toList) (lower : Text.lowered hrp.toList = hrp.toList) :
    decode? hrp address = none ↔ Fault hrp.toList lead version symbols check := by
  have own : ∀ symbol ∈ symbols, symbol.toNat < 32 :=
    (List.forall_mem_cons.mp (List.forall_mem_append.mp consists.small).1).2
  simp only [Option.eq_none_iff_forall_ne_some, ne_eq, consists.decode?_eq_some_iff readable lower]
  constructor
  · intro refused
    by_contra sound
    obtain ⟨program, spare, rest, divided, _⟩ :=
      Symbols.regroup?_spec 5 (by decide : 0 < 8) (by decide) (by decide) own
    have few : ¬ (5 ≤ spare ∨ rest ≠ 0) := fun left => sound (.padding divided left)
    have sized : ¬ (program.length ≠ 20 ∧ program.length ≠ 32) := fun other => sound (.size divided other)
    refine refused program ⟨?_, ?_, ?_, (divided.spells_iff own).mpr ⟨by omega, by omega, rfl⟩, by omega⟩
    · exact Decidable.not_not.mp fun other => sound (.foreign other)
    · exact Decidable.not_not.mp fun other => sound (.version other)
    · exact Decidable.not_not.mp fun wrong => sound (.checksum wrong)
  · rintro fault program ⟨home, zero, valid, spells, sized⟩
    cases fault with
    | foreign other => exact other home
    | version other => exact other zero
    | checksum wrong => exact wrong valid
    | padding divided left =>
      obtain ⟨few, none, _⟩ := (divided.spells_iff own).mp spells
      omega
    | size divided other =>
      obtain ⟨_, _, rfl⟩ := (divided.spells_iff own).mp spells
      omega

theorem decode?_encode (lower : Text.lowered hrp.toList = hrp.toList) (sized : program.length = 20 ∨ program.length = 32)
    (written : encode hrp program = .ok text) : decode? hrp text = some program := by
  have small := lowered_encode lower sized written
  rw [decode?_trim lower, trim_encode lower sized written, Text.lower_eq_self small]
  exact ⟨sized, Text.mixesCase_eq_false_of_lowered small, written⟩

/-- Addresses of witness programs are read exactly as they are written. A text is read as a program just if that has one of the
two sizes and the text, trimmed and of one case, is in lower case what is written for it; and every program is written, as
the address that carries it. A text of that shape is read unless it has another human-readable part, another version,
another checksum (as those of the successor are), bits left over that are too many or not zero, or another size. -/
theorem decode_canonical (readable : Bech32.Readable hrp.toList) (lower : Text.lowered hrp.toList = hrp.toList) :
    (∀ address program, decode? hrp address = some program ↔
      (program.length = 20 ∨ program.length = 32) ∧ Text.mixesCase (Text.trim address).toList = false ∧
        encode hrp program = .ok (Text.lower (Text.trim address))) ∧
    (∀ program, ∃ text, encode hrp program = .ok text ∧ Addresses hrp.toList program text.toList ∧
      (program.length = 20 ∨ program.length = 32 → decode? hrp text = some program)) ∧
    ∀ address lead version symbols check, Consists address lead version symbols check →
      (decode? hrp address = none ↔ Fault hrp.toList lead version symbols check) ∧
      (Bech32.polymod (Bech32.expand lead ++ (version :: symbols ++ check)) = successor →
        decode? hrp address = none) := by
  refine ⟨fun address program => decode?_trim lower, fun program => ?_,
    fun address lead version symbols check consists => ?_⟩
  · obtain ⟨text, written⟩ := exists_encode readable lower program
    exact ⟨text, written, ((encode_eq_ok_iff lower).mp written).2, fun sized => decode?_encode lower sized written⟩
  · have faulty := consists.decode?_eq_none_iff readable lower
    refine ⟨faulty, fun marked => faulty.mpr (.checksum ?_)⟩
    rw [marked]
    decide

/-- An address in capitals between blanks is read. One of the next version, with the checksum of the successor, is not. -/
theorem decode_canonical_sample :
    decode? "bc" " BC1QYJJKMDPU7METQT5R36JF872A34SYWS33S82Q2J\n" = some [0x24, 0xa5, 0x6d, 0xb4, 0x3c, 0xf6, 0xf2, 0xb0,
      0x2e, 0x83, 0x8e, 0xa4, 0x93, 0xf9, 0x5d, 0x8d, 0x60, 0x47, 0x42, 0x31] ∧
    decode? "bc" "bc1p5cyxnuxmeuwuvkwfem96lqzszd02n6xdcjrs20cac6yqjjwudpxqkedrcr" = none := by
  have readable : Bech32.Readable "bc".toList := ⟨by simp, by simp, by simp⟩
  obtain ⟨reads, _, refuses⟩ := decode_canonical readable (by decide)
  have consists : Consists "bc1p5cyxnuxmeuwuvkwfem96lqzszd02n6xdcjrs20cac6yqjjwudpxqkedrcr" "bc".toList 1
      [20, 24, 4, 6, 19, 28, 6, 27, 25, 28, 14, 28, 12, 22, 14, 9, 25, 27, 5, 26, 31, 0, 2, 16, 2, 13, 15,
        10, 19, 26, 6, 13, 24, 18, 3, 16, 10, 15, 24, 29, 24, 26, 4, 0, 18, 18, 14, 28, 13, 1, 6, 0]
      [22, 25, 13, 3, 24, 3] :=
    ⟨by decide +kernel, by simp, rfl, by decide +kernel⟩
  refine ⟨(reads _ _).mpr ⟨by decide, by decide +kernel, by decide +kernel⟩, ?_⟩
  exact (refuses _ _ _ _ _ consists).2 (by decide +kernel)

end CoinSpend.Segwit
