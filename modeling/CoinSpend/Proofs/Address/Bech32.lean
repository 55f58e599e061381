import CoinSpend.Address.Segwit
import CoinSpend.Proofs.Address.Checksum
import CoinSpend.Proofs.Failure

/-! Bech32 texts read back. A text decodes just if its letters are of one case and it is, in lower case, the encoding of
what it decodes to. The same holds of the addresses of witness programs. -/
namespace CoinSpend

namespace Bech32

theorem splitLast_eq_some_iff {separator : Char} {text before after : List Char} :
    splitLast separator text = some (before, after) ↔ text = before ++ separator :: after ∧ separator ∉ after := by
  simp only [splitLast, Option.map_eq_some_iff, Prod.exists, Prod.mk.injEq, Text.splitFirst_eq_some_iff]
  constructor
  · rintro ⟨front, rest, ⟨same, absent⟩, rfl, rfl⟩
    refine ⟨?_, by simpa using absent⟩
    simpa using congrArg List.reverse same
  · rintro ⟨rfl, absent⟩
    exact ⟨after.reverse, before.reverse, ⟨by simp, by simpa using absent⟩, List.reverse_reverse _, List.reverse_reverse _⟩

/-- A human-readable part has one to eighty-three characters, all of them visible ASCII. -/
structure Readable (lead : List Char) : Prop where
  filled : lead ≠ []
  short : lead.length ≤ 83
  visible : ∀ c ∈ lead, 33 ≤ c.toNat ∧ c.toNat ≤ 126

theorem foldl_add (cases : Cases) (text : List Char) :
    text.foldl Cases.add cases = ⟨cases.lower || text.any Char.isLower, cases.upper || text.any Char.isUpper⟩ := by
  induction text generalizing cases with
  | nil => simp
  | cons c rest ih => simp [ih, Cases.add, Bool.or_assoc]

theorem mixed_foldl (text : List Char) : (text.foldl Cases.add ⟨false, false⟩).mixed = Text.mixesCase text := by
  rw [foldl_add, Cases.mixed, Text.mixesCase, Bool.false_or, Bool.false_or]

/-- The separator is no letter. -/
theorem mixesCase_separated (before after : List Char) :
    Text.mixesCase (before ++ '1' :: after) = Text.mixesCase (before ++ after) := by
  have lower : Char.isLower '1' = false := by decide
  have upper : Char.isUpper '1' = false := by decide
  simp [Text.mixesCase, lower, upper]

/-- Cases that are mixed stay so. -/
theorem not_mixed_of_foldl {cases : Cases} {text : List Char} (single : (text.foldl Cases.add cases).mixed = false) :
    cases.mixed = false := by
  rw [foldl_add] at single
  cases lower : cases.lower
  · simp [Cases.mixed, lower]
  · cases upper : cases.upper
    · simp [Cases.mixed, upper]
    · simp [Cases.mixed, lower, upper] at single

theorem checkBytes_iff {cases found : Cases} {text : List Char} (single : cases.mixed = false) :
    checkBytes cases (utf8 text) = .ok found ↔
      (∀ c ∈ text, 33 ≤ c.toNat ∧ c.toNat ≤ 126) ∧ (text.foldl Cases.add cases).mixed = false ∧
        found = text.foldl Cases.add cases := by
  induction text generalizing cases with
  | nil => simp [utf8, checkBytes, single, eq_comm]
  | cons c rest ih =>
    rw [Text.utf8_cons, List.foldl_cons, List.forall_mem_cons]
    by_cases ascii : c.toNat ≤ 127
    · have code : (UInt8.ofNat c.toNat).toNat = c.toNat := UInt8.toNat_ofNat_of_lt' (by simp only [UInt8.size]; omega)
      have outside : (UInt8.ofNat c.toNat < 33 ∨ 126 < UInt8.ofNat c.toNat) ↔ ¬ (33 ≤ c.toNat ∧ c.toNat ≤ 126) := by
        simp only [UInt8.lt_iff_toNat_lt, code, UInt8.reduceToNat]
        omega
      rw [Text.utf8EncodeChar_of_ascii ascii, List.singleton_append, checkBytes, code, Char.ofNat_toNat]
      by_cases visible : 33 ≤ c.toNat ∧ c.toNat ≤ 126
      · rw [if_neg fun out => outside.mp out visible]
        dsimp only
        cases mixed : (cases.add c).mixed with
        | true =>
          rw [if_pos rfl]
          constructor
          · intro failed
            cases failed
          · rintro ⟨_, later, _⟩
            rw [not_mixed_of_foldl later] at mixed
            cases mixed
        | false => simp only [visible, and_self, true_and, Bool.false_eq_true, if_false, ih mixed]
      · rw [if_pos (outside.mpr visible)]
        simp [visible]
    · obtain ⟨first, others, written⟩ := Text.exists_first c
      have large : 126 < first := by
        rw [UInt8.lt_iff_toNat_lt]
        exact Nat.lt_of_lt_of_le (by decide) (Text.le_first_of_not_ascii written ascii)
      rw [written, List.cons_append, checkBytes, if_pos (.inr large)]
      constructor
      · intro failed
        cases failed
      · rintro ⟨⟨⟨_, visible⟩, _⟩, _⟩
        omega

theorem checkLead_iff {lead : List Char} {found : Cases} :
    checkLead lead = .ok found ↔
      Readable lead ∧ Text.mixesCase lead = false ∧ found = lead.foldl Cases.add ⟨false, false⟩ := by
  have length (visible : ∀ c ∈ lead, 33 ≤ c.toNat ∧ c.toNat ≤ 126) : (utf8 lead).length = lead.length := by
    rw [Text.utf8_of_ascii fun c member => Nat.le_trans (visible c member).2 (by decide), List.length_map]
  unfold checkLead
  dsimp only
  split
  · rename_i bad
    constructor
    · intro failed
      cases failed
    · rintro ⟨readable, _⟩
      have filled := List.length_pos_iff.mpr readable.filled
      have short := readable.short
      rw [Bool.or_eq_true, List.isEmpty_iff_length_eq_zero, decide_eq_true_eq, length readable.visible] at bad
      omega
  · rename_i good
    rw [Bool.or_eq_true, List.isEmpty_iff_length_eq_zero, decide_eq_true_eq] at good
    rw [checkBytes_iff rfl, mixed_foldl]
    constructor
    · rintro ⟨visible, rest⟩
      rw [length visible] at good
      exact ⟨⟨fun empty => good (.inl (by rw [empty]; rfl)), by omega, visible⟩, rest⟩
    · rintro ⟨readable, rest⟩
      exact ⟨readable.visible, rest⟩

theorem readable_lowered_iff {lead : List Char} : Readable (Text.lowered lead) ↔ Readable lead := by
  have visible (c : Char) : (33 ≤ c.toLower.toNat ∧ c.toLower.toNat ≤ 126) ↔ (33 ≤ c.toNat ∧ c.toNat ≤ 126) := by
    rw [Text.toNat_toLower]
    split
    · rename_i upper
      have letter := Text.isUpper_iff.mp upper
      omega
    · rfl
  constructor
  · rintro ⟨filled, short, all⟩
    refine ⟨by simpa [Text.lowered] using filled, by simpa [Text.lowered] using short, fun c member => ?_⟩
    exact (visible c).mp (all _ (List.mem_map_of_mem member))
  · rintro ⟨filled, short, all⟩
    refine ⟨by simpa [Text.lowered] using filled, by simpa [Text.lowered] using short, ?_⟩
    exact List.forall_mem_map.mpr fun c member => (visible c).mpr (all c member)

theorem encode_iff {lead written : List Char} {symbols : Bytes} (small : Text.lowered lead = lead) :
    encode lead symbols = .ok written ↔
      Readable lead ∧ written = lead ++ '1' :: (symbols ++ checksum lead symbols).map Symbols.character := by
  unfold encode
  split
  · rename_i failed
    constructor
    · intro broken
      cases broken
    · rintro ⟨readable, _⟩
      have passed := checkLead_iff.mpr ⟨readable, Text.mixesCase_eq_false_of_lowered small, rfl⟩
      cases failed.symm.trans passed
  · rename_i passed
    rw [small, Except.ok.injEq, eq_comm]
    exact ⟨fun same => ⟨(checkLead_iff.mp passed).1, same⟩, And.right⟩

theorem decode?_sound {text lead : List Char} {symbols : Bytes} (read : decode? text = some (lead, symbols)) :
    Text.mixesCase text = false ∧ (∀ symbol ∈ symbols, symbol.toNat < 32) ∧ Text.lowered lead = lead ∧
      encode lead symbols = .ok (Text.lowered text) := by
  simp only [decode?, Option.bind_eq_bind, Option.bind_eq_some_iff, Option.guard_eq_some'] at read
  obtain ⟨⟨own, data⟩, divided, found, checked, _, single, all, known, _, long, _, valid, same⟩ := read
  cases same
  obtain ⟨rfl, _⟩ := splitLast_eq_some_iff.mp divided
  obtain ⟨readable, _, rfl⟩ := checkLead_iff.mp (toOption_eq_some_iff.mp checked)
  rw [← List.foldl_append, mixed_foldl, ← mixesCase_separated, Bool.not_eq_true'] at single
  obtain ⟨written, small⟩ := Symbols.mapM_value?_iff.mp known
  -- the last six symbols are the checksum of those before them
  have parts := List.take_append_drop (all.length - 6) all
  have sixth : (all.drop (all.length - 6)).length = 6 := by
    rw [List.length_drop]
    omega
  rw [← parts, beq_iff_eq,
    polymod_eq_constant_iff sixth fun symbol member => small symbol (List.mem_of_mem_drop member)] at valid
  refine ⟨single, fun symbol member => small symbol (List.mem_of_mem_take member), Text.lowered_lowered own, ?_⟩
  rw [encode_iff (Text.lowered_lowered own)]
  refine ⟨readable_lowered_iff.mpr readable, ?_⟩
  rw [Text.lowered_append_cons (by decide), ← valid, parts, ← written]

theorem decode?_complete {text lead : List Char} {symbols : Bytes} (single : Text.mixesCase text = false)
    (small : ∀ symbol ∈ symbols, symbol.toNat < 32) (lower : Text.lowered lead = lead)
    (written : encode lead symbols = .ok (Text.lowered text)) : decode? text = some (lead, symbols) := by
  obtain ⟨readable, same⟩ := (encode_iff lower).mp written
  have all : ∀ symbol ∈ symbols ++ checksum lead symbols, symbol.toNat < 32 := by
    rw [List.forall_mem_append]
    exact ⟨small, checksum_lt _ _⟩
  obtain ⟨own, data, rfl, rfl, characters⟩ := Text.lowered_eq_append_cons (by decide) same
  have absent : '1' ∉ data := by
    rw [← Text.mem_lowered_iff (by decide), characters]
    exact fun member => (Symbols.mem_characters all member).2.2.1 rfl
  have leadSingle : Text.mixesCase own = false :=
    Text.mixesCase_of_subset single (List.subset_append_left own ('1' :: data))
  have valid : polymod (expand (Text.lowered own) ++ (symbols ++ checksum (Text.lowered own) symbols)) = constant :=
    (polymod_eq_constant_iff (length_checksum _ _) (checksum_lt _ _)).mpr rfl
  have length : (symbols ++ checksum (Text.lowered own) symbols).length = symbols.length + 6 := List.length_append
  simp only [decode?, Option.bind_eq_bind, Option.bind_eq_some_iff, Option.guard_eq_some']
  refine ⟨(own, data), splitLast_eq_some_iff.mpr ⟨rfl, absent⟩, _,
    toOption_eq_some_iff.mpr (checkLead_iff.mpr ⟨readable_lowered_iff.mp readable, leadSingle, rfl⟩), (), ?_,
    symbols ++ checksum (Text.lowered own) symbols, ?_, (), ?_, (), ?_, ?_⟩
  · rw [← List.foldl_append, mixed_foldl, ← mixesCase_separated, single, Bool.not_false]
  · exact Symbols.mapM_value?_iff.mpr ⟨characters, all⟩
  · rw [length]
    exact Nat.le_add_left 6 _
  · dsimp only
    rw [valid, beq_self_eq_true]
  · rw [length, Nat.add_sub_cancel, List.take_left]
    rfl

/-- A text decodes just if its letters are of one case and it is, in lower case, an encoding. -/
theorem decode?_eq_some_iff {text lead : List Char} {symbols : Bytes} :
    decode? text = some (lead, symbols) ↔ Text.mixesCase text = false ∧ (∀ symbol ∈ symbols, symbol.toNat < 32) ∧
      Text.lowered lead = lead ∧ encode lead symbols = .ok (Text.lowered text) :=
  ⟨decode?_sound, fun ⟨single, small, lower, written⟩ => decode?_complete single small lower written⟩

end Bech32

namespace Segwit

theorem encode_iff {hrp text : String} {program : Bytes} :
    encode hrp program = .ok text ↔
      ∃ symbols, Symbols.Spells symbols program ∧ Bech32.encode hrp.toList (0 :: symbols) = .ok text.toList := by
  obtain ⟨symbols, regrouped, spells⟩ := Symbols.ofBytes?_spells program
  unfold encode
  rw [regrouped, Option.getD_some]
  constructor
  · intro made
    split at made
    · rename_i written encoded
      cases made
      exact ⟨symbols, spells, by rw [encoded, String.toList_ofList]⟩
    · cases made
  · rintro ⟨others, again, encoded⟩
    rw [spells.symbols_unique again, encoded]
    dsimp only
    rw [String.ofList_toList]

/-- A text is an address of a program just if its letters are of one case, the program has one of the two sizes, and
the text is in lower case what is written for the program. -/
theorem decode?_eq_some_iff {hrp address : String} {program : Bytes} (lower : Text.lowered hrp.toList = hrp.toList) :
    decode? hrp address = some program ↔
      Text.mixesCase (Text.trimmed address.toList) = false ∧ (program.length = 20 ∨ program.length = 32) ∧
        encode hrp program = .ok (String.ofList (Text.lowered (Text.trimmed address.toList))) := by
  simp only [decode?, Option.bind_eq_bind, Option.bind_eq_some_iff, Option.guard_eq_some', encode_iff,
    String.toList_ofList]
  constructor
  · rintro ⟨⟨lead, symbols⟩, read, _, own, rest⟩
    obtain ⟨single, small, _, written⟩ := Bech32.decode?_eq_some_iff.mp read
    obtain rfl : lead = hrp.toList := beq_iff_eq.mp own
    cases symbols with
    | nil => cases rest
    | cons version symbols =>
      simp only [Option.bind_eq_some_iff, Option.guard_eq_some', beq_iff_eq, Bool.or_eq_true] at rest
      obtain ⟨_, rfl, bytes, regrouped, _, sized, same⟩ := rest
      cases same
      have spells := (Symbols.toBytes?_eq_some_iff (List.forall_mem_cons.mp small).2).mp regrouped
      exact ⟨single, sized, symbols, spells, written⟩
  · rintro ⟨single, sized, symbols, spells, written⟩
    have small : ∀ symbol ∈ 0 :: symbols, symbol.toNat < 32 := List.forall_mem_cons.mpr ⟨by decide, spells.small⟩
    refine ⟨(hrp.toList, 0 :: symbols), Bech32.decode?_complete single small lower written, (), beq_self_eq_true _, ?_⟩
    simp only [Option.bind_eq_some_iff, Option.guard_eq_some', beq_iff_eq, Bool.or_eq_true]
    exact ⟨(), trivial, program, (Symbols.toBytes?_eq_some_iff spells.small).mpr spells, (), sized, rfl⟩

/-- What stands behind the separator: a version, symbols for twenty bytes or more, and a checksum. -/
theorem encode_shape {hrp text : String} {program : Bytes} (lower : Text.lowered hrp.toList = hrp.toList)
    (sized : program.length = 20 ∨ program.length = 32) (written : encode hrp program = .ok text) :
    Bech32.Readable hrp.toList ∧ ∃ symbols : Bytes, (∀ symbol ∈ symbols, symbol.toNat < 32) ∧ 39 ≤ symbols.length ∧
      text.toList = hrp.toList ++ '1' :: symbols.map Symbols.character := by
  obtain ⟨symbols, spells, encoded⟩ := encode_iff.mp written
  obtain ⟨readable, same⟩ := (Bech32.encode_iff lower).mp encoded
  obtain ⟨spare, _, length, _⟩ := spells.bits
  refine ⟨readable, 0 :: symbols ++ Bech32.checksum hrp.toList (0 :: symbols), ?_, ?_, same⟩
  · rw [List.forall_mem_append, List.forall_mem_cons]
    exact ⟨⟨by decide, spells.small⟩, Bech32.checksum_lt _ _⟩
  · rw [List.length_append, List.length_cons, Bech32.length_checksum]
    omega

/-- What is written has no blanks and no capitals. -/
theorem lowered_encode {hrp text : String} {program : Bytes} (lower : Text.lowered hrp.toList = hrp.toList)
    (sized : program.length = 20 ∨ program.length = 32) (written : encode hrp program = .ok text) :
    Text.lowered text.toList = text.toList := by
  obtain ⟨_, symbols, small, _, same⟩ := encode_shape lower sized written
  rw [same, Text.lowered_append_cons (by decide), lower, Symbols.lowered_characters small]

theorem trim_encode {hrp text : String} {program : Bytes} (lower : Text.lowered hrp.toList = hrp.toList)
    (sized : program.length = 20 ∨ program.length = 32) (written : encode hrp program = .ok text) :
    Text.trim text = text := by
  obtain ⟨readable, symbols, small, _, same⟩ := encode_shape lower sized written
  rw [Text.trim, Text.trimmed_of_no_blank, String.ofList_toList]
  rw [same, List.forall_mem_append, List.forall_mem_cons]
  refine ⟨fun c member => Text.isBlank_of_visible (readable.visible c member), by decide, fun c member => ?_⟩
  exact (Symbols.mem_characters small member).2.1

end Segwit

end CoinSpend
