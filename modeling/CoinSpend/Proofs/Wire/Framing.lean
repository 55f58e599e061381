import CoinSpend.Proofs.Wire.Reading

/-! Counts, and lists of byte strings behind their counts, are told apart from whatever follows them. A count has several forms,
of which the shortest is written and no other is read. So a written count needs no end mark, and neither do the strings and
the lists that stand behind one. -/
namespace CoinSpend.Wire

variable {count other width least : Nat} {marker : UInt8} {input rest form : Bytes}

theorem integer_eq_ok_iff : Reader.integer width input = .ok (count, rest) ↔
    count < 256 ^ width ∧ input = littleEndian width count ++ rest := by
  constructor
  · intro read
    unfold Reader.integer Reader.bytes at read
    split at read
    · rename_i found behind taken
      cases read
      split at taken
      · rename_i parts divided
        cases taken
        obtain ⟨rfl, rfl⟩ := split?_eq_some_iff.mp divided
        exact ⟨ofLittleEndian_lt found, by rw [littleEndian_ofLittleEndian]⟩
      · cases taken
    · cases read
  · rintro ⟨fits, rfl⟩
    exact reads_integer fits rest

namespace CompactSize

/-- The forms of a count: a byte that is no marker, or a marker with the count behind it. -/
inductive Form (count : Nat) : Bytes → Prop
  | alone (small : count < 0xfd) : Form count [UInt8.ofNat count]
  | marked {marker : UInt8} {width least : Nat} (member : (marker, width, least) ∈ markers) (fits : count < 256 ^ width) :
      Form count (marker :: littleEndian width count)

theorem marker_cases (marker : UInt8) : marker < 0xfd ∨ ∃ width least, (marker, width, least) ∈ markers := by
  by_cases low : marker < 0xfd
  · exact .inl low
  · have high : marker = 0xfd ∨ marker = 0xfe ∨ marker = 0xff := by grind
    simp only [mem_markers_iff]
    rcases high with rfl | rfl | rfl
    · exact .inr ⟨2, 0xfd, .inl ⟨rfl, rfl, rfl⟩⟩
    · exact .inr ⟨4, 0x10000, .inr (.inl ⟨rfl, rfl, rfl⟩)⟩
    · exact .inr ⟨8, 0x100000000, .inr (.inr ⟨rfl, rfl, rfl⟩)⟩

theorem fits_of_marked (member : (marker, width, least) ∈ markers) (fits : count < 256 ^ width) : count < UInt64.size := by
  rcases mem_markers_iff.mp member with ⟨rfl, rfl, rfl⟩ | ⟨rfl, rfl, rfl⟩ | ⟨rfl, rfl, rfl⟩ <;>
    simp only [UInt64.size] <;> omega

theorem encode_marked (member : (marker, width, least) ∈ markers) (enough : least ≤ count) (fits : count < 256 ^ width) :
    encode count = marker :: littleEndian width count := by
  rcases mem_markers_iff.mp member with ⟨rfl, rfl, rfl⟩ | ⟨rfl, rfl, rfl⟩ | ⟨rfl, rfl, rfl⟩
  · rw [encode, if_neg (by omega), if_pos (by omega)]
  · rw [encode, if_neg (by omega), if_neg (by omega), if_pos (by omega)]
  · rw [encode, if_neg (by omega), if_neg (by omega), if_neg (by omega)]

/-- Below the least count of a marker the form written is one of those before it. -/
theorem length_encode_le_of_lt (member : (marker, width, least) ∈ markers) (few : count < least) :
    (encode count).length ≤ width := by
  have own := mem_markers_iff.mp member
  rcases encode_cases count with ⟨_, written⟩ | ⟨marker', width', least', member', enough, _, written⟩
  · rw [written, List.length_singleton]
    omega
  · rw [written, List.length_cons, length_littleEndian]
    have other := mem_markers_iff.mp member'
    omega

theorem wide_eq_ok_iff : wide width least input = .ok (count, rest) ↔
    least ≤ count ∧ count < 256 ^ width ∧ input = littleEndian width count ++ rest := by
  rw [← integer_eq_ok_iff, wide]
  constructor
  · intro read
    split at read
    · rename_i own
      split at read
      · cases read
      · rename_i enough
        cases read
        exact ⟨Nat.le_of_not_lt enough, own⟩
    · cases read
  · rintro ⟨enough, own⟩
    rw [own]
    exact if_neg (Nat.not_lt_of_le enough)

/-- What is read as a count is the form that is written for it. -/
theorem read_eq_ok_iff : read input = .ok (count, rest) ↔ count < UInt64.size ∧ input = encode count ++ rest := by
  constructor
  · intro found
    cases input with
    | nil => cases found
    | cons marker behind =>
      rcases marker_cases marker with low | ⟨width, least, member⟩
      · rw [read_alone low] at found
        cases found
        have small : marker.toNat < 0xfd := UInt8.lt_iff_toNat_lt.mp low
        refine ⟨Nat.lt_trans small (by decide), ?_⟩
        rw [encode, if_pos small, UInt8.ofNat_toNat]
        rfl
      · rw [read_marked member] at found
        obtain ⟨enough, fits, rfl⟩ := wide_eq_ok_iff.mp found
        refine ⟨fits_of_marked member fits, ?_⟩
        rw [encode_marked member enough fits]
        rfl
  · rintro ⟨fits, rfl⟩
    exact reads_encode fits rest

theorem form_encode (fits : count < UInt64.size) : Form count (encode count) := by
  rcases encode_cases count with ⟨small, written⟩ | ⟨marker, width, least, member, _, room, written⟩
  · rw [written]
    exact .alone small
  · rw [written]
    exact .marked member (room fits)

/-- A form that is not the one written is longer, and is refused. -/
theorem Form.refused (formed : Form count form) (other : form ≠ encode count) :
    (encode count).length < form.length ∧ ∀ rest, read (form ++ rest) = .error .nonMinimalSize := by
  cases formed with
  | alone small => exact absurd (if_pos small).symm other
  | @marked marker width least member fits =>
    have few : count < least := Nat.lt_of_not_le fun enough => other (encode_marked member enough fits).symm
    refine ⟨?_, fun rest => ?_⟩
    · rw [List.length_cons, length_littleEndian]
      exact Nat.lt_succ_of_le (length_encode_le_of_lt member few)
    · rw [List.cons_append, read_marked member, wide, reads_integer fits rest]
      exact if_pos few

theorem eq_of_encode_front (fits : count < UInt64.size) (otherFits : other < UInt64.size)
    (inFront : encode count <+: encode other) : count = other := by
  obtain ⟨behind, whole⟩ := inFront
  rw [← List.append_nil (encode other)] at whole
  exact ((reads_encode fits).append_inj (reads_encode otherFits) whole).1

end CompactSize

/-- A list of byte strings for whose lengths, and for whose own, a count of 64 bits is enough. -/
structure Framable (items : List Bytes) : Prop where
  count_lt : items.length < UInt64.size
  length_lt : ∀ item ∈ items, item.length < UInt64.size

theorem Framable.reads {items : List Bytes} (framable : Framable items) :
    Reads (readCounted readSized) items (counted sized items) :=
  reads_counted framable.count_lt fun item member => reads_sized (framable.length_lt item member)

/-- Counts and framed lists can be told apart from what follows them. A count is read just where its written form stands. That is
the shortest of its forms, all others are longer and refused, and it is at the front of no other count's. So a list of byte strings
behind its count, each string behind its own, is read with nothing of what follows; and if two such lists with some bytes
behind them are the same bytes, the lists are the same, and so are the bytes behind them. -/
theorem framing_exact :
    (∀ input count rest, CompactSize.read input = .ok (count, rest) ↔
      count < UInt64.size ∧ input = CompactSize.encode count ++ rest) ∧
    (∀ count < UInt64.size, CompactSize.Form count (CompactSize.encode count) ∧
      (∀ form, CompactSize.Form count form → form ≠ CompactSize.encode count →
        (CompactSize.encode count).length < form.length ∧
          ∀ rest, CompactSize.read (form ++ rest) = .error .nonMinimalSize) ∧
      ∀ other < UInt64.size, CompactSize.encode count <+: CompactSize.encode other → count = other) ∧
    ∀ items, Framable items →
      (∀ rest, readCounted readSized (counted sized items ++ rest) = .ok (items, rest)) ∧
      ∀ others rest following, Framable others →
        counted sized items ++ rest = counted sized others ++ following → items = others ∧ rest = following := by
  refine ⟨fun input count rest => CompactSize.read_eq_ok_iff, fun count fits => ⟨CompactSize.form_encode fits, ?_, ?_⟩,
    fun items framable => ⟨framable.reads, ?_⟩⟩
  · exact fun form formed other => formed.refused other
  · exact fun other otherFits inFront => CompactSize.eq_of_encode_front fits otherFits inFront
  · exact fun others rest following again same => framable.reads.append_inj again.reads same

/-- A count that just needs a marker, the one before it behind a marker that it does not need, and three strings, which hold bytes
that look like counts and markers. -/
theorem framing_exact_sample : let items : List Bytes := [[0x01, 0xfd], [], [0x03]]
    let written : Bytes := [0x03, 0x02, 0x01, 0xfd, 0x00, 0x01, 0x03]
    CompactSize.read [0xfd, 0xfd, 0x00, 0x07] = .ok (0xfd, [0x07]) ∧
      CompactSize.read [0xfd, 0xfc, 0x00, 0x07] = .error .nonMinimalSize ∧
      Framable items ∧ readCounted readSized (written ++ [0x07]) = .ok (items, [0x07]) ∧
      ∀ others following, Framable others → written ++ [0x07] = counted sized others ++ following →
        items = others ∧ [0x07] = following := by
  intro items written
  obtain ⟨reads, forms, lists⟩ := framing_exact
  have member : ((0xfd : UInt8), 2, 0xfd) ∈ CompactSize.markers := by decide
  have long : CompactSize.Form 0xfc [0xfd, 0xfc, 0x00] := .marked member (by decide)
  have framable : Framable items := ⟨by decide, by decide⟩
  refine ⟨(reads _ _ _).mpr ⟨by decide, by decide⟩, ?_, framable, ?_, ?_⟩
  · exact ((forms 0xfc (by decide)).2.1 _ long (by decide)).2 [0x07]
  · exact (lists items framable).1 [0x07]
  · exact fun others following => (lists items framable).2 others [0x07] following

end CoinSpend.Wire
