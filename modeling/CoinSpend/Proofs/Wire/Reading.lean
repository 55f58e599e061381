import CoinSpend.Proofs.Bytes.Integers
import CoinSpend.Wire.CompactSize

/-! Readers invert the writers of counts, byte strings and lists, whatever bytes follow. -/
namespace CoinSpend.Wire

variable {α : Type}

/-- The reader takes `value` from the front of its written form and leaves what follows. -/
def Reads (reader : Reader α) (value : α) (written : Bytes) : Prop :=
  ∀ rest, reader (written ++ rest) = .ok (value, rest)

/-- What is read is told apart from whatever follows it. -/
theorem Reads.append_inj {reader : Reader α} {value other : α} {written rewritten rest following : Bytes}
    (reads : Reads reader value written) (rereads : Reads reader other rewritten)
    (same : written ++ rest = rewritten ++ following) : value = other ∧ rest = following := by
  have found := reads rest
  rw [same, rereads following] at found
  obtain ⟨rfl, rfl⟩ := Prod.mk.inj (Except.ok.inj found)
  exact ⟨rfl, rfl⟩

/-- Bytes that two values are written as are read as one value. -/
theorem Reads.unique {reader : Reader α} {value other : α} {written : Bytes} (reads : Reads reader value written)
    (rereads : Reads reader other written) : value = other := by
  have same : written ++ [] = written ++ [] := rfl
  exact (reads.append_inj rereads same).1

theorem reads_bytes (data : Bytes) : Reads (Reader.bytes data.length) data data := by
  intro rest
  rw [Reader.bytes, split?_append]

theorem reads_octets {n : Nat} (x : Octets n) : Reads (Reader.octets n) x x.bytes := by
  intro rest
  have divided : split? n (x.bytes ++ rest) = some (x.bytes, rest) :=
    split?_eq_some_iff.mpr ⟨x.length_bytes, rfl⟩
  unfold Reader.octets
  split
  · rename_i first following found
    cases divided.symm.trans found
    rfl
  · rename_i missing
    cases divided.symm.trans missing

theorem reads_integer {width value : Nat} (fits : value < 256 ^ width) :
    Reads (Reader.integer width) value (littleEndian width value) := by
  intro rest
  have taken : Reader.bytes width (littleEndian width value ++ rest) =
      .ok (littleEndian width value, rest) := by
    simpa only [length_littleEndian] using reads_bytes (littleEndian width value) rest
  rw [Reader.integer, taken]
  simp only [ofLittleEndian_littleEndian fits]

theorem reads_uint32 (value : UInt32) : Reads Reader.uint32 value (littleEndian 4 value.toNat) := by
  intro rest
  rw [Reader.uint32, reads_integer value.toNat_lt rest]
  simp only [UInt32.ofNat_toNat]

theorem reads_uint64 (value : UInt64) : Reads Reader.uint64 value (littleEndian 8 value.toNat) := by
  intro rest
  rw [Reader.uint64, reads_integer value.toNat_lt rest]
  simp only [UInt64.ofNat_toNat]

namespace CompactSize

theorem reads_wide {width least count : Nat} (enough : least ≤ count) (fits : count < 256 ^ width) :
    Reads (wide width least) count (littleEndian width count) := by
  intro rest
  rw [wide, reads_integer fits rest]
  simp only [Nat.not_lt.mpr enough, if_false]

/-- Each marker, how many bytes of a count stand behind it, and the least count that no shorter form has room for. -/
def markers : List (UInt8 × Nat × Nat) := [(0xfd, 2, 0xfd), (0xfe, 4, 0x10000), (0xff, 8, 0x100000000)]

theorem mem_markers_iff {marker : UInt8} {width least : Nat} : (marker, width, least) ∈ markers ↔
    marker = 0xfd ∧ width = 2 ∧ least = 0xfd ∨ marker = 0xfe ∧ width = 4 ∧ least = 0x10000 ∨
      marker = 0xff ∧ width = 8 ∧ least = 0x100000000 := by
  simp only [markers, List.mem_cons, Prod.mk.injEq, List.not_mem_nil, or_false]

/-- A count is written as one byte that is no marker, or behind the first marker that leaves it room. -/
theorem encode_cases (count : Nat) : count < 0xfd ∧ encode count = [UInt8.ofNat count] ∨
    ∃ marker width least, (marker, width, least) ∈ markers ∧ least ≤ count ∧ (count < UInt64.size → count < 256 ^ width) ∧
      encode count = marker :: littleEndian width count := by
  simp only [mem_markers_iff]
  unfold encode
  split
  · rename_i small
    exact .inl ⟨small, rfl⟩
  · refine .inr ?_
    split
    · exact ⟨0xfd, 2, 0xfd, .inl ⟨rfl, rfl, rfl⟩, by omega, fun _ => by omega, rfl⟩
    · split
      · exact ⟨0xfe, 4, 0x10000, .inr (.inl ⟨rfl, rfl, rfl⟩), by omega, fun _ => by omega, rfl⟩
      · exact ⟨0xff, 8, 0x100000000, .inr (.inr ⟨rfl, rfl, rfl⟩), by omega, id, rfl⟩

theorem toNat_alone {count : Nat} (small : count < 0xfd) : (UInt8.ofNat count).toNat = count :=
  UInt8.toNat_ofNat_of_lt (Nat.lt_trans small (by decide))

theorem read_alone {marker : UInt8} (low : marker < 0xfd) (rest : Bytes) : read (marker :: rest) = .ok (marker.toNat, rest) :=
  if_pos low

theorem read_marked {marker : UInt8} {width least : Nat} (member : (marker, width, least) ∈ markers) (rest : Bytes) :
    read (marker :: rest) = wide width least rest := by
  rcases mem_markers_iff.mp member with ⟨rfl, rfl, rfl⟩ | ⟨rfl, rfl, rfl⟩ | ⟨rfl, rfl, rfl⟩ <;> rfl

/-- Each width is chosen exactly where no shorter one serves, so the reader's test for the shortest form
never refuses what the writer chose. -/
theorem reads_encode {count : Nat} (fits : count < UInt64.size) : Reads read count (encode count) := by
  intro rest
  rcases encode_cases count with ⟨small, written⟩ | ⟨marker, width, least, member, enough, room, written⟩
  · have low : UInt8.ofNat count < 0xfd := UInt8.lt_iff_toNat_lt.mpr (by rw [toNat_alone small]; exact small)
    rw [written, List.singleton_append, read_alone low, toNat_alone small]
  · rw [written, List.cons_append, read_marked member]
    exact reads_wide enough (room fits) rest

/-- How many bytes stand behind a marker. -/
def following (marker : UInt8) : Nat :=
  if marker = 0xfd then 2 else if marker = 0xfe then 4 else if marker = 0xff then 8 else 0

/-- The first byte tells where the count ends, for any count. -/
theorem encode_eq_cons (count : Nat) :
    ∃ marker rest, encode count = marker :: rest ∧ rest.length = following marker := by
  rcases encode_cases count with ⟨small, written⟩ | ⟨marker, width, least, member, _, _, written⟩
  · refine ⟨_, _, written, ?_⟩
    have unmarked (marker : UInt8) (large : 0xfd ≤ marker.toNat) : UInt8.ofNat count ≠ marker := by
      intro same
      rw [← same, toNat_alone small] at large
      omega
    simp [following, unmarked]
  · refine ⟨_, _, written, ?_⟩
    rw [length_littleEndian]
    rcases mem_markers_iff.mp member with ⟨rfl, rfl, rfl⟩ | ⟨rfl, rfl, rfl⟩ | ⟨rfl, rfl, rfl⟩ <;> rfl

theorem length_encode_le (count : Nat) : (encode count).length ≤ 9 := by
  rcases encode_cases count with ⟨_, written⟩ | ⟨marker, width, least, member, _, _, written⟩
  · rw [written, List.length_singleton]
    decide
  · rw [written, List.length_cons, length_littleEndian]
    have widths := mem_markers_iff.mp member
    omega

end CompactSize

theorem reads_sized {data : Bytes} (fits : data.length < UInt64.size) :
    Reads readSized data (sized data) := by
  intro rest
  rw [readSized, sized, List.append_assoc, CompactSize.reads_encode fits]
  exact reads_bytes data rest

/-- Equal first bytes make equally long counts, so what stands behind them is found at the same place. -/
theorem sized_injective {data other : Bytes} (same : sized data = sized other) : data = other := by
  obtain ⟨marker, rest, count, width⟩ := CompactSize.encode_eq_cons data.length
  obtain ⟨otherMarker, otherRest, otherCount, otherWidth⟩ := CompactSize.encode_eq_cons other.length
  rw [sized, sized, count, otherCount, List.cons_append, List.cons_append] at same
  obtain ⟨rfl, behind⟩ := List.cons.inj same
  exact (List.append_inj behind (width.trans otherWidth.symm)).2

/-- Written one after another without a count, items are told apart by a reader as long as none is empty: it takes
the same item off both lists, and the end of the bytes is the end of the items. -/
theorem eq_of_flatMap_eq {reader : Reader α} {written : α → Bytes} {items others : List α}
    (each : ∀ item ∈ items, Reads reader item (written item))
    (eachOther : ∀ item ∈ others, Reads reader item (written item)) (filled : ∀ item, written item ≠ [])
    (same : items.flatMap written = others.flatMap written) : items = others := by
  induction items generalizing others with
  | nil =>
    cases others with
    | nil => rfl
    | cons other others =>
      rw [List.flatMap_nil, List.flatMap_cons] at same
      exact absurd (List.append_eq_nil_iff.mp same.symm).1 (filled other)
  | cons item items ih =>
    cases others with
    | nil =>
      rw [List.flatMap_nil, List.flatMap_cons] at same
      exact absurd (List.append_eq_nil_iff.mp same).1 (filled item)
    | cons other others =>
      simp only [List.flatMap_cons] at same
      obtain ⟨rfl, rest⟩ := (each item List.mem_cons_self).append_inj (eachOther other List.mem_cons_self) same
      have later := ih (fun next member => each next (List.mem_cons_of_mem _ member))
        (fun next member => eachOther next (List.mem_cons_of_mem _ member)) rest
      rw [later]

theorem reads_repeated {reader : Reader α} {written : α → Bytes} {items : List α}
    (each : ∀ item ∈ items, Reads reader item (written item)) (before : List α) :
    Reads (Reader.repeated reader items.length before) (before.reverse ++ items)
      (items.flatMap written) := by
  induction items generalizing before with
  | nil =>
    intro rest
    rw [List.length_nil, Reader.repeated, List.flatMap_nil, List.nil_append, List.append_nil]
  | cons item items ih =>
    intro rest
    have later := ih (fun next member => each next (List.mem_cons_of_mem _ member)) (item :: before) rest
    rw [List.length_cons, Reader.repeated, List.flatMap_cons, List.append_assoc,
      each item List.mem_cons_self]
    simpa only [List.reverse_cons, List.append_assoc, List.singleton_append] using later

theorem reads_counted {reader : Reader α} {written : α → Bytes} {items : List α}
    (fits : items.length < UInt64.size) (each : ∀ item ∈ items, Reads reader item (written item)) :
    Reads (readCounted reader) items (counted written items) := by
  intro rest
  rw [readCounted, counted, List.append_assoc, CompactSize.reads_encode fits]
  simpa only [List.reverse_nil, List.nil_append] using reads_repeated each [] rest

theorem whole_of_reads {reader : Reader α} {value : α} {written : Bytes}
    (reads : Reads reader value written) : Reader.whole reader written = .ok value := by
  have all := reads []
  rw [List.append_nil] at all
  rw [Reader.whole, all]

end CoinSpend.Wire
