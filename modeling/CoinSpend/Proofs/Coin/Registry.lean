import CoinSpend.Coin.Registry
import CoinSpend.Proofs.Failure
import CoinSpend.Proofs.Related
import CoinSpend.Proofs.Text

/-! The table of coins as a map in a fixed order. A coin that comes in takes the place of the row of its name, or the
place behind all rows; from this follows what a table holds after any sequence of calls, also of refused ones. -/
namespace CoinSpend

namespace Coin

/-- What a coin is looked up by: its name without regard to the case of ASCII letters. -/
def key (coin : Coin) : List Char := Text.lowered coin.name.toList

/-- A coin that may stand in a table. -/
structure IsComplete (coin : Coin) : Prop where
  named : ∃ c ∈ coin.name.toList, Text.isBlank c = false
  typed : coin.scriptTypes ≠ []

theorem isComplete_iff {coin : Coin} : coin.IsComplete ↔
    (∃ c ∈ coin.name.toList, Text.isBlank c = false) ∧ coin.scriptTypes ≠ [] :=
  ⟨fun complete => ⟨complete.named, complete.typed⟩, fun parts => ⟨parts.1, parts.2⟩⟩

instance : DecidablePred IsComplete := fun coin =>
  decidable_of_iff ((coin.name.toList.any fun c => !Text.isBlank c) = true ∧ coin.scriptTypes ≠ [])
    (by simp [isComplete_iff])

theorem sameName_iff {coin : Coin} {name : String} :
    Text.sameName coin.name name = true ↔ coin.key = Text.lowered name.toList := by
  rw [Text.sameName, beq_iff_eq, key]

end Coin

namespace Registry

variable {registry next : Registry} {coin : Coin} {rows : List Coin}

/-! ### One call -/

/-- How a coin comes into a table: in the place of the row of its name, or behind all rows if there is none. -/
inductive Places (coin : Coin) : List Coin → List Coin → Prop where
  | replaced {before after : List Coin} {row : Coin} (same : row.key = coin.key)
    (others : ∀ other ∈ before, other.key ≠ coin.key) : Places coin (before ++ row :: after) (before ++ coin :: after)
  | appended {rows : List Coin} (new : ∀ row ∈ rows, row.key ≠ coin.key) : Places coin rows (rows ++ [coin])

theorem put_places (coin : Coin) (rows : List Coin) : Places coin rows (put coin rows) := by
  induction rows with
  | nil => exact .appended (by simp)
  | cons row rows ih =>
    rw [put]
    split
    · rename_i same
      exact @Places.replaced coin [] rows row (Coin.sameName_iff.mp same) (by simp)
    · rename_i other
      rw [Coin.sameName_iff] at other
      change row.key ≠ coin.key at other
      generalize put coin rows = placed at ih
      cases ih with
      | @replaced before after found same others =>
        exact @Places.replaced coin (row :: before) after found same (List.forall_mem_cons.mpr ⟨other, others⟩)
      | appended new => exact .appended (List.forall_mem_cons.mpr ⟨other, new⟩)

theorem Places.keys {placed : List Coin} (places : Places coin rows placed) :
    placed.map Coin.key = rows.map Coin.key ∧ coin.key ∈ rows.map Coin.key ∨
      placed.map Coin.key = rows.map Coin.key ++ [coin.key] ∧ coin.key ∉ rows.map Coin.key := by
  cases places with
  | replaced same others => 
    left
    simp [same]
  | appended new =>
    right
    simpa using new

/-- The coin is found under its own name, and under any other name what was found before. -/
theorem Places.find? {placed : List Coin} (places : Places coin rows placed) (key : List Char) :
    (placed.find? fun row => row.key == key) =
      if coin.key = key then some coin else rows.find? fun row => row.key == key := by
  have absent {rows : List Coin} (others : ∀ row ∈ rows, row.key ≠ coin.key) :
      (rows.find? fun row => row.key == coin.key) = none := by
    simpa using others
  have found (rows : List Coin) : ((coin :: rows).find? fun row => row.key == coin.key) = some coin :=
    List.find?_cons_of_pos (beq_self_eq_true coin.key)
  cases places with
  | replaced same others =>
    split
    · rename_i own
      subst own
      rw [List.find?_append, absent others, found, Option.none_or]
    · rename_i other
      rw [List.find?_append, List.find?_append, List.find?_cons_of_neg (by simpa using other),
        List.find?_cons_of_neg (by simpa [same] using other)]
  | appended new =>
    split
    · rename_i own
      subst own
      rw [List.find?_append, absent new, found, Option.none_or]
    · rename_i other
      rw [List.find?_append, List.find?_cons_of_neg (by simpa using other), List.find?_nil, Option.or_none]

theorem Places.complete {placed : List Coin} (places : Places coin rows placed) (complete : coin.IsComplete)
    (all : ∀ row ∈ rows, row.IsComplete) : ∀ row ∈ placed, row.IsComplete := by
  cases places with
  | replaced same others =>
    simp only [List.forall_mem_append, List.forall_mem_cons] at all ⊢
    exact ⟨all.1, complete, all.2.2⟩
  | appended new =>
    simp only [List.forall_mem_append, List.forall_mem_singleton]
    exact ⟨all, complete⟩

theorem get?_eq (registry : Registry) (name : String) :
    registry.get? name = registry.coins.find? fun row => row.key == Text.lowered name.toList := rfl

theorem require_eq_ok_iff {name : String} : registry.require name = .ok coin ↔ registry.get? name = some coin := by
  unfold require
  split <;> simp_all

/-- A coin is found under its own name too, whatever the letters it was asked for in. -/
theorem require_own_name {name : String} (known : registry.require name = .ok coin) :
    registry.require coin.name = .ok coin := by
  rw [require_eq_ok_iff, get?_eq] at known ⊢
  have same : coin.key = Text.lowered name.toList := by simpa using List.find?_some known
  rwa [← same] at known

theorem insert_eq_ok_iff :
    registry.insert coin = .ok next ↔ coin.IsComplete ∧ next = ⟨put coin registry.coins⟩ := by
  have blank : (Text.trimmed coin.name.toList).isEmpty = true ↔ ¬ ∃ c ∈ coin.name.toList, Text.isBlank c = false := by
    simp [Text.trimmed_eq_nil_iff]
  rw [Coin.isComplete_iff]
  unfold insert
  split
  · rename_i unnamed
    constructor
    · intro failed
      cases failed
    · rintro ⟨⟨named, _⟩, _⟩
      exact absurd named (blank.mp unnamed)
  · rename_i named
    rw [blank, not_not] at named
    split
    · rename_i untyped
      constructor
      · intro failed
        cases failed
      · rintro ⟨⟨_, typed⟩, _⟩
        exact absurd (List.isEmpty_iff.mp untyped) typed
    · rename_i typed
      rw [List.isEmpty_iff] at typed
      rw [Except.ok.injEq]
      constructor
      · rintro rfl
        exact ⟨⟨named, typed⟩, rfl⟩
      · exact fun placed => placed.2.symm

theorem insert_failsWith (registry : Registry) (coin : Coin) :
    FailsWith (· == .invalidInput) (registry.insert coin) := by
  unfold insert
  split
  · exact .error rfl
  · split
    · exact .error rfl
    · exact .ok _

/-! ### Any sequence of calls -/

/-- The table after a call. A refused coin gives no table, and the one before the call stays. -/
def offer (registry : Registry) (coin : Coin) : Registry := (registry.insert coin).toOption.getD registry

def offerAll (registry : Registry) (coins : List Coin) : Registry := coins.foldl offer registry

theorem offer_of_complete (complete : coin.IsComplete) (registry : Registry) :
    registry.offer coin = ⟨put coin registry.coins⟩ := by
  have done : registry.insert coin = .ok _ := insert_eq_ok_iff.mpr ⟨complete, rfl⟩
  rw [offer, done]
  rfl

theorem offer_of_not_complete (partly : ¬ coin.IsComplete) (registry : Registry) : registry.offer coin = registry := by
  rw [offer]
  cases done : registry.insert coin with
  | error failure => rfl
  | ok next => exact absurd (insert_eq_ok_iff.mp done).1 partly

/-- `table` is `start` with the coins `taken` in, in their order. -/
structure Records (start table : Registry) (taken : List Coin) : Prop where
  /-- No two rows have one name. -/
  distinct : table.coins.Pairwise fun row other => Text.sameName row.name other.name = false
  complete : ∀ row ∈ table.coins, row.IsComplete
  /-- A name finds the last coin of that name. -/
  latest : ∀ name, table.get? name =
    (taken.reverse.find? fun row => Text.sameName row.name name).or (start.get? name)
  /-- The names stand in the order in which they first came. -/
  order : table.coins.map Coin.key = ((start.coins ++ taken).map Coin.key).eraseDups

variable {start table : Registry} {taken : List Coin}

theorem distinct_of_nodup (nodup : (rows.map Coin.key).Nodup) :
    rows.Pairwise fun row other => Text.sameName row.name other.name = false := by
  refine (List.pairwise_map.mp nodup).imp fun different => ?_
  rw [Bool.eq_false_iff, Ne, Coin.sameName_iff]
  exact different

/-- What one call keeps. -/
theorem Records.offer (records : Records start table taken) (complete : coin.IsComplete) :
    Records start (table.offer coin) (taken ++ [coin]) := by
  have places := put_places coin table.coins
  rw [offer_of_complete complete]
  have order : (put coin table.coins).map Coin.key = ((start.coins ++ (taken ++ [coin])).map Coin.key).eraseDups := by
    have known : coin.key ∈ (start.coins ++ taken).map Coin.key ↔ coin.key ∈ table.coins.map Coin.key := by
      rw [records.order, List.mem_eraseDups]
    rw [← List.append_assoc, List.map_append, List.map_singleton]
    rcases places.keys with ⟨keys, member⟩ | ⟨keys, new⟩
    · rw [eraseDups_concat_of_mem (known.mpr member), keys, records.order]
    · rw [eraseDups_concat_of_not_mem (mt known.mp new), keys, records.order]
  refine ⟨distinct_of_nodup (order ▸ nodup_eraseDups _), places.complete complete records.complete, ?_, order⟩
  intro name
  have before := records.latest name
  rw [get?_eq] at before
  rw [get?_eq, places.find?, before, List.reverse_concat, List.find?_cons]
  by_cases own : coin.key = Text.lowered name.toList
  · rw [if_pos own, Coin.sameName_iff.mpr own, Option.some_or]
  · rw [if_neg own, Bool.eq_false_iff.mpr (mt Coin.sameName_iff.mp own)]

/-- What any sequence of calls keeps: of a refused call nothing is left. -/
theorem Records.offerAll (records : Records start table taken) (calls : List Coin) :
    Records start (table.offerAll calls) (taken ++ calls.filter fun coin => coin.IsComplete) := by
  induction calls generalizing table taken with
  | nil =>
    rw [List.filter_nil, List.append_nil]
    exact records
  | cons coin calls ih =>
    by_cases complete : coin.IsComplete
    · rw [List.filter_cons, if_pos (decide_eq_true complete), List.append_cons]
      exact ih (records.offer complete)
    · rw [List.filter_cons, if_neg (by simpa using complete)]
      have same := offer_of_not_complete complete table
      exact ih (same.symm ▸ records)

/-- What a name finds was in the table at the start or has been taken in. -/
theorem Records.origin (records : Records start table taken) {name : String} (found : table.get? name = some coin) :
    coin ∈ start.coins ∨ coin ∈ taken := by
  rw [records.latest, Option.or_eq_some_iff] at found
  rcases found with later | ⟨_, before⟩
  · exact .inr (List.mem_reverse.mp (List.mem_of_find?_eq_some later))
  · exact .inl (List.mem_of_find?_eq_some before)

theorem records_builtin : Records builtin builtin [] where
  distinct := by decide
  complete := by decide
  latest := fun _ => rfl
  order := by decide

/-- Coins that are all complete come in one after the other; one that is not stops the whole list. -/
theorem insertAll_eq_ok_iff {coins : List Coin} : registry.insertAll coins = .ok next ↔
    (∀ coin ∈ coins, coin.IsComplete) ∧ next = registry.offerAll coins := by
  induction coins generalizing registry with
  | nil => simp [insertAll, offerAll, pure, Except.pure, eq_comm]
  | cons coin coins ih =>
    rw [insertAll, List.foldlM_cons, bind_eq_ok, List.forall_mem_cons]
    constructor
    · rintro ⟨between, first, rest⟩
      obtain ⟨complete, rfl⟩ := insert_eq_ok_iff.mp first
      obtain ⟨others, rfl⟩ := ih.mp rest
      refine ⟨⟨complete, others⟩, ?_⟩
      rw [offerAll, offerAll, List.foldl_cons, offer_of_complete complete]
    · rintro ⟨⟨complete, others⟩, rfl⟩
      refine ⟨_, insert_eq_ok_iff.mpr ⟨complete, rfl⟩, ih.mpr ⟨others, ?_⟩⟩
      rw [offerAll, offerAll, List.foldl_cons, offer_of_complete complete]

theorem ofJsonText_eq_ok_iff {text : String} (read : Json.readText (Json.listOf? Coin.ofJson?) text = .ok rows) :
    ofJsonText text = .ok table ↔ (∀ row ∈ rows, row.IsComplete) ∧ table = builtin.offerAll rows := by
  rw [ofJsonText, read]
  exact insertAll_eq_ok_iff

theorem records_ofJsonText {text : String} (read : Json.readText (Json.listOf? Coin.ofJson?) text = .ok rows)
    (made : ofJsonText text = .ok table) : Records builtin table rows := by
  obtain ⟨complete, rfl⟩ := (ofJsonText_eq_ok_iff read).mp made
  have all : (rows.filter fun coin => coin.IsComplete) = rows :=
    List.filter_eq_self.mpr fun row member => decide_eq_true (complete row member)
  have records := records_builtin.offerAll rows
  rwa [all, List.nil_append] at records

/-- The table of coins is a map in a fixed order. After any sequence of calls it holds the built-in rows and the coins
taken in; a call that is refused leaves it as it was, one that is not touches no other name; and a table from JSON text
is what its rows give one by one. -/
theorem offerAll_exact :
    (∀ calls, Records builtin (builtin.offerAll calls) (calls.filter fun coin => coin.IsComplete)) ∧
    (∀ (table : Registry) (coin : Coin),
      (coin.IsComplete → ∃ next, table.insert coin = .ok next ∧ table.offer coin = next ∧
        Places coin table.coins next.coins ∧
          ∀ name, next.get? name = if Text.sameName coin.name name then some coin else table.get? name) ∧
      (¬ coin.IsComplete → ∃ failure, table.insert coin = .error failure ∧ failure.code = .invalidInput ∧
        table.offer coin = table)) ∧
    ∀ text rows, Json.readText (Json.listOf? Coin.ofJson?) text = .ok rows →
      ((∃ table, ofJsonText text = .ok table) ↔ ∀ row ∈ rows, row.IsComplete) ∧
      ∀ table, ofJsonText text = .ok table → table = builtin.offerAll rows ∧ ∀ calls,
        Records builtin (table.offerAll calls) (rows ++ calls.filter fun coin => coin.IsComplete) := by
  refine ⟨records_builtin.offerAll, fun table coin => ⟨fun complete => ?_, fun partly => ?_⟩, ?_⟩
  · refine ⟨_, insert_eq_ok_iff.mpr ⟨complete, rfl⟩, offer_of_complete complete table, put_places coin table.coins, ?_⟩
    intro name
    have found := (put_places coin table.coins).find? (Text.lowered name.toList)
    simp only [← Coin.sameName_iff] at found
    exact found
  · cases failed : table.insert coin with
    | ok next => exact absurd (insert_eq_ok_iff.mp failed).1 partly
    | error failure =>
      have code := insert_failsWith table coin failure failed
      exact ⟨failure, rfl, eq_of_beq code, offer_of_not_complete partly table⟩
  · intro text rows read
    refine ⟨?_, fun table made => ?_⟩
    · constructor
      · rintro ⟨table, made⟩
        exact ((ofJsonText_eq_ok_iff read).mp made).1
      · exact fun complete => ⟨_, (ofJsonText_eq_ok_iff read).mpr ⟨complete, rfl⟩⟩
    · exact ⟨((ofJsonText_eq_ok_iff read).mp made).2, (records_ofJsonText read made).offerAll⟩

/-- A coin under a built-in name in other letters. -/
def recast : Coin := ⟨"BITCOIN", 7, 0x00, 0x05, none, none, none, [.p2pkh], []⟩

def nameless : Coin := { recast with name := " " }

/-- The row comes in for the built-in one, and stays when a nameless coin is refused after it. -/
theorem offerAll_exact_sample : ∃ text table, Json.readText (Json.listOf? Coin.ofJson?) text = .ok [recast] ∧
    ofJsonText text = .ok table ∧ Records builtin (table.offerAll [nameless]) [recast] ∧
      (table.offerAll [nameless]).get? "bitcoin" = some recast := by
  have read : Json.readText (Json.listOf? Coin.ofJson?) "[[\"BITCOIN\",7,0,5,null,null,null,[\"p2pkh\"]]]" =
      .ok [recast] := by decide +kernel
  obtain ⟨_, _, fromText⟩ := offerAll_exact
  obtain ⟨taken, whole⟩ := fromText _ _ read
  obtain ⟨table, made⟩ := taken.mpr (by decide)
  have records : Records builtin (table.offerAll [nameless]) [recast] := (whole table made).2 [nameless]
  exact ⟨_, table, read, made, records, (records.latest "bitcoin").trans (by decide)⟩

end Registry

end CoinSpend
