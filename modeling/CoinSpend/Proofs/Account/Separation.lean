import CoinSpend.Proofs.Account.Recognition
import CoinSpend.Proofs.Coin.Registry

/-! Which coins may come to share keys. A hardened level has 31 bits for the coin type, and planned paths are apart
exactly if the coin types differ in these. So in every table that is reached by taking in coins whose types need no more
bits, each path says the type of its coin, and no path serves coins of two types. -/
namespace CoinSpend

theorem KeyPath.harden_eq_harden_iff {level other : UInt32} :
    harden level = harden other ↔ level.toNat % 0x80000000 = other.toNat % 0x80000000 := by
  rw [← UInt32.toNat_inj, toNat_harden, toNat_harden, Nat.add_right_cancel_iff]

theorem KeyPath.harden_eq_harden_iff_of_low {level other : UInt32} (low : level.toNat < 0x80000000)
    (otherLow : other.toNat < 0x80000000) : harden level = harden other ↔ level = other := by
  rw [harden_eq_harden_iff, Nat.mod_eq_of_lt low, Nat.mod_eq_of_lt otherLow, UInt32.toNat_inj]

namespace Registry

/-- Tables that come from the built-in one, or from JSON text, by calls that succeed, and the coins taken in. -/
inductive Reached : Registry → List Coin → Prop where
  | builtin : Reached builtin []
  | read {text : String} {rows : List Coin} {table : Registry}
    (rowsRead : Json.readText (Json.listOf? Coin.ofJson?) text = .ok rows) (made : ofJsonText text = .ok table) :
    Reached table rows
  | inserted {table next : Registry} {taken : List Coin} {coin : Coin} (before : Reached table taken)
    (done : table.insert coin = .ok next) : Reached next (taken ++ [coin])

variable {table next : Registry} {taken : List Coin} {coin other : Coin} {account otherAccount : AccountPath}

/-- A coin of the table has accounts of the type. -/
structure Offers (table : Registry) (coin : Coin) (scriptType : ScriptType) : Prop where
  known : table.require coin.name = .ok coin
  supported : coin.supports scriptType = true
  single : scriptType.isMultisig = false

/-- An account that is planned for a coin of the table, whatever its type and index. -/
def HasAccount (table : Registry) (coin : Coin) (account : AccountPath) : Prop :=
  ∃ name index wanted accounts, table.require name = .ok coin ∧
    table.accountPaths name index wanted = .ok accounts ∧ account ∈ accounts

/-- Each path says the type of its coin: its second level is the type and the offset of hardened levels. -/
def WritesChains (table : Registry) : Prop :=
  ∀ coin account, table.HasAccount coin account →
    account.path[1]?.map UInt32.toNat = some (0x80000000 + coin.slip44.toNat)

/-- No path serves coins of two types. -/
def TellsApart (table : Registry) : Prop :=
  ∀ coin other account otherAccount, table.HasAccount coin account → table.HasAccount other otherAccount →
    coin.slip44 ≠ other.slip44 → account.path ≠ otherAccount.path

theorem hasAccount_iff : table.HasAccount coin account ↔
    table.require coin.name = .ok coin ∧ account.coin = coin.name ∧ coin.supports account.scriptType = true ∧
      account.scriptType.purpose? = some account.purpose ∧ account.accountIndex.toNat < 0x80000000 ∧
        account.path = [account.purpose, coin.slip44, account.accountIndex].map KeyPath.harden := by
  constructor
  · rintro ⟨name, index, wanted, accounts, known, planned, member⟩
    obtain ⟨low, _⟩ := (accountPaths_eq_ok_iff known).mp planned
    obtain ⟨scriptType, supported, _, made⟩ := (mem_accountPaths_iff known planned).mp member
    obtain ⟨purpose, found, rfl⟩ := AccountPath.ofScriptType?_eq_some_iff.mp made
    exact ⟨require_own_name known, rfl, supported, found, low, rfl⟩
  · obtain ⟨name, purpose, index, scriptType, path⟩ := account
    dsimp only
    rintro ⟨known, rfl, supported, found, low, rfl⟩
    have planned : table.accountPaths coin.name index none = .ok _ := (accountPaths_eq_ok_iff known).mpr ⟨low, rfl⟩
    refine ⟨coin.name, index, none, _, known, planned, (mem_accountPaths_iff known planned).mpr ?_⟩
    exact ⟨scriptType, supported, nofun, AccountPath.ofScriptType?_eq_some_iff.mpr ⟨purpose, found, rfl⟩⟩

theorem HasAccount.offers (has : table.HasAccount coin account) : table.Offers coin account.scriptType := by
  obtain ⟨known, _, supported, found, _⟩ := hasAccount_iff.mp has
  exact ⟨known, supported, ScriptType.exists_purpose_iff.mp ⟨_, found⟩⟩

/-- There is an account of each index. -/
theorem Offers.hasAccount {scriptType : ScriptType} (offers : table.Offers coin scriptType) (index : UInt32)
    (low : index.toNat < 0x80000000) : ∃ account, table.HasAccount coin account ∧
      account.scriptType = scriptType ∧ account.accountIndex = index := by
  obtain ⟨own, found⟩ := ScriptType.exists_purpose_iff.mpr offers.single
  refine ⟨⟨coin.name, own, index, scriptType, [own, coin.slip44, index].map KeyPath.harden⟩, ?_, rfl, rfl⟩
  exact hasAccount_iff.mpr ⟨offers.known, rfl, offers.supported, found, low, rfl⟩

theorem HasAccount.secondLevel (has : table.HasAccount coin account) :
    account.path[1]?.map UInt32.toNat = some (0x80000000 + coin.slip44.toNat % 0x80000000) := by
  obtain ⟨_, _, _, _, _, path⟩ := hasAccount_iff.mp has
  rw [path, Nat.add_comm, ← KeyPath.toNat_harden]
  rfl

theorem HasAccount.path_eq_iff (has : table.HasAccount coin account) (hasOther : table.HasAccount other otherAccount) :
    account.path = otherAccount.path ↔ account.scriptType = otherAccount.scriptType ∧
      account.accountIndex = otherAccount.accountIndex ∧
        coin.slip44.toNat % 0x80000000 = other.slip44.toNat % 0x80000000 := by
  obtain ⟨_, _, _, found, low, path⟩ := hasAccount_iff.mp has
  obtain ⟨_, _, _, foundOther, lowOther, pathOther⟩ := hasAccount_iff.mp hasOther
  have purposes : account.purpose = otherAccount.purpose ↔ account.scriptType = otherAccount.scriptType := by
    constructor
    · intro same
      exact ScriptType.eq_of_purpose found (same ▸ foundOther)
    · intro same
      rw [same] at found
      exact Option.some.inj (found.symm.trans foundOther)
  have first := KeyPath.harden_eq_harden_iff_of_low (ScriptType.purpose_low found) (ScriptType.purpose_low foundOther)
  have last := KeyPath.harden_eq_harden_iff_of_low low lowOther
  rw [path, pathOther]
  simp only [List.map, List.cons.injEq, and_true, first, last, purposes, KeyPath.harden_eq_harden_iff]
  exact and_congr_right fun _ => and_comm

/-- Paths that say the type of their coin do not serve coins of two types. -/
theorem WritesChains.tellsApart (writes : table.WritesChains) : table.TellsApart := by
  intro coin other account otherAccount has hasOther different same
  have second := writes coin account has
  rw [same, writes other otherAccount hasOther, Option.some.injEq, Nat.add_left_cancel_iff] at second
  exact different (UInt32.toNat_inj.mp second.symm)

theorem writesChains_iff : table.WritesChains ↔
    ∀ coin scriptType, table.Offers coin scriptType → coin.slip44.toNat < 0x80000000 := by
  have exact_iff (slip44 : UInt32) : slip44.toNat % 0x80000000 = slip44.toNat ↔ slip44.toNat < 0x80000000 :=
    Nat.mod_eq_iff_lt (by decide)
  constructor
  · intro writes coin scriptType offers
    obtain ⟨account, has, _⟩ := offers.hasAccount 0 (by decide)
    have second := writes coin account has
    rwa [has.secondLevel, Option.some.injEq, Nat.add_left_cancel_iff, exact_iff] at second
  · intro low coin account has
    rw [has.secondLevel, (exact_iff coin.slip44).mpr (low coin _ has.offers)]

/-- Coins are told apart exactly if those with one type of account do not agree in the low bits of their coin types. -/
theorem tellsApart_iff : table.TellsApart ↔
    ∀ coin other scriptType, table.Offers coin scriptType → table.Offers other scriptType →
      coin.slip44.toNat % 0x80000000 = other.slip44.toNat % 0x80000000 → coin.slip44 = other.slip44 := by
  constructor
  · intro apart coin other scriptType offers offersToo congruent
    obtain ⟨account, has, type, index⟩ := offers.hasAccount 0 (by decide)
    obtain ⟨otherAccount, hasOther, otherType, otherIndex⟩ := offersToo.hasAccount 0 (by decide)
    by_contra different
    refine apart coin other account otherAccount has hasOther different ((has.path_eq_iff hasOther).mpr ?_)
    exact ⟨type.trans otherType.symm, index.trans otherIndex.symm, congruent⟩
  · intro equal coin other account otherAccount has hasOther different same
    obtain ⟨type, _, congruent⟩ := (has.path_eq_iff hasOther).mp same
    exact different (equal coin other _ has.offers (type ▸ hasOther.offers) congruent)

theorem Reached.records (reached : Reached table taken) : Records Registry.builtin table taken := by
  induction reached with
  | builtin => exact records_builtin
  | read rowsRead made => exact records_ofJsonText rowsRead made
  | inserted before done ih =>
    obtain ⟨complete, rfl⟩ := insert_eq_ok_iff.mp done
    have records := ih.offer complete
    rwa [offer_of_complete complete] at records

/-- A coin that a table has accounts of is built in or was taken in. -/
theorem Reached.low (reached : Reached table taken) (low : ∀ coin ∈ taken, coin.slip44.toNat < 0x80000000)
    {scriptType : ScriptType} (offers : table.Offers coin scriptType) : coin.slip44.toNat < 0x80000000 := by
  have builtinLow : ∀ coin ∈ Registry.builtin.coins, coin.slip44.toNat < 0x80000000 := by decide
  exact (reached.records.origin (require_eq_ok_iff.mp offers.known)).elim (builtinLow coin) (low coin)

/-- The second level of a planned path has the low 31 bits of the coin type, and two paths are the same exactly if type
and index are and the coin types agree in these bits. So what keeps paths apart is that no coin with accounts goes
beyond them; in every table that is reached, that is so as long as no coin is taken in that does. -/
theorem accountPaths_apart (table : Registry) :
    (∀ coin account, table.HasAccount coin account →
      account.path[1]?.map UInt32.toNat = some (0x80000000 + coin.slip44.toNat % 0x80000000)) ∧
    (∀ coin other account otherAccount, table.HasAccount coin account → table.HasAccount other otherAccount →
      (account.path = otherAccount.path ↔ account.scriptType = otherAccount.scriptType ∧
        account.accountIndex = otherAccount.accountIndex ∧
          coin.slip44.toNat % 0x80000000 = other.slip44.toNat % 0x80000000)) ∧
    (table.WritesChains ↔ ∀ coin scriptType, table.Offers coin scriptType → coin.slip44.toNat < 0x80000000) ∧
    (table.TellsApart ↔ ∀ coin other scriptType, table.Offers coin scriptType → table.Offers other scriptType →
      coin.slip44.toNat % 0x80000000 = other.slip44.toNat % 0x80000000 → coin.slip44 = other.slip44) ∧
    ∀ taken, Reached table taken → (∀ coin ∈ taken, coin.slip44.toNat < 0x80000000) →
      table.WritesChains ∧ table.TellsApart := by
  refine ⟨fun _ _ has => has.secondLevel, fun _ _ _ _ has hasOther => has.path_eq_iff hasOther, writesChains_iff,
    tellsApart_iff, ?_⟩
  intro taken reached low
  have writes := writesChains_iff.mpr fun coin scriptType offers => reached.low low offers
  exact ⟨writes, writes.tellsApart⟩

/-- A coin of the given type, with accounts of one kind. -/
def far (slip44 : UInt32) : Coin := ⟨"Far", slip44, 0x00, 0x05, none, none, none, [.p2pkh], []⟩

def bitcoin : Coin := ⟨"Bitcoin", 0, 0x00, 0x05, some "bc", none, none, segwitTypes, []⟩

def firstAccount (coin : Coin) : AccountPath :=
  ⟨coin.name, 44, 0, .p2pkh, [44, coin.slip44, 0].map KeyPath.harden⟩

theorem reached_offer (coin : Coin) (complete : coin.IsComplete) : Reached (builtin.offer coin) [coin] := by
  rw [offer_of_complete complete]
  exact .inserted .builtin (insert_eq_ok_iff.mpr ⟨complete, rfl⟩)

/-- A coin that is taken in with a type of its own has paths of its own. -/
theorem accountPaths_apart_sample : (builtin.offer (far 17)).WritesChains ∧
    (firstAccount (far 17)).path[1]?.map UInt32.toNat = some (0x80000000 + 17) ∧
      (firstAccount (far 17)).path ≠ (firstAccount bitcoin).path := by
  have has : (builtin.offer (far 17)).HasAccount (far 17) (firstAccount (far 17)) := hasAccount_iff.mpr (by decide)
  have hasBitcoin : (builtin.offer (far 17)).HasAccount bitcoin (firstAccount bitcoin) := hasAccount_iff.mpr (by decide)
  obtain ⟨levels, paths, _, _, tables⟩ := accountPaths_apart (builtin.offer (far 17))
  obtain ⟨writes, _⟩ := tables _ (reached_offer (far 17) (by decide)) (by decide)
  exact ⟨writes, levels _ _ has, fun same => absurd ((paths _ _ _ _ has hasBitcoin).mp same) (by decide)⟩

/-- A coin is taken in whose type is Bitcoin's but for the top bit. Its paths are those of Bitcoin. -/
theorem accountPaths_shared : Reached (builtin.offer (far 0x80000000)) [far 0x80000000] ∧
    (builtin.offer (far 0x80000000)).HasAccount (far 0x80000000) (firstAccount (far 0x80000000)) ∧
      (builtin.offer (far 0x80000000)).HasAccount bitcoin (firstAccount bitcoin) ∧
        (far 0x80000000).slip44 ≠ bitcoin.slip44 ∧
          (firstAccount (far 0x80000000)).path = (firstAccount bitcoin).path ∧
            ¬ (builtin.offer (far 0x80000000)).WritesChains ∧ ¬ (builtin.offer (far 0x80000000)).TellsApart := by
  have has : (builtin.offer (far 0x80000000)).HasAccount (far 0x80000000) (firstAccount (far 0x80000000)) :=
    hasAccount_iff.mpr (by decide)
  have hasBitcoin : (builtin.offer (far 0x80000000)).HasAccount bitcoin (firstAccount bitcoin) :=
    hasAccount_iff.mpr (by decide)
  have different : (far 0x80000000).slip44 ≠ bitcoin.slip44 := by decide
  have same : (firstAccount (far 0x80000000)).path = (firstAccount bitcoin).path := by decide
  have shared : ¬ (builtin.offer (far 0x80000000)).TellsApart :=
    fun apart => apart _ _ _ _ has hasBitcoin different same
  exact ⟨reached_offer _ (by decide), has, hasBitcoin, different, same, mt WritesChains.tellsApart shared, shared⟩

end Registry

end CoinSpend
