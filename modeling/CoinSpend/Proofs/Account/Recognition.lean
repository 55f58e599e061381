import CoinSpend.Account.Plan
import CoinSpend.Proofs.Account.Path

/-! The accounts that are planned for a coin and the paths that are recognized for it. Both sides write the same levels:
a path is recognized if it is that of a planned account, on the coin's own chain or on one it split from, with nothing
or a change flag and an address index below it. -/
namespace CoinSpend

theorem ScriptType.ofPurpose?_eq_some_iff {purpose : UInt32} {scriptType : ScriptType} :
    ofPurpose? purpose = some scriptType ↔ scriptType.purpose? = some purpose := by
  cases scriptType <;> grind [ofPurpose?, purpose?]

theorem ScriptType.purpose_low {scriptType : ScriptType} {purpose : UInt32}
    (found : scriptType.purpose? = some purpose) : purpose.toNat < 0x80000000 := by
  cases scriptType <;> cases found <;> decide

/-- The types of one key are those with a purpose, and each purpose serves one of them. -/
theorem ScriptType.exists_purpose_iff {scriptType : ScriptType} :
    (∃ own, scriptType.purpose? = some own) ↔ scriptType.isMultisig = false := by
  cases scriptType <;> simp [purpose?, isMultisig]

theorem ScriptType.eq_of_purpose {scriptType other : ScriptType} {purpose : UInt32}
    (found : scriptType.purpose? = some purpose) (foundToo : other.purpose? = some purpose) : scriptType = other :=
  Option.some.inj ((ofPurpose?_eq_some_iff.mpr found).symm.trans (ofPurpose?_eq_some_iff.mpr foundToo))

theorem AccountPath.ofScriptType?_eq_some_iff {coin : Coin} {index : UInt32} {scriptType : ScriptType}
    {account : AccountPath} : ofScriptType? coin index scriptType = some account ↔
      ∃ own, scriptType.purpose? = some own ∧
        account = ⟨coin.name, own, index, scriptType, [own, coin.slip44, index].map KeyPath.harden⟩ := by
  simp only [ofScriptType?, Option.map_eq_some_iff, @eq_comm _ account]

namespace Registry

variable {registry : Registry} {name : String} {coin : Coin} {index : UInt32}

/-- The accounts of a coin are one for each of its types that has a purpose. -/
theorem accountPaths_eq_ok_iff (known : registry.require name = .ok coin) {wanted : Option ScriptType}
    {accounts : List AccountPath} : registry.accountPaths name index wanted = .ok accounts ↔
      index.toNat < 0x80000000 ∧
        (coin.scriptTypes.filter fun scriptType => wanted.all (· == scriptType)).filterMap
          (AccountPath.ofScriptType? coin index) = accounts := by
  have bound : KeyPath.hardenedBit ≤ index ↔ ¬ index.toNat < 0x80000000 := by
    rw [UInt32.le_iff_toNat_le, Nat.not_lt]
    rfl
  simp only [accountPaths, known, bind, Except.bind, bound]
  split
  · rename_i high
    constructor
    · intro failed
      cases failed
    · exact fun planned => absurd planned.1 high
  · rename_i low
    rw [not_not] at low
    simp only [pure, Except.pure, Except.ok.injEq, low, true_and]

theorem mem_accountPaths_iff (known : registry.require name = .ok coin) {wanted : Option ScriptType}
    {accounts : List AccountPath} (planned : registry.accountPaths name index wanted = .ok accounts)
    {account : AccountPath} : account ∈ accounts ↔ ∃ scriptType, coin.supports scriptType = true ∧
      (∀ type ∈ wanted, type = scriptType) ∧ AccountPath.ofScriptType? coin index scriptType = some account := by
  obtain ⟨_, rfl⟩ := (accountPaths_eq_ok_iff known).mp planned
  simp only [List.mem_filterMap, List.mem_filter, Coin.supports, List.contains_iff_mem, and_assoc, Option.all_eq_true,
    beq_iff_eq, Option.mem_def]

/-- `account` is planned: it is an entry of the coin's accounts of one type and index. -/
def Plans (registry : Registry) (name : String) (scriptType : ScriptType) (index : UInt32)
    (account : AccountPath) : Prop :=
  ∃ accounts, registry.accountPaths name index (some scriptType) = .ok accounts ∧ account ∈ accounts

theorem plans_iff (known : registry.require name = .ok coin) {scriptType : ScriptType} {account : AccountPath} :
    registry.Plans name scriptType index account ↔ index.toNat < 0x80000000 ∧ coin.supports scriptType = true ∧
      AccountPath.ofScriptType? coin index scriptType = some account := by
  constructor
  · rintro ⟨accounts, planned, member⟩
    obtain ⟨_, supported, wanted, made⟩ := (mem_accountPaths_iff known planned).mp member
    cases wanted scriptType rfl
    exact ⟨((accountPaths_eq_ok_iff known).mp planned).1, supported, made⟩
  · rintro ⟨low, supported, made⟩
    have planned : registry.accountPaths name index (some scriptType) = .ok _ :=
      (accountPaths_eq_ok_iff known).mpr ⟨low, rfl⟩
    refine ⟨_, planned, (mem_accountPaths_iff known planned).mpr ⟨scriptType, supported, ?_, made⟩⟩
    rintro _ ⟨⟩
    rfl

end Registry

/-- The coin types of a coin's chains: its own, and before the fork those it split from. -/
inductive Coin.HasChain (coin : Coin) : UInt32 → Bool → Prop where
  | own : HasChain coin coin.slip44 false
  | ancestor {chain : UInt32} (other : chain ≠ coin.slip44) (member : chain ∈ coin.preforkSlip44) :
    HasChain coin chain true

namespace PathDescription

variable {coin : Coin} {given : Option ScriptType} {levels : AccountLevels} {own chain : UInt32} {below : KeyPath}

/-- The account of the levels is one of the coin and of the given type, on one of the coin's chains. -/
structure Names (coin : Coin) (given : Option ScriptType) (levels : AccountLevels) (own chain : UInt32) : Prop where
  purpose : levels.scriptType.purpose? = some own
  supported : coin.supports levels.scriptType = true
  asGiven : ∀ type ∈ given, type = levels.scriptType
  low : levels.accountIndex.toNat < 0x80000000
  chainLow : chain.toNat < 0x80000000
  onChain : coin.HasChain chain levels.isPrefork

/-- The type is the given one. Without one it is that of the purpose, so in both cases the purpose is its own. -/
theorem type_read_iff {purpose : UInt32} {scriptType : ScriptType} :
    (given <|> ScriptType.ofPurpose? purpose) = some scriptType ∧ scriptType.purpose? = some purpose ↔
      (∀ type ∈ given, type = scriptType) ∧ scriptType.purpose? = some purpose := by
  apply and_congr_left
  intro found
  cases given with
  | none =>
    have inferred := ScriptType.ofPurpose?_eq_some_iff.mpr found
    simpa using inferred
  | some type => simp

theorem chain_read_iff {scriptType : ScriptType} {index : UInt32} :
    (if chain == coin.slip44 then some (⟨scriptType, index, false⟩ : AccountLevels)
      else if coin.isPrefork chain then some ⟨scriptType, index, true⟩ else none) = some levels ↔
    levels.scriptType = scriptType ∧ levels.accountIndex = index ∧ coin.HasChain chain levels.isPrefork := by
  obtain ⟨type, number, prefork⟩ := levels
  cases prefork <;> grind [Coin.isPrefork, Coin.HasChain]

/-- What three levels say, and the levels that say it. -/
theorem accountLevels?_eq_some_iff {purpose slip44 account : UInt32} :
    accountLevels? coin purpose slip44 account given = some levels ↔
      ∃ own chain, Names coin given levels own chain ∧
        [purpose, slip44, account] = [own, chain, levels.accountIndex].map KeyPath.harden := by
  simp only [accountLevels?, Option.bind_eq_bind, Option.bind_eq_some_iff, Option.guard_eq_some', exists_const,
    chain_read_iff]
  -- only now, as the chain is read off by comparisons too
  simp only [Bool.and_eq_true, beq_iff_eq]
  constructor
  · rintro ⟨⟨⟨hardPurpose, hardSlip44⟩, hardAccount⟩, _, chosen, _, purposeOf, ⟨rfl, supported⟩, rfl, index, onChain⟩
    obtain ⟨asGiven, _⟩ := type_read_iff.mp ⟨chosen, purposeOf⟩
    obtain ⟨_, purposeLevel⟩ := KeyPath.isHardened_and_unharden_iff.mp ⟨hardPurpose, rfl⟩
    obtain ⟨chainLow, slip44Level⟩ := KeyPath.isHardened_and_unharden_iff.mp ⟨hardSlip44, rfl⟩
    obtain ⟨low, accountLevel⟩ := KeyPath.isHardened_and_unharden_iff.mp ⟨hardAccount, index.symm⟩
    refine ⟨_, _, ⟨purposeOf, supported, asGiven, low, chainLow, onChain⟩, ?_⟩
    rw [List.map, List.map, List.map, List.map, ← purposeLevel, ← slip44Level, ← accountLevel]
  · rintro ⟨own, chain, names, same⟩
    cases same
    obtain ⟨chosen, _⟩ := type_read_iff.mpr ⟨names.asGiven, names.purpose⟩
    have hard := KeyPath.isHardened_harden
    rw [KeyPath.unharden_harden (ScriptType.purpose_low names.purpose), KeyPath.unharden_harden names.chainLow,
      KeyPath.unharden_harden names.low]
    exact ⟨⟨⟨hard _, hard _⟩, hard _⟩, _, chosen, own, names.purpose, ⟨rfl, names.supported⟩, rfl, rfl, names.onChain⟩

/-- What stands below an account in a path: nothing, or a change flag and an address index. -/
inductive Below : KeyPath → Prop where
  | account : Below []
  | address {change index : UInt32} (flag : change = 0 ∨ change = 1) (low : index.toNat < 0x80000000) :
    Below [change, index]

/-- What is said of a recognized path. -/
structure Tells (described : PathDescription) (levels : AccountLevels) (below : KeyPath) : Prop where
  isKnown : described.isKnown = true
  scriptType : described.scriptType = some levels.scriptType
  accountIndex : described.accountIndex = some levels.accountIndex
  isPrefork : described.isPrefork = some levels.isPrefork
  wholeAccount : described.wholeAccount = some below.isEmpty
  isChange : described.isChange = below[0]?.map (· == 1)
  addressIndex : described.addressIndex = below[1]?

theorem ofPath_tells (names : Names coin given levels own chain) (beneath : Below below) :
    (ofPath coin ([own, chain, levels.accountIndex].map KeyPath.harden ++ below) given).Tells levels below := by
  have read := accountLevels?_eq_some_iff.mpr ⟨own, chain, names, rfl⟩
  cases beneath with
  | account =>
    simp only [List.map, List.append_nil, ofPath, read]
    exact ⟨rfl, rfl, rfl, rfl, rfl, rfl, rfl⟩
  | @address change index flag low =>
    have soft : KeyPath.isHardened index = false := by
      rw [Bool.eq_false_iff, Ne, KeyPath.isHardened_iff]
      omega
    have small : ¬ 1 < change := by
      rcases flag with rfl | rfl <;> decide
    simp only [List.map, List.cons_append, List.nil_append, ofPath, read, soft, small]
    exact ⟨rfl, rfl, rfl, rfl, rfl, rfl, rfl⟩

theorem ofPath_cases (coin : Coin) (path : KeyPath) (given : Option ScriptType) :
    ofPath coin path given = unknown coin path given ∨ ∃ levels own chain below, Names coin given levels own chain ∧
      Below below ∧ path = [own, chain, levels.accountIndex].map KeyPath.harden ++ below := by
  fun_cases ofPath coin path given with
  | case1 purpose slip44 index levels read =>
    obtain ⟨own, chain, names, same⟩ := accountLevels?_eq_some_iff.mp read
    exact .inr ⟨levels, own, chain, [], names, .account, same.trans (List.append_nil _).symm⟩
  | case4 purpose slip44 index change addressIndex levels read plain =>
    obtain ⟨own, chain, names, same⟩ := accountLevels?_eq_some_iff.mp read
    simp only [Bool.or_eq_true, decide_eq_true_eq, not_or, KeyPath.isHardened_iff, Nat.not_le] at plain
    have flag : change = 0 ∨ change = 1 := by
      simp only [← UInt32.toNat_inj, UInt32.lt_iff_toNat_lt] at plain ⊢
      have one : (1 : UInt32).toNat = 1 := rfl
      have zero : (0 : UInt32).toNat = 0 := rfl
      omega
    refine .inr ⟨levels, own, chain, [change, addressIndex], names, .address flag plain.2, ?_⟩
    rw [← same]
    rfl
  | case2 | case3 | case5 | case6 => exact .inl rfl

end PathDescription

namespace Registry

open PathDescription (Below Names)

variable {registry : Registry} {name : String} {coin : Coin} {given : Option ScriptType} {chain : UInt32}

theorem describe_eq (known : registry.require name = .ok coin) (path : KeyPath) (given : Option ScriptType) :
    registry.describe path name given = .ok (PathDescription.ofPath coin path given) := by
  rw [describe, known]
  rfl

theorem Plans.path_own (known : registry.require name = .ok coin) {scriptType : ScriptType} {index : UInt32}
    {account : AccountPath} (plans : registry.Plans name scriptType index account) :
    account.path.set 1 (KeyPath.harden coin.slip44) = account.path := by
  obtain ⟨_, _, made⟩ := (plans_iff known).mp plans
  obtain ⟨_, _, rfl⟩ := AccountPath.ofScriptType?_eq_some_iff.mp made
  rfl

/-- A planned account, on its own chain or moved to another, has levels that name it. -/
theorem Plans.names (known : registry.require name = .ok coin) {scriptType : ScriptType} {index : UInt32}
    {account : AccountPath} (plans : registry.Plans name scriptType index account)
    (asGiven : ∀ type ∈ given, type = scriptType) (chainLow : chain.toNat < 0x80000000) {prefork : Bool}
    (onChain : coin.HasChain chain prefork) : ∃ own, Names coin given ⟨scriptType, index, prefork⟩ own chain ∧
      account.path.set 1 (KeyPath.harden chain) = [own, chain, index].map KeyPath.harden := by
  obtain ⟨low, supported, made⟩ := (plans_iff known).mp plans
  obtain ⟨own, purpose, rfl⟩ := AccountPath.ofScriptType?_eq_some_iff.mp made
  exact ⟨own, ⟨purpose, supported, asGiven, low, chainLow, onChain⟩, rfl⟩

/-- Levels that name an account are those of a planned one, but for its chain. -/
theorem plans_of_names (known : registry.require name = .ok coin) {levels : AccountLevels} {own : UInt32}
    (names : Names coin given levels own chain) :
    ∃ account, registry.Plans name levels.scriptType levels.accountIndex account ∧
      account.path = [own, coin.slip44, levels.accountIndex].map KeyPath.harden := by
  refine ⟨⟨coin.name, own, levels.accountIndex, levels.scriptType, _⟩, ?_, rfl⟩
  refine (plans_iff known).mpr ⟨names.low, names.supported, ?_⟩
  exact AccountPath.ofScriptType?_eq_some_iff.mpr ⟨own, names.purpose, rfl⟩

/-- A path for the coin's keys: that of a planned account of the given type, or the same on a chain that the coin split
from, and what may stand below. -/
def Recognizable (registry : Registry) (name : String) (coin : Coin) (given : Option ScriptType)
    (path : KeyPath) : Prop :=
  ∃ scriptType index account below, (∀ type ∈ given, type = scriptType) ∧
    registry.Plans name scriptType index account ∧ Below below ∧
    (path = account.path ++ below ∨ ∃ chain ∈ coin.preforkSlip44, chain.toNat < 0x80000000 ∧
      path = account.path.set 1 (KeyPath.harden chain) ++ below)

theorem recognizable_of_names (known : registry.require name = .ok coin) {levels : AccountLevels} {own : UInt32}
    {below : KeyPath} (names : Names coin given levels own chain) (beneath : Below below) :
    registry.Recognizable name coin given ([own, chain, levels.accountIndex].map KeyPath.harden ++ below) := by
  obtain ⟨account, plans, path⟩ := plans_of_names known names
  refine ⟨_, _, account, below, names.asGiven, plans, beneath, ?_⟩
  obtain ⟨scriptType, index, prefork⟩ := levels
  cases names.onChain with
  | own => exact .inl (congrArg (· ++ below) path.symm)
  | ancestor _ member =>
    refine .inr ⟨chain, member, names.chainLow, ?_⟩
    rw [path]
    rfl

theorem Recognizable.names (known : registry.require name = .ok coin) (ownLow : coin.slip44.toNat < 0x80000000)
    {path : KeyPath} (recognizable : registry.Recognizable name coin given path) :
    ∃ levels own chain below, Names coin given levels own chain ∧ Below below ∧
      path = [own, chain, levels.accountIndex].map KeyPath.harden ++ below := by
  obtain ⟨scriptType, index, account, below, asGiven, plans, beneath, rfl | ⟨chain, ancestor, chainLow, rfl⟩⟩ :=
    recognizable
  · obtain ⟨own, names, path⟩ := plans.names known asGiven ownLow .own
    rw [plans.path_own known] at path
    exact ⟨_, own, _, below, names, beneath, congrArg (· ++ below) path⟩
  -- the coin's own type may stand among its ancestors' too, and is then read as its own
  · by_cases same : chain = coin.slip44
    · have onOwn : coin.HasChain chain false := same ▸ .own
      obtain ⟨own, names, path⟩ := plans.names known asGiven chainLow onOwn
      exact ⟨_, own, chain, below, names, beneath, congrArg (· ++ below) path⟩
    · obtain ⟨own, names, path⟩ := plans.names known asGiven chainLow (.ancestor same ancestor)
      exact ⟨_, own, chain, below, names, beneath, congrArg (· ++ below) path⟩

theorem isKnown_iff (known : registry.require name = .ok coin) (ownLow : coin.slip44.toNat < 0x80000000)
    {path : KeyPath} : (PathDescription.ofPath coin path given).isKnown = true ↔
      registry.Recognizable name coin given path := by
  constructor
  · intro recognized
    rcases PathDescription.ofPath_cases coin path given with other | ⟨_, _, _, _, names, beneath, rfl⟩
    · rw [other] at recognized
      cases recognized
    · exact recognizable_of_names known names beneath
  · intro recognizable
    obtain ⟨_, _, _, _, names, beneath, rfl⟩ := recognizable.names known ownLow
    exact (PathDescription.ofPath_tells names beneath).isKnown

theorem ofPath_account (known : registry.require name = .ok coin) (ownLow : coin.slip44.toNat < 0x80000000)
    {scriptType : ScriptType} {index : UInt32} {account : AccountPath}
    (plans : registry.Plans name scriptType index account) (asGiven : ∀ type ∈ given, type = scriptType) :
    (PathDescription.ofPath coin account.path given).Tells ⟨scriptType, index, false⟩ [] := by
  obtain ⟨own, names, path⟩ := plans.names known asGiven ownLow .own
  rw [← plans.path_own known, path]
  exact PathDescription.ofPath_tells names .account

theorem planned_of_current (known : registry.require name = .ok coin) {path : KeyPath}
    (recognized : (PathDescription.ofPath coin path given).isKnown = true)
    (current : (PathDescription.ofPath coin path given).isPrefork = some false) :
    ∃ scriptType index account below, registry.Plans name scriptType index account ∧ Below below ∧
      path = account.path ++ below ∧
      (PathDescription.ofPath coin path given).Tells ⟨scriptType, index, false⟩ below := by
  rcases PathDescription.ofPath_cases coin path given with
    other | ⟨⟨scriptType, index, prefork⟩, own, chain, below, names, beneath, rfl⟩
  · rw [other] at recognized
    cases recognized
  · have told := PathDescription.ofPath_tells names beneath
    cases told.isPrefork.symm.trans current
    cases names.onChain
    obtain ⟨account, plans, path⟩ := plans_of_names known names
    exact ⟨scriptType, index, account, below, plans, beneath, congrArg (· ++ below) path.symm, told⟩

/-- The planner and the description are inverse. Every planned account is described as itself. What is described as
known, and not before the fork, is a planned account of the type that is reported, or an address below one. Beyond
these, only paths on a chain that the coin split from are known; for others just the text of the path is given. -/
theorem describe_exact (known : registry.require name = .ok coin) (ownLow : coin.slip44.toNat < 0x80000000) :
    (∀ index wanted, index.toNat < 0x80000000 → ∃ accounts, registry.accountPaths name index wanted = .ok accounts ∧
      ∀ account ∈ accounts, ∀ given, given = none ∨ given = some account.scriptType →
        ∃ described, registry.describe account.path name given = .ok described ∧
          described.Tells ⟨account.scriptType, index, false⟩ []) ∧
    ∀ path given, ∃ described, registry.describe path name given = .ok described ∧
      (described.isKnown = true → described.isPrefork = some false → ∃ scriptType index account below,
        registry.Plans name scriptType index account ∧ Below below ∧ path = account.path ++ below ∧
          described.Tells ⟨scriptType, index, false⟩ below) ∧
      (described.isKnown = true ↔ registry.Recognizable name coin given path) ∧
      (described.isKnown = false → described.verbose = path.format) := by
  constructor
  · intro index wanted low
    have planned : registry.accountPaths name index wanted = .ok _ := (accountPaths_eq_ok_iff known).mpr ⟨low, rfl⟩
    refine ⟨_, planned, fun account member given options => ⟨_, describe_eq known account.path given, ?_⟩⟩
    obtain ⟨scriptType, supported, _, made⟩ := (mem_accountPaths_iff known planned).mp member
    obtain ⟨own, purpose, rfl⟩ := AccountPath.ofScriptType?_eq_some_iff.mp made
    refine ofPath_account known ownLow ((plans_iff known).mpr ⟨low, supported, made⟩) ?_
    rcases options with rfl | rfl
    · rintro _ ⟨⟩
    · rintro _ ⟨⟩
      rfl
  · intro path given
    refine ⟨_, describe_eq known path given, planned_of_current known, isKnown_iff known ownLow, ?_⟩
    intro unrecognized
    rcases PathDescription.ofPath_cases coin path given with other | ⟨_, _, _, _, names, beneath, rfl⟩
    · rw [other]
      rfl
    · cases (PathDescription.ofPath_tells names beneath).isKnown.symm.trans unrecognized

/-- A change address of an account on a chain that the coin split from. -/
theorem describe_exact_ancestor : ∃ described,
    builtin.describe ([84, 0, 3].map KeyPath.harden ++ [1, 7]) "BitcoinGold" none = .ok described ∧
      described.isKnown = true := by
  have known : builtin.require "BitcoinGold" =
      .ok ⟨"BitcoinGold", 156, 0x26, 0x17, some "btg", none, some 79, segwitTypes, [0]⟩ := by decide
  have planned : builtin.accountPaths "BitcoinGold" 3 (some .p2wpkh) =
      .ok [⟨"BitcoinGold", 84, 3, .p2wpkh, [84, 156, 3].map KeyPath.harden⟩] := by decide
  obtain ⟨_, recognized⟩ := describe_exact known (by decide)
  obtain ⟨described, found, _, recognizable, _⟩ := recognized ([84, 0, 3].map KeyPath.harden ++ [1, 7]) none
  refine ⟨described, found, recognizable.mpr ?_⟩
  refine ⟨.p2wpkh, 3, _, [1, 7], nofun, ⟨_, planned, List.mem_singleton_self _⟩, .address (.inr rfl) (by decide), ?_⟩
  exact .inr ⟨0, List.mem_singleton_self 0, by decide, rfl⟩

end Registry

end CoinSpend
