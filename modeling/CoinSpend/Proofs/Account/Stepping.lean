import CoinSpend.Proofs.Account.Recognition
import CoinSpend.Proofs.Coin.Registry

/-! Stepping from one account to the next. A step is possible from every path that is described as a whole account, up
to the last index, and changes nothing but the index; so any number of steps leads from a planned account to the planned
account that many further on. -/
namespace CoinSpend

/-- The account with another index, in its path as well. -/
def AccountPath.withIndex (account : AccountPath) (index : UInt32) : AccountPath :=
  { account with accountIndex := index, path := account.path.set 2 (KeyPath.harden index) }

namespace Registry

open PathDescription (Names Below)

variable {registry : Registry} {name : String} {coin : Coin} {account next : AccountPath} {index : UInt32}
  {scriptType : ScriptType}

/-- The path of the account is described, for its own coin and type, as a whole account of this index. -/
def IsAccount (registry : Registry) (account : AccountPath) (index : UInt32) : Prop :=
  ∃ described, registry.describe account.path account.coin (some account.scriptType) = .ok described ∧
    described.isKnown = true ∧ described.wholeAccount = some true ∧ described.accountIndex = some index

/-- What is known of a path says the levels it has. -/
theorem describe_known {path : KeyPath} {given : Option ScriptType} {described : PathDescription}
    (found : registry.describe path name given = .ok described) (isKnown : described.isKnown = true) :
    ∃ coin levels own chain below, registry.require name = .ok coin ∧ Names coin given levels own chain ∧ Below below ∧
      path = [own, chain, levels.accountIndex].map KeyPath.harden ++ below ∧ described.Tells levels below := by
  cases known : registry.require name with
  | error failure =>
    rw [describe, known] at found
    cases found
  | ok coin =>
    rw [describe_eq known] at found
    cases found
    rcases PathDescription.ofPath_cases coin path given with other | ⟨levels, own, chain, below, names, beneath, rfl⟩
    · rw [other] at isKnown
      cases isKnown
    · exact ⟨coin, levels, own, chain, below, rfl, names, beneath, rfl, PathDescription.ofPath_tells names beneath⟩

theorem isAccount_iff : registry.IsAccount account index ↔ ∃ coin prefork own chain,
    registry.require account.coin = .ok coin ∧
      Names coin (some account.scriptType) ⟨account.scriptType, index, prefork⟩ own chain ∧
      account.path = [own, chain, index].map KeyPath.harden := by
  constructor
  · rintro ⟨described, found, isKnown, whole, indexed⟩
    obtain ⟨coin, ⟨type, number, prefork⟩, own, chain, below, known, names, beneath, path, told⟩ :=
      describe_known found isKnown
    cases told.accountIndex.symm.trans indexed
    cases names.asGiven _ rfl
    have bare := told.wholeAccount.symm.trans whole
    cases beneath with
    | account => exact ⟨coin, prefork, own, chain, known, names, path.trans (List.append_nil _)⟩
    | address => cases bare
  · rintro ⟨coin, prefork, own, chain, known, names, path⟩
    have told := PathDescription.ofPath_tells names .account
    rw [List.append_nil, ← path] at told
    exact ⟨_, describe_eq known _ _, told.isKnown, told.wholeAccount, told.accountIndex⟩

theorem IsAccount.low (whole : registry.IsAccount account index) : index.toNat < 0x80000000 := by
  obtain ⟨_, _, _, _, _, names, _⟩ := isAccount_iff.mp whole
  exact names.low

/-- An account's index may be exchanged for any other. -/
theorem IsAccount.withIndex (whole : registry.IsAccount account index) {other : UInt32}
    (low : other.toNat < 0x80000000) : registry.IsAccount (account.withIndex other) other := by
  obtain ⟨coin, prefork, own, chain, known, names, path⟩ := isAccount_iff.mp whole
  refine isAccount_iff.mpr ⟨coin, prefork, own, chain, known, { names with low }, ?_⟩
  rw [AccountPath.withIndex, path]
  rfl

/-! ### One step -/

theorem toNat_succ (low : index.toNat < 0x80000000) : (index + 1).toNat = index.toNat + 1 := by
  rw [UInt32.toNat_add]
  exact Nat.mod_eq_of_lt (by simp only [UInt32.toNat_one]; omega)

theorem IsAccount.step (whole : registry.IsAccount account index) : registry.nextAccountPath account =
    if index.toNat + 1 < 0x80000000 then some (account.withIndex (index + 1)) else none := by
  obtain ⟨coin, prefork, own, chain, known, names, path⟩ := isAccount_iff.mp whole
  obtain ⟨described, found, isKnown, _⟩ := id whole
  have low := whole.low
  have bound : KeyPath.hardenedBit ≤ index + 1 ↔ ¬ index.toNat + 1 < 0x80000000 := by
    rw [UInt32.le_iff_toNat_le, toNat_succ low, Nat.not_lt]
    rfl
  rw [nextAccountPath, found, path]
  simp only [List.map, KeyPath.unharden_harden low, isKnown, Bool.not_true, Bool.false_or, decide_eq_true_eq, bound]
  by_cases room : index.toNat + 1 < 0x80000000
  · have moved : account.withIndex (index + 1) =
        { account with accountIndex := index + 1, path := [own, chain, index + 1].map KeyPath.harden } := by
      rw [AccountPath.withIndex, path]
      rfl
    obtain ⟨_, further, stillKnown, _⟩ := whole.withIndex (toNat_succ low ▸ room)
    rw [moved] at further
    simp only [List.map] at further moved
    simp only [room, not_true_eq_false, if_false, if_true, further, stillKnown, moved]
  · simp only [room, not_false_eq_true, if_true, if_false]

/-- A known path of three levels is a whole account. -/
theorem isAccount_of_known {purpose slip44 level : UInt32} (path : account.path = [purpose, slip44, level])
    {described : PathDescription}
    (found : registry.describe account.path account.coin (some account.scriptType) = .ok described)
    (isKnown : described.isKnown = true) : ∃ index, registry.IsAccount account index := by
  obtain ⟨_, levels, _, _, below, _, _, beneath, same, told⟩ := describe_known found isKnown
  cases beneath with
  | account => exact ⟨levels.accountIndex, described, found, isKnown, told.wholeAccount, told.accountIndex⟩
  | address => cases path.symm.trans same

/-- There is a step from whole accounts only, and it takes the next index. -/
theorem nextAccountPath_eq_some_iff : registry.nextAccountPath account = some next ↔
    ∃ index, registry.IsAccount account index ∧ index.toNat + 1 < 0x80000000 ∧
      next = account.withIndex (index + 1) := by
  constructor
  · intro stepped
    have whole : ∃ index, registry.IsAccount account index := by
      unfold nextAccountPath at stepped
      split at stepped
      · rename_i described purpose slip44 level found path
        simp only [Option.ite_none_left_eq_some, Bool.or_eq_true, not_or, Bool.not_eq_true',
          Bool.not_eq_false] at stepped
        exact isAccount_of_known path found stepped.1.1
      · cases stepped
    obtain ⟨index, whole⟩ := whole
    rw [whole.step, Option.ite_none_right_eq_some, Option.some.injEq] at stepped
    exact ⟨index, whole, stepped.1, stepped.2.symm⟩
  · rintro ⟨index, whole, room, rfl⟩
    rw [whole.step, if_pos room]

/-! ### Any number of steps -/

/-- The account `count` steps further on. -/
def furtherAccountPath (registry : Registry) : Nat → AccountPath → Option AccountPath
  | 0, account => some account
  | count + 1, account => (registry.furtherAccountPath count account).bind registry.nextAccountPath

/-- A planned account is described as itself. -/
theorem Plans.isAccount (known : registry.require name = .ok coin) (ownLow : coin.slip44.toNat < 0x80000000)
    (plans : registry.Plans name scriptType index account) : registry.IsAccount account index := by
  obtain ⟨low, supported, made⟩ := (plans_iff known).mp plans
  obtain ⟨own, purpose, rfl⟩ := AccountPath.ofScriptType?_eq_some_iff.mp made
  refine isAccount_iff.mpr ⟨coin, false, own, coin.slip44, require_own_name known, ?_, rfl⟩
  refine ⟨purpose, supported, ?_, low, ownLow, .own⟩
  rintro _ ⟨⟩
  rfl

theorem Plans.unique (known : registry.require name = .ok coin) {other : AccountPath}
    (plans : registry.Plans name scriptType index account) (plansOther : registry.Plans name scriptType index other) :
    other = account := by
  obtain ⟨_, _, made⟩ := (plans_iff known).mp plans
  obtain ⟨_, _, madeOther⟩ := (plans_iff known).mp plansOther
  exact Option.some.inj (madeOther.symm.trans made)

theorem Plans.withIndex (known : registry.require name = .ok coin) {other : UInt32}
    (plans : registry.Plans name scriptType index account) (low : other.toNat < 0x80000000) :
    registry.Plans name scriptType other (account.withIndex other) := by
  obtain ⟨_, supported, made⟩ := (plans_iff known).mp plans
  obtain ⟨own, purpose, rfl⟩ := AccountPath.ofScriptType?_eq_some_iff.mp made
  exact (plans_iff known).mpr ⟨low, supported, AccountPath.ofScriptType?_eq_some_iff.mpr ⟨own, purpose, rfl⟩⟩

theorem toNat_ofNat_of_low {count : Nat} (low : count < 0x80000000) : (UInt32.ofNat count).toNat = count :=
  UInt32.toNat_ofNat_of_lt' (Nat.lt_trans low (by decide))

theorem exists_plans (known : registry.require name = .ok coin) (supported : coin.supports scriptType = true)
    (single : scriptType.isMultisig = false) (low : index.toNat < 0x80000000) :
    ∃ account, registry.Plans name scriptType index account := by
  obtain ⟨own, purpose⟩ := ScriptType.exists_purpose_iff.mpr single
  exact ⟨_, (plans_iff known).mpr ⟨low, supported, AccountPath.ofScriptType?_eq_some_iff.mpr ⟨own, purpose, rfl⟩⟩⟩

/-- Steps from a planned account lead to the planned account that many further on. -/
theorem Plans.further (known : registry.require name = .ok coin) (ownLow : coin.slip44.toNat < 0x80000000)
    (plans : registry.Plans name scriptType index account) {count : Nat}
    (room : index.toNat + count < 0x80000000) : ∃ later, registry.furtherAccountPath count account = some later ∧
      registry.Plans name scriptType (.ofNat (index.toNat + count)) later := by
  induction count with
  | zero => exact ⟨account, rfl, by rwa [Nat.add_zero, UInt32.ofNat_toNat]⟩
  | succ count ih =>
    obtain ⟨later, reached, plansLater⟩ := ih (by omega)
    have here : (UInt32.ofNat (index.toNat + count)).toNat = index.toNat + count := toNat_ofNat_of_low (by omega)
    have stepped := (plansLater.isAccount known ownLow).step
    rw [here, if_pos (by omega)] at stepped
    refine ⟨_, ?_, plansLater.withIndex known ((toNat_ofNat_of_low room).trans_lt room)⟩
    rw [furtherAccountPath, reached, Option.bind_some, stepped, ← Nat.add_assoc,
      UInt32.ofNat_add (index.toNat + count)]
    rfl

/-- Behind the last index there is no account. -/
theorem Plans.further_eq_none (known : registry.require name = .ok coin) (ownLow : coin.slip44.toNat < 0x80000000)
    (plans : registry.Plans name scriptType index account) {count : Nat}
    (beyond : 0x80000000 ≤ index.toNat + count) : registry.furtherAccountPath count account = none := by
  induction count with
  | zero =>
    have low := ((plans_iff known).mp plans).1
    omega
  | succ count ih =>
    rw [furtherAccountPath]
    by_cases room : index.toNat + count < 0x80000000
    · obtain ⟨later, reached, plansLater⟩ := plans.further known ownLow room
      rw [reached, Option.bind_some, (plansLater.isAccount known ownLow).step, if_neg]
      rw [toNat_ofNat_of_low room]
      omega
    · rw [ih (by omega)]
      rfl

/-- The account `account` is the one that is planned for the type and the index. -/
def PlansOnly (registry : Registry) (name : String) (scriptType : ScriptType) (index : UInt32)
    (account : AccountPath) : Prop :=
  ∀ other, registry.Plans name scriptType index other ↔ other = account

/-- There is a step exactly from whole accounts below the last index. It changes the index and nothing else, and leads
to a whole account again; so steps from a planned account go through the planned accounts up to the last. -/
theorem nextAccountPath_exact :
    (∀ (registry : Registry) (account : AccountPath),
      ((∃ next, registry.nextAccountPath account = some next) ↔
        ∃ index, registry.IsAccount account index ∧ index.toNat < 0x80000000 - 1) ∧
      ∀ next, registry.nextAccountPath account = some next → ∃ index, registry.IsAccount account index ∧
        registry.IsAccount next next.accountIndex ∧ next.accountIndex.toNat = index.toNat + 1 ∧
        next.path = account.path.set 2 (KeyPath.harden next.accountIndex) ∧
        next.coin = account.coin ∧ next.purpose = account.purpose ∧ next.scriptType = account.scriptType ∧
        ∀ slip44, account.path = [account.purpose, slip44, account.accountIndex].map KeyPath.harden →
          next.path = [next.purpose, slip44, next.accountIndex].map KeyPath.harden) ∧
    ∀ (registry : Registry) name coin, registry.require name = .ok coin → coin.slip44.toNat < 0x80000000 →
      ∀ scriptType, coin.supports scriptType = true → scriptType.isMultisig = false →
      ∀ n k : Nat, n < 0x80000000 → ∃ account, registry.PlansOnly name scriptType (.ofNat n) account ∧
        (n + k < 0x80000000 → ∃ later, registry.furtherAccountPath k account = some later ∧
          registry.PlansOnly name scriptType (.ofNat (n + k)) later) ∧
        (0x80000000 ≤ n + k → registry.furtherAccountPath k account = none) := by
  refine ⟨fun registry account => ⟨?_, fun next stepped => ?_⟩, ?_⟩
  · simp only [nextAccountPath_eq_some_iff]
    constructor
    · rintro ⟨_, index, whole, room, rfl⟩
      exact ⟨index, whole, by omega⟩
    · rintro ⟨index, whole, room⟩
      exact ⟨_, index, whole, by omega, rfl⟩
  · obtain ⟨index, whole, room, rfl⟩ := nextAccountPath_eq_some_iff.mp stepped
    have raised := toNat_succ whole.low
    refine ⟨index, whole, whole.withIndex (raised ▸ room), raised, rfl, rfl, rfl, rfl, fun slip44 path => ?_⟩
    rw [AccountPath.withIndex, path]
    rfl
  · intro registry name coin known ownLow scriptType supported single n k low
    have here := toNat_ofNat_of_low low
    obtain ⟨account, plans⟩ := exists_plans known supported single (here.symm ▸ low)
    have only {index : UInt32} {account : AccountPath} (plans : registry.Plans name scriptType index account) :
        registry.PlansOnly name scriptType index account :=
      fun other => ⟨plans.unique known, fun same => same ▸ plans⟩
    refine ⟨account, only plans, fun room => ?_, fun beyond => ?_⟩
    · obtain ⟨later, reached, plansLater⟩ := plans.further known ownLow (here.symm ▸ room)
      exact ⟨later, reached, only (here ▸ plansLater)⟩
    · exact plans.further_eq_none known ownLow (here.symm ▸ beyond)

/-- Two steps from the third last account of Bitcoin lead to the last, and three lead nowhere. -/
theorem nextAccountPath_exact_last : ∃ account later, builtin.PlansOnly "Bitcoin" .p2wpkh 0x7ffffffd account ∧
    builtin.furtherAccountPath 2 account = some later ∧ builtin.PlansOnly "Bitcoin" .p2wpkh 0x7fffffff later ∧
      builtin.furtherAccountPath 3 account = none := by
  have known : builtin.require "Bitcoin" =
      .ok ⟨"Bitcoin", 0, 0x00, 0x05, some "bc", none, none, segwitTypes, []⟩ := by decide
  have steps := nextAccountPath_exact.2 builtin "Bitcoin" _ known (by decide) .p2wpkh (by decide) (by decide) 0x7ffffffd
  obtain ⟨account, only, within, _⟩ := steps 2 (by decide)
  obtain ⟨again, onlyToo, _, beyond⟩ := steps 3 (by decide)
  obtain ⟨later, reached, last⟩ := within (by decide)
  cases (onlyToo account).mp ((only account).mpr rfl)
  exact ⟨account, later, only, reached, last, beyond (by decide)⟩

end Registry

end CoinSpend
