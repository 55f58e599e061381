import CoinSpend.Proofs.Account.Recognition

/-! The type of a path, given or read off its purpose. A given type decides only whether it is the one that the purpose
stands for: then the description is the one without a given type, and otherwise the path is not recognized. -/
namespace CoinSpend

namespace PathDescription

variable {coin : Coin} {path : KeyPath} {scriptType : ScriptType} {levels : AccountLevels} {own chain : UInt32}

/-- Levels that name an account of a given type name it without the type, and no other type could be given. -/
theorem names_given_iff :
    Names coin (some scriptType) levels own chain ↔ Names coin none levels own chain ∧ levels.scriptType = scriptType := by
  constructor
  · intro names
    exact ⟨{ names with asGiven := nofun }, (names.asGiven scriptType rfl).symm⟩
  · rintro ⟨names, rfl⟩
    refine { names with asGiven := ?_ }
    rintro _ ⟨⟩
    rfl

theorem accountLevels?_given {purpose slip44 account : UInt32} :
    accountLevels? coin purpose slip44 account (some scriptType) =
      (accountLevels? coin purpose slip44 account none).filter (·.scriptType = scriptType) := by
  ext levels
  simp only [Option.filter_eq_some_iff, decide_eq_true_eq, accountLevels?_eq_some_iff, names_given_iff]
  constructor
  · rintro ⟨own, chain, ⟨names, type⟩, same⟩
    exact ⟨⟨own, chain, names, same⟩, type⟩
  · rintro ⟨⟨own, chain, names, same⟩, type⟩
    exact ⟨own, chain, ⟨names, type⟩, same⟩

/-- What a given type changes in a description. -/
theorem ofPath_given (coin : Coin) (path : KeyPath) (scriptType : ScriptType) :
    ofPath coin path (some scriptType) =
      if (ofPath coin path none).scriptType = some scriptType then ofPath coin path none
      else unknown coin path (some scriptType) := by
  fun_cases ofPath coin path none with
  | case1 purpose slip44 index levels read =>
    simp only [ofPath, accountLevels?_given, read, Option.filter_some, decide_eq_true_eq]
    by_cases type : levels.scriptType = scriptType <;> simp [account, type]
  | case4 purpose slip44 index change addressIndex levels read plain =>
    simp only [ofPath, accountLevels?_given, read, Option.filter_some, decide_eq_true_eq]
    by_cases type : levels.scriptType = scriptType <;> simp [address, account, type, plain]
  -- an unrecognized path has no type of its own, so whichever is given is left to stand in its description
  | case2 purpose slip44 index read => simp [ofPath, accountLevels?_given, read, unknown]
  | case3 purpose slip44 index change addressIndex levels read out =>
    simp only [ofPath, accountLevels?_given, read, Option.filter_some, decide_eq_true_eq]
    by_cases type : levels.scriptType = scriptType <;> simp [unknown, type, out]
  | case5 purpose slip44 index change addressIndex read => simp [ofPath, accountLevels?_given, read, unknown]
  | case6 path short long => simp [ofPath, unknown]

/-- Without a given type, a description tells one just if the path is recognized. -/
theorem isKnown_iff_exists_type : (ofPath coin path none).isKnown = true ↔
    ∃ scriptType, (ofPath coin path none).scriptType = some scriptType := by
  rcases ofPath_cases coin path none with other | ⟨levels, own, chain, below, names, beneath, rfl⟩
  · rw [other]
    simp [unknown]
  · have told := ofPath_tells names beneath
    exact ⟨fun _ => ⟨_, told.scriptType⟩, fun _ => told.isKnown⟩

theorem isKnown_given_iff : (ofPath coin path (some scriptType)).isKnown = true ↔
    (ofPath coin path none).scriptType = some scriptType := by
  rw [ofPath_given]
  by_cases type : (ofPath coin path none).scriptType = some scriptType
  · rw [if_pos type]
    exact ⟨fun _ => type, fun _ => isKnown_iff_exists_type.mpr ⟨scriptType, type⟩⟩
  · rw [if_neg type]
    simp [unknown, type]

end PathDescription

namespace Registry

variable {registry : Registry} {name : String} {coin : Coin}

/-- A path is recognized without a given type just if it is with one. This type is the only one, it is the one that the
description without a given type reports, and both descriptions are the same to the word. -/
theorem describe_inferred (known : registry.require name = .ok coin) (path : KeyPath) :
    ∃ described : Option ScriptType → PathDescription,
      (∀ given, registry.describe path name given = .ok (described given)) ∧
      ((described none).isKnown = true ↔ ∃ scriptType, (described (some scriptType)).isKnown = true) ∧
      ((described none).isKnown = true → ∃! scriptType, (described (some scriptType)).isKnown = true) ∧
      ∀ scriptType, (described (some scriptType)).isKnown = true →
        (described none).scriptType = some scriptType ∧ described (some scriptType) = described none := by
  have types : (PathDescription.ofPath coin path none).isKnown = true ↔
      ∃ scriptType, (PathDescription.ofPath coin path (some scriptType)).isKnown = true := by
    simp only [PathDescription.isKnown_given_iff, PathDescription.isKnown_iff_exists_type]
  refine ⟨PathDescription.ofPath coin path, describe_eq known path, types, fun recognized => ?_,
    fun scriptType recognized => ?_⟩
  · obtain ⟨scriptType, recognizedToo⟩ := types.mp recognized
    refine ⟨scriptType, recognizedToo, fun other recognizedAs => ?_⟩
    rw [PathDescription.isKnown_given_iff] at recognizedToo recognizedAs
    exact Option.some.inj (recognizedAs.symm.trans recognizedToo)
  · have type := PathDescription.isKnown_given_iff.mp recognized
    exact ⟨type, (PathDescription.ofPath_given coin path scriptType).trans (if_pos type)⟩

/-- The purpose 84 stands for native segwit, and the path is on a chain that the coin split from. -/
theorem describe_inferred_ancestor : ∃ described,
    builtin.describe ([84, 0, 3].map KeyPath.harden ++ [1, 7]) "BitcoinGold" none = .ok described ∧
      builtin.describe ([84, 0, 3].map KeyPath.harden ++ [1, 7]) "BitcoinGold" (some .p2wpkh) = .ok described ∧
        described.isKnown = true ∧ described.scriptType = some .p2wpkh := by
  have known : builtin.require "BitcoinGold" =
      .ok ⟨"BitcoinGold", 156, 0x26, 0x17, some "btg", none, some 79, segwitTypes, [0]⟩ := by decide
  obtain ⟨described, found, _, _, agrees⟩ := describe_inferred known ([84, 0, 3].map KeyPath.harden ++ [1, 7])
  have recognized : ((builtin.describe ([84, 0, 3].map KeyPath.harden ++ [1, 7]) "BitcoinGold"
      (some .p2wpkh)).toOption.any (·.isKnown)) = true := by decide
  rw [found] at recognized
  obtain ⟨type, same⟩ := agrees .p2wpkh recognized
  exact ⟨_, found none, same ▸ found (some .p2wpkh), same ▸ recognized, type⟩

end Registry

end CoinSpend
