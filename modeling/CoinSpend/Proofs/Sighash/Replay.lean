import CoinSpend.Coin.Registry
import CoinSpend.Proofs.Sighash.Amount

/-! When a signature for one coin is none for another. The hash type at the end of every pre-image tells coins with a
fork id from those without, and fork ids from each other as far as their low twenty-four bits go. -/
namespace CoinSpend

namespace Coin

/-- The fork id as the hash type carries it. -/
def keptForkId (coin : Coin) : Option UInt32 := coin.forkId.map (· % 0x1000000)

theorem toNat_flags_or_shift (forkId : UInt32) :
    (sighashAll ||| sighashForkId ||| (forkId <<< 8)).toNat = 65 + 256 * (forkId.toNat % 0x1000000) := by
  have shifted : (forkId <<< 8).toNat = forkId.toNat <<< 8 % UInt32.size := by simp
  have moved : forkId.toNat <<< 8 % UInt32.size = (forkId.toNat % 0x1000000) <<< 8 := by
    rw [Nat.shiftLeft_eq, Nat.shiftLeft_eq]
    simp only [UInt32.size]
    omega
  have flags : (sighashAll ||| sighashForkId).toNat = 65 := by decide
  have apart := Nat.shiftLeft_add_eq_or_of_lt (by decide : 65 < 2 ^ 8) (forkId.toNat % 0x1000000)
  rw [UInt32.toNat_or, flags, shifted, moved, Nat.or_comm, ← apart, Nat.shiftLeft_eq]
  omega

theorem sighashType_eq_iff {coin other : Coin} :
    coin.sighashType = other.sighashType ↔ coin.keptForkId = other.keptForkId := by
  have flagged (forkId : UInt32) : sighashAll ≠ sighashAll ||| sighashForkId ||| (forkId <<< 8) := by
    intro same
    have value := congrArg UInt32.toNat same
    rw [toNat_flags_or_shift] at value
    have all : sighashAll.toNat = 1 := rfl
    omega
  have kept (forkId otherId : UInt32) : sighashAll ||| sighashForkId ||| (forkId <<< 8) =
      sighashAll ||| sighashForkId ||| (otherId <<< 8) ↔ forkId % 0x1000000 = otherId % 0x1000000 := by
    rw [← UInt32.toNat_inj, ← UInt32.toNat_inj, toNat_flags_or_shift, toNat_flags_or_shift, UInt32.toNat_mod,
      UInt32.toNat_mod]
    have modulus : (0x1000000 : UInt32).toNat = 0x1000000 := rfl
    rw [modulus]
    omega
  unfold sighashType keptForkId
  cases coin.forkId with
  | none =>
    cases other.forkId with
    | none => simp
    | some otherId => simpa using flagged otherId
  | some forkId =>
    cases other.forkId with
    | none => simpa using (flagged forkId).symm
    | some otherId => simpa using kept forkId otherId

end Coin

namespace Sighash

theorem Kind.select_eq_of_keptForkId {coin other : Coin} (same : coin.keptForkId = other.keptForkId)
    (scriptType : ScriptType) : select coin scriptType = select other scriptType := by
  have uses := congrArg Option.isSome same
  simp only [Coin.keptForkId, Option.isSome_map] at uses
  unfold select Coin.usesForkId
  rw [uses]

/-- Both layouts end with the hash type. -/
theorem preimage_ends {tx : Transaction} {hashType : UInt32} {index : Nat} {spent : Spent} {image : Bytes}
    (made : preimage tx hashType index spent = .ok image) :
    ∃ front, image = front ++ littleEndian 4 hashType.toNat := by
  unfold preimage at made
  split at made
  · unfold legacyPreimage at made
    split at made
    · cases made
    · split at made
      · cases made
      · cases made
        exact ⟨_, rfl⟩
  · cases made
  · unfold amountPreimage at made
    split at made
    · cases made
    · cases made
      exact ⟨_, rfl⟩

/-- Two coins give an input the same pre-image just if neither has a fork id or both have one with the same low
twenty-four bits. So fork ids that differ below keep signatures apart, and ones that differ above do not. -/
theorem preimage_shared_iff {coin other : Coin} {tx : Transaction} {index : Nat} {scriptType : ScriptType}
    {code image otherImage : Bytes} {amount : Option UInt64}
    (made : preimage tx coin.sighashType index ⟨.select coin scriptType, code, amount⟩ = .ok image)
    (otherMade : preimage tx other.sighashType index ⟨.select other scriptType, code, amount⟩ = .ok otherImage) :
    image = otherImage ↔ coin.keptForkId = other.keptForkId := by
  constructor
  · rintro rfl
    obtain ⟨front, ends⟩ := preimage_ends made
    obtain ⟨otherFront, otherEnds⟩ := preimage_ends otherMade
    have types := (List.append_inj' (ends.symm.trans otherEnds) (by simp)).2
    apply Coin.sighashType_eq_iff.mp
    exact (Wire.reads_uint32 coin.sighashType).unique (types ▸ Wire.reads_uint32 other.sighashType)
  · intro same
    rw [Coin.sighashType_eq_iff.mpr same, Kind.select_eq_of_keptForkId same] at made
    exact Except.ok.inj (made.symm.trans otherMade)

namespace Forks

/-- A coin that signs with a fork id. -/
def coin (name : String) (forkId : UInt32) : Coin where
  name := name
  slip44 := 145
  keyVersion := 0x00
  scriptVersion := 0x05
  hrp := none
  cashAddrLead := none
  forkId := some forkId
  scriptTypes := [.p2pkh]
  preforkSlip44 := []

def near : Coin := coin "Near" 0

def far : Coin := coin "Far" 0x1000000

theorem preimage_ok (name : String) (forkId : UInt32) : ∃ image,
    preimage TwoInputs.tx (coin name forkId).sighashType 0
      ⟨.select (coin name forkId) .p2pkh, TwoInputs.script, some 1000⟩ = .ok image :=
  ⟨_, rfl⟩

end Forks

/-- Fork ids of one byte are kept apart. -/
theorem preimage_shared_iff_sample : ∃ image otherImage,
    preimage TwoInputs.tx Forks.near.sighashType 0
      ⟨.select Forks.near .p2pkh, TwoInputs.script, some 1000⟩ = .ok image ∧
    preimage TwoInputs.tx (Forks.coin "Next" 79).sighashType 0
      ⟨.select (Forks.coin "Next" 79) .p2pkh, TwoInputs.script, some 1000⟩ = .ok otherImage ∧ image ≠ otherImage := by
  obtain ⟨image, made⟩ := Forks.preimage_ok "Near" 0
  obtain ⟨otherImage, otherMade⟩ := Forks.preimage_ok "Next" 79
  refine ⟨image, otherImage, made, otherMade, fun same => ?_⟩
  exact absurd ((preimage_shared_iff made otherMade).mp same) (by decide)

/-- The registry takes both coins, and their fork ids differ. But they differ in the top byte only, and what is signed
for one coin is signed for the other. -/
theorem replayed_across_fork_ids :
    (Registry.builtin.insertAll [Forks.near, Forks.far]).isOk = true ∧ Forks.near.forkId ≠ Forks.far.forkId ∧
      ∃ image,
        preimage TwoInputs.tx Forks.near.sighashType 0
          ⟨.select Forks.near .p2pkh, TwoInputs.script, some 1000⟩ = .ok image ∧
        preimage TwoInputs.tx Forks.far.sighashType 0
          ⟨.select Forks.far .p2pkh, TwoInputs.script, some 1000⟩ = .ok image := by
  obtain ⟨image, made⟩ := Forks.preimage_ok "Near" 0
  have types : Forks.far.sighashType = Forks.near.sighashType := by decide
  refine ⟨by decide +kernel, by decide, image, made, ?_⟩
  rw [types]
  exact made

end Sighash

end CoinSpend
