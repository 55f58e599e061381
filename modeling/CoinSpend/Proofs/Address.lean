import Mathlib.Data.Option.Basic
import CoinSpend.Address
import CoinSpend.Proofs.Failure
import CoinSpend.Proofs.Script.Instructions

/-! Whatever an address is made of, its target is a hash of twenty or thirty-two bytes, and its script is short. -/
namespace CoinSpend

namespace Coin

variable {coin : Coin} {address : String} {target : AddressTarget}

theorem segwitTarget?_hash (found : coin.segwitTarget? address = some target) :
    target.hash.length = 20 ∨ target.hash.length = 32 := by
  simp only [segwitTarget?, Segwit.decode?, Option.bind_eq_bind, Option.bind_eq_some_iff] at found
  obtain ⟨hrp, _, _, _, program, ⟨⟨lead, symbols⟩, _, _, _, checked⟩, same⟩ := found
  cases same
  cases symbols with
  | nil => cases checked
  | cons version rest =>
    simp only [Option.bind_eq_some_iff] at checked
    obtain ⟨_, _, bytes, _, _, sized, same⟩ := checked
    cases same
    simpa using (Option.guard_eq_some' _).mp sized

theorem cashAddrTarget?_hash (found : coin.cashAddrTarget? address = some target) :
    target.hash.length = 20 := by
  simp only [cashAddrTarget?, Option.bind_eq_bind, Option.bind_eq_some_iff] at found
  obtain ⟨lead, _, ⟨kind, hash⟩, _, _, sized, same⟩ := found
  cases same
  simpa using (Option.guard_eq_some' _).mp sized

theorem base58Target?_hash (found : coin.base58Target? address = some target) :
    target.hash.length = 20 := by
  simp only [base58Target?, Option.bind_eq_bind, Option.bind_eq_some_iff] at found
  obtain ⟨⟨version, hash⟩, _, _, sized, chosen⟩ := found
  have length : hash.length = 20 := by simpa using (Option.guard_eq_some' _).mp sized
  split at chosen
  · cases chosen
    exact length
  · split at chosen
    · cases chosen
      exact length
    · cases chosen

theorem classify_hash (classified : coin.classify address = .ok target) :
    target.hash.length = 20 ∨ target.hash.length = 32 := by
  simp only [classify, Option.orElse_eq_orElse, Option.orElse_eq_or] at classified
  split at classified
  · rename_i found chosen
    cases classified
    rcases Option.or_eq_some_iff.mp chosen with segwit | ⟨_, others⟩
    · exact segwitTarget?_hash segwit
    · rcases Option.or_eq_some_iff.mp others with cashAddr | ⟨_, base58⟩
      · exact .inl (cashAddrTarget?_hash cashAddr)
      · exact .inl (base58Target?_hash base58)
  · cases classified

theorem unrecognized_of_classify {failure : Failure}
    (failed : coin.classify address = .error failure) : failure.code = .unrecognizedAddressFormat := by
  unfold classify at failed
  dsimp only at failed
  split at failed
  · cases failed
  · cases failed
    rfl

end Coin

/-- The script pays to the target, byte by byte. -/
def AddressTarget.PaidBy (target : AddressTarget) (script : Bytes) : Prop :=
  match target.kind with
  | .p2pkh | .cashAddrP2pkh => script = [0x76, 0xa9, target.hash.length.toUInt8] ++ target.hash ++ [0x88, 0xac]
  | .p2sh | .cashAddrP2sh => script = [0xa9, target.hash.length.toUInt8] ++ target.hash ++ [0x87]
  | .p2wpkh | .p2wsh => script = [0x00, target.hash.length.toUInt8] ++ target.hash

theorem AddressTarget.paidBy_script {target : AddressTarget} (short : target.hash.length < 0x4c) :
    target.PaidBy target.script := by
  unfold PaidBy script Script.p2pkh Script.p2sh Script.witnessV0
  rw [Script.push_short short]
  cases target.kind <;> rfl

theorem AddressTarget.length_script_le (target : AddressTarget) :
    target.script.length ≤ target.hash.length + 9 := by
  unfold AddressTarget.script
  split
  · exact Script.length_p2pkh_le _
  · exact Script.length_p2pkh_le _
  · exact Nat.le_trans (Script.length_p2sh_le _) (by omega)
  · exact Nat.le_trans (Script.length_p2sh_le _) (by omega)
  · exact Nat.le_trans (Script.length_witnessV0_le _) (by omega)
  · exact Nat.le_trans (Script.length_witnessV0_le _) (by omega)

end CoinSpend
