import CoinSpend.Proofs.Address.Classification

/-! The address of a key is read back as the script that the key is spent with. -/
namespace CoinSpend

/-- A coin whose addresses can be read back: no blank stands at the front of its CashAddr addresses either. -/
structure Coin.Derivable (coin : Coin) : Prop extends coin.Distinct where
  solid : ∀ lead ∈ coin.cashAddrLead, ∀ c ∈ lead.toList.head?, Text.isBlank c = false

theorem Registry.builtin_derivable : ∀ coin ∈ builtin.coins, coin.Derivable := by
  have checked : ∀ coin ∈ builtin.coins, coin.keyVersion ≠ coin.scriptVersion ∧
      (∀ hrp ∈ coin.hrp, Text.lowered hrp.toList = hrp.toList) ∧
      ∀ lead ∈ coin.cashAddrLead, (Text.lowered lead.toList = lead.toList ∧ ':' ∉ lead.toList) ∧
        lead.toList.head?.any Text.isBlank = false := by decide
  intro coin member
  obtain ⟨versions, hrp, leads⟩ := checked coin member
  refine ⟨⟨versions, hrp, fun lead own => (leads lead own).1⟩, fun lead own c first => ?_⟩
  have solid := (leads lead own).2
  rwa [Option.mem_def.mp first, Option.any_some] at solid

namespace Coin

variable {coin : Coin} {hash : Octets 20} {scriptType : ScriptType} {address : String}

/-- The address of a key hash is written for the script of that hash. -/
theorem addressOfHash_writes (derivable : coin.Derivable)
    (derived : coin.addressOfHash hash scriptType = .ok address) :
    Text.trim address = address ∧ ∃ target, coin.Writes address target ∧ target.kind.fits scriptType = true ∧
      Script.forKey hash scriptType = .ok target.script := by
  have size := hash.length_bytes
  cases scriptType with
  | p2pkh =>
    cases own : coin.cashAddrLead with
    | none =>
      simp only [addressOfHash, own] at derived
      cases derived
      exact ⟨Base58.trim_encodeCheck _ _, ⟨.p2pkh, hash.bytes⟩, .inr (.inr ⟨size, .inl ⟨rfl, rfl⟩⟩), rfl, rfl⟩
    | some lead =>
      simp only [addressOfHash, own, mapError_eq_ok] at derived
      have lower := CashAddr.lowered_encode (derivable.lead lead own).1 derived
      refine ⟨CashAddr.trim_encode (derivable.solid lead own) derived, ⟨.cashAddrP2pkh, hash.bytes⟩, .inr (.inl ?_),
        rfl, rfl⟩
      exact ⟨lead, own, Text.mixesCase_eq_false_of_lowered lower, size, .p2pkh, rfl, address, derived,
        .inl (Text.lower_eq_self lower).symm⟩
  | p2shP2wpkh =>
    cases derived
    refine ⟨Base58.trim_encodeCheck _ _, ⟨.p2sh, (hash160 (Script.witnessV0 hash.bytes)).bytes⟩, .inr (.inr ?_), rfl, rfl⟩
    exact ⟨(hash160 _).length_bytes, .inr ⟨rfl, rfl⟩⟩
  | p2wpkh =>
    cases own : coin.hrp with
    | none =>
      simp only [addressOfHash, own] at derived
      cases derived
    | some hrp =>
      simp only [addressOfHash, own] at derived
      have lead := derivable.hrp hrp own
      have lower := Segwit.lowered_encode lead (.inl size) derived
      refine ⟨Segwit.trim_encode lead (.inl size) derived, ⟨.p2wpkh, hash.bytes⟩, .inl ?_, rfl, rfl⟩
      refine ⟨hrp, own, Text.mixesCase_eq_false_of_lowered lower, ?_, .inl ⟨rfl, size⟩⟩
      rw [Text.lower_eq_self lower]
      exact derived
  | p2sh => cases derived
  | p2wsh => cases derived
  | p2shP2wsh => cases derived

/-- An address that is derived from a key pays to the script that the key is spent with, on every coin whose addresses
can be told apart, as those of the built-in coins can. -/
theorem address_pays_key :
    (∀ coin ∈ Registry.builtin.coins, coin.Derivable) ∧
      ∀ (coin : Coin) (publicKey : Bytes) (scriptType : ScriptType) (address : String),
        coin.Derivable → coin.address publicKey scriptType = .ok address →
          ∃ key target, PublicKey.compress publicKey = .ok key ∧ coin.classify address = .ok target ∧
            target.kind.fits scriptType = true ∧ Script.forKey (hash160 key.bytes) scriptType = .ok target.script := by
  refine ⟨Registry.builtin_derivable, fun coin publicKey scriptType address derivable derived => ?_⟩
  unfold Coin.address at derived
  split at derived
  · obtain ⟨key, compressed, derived⟩ := bind_eq_ok.mp derived
    obtain ⟨solid, target, writes, fits, script⟩ := addressOfHash_writes derivable derived
    refine ⟨key, target, mapError_eq_ok.mp compressed, ?_, fits, script⟩
    rw [classify_eq_ok_iff derivable.toDistinct, solid]
    exact writes
  · cases derived

/-- A key in 33 bytes, as a number. -/
def sampleKey : Nat := 0x023230848585885f63803a0a8aecdd6538792d5c539215c91698e315bf0253b43d

theorem address_pays_key_sample : ∃ key target, PublicKey.compress (bigEndian 33 sampleKey) = .ok key ∧
    bitcoin.classify "bc1qyjjkmdpu7metqt5r36jf872a34syws33s82q2j" = .ok target ∧
    target.script = Script.witnessV0 (hash160 key.bytes).bytes := by
  have derived : (bitcoin.address (bigEndian 33 sampleKey) .p2wpkh).toOption =
      some "bc1qyjjkmdpu7metqt5r36jf872a34syws33s82q2j" := by decide +kernel
  have derivable : bitcoin.Derivable := address_pays_key.1 _ (List.head_mem _)
  obtain ⟨key, target, compressed, classified, _, script⟩ :=
    address_pays_key.2 _ _ _ _ derivable (toOption_eq_some_iff.mp derived)
  exact ⟨key, target, compressed, classified, (Except.ok.inj script).symm⟩

end Coin

end CoinSpend
