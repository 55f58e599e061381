import CoinSpend.Proofs.Signing.Acceptance
import CoinSpend.Proofs.Signing.Soundness

/-! The fee of a signed transaction, as far as the signer can know it. The amounts it is counted from are those that the
signatures cover or that earlier transactions show, so that a request cannot make the fee look smaller than it is. -/
namespace CoinSpend

namespace Sighash

/-- How long the version, the two hashes and the outpoint are that come before the script code. -/
def scriptCodeStart : Nat := 4 + 32 + 32 + 36

/-- The amount in a pre-image of the layout of BIP-143, read from behind the script code. -/
def committedAmount (image : Bytes) : Except Wire.Error UInt64 := do
  let (_, behind) ← Wire.readSized (image.drop scriptCodeStart)
  let (amount, _) ← Wire.Reader.uint64 behind
  return amount

theorem committedAmount_of_preimage {tx : Transaction} {hashType : UInt32} {index : Nat} {kind : Kind}
    {code image : Bytes} {amount : UInt64} (other : kind ≠ .legacy) (short : code.length < UInt64.size)
    (made : preimage tx hashType index ⟨kind, code, some amount⟩ = .ok image) :
    committedAmount image = .ok amount := by
  have layout : ∃ before behind : Bytes, before.length = scriptCodeStart ∧
      image = before ++ (Wire.sized code ++ (littleEndian 8 amount.toNat ++ behind)) := by
    have written : amountPreimage tx hashType index code amount = .ok image := by
      cases kind with
      | legacy => exact absurd rfl other
      | witnessV0 | forkId => exact made
    unfold amountPreimage at written
    split at written
    · cases written
    · rename_i input _
      refine ⟨tx.versionBytes ++ (hashPrevouts tx).bytes ++ (hashSequence tx).bytes ++ input.outpoint.bytes,
        littleEndian 4 input.sequence.toNat ++ ((hashOutputs tx).bytes ++ (tx.lockTimeBytes ++
          littleEndian 4 hashType.toNat)), ?_, ?_⟩
      · simp only [List.length_append, Transaction.versionBytes, Outpoint.bytes, length_littleEndian,
          Octets.length_bytes]
        rfl
      · rw [← Except.ok.inj written]
        simp only [List.append_assoc]
  obtain ⟨before, behind, size, rfl⟩ := layout
  have read := Wire.reads_uint64 amount behind
  rw [committedAmount, List.drop_left' size]
  exact bind_eq_ok.mpr ⟨_, Wire.reads_sized short _, bind_eq_ok.mpr ⟨_, read, rfl⟩⟩

end Sighash

/-- The amount is one that the fee may count for an input: the pre-image whose digest the call has signed carries it,
unless the layout is the legacy one, which needs the earlier transaction; and the earlier transaction, if it is given,
shows it in an output that is locked to the input's key. -/
structure RequestedInput.Counts (requested : RequestedInput) (coin : Coin) (config : SigningConfig) (tx : Transaction)
    (index : Nat) (key : Octets 33) (call : Exchange) (amount : UInt64) : Prop where
  covered : ∃ image algorithm payload response, algorithm = (config.payloadHashingFor coin.name).algorithm ∧
    call = .signature requested.path payload algorithm response ∧ Signing.Digests algorithm image payload ∧
      requested.HasPreimage coin tx index key image ∧
      (Sighash.Kind.select coin requested.scriptType ≠ .legacy → Sighash.committedAmount image = .ok amount)
  given : Sighash.Kind.select coin requested.scriptType = .legacy → ∃ raw, requested.rawPrevTx = some raw
  shown : ∀ raw, requested.rawPrevTx = some raw → ∃ earlier output, RawOutput raw requested.vout earlier output ∧
    output.value = amount ∧ Script.forKey (hash160 key.bytes) requested.scriptType = .ok output.script ∧
    (config.verifyPrevTxHash = true → ∃ input, tx.inputs[index]? = some input ∧
      input.outpoint.txid = sha256d earlier.baseBytes)

namespace Signing

variable {registry : Registry} {config : SigningConfig} {request : SigningRequest} {before after : KeyCache}
  {work : Work} {signed : List (Signature × TxIn)} {calls : List Exchange}

/-- The amount that validation took down for an input may be counted. -/
theorem Signs.counts {requested : RequestedInput} {coin : Coin} {unsigned tx : Transaction} {index : Nat}
    {input : PreparedInput} {key : Octets 33} {one : Signature × TxIn} {call : Exchange} {image : Bytes}
    (signs : Signs coin config unsigned index input key one call image)
    (prepares : Prepares coin config requested input) (inside : index < unsigned.inputs.length)
    (stripped : tx.stripped = unsigned) (found : tx.inputs[index]? = some one.2) :
    requested.Counts coin config tx index key call input.amount := by
  have kind : Sighash.Kind.select coin requested.scriptType = input.kind := by
    rw [prepares.kind, prepares.scriptType]
  obtain ⟨made, locked⟩ := preimage_ok prepares inside signs.hashed
  constructor
  · obtain ⟨algorithm, response, _, chosen, rfl, _⟩ := signs.answered
    have covers := signs.hasPreimage prepares inside
    rw [← stripped] at covers
    refine ⟨image, algorithm, _, response, chosen, by rw [prepares.path], digests_payload algorithm image,
      covers.of_stripped, fun other => ?_⟩
    rw [kind] at other
    have short : (Script.p2pkh (hash160 key.bytes).bytes).length < UInt64.size := by
      refine Nat.lt_of_le_of_lt (Script.length_p2pkh_le _) ?_
      rw [Octets.length_bytes]
      decide
    exact Sighash.committedAmount_of_preimage other short made
  · intro legacy
    obtain ⟨script, known⟩ := prepares.known (kind ▸ legacy)
    have spends := prepares.spends
    rw [known] at spends
    obtain ⟨raw, _, given, _⟩ := spends.from_raw
    exact ⟨raw, given⟩
  · intro raw given
    have spends := prepares.spends
    rw [RequestedInput.Spends, given] at spends
    obtain ⟨spent, looked, amount, script⟩ := spends
    obtain ⟨earlier, output, has, rfl⟩ := spentOutput_iff.mp looked
    refine ⟨earlier, output, has, amount.symm, ?_, fun verifies => ⟨one.2, found, ?_⟩⟩
    · rw [← prepares.scriptType]
      exact locked output.script script
    · have named := prepares.named verifies raw _ given looked
      rw [(unlock_ok signs.unlocked).1, ← Octets.reverse_reverse input.outpoint.txid, ← named]
      exact Octets.reverse_reverse _

end Signing

namespace Session

open Signing

/-- The fee is what the transaction leaves over of amounts each of which may be counted for its input. The calls that
cover them are those that the oracle was asked. -/
theorem sign_fee {σ : Type} (session : Session) (registry : Registry) (config : SigningConfig) (oracle : Oracle σ)
    (memory : σ) (request : SigningRequest) (cache : KeyCache) (signal : CancelSignal) {signed : SignedTransaction}
    (returned : (session.sign registry config oracle memory request cache signal).result = some (.ok signed)) :
    let attempt := session.sign registry config oracle memory request cache signal
    ∃ coin tx amounts, registry.require request.coin = .ok coin ∧
      Wire.Reader.whole Wire.readTransaction signed.bytes = .ok tx ∧
      oracle.Replays memory attempt.exchanges attempt.oracle ∧
      tx.outputs.map (·.value) = request.outputs.map (·.amount) ∧
      amounts.length = request.inputs.length ∧
      Validation.exactSum amounts = signed.fee + Validation.exactSum (tx.outputs.map (·.value)) ∧
      ∀ (index : Nat) requested amount, request.inputs[index]? = some requested → amounts[index]? = some amount →
        ∃ key call, attempt.cache.find? requested.path = some key ∧
          (attempt.exchanges.filter Exchange.isSignature)[index]? = some call ∧
          requested.Counts coin config tx index key call amount := by
  intro attempt
  obtain ⟨work, inputs, calls, ready, all, exchanges, _, rfl⟩ := sign_ok returned
  have calls_eq : attempt.exchanges.filter Exchange.isSignature = calls := ready.signature_calls all exchanges
  have becomes := ready.becomes all
  have values : (work.signedTx inputs).outputs.map (·.value) = request.outputs.map (·.amount) := by
    rw [← List.forall₂_eq_eq_eq]
    refine List.forall₂_map_left_iff.mpr (List.forall₂_map_right_iff.mpr ?_)
    exact becomes.outputs.flip.imp fun _ _ pays => pays.1
  refine ⟨work.coin, work.signedTx inputs, work.validated.inputs.map (·.amount), ready.coin,
    Wire.whole_of_reads (Wire.reads_transaction (ready.readable all)),
    sign_replays session registry config oracle memory request cache signal, values, ?_, ?_, ?_⟩
  · rw [List.length_map, ready.accepts.inputs.length_eq]
  · rw [values]
    exact ready.accepts.fee.symm
  · intro index requested amount given counted
    have inside : index < inputs.length := by
      rw [← ready.signed_length all]
      exact (List.getElem?_eq_some_iff.mp given).1
    obtain ⟨one, present⟩ : ∃ one, inputs[index]? = some one := ⟨_, List.getElem?_eq_getElem inside⟩
    obtain ⟨input, key, call, image, paired, called, signs⟩ := all.at_index present
    obtain ⟨other, same, prepares, known⟩ := ready.at_index paired
    obtain rfl := Option.some.inj (given.symm.trans same)
    rw [List.getElem?_map, (List.getElem?_zip_eq_some.mp paired).1] at counted
    obtain rfl := Option.some.inj counted
    rw [Nat.zero_add] at signs
    rw [prepares.path] at known
    refine ⟨key, call, known, by rw [calls_eq, called], ?_⟩
    refine signs.counts prepares ?_ (ready.stripped_signedTx all) ?_
    · rw [ready.length_unsigned]
      exact (List.getElem?_eq_some_iff.mp given).1
    · rw [Work.signedTx, List.getElem?_map, present]
      rfl

/-- The first amount is the value that the earlier transaction shows, the second one is in the pre-image that is signed,
and all of both is fee. -/
theorem sign_fee_sample : ∃ signed earlier output image amount,
    (({} : Session).sign .builtin {} Wallet.oracle 0 Wallet.request .empty .armed).result = some (.ok signed) ∧
    RawOutput (Hex.encode Wallet.funding.bytes) 0 earlier output ∧ Sighash.committedAmount image = .ok amount ∧
      output.value.toNat + amount.toNat = signed.fee := by
  obtain ⟨signed, returned⟩ := Wallet.signs
  obtain ⟨coin, tx, amounts, known, _, _, values, count, balance, each⟩ := sign_fee {} .builtin {} Wallet.oracle 0
    Wallet.request .empty .armed returned
  obtain rfl := Except.ok.inj (Wallet.required.symm.trans known)
  obtain ⟨first, second, rfl⟩ := List.length_eq_two.mp count
  obtain ⟨_, _, _, _, shows⟩ := each 0 _ first rfl rfl
  obtain ⟨earlier, output, has, rfl, _⟩ := shows.shown _ rfl
  obtain ⟨_, _, _, _, covers⟩ := each 1 _ second rfl rfl
  obtain ⟨image, _, _, _, _, _, _, _, covered⟩ := covers.covered
  rw [values] at balance
  exact ⟨signed, earlier, output, image, second, returned, has, covered (by decide), balance⟩

end Session

end CoinSpend
