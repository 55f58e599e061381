import CoinSpend.Proofs.Sighash
import CoinSpend.Proofs.Signature.Grammar
import CoinSpend.Proofs.Signing.Responses
import CoinSpend.Proofs.Signing.SignedTransaction

/-! The signatures in a signed transaction are the oracle's answers, each in the unlocking data of its own input, and
verified ones cover the transaction as it is sent. -/
namespace CoinSpend

/-- The pre-image of an input in a transaction, with the amount of the output it spends, and with that output's script
or the script code of a key. -/
def RequestedInput.HasPreimage (requested : RequestedInput) (coin : Coin) (tx : Transaction) (index : Nat)
    (key : Octets 33) (image : Bytes) : Prop :=
  ∃ amount script code, requested.Spends amount script ∧
    (if Sighash.Kind.select coin requested.scriptType = .legacy then script = some code
      else code = Script.p2pkh (hash160 key.bytes).bytes) ∧
    Sighash.preimage tx coin.sighashType index
      ⟨Sighash.Kind.select coin requested.scriptType, code, some amount⟩ = .ok image

/-- The answer has these numbers in it, or bytes in which they are enclosed. -/
def Oracle.Answer.Conveys (answer : Answer) (signature : Signature) : Prop :=
  match answer with
  | .raw numbers => numbers = signature
  | .der bytes => ∃ r s hashType, Der.Encloses bytes r s signature hashType

namespace Signing

theorem decodeAnswer_eq_ok_iff {answer : Oracle.Answer} {signature : Signature} :
    decodeAnswer answer = .ok signature ↔ answer.Conveys signature := by
  cases answer with
  | raw numbers =>
    rw [decodeAnswer, Except.ok.injEq]
    rfl
  | der bytes =>
    rw [decodeAnswer, mapError_eq_ok, Der.decode, map_eq_ok]
    constructor
    · rintro ⟨⟨_, hashType⟩, read, rfl⟩
      obtain ⟨r, s, encloses⟩ := Der.decodeTyped_eq_ok_iff_encloses.mp read
      exact ⟨r, s, hashType, encloses⟩
    · rintro ⟨r, s, hashType, encloses⟩
      exact ⟨(signature, hashType), Der.decodeTyped_eq_ok_iff_encloses.mpr ⟨r, s, encloses⟩, rfl⟩

/-- The digest that an oracle ends up signing. -/
def digest (algorithm : HashAlgorithm) (message : Bytes) : Bytes :=
  match algorithm with
  | .none => message
  | .sha256 => (sha256 message).bytes

/-- The payload stands for the pre-image: it is a hash of thirty-two bytes, and what an oracle signs for it is the double
hash of the pre-image. -/
structure Digests (algorithm : HashAlgorithm) (image payload : Bytes) : Prop where
  length : payload.length = 32
  digest : digest algorithm payload = (sha256d image).bytes
  hashed : payload = match algorithm with
    | .none => (sha256d image).bytes
    | .sha256 => (sha256 image).bytes

theorem digest_payload (algorithm : HashAlgorithm) (image : Bytes) :
    digest algorithm (payload algorithm image) = (sha256d image).bytes := by
  cases algorithm <;> rfl

theorem digests_payload (algorithm : HashAlgorithm) (image : Bytes) :
    Digests algorithm image (payload algorithm image) where
  length := by
    cases algorithm with
    | none => exact (sha256d image).length_bytes
    | sha256 => exact (sha256 image).length_bytes
  digest := digest_payload algorithm image
  hashed := by cases algorithm <;> rfl

variable {registry : Registry} {config : SigningConfig} {request : SigningRequest} {before after : KeyCache}
  {work : Work} {signed : List (Signature × TxIn)} {calls : List Exchange}

/-- What was signed is the transaction as it stood before any input was unlocked. -/
theorem Work.Ready.stripped_signedTx (ready : work.Ready registry config request before after)
    (all : SignsAll work.coin config work.unsigned 0 work.pairs signed calls) :
    (work.signedTx signed).stripped = work.unsigned := by
  have count : work.validated.inputs.length = signed.length := by
    rw [← ready.accepts.inputs.length_eq, ready.signed_length all]
  have each : List.Forall₂ (fun input one => TxIn.unsigned input.outpoint input.sequence =
      .unsigned one.2.outpoint one.2.sequence) work.validated.inputs signed := by
    refine forall₂_of_at count fun index one found => ?_
    obtain ⟨input, key, _, _, paired, _, signs⟩ := all.at_index found
    obtain ⟨outpoint, sequence, _⟩ := unlock_ok signs.unlocked
    rw [outpoint, sequence]
    exact ⟨input, (List.getElem?_zip_eq_some.mp paired).1, rfl⟩
  have inputs : work.validated.inputs.map (fun input => TxIn.unsigned input.outpoint input.sequence) =
      signed.map fun one => .unsigned one.2.outpoint one.2.sequence := by
    rw [← List.forall₂_eq_eq_eq]
    exact List.forall₂_map_left_iff.mpr (List.forall₂_map_right_iff.mpr each)
  rw [Transaction.stripped, Work.signedTx, List.map_map, Work.unsigned, inputs]
  rfl

theorem SignsAll.isSignature {coin : Coin} {unsigned : Transaction} {index : Nat}
    {pairs : List (PreparedInput × Octets 33)}
    (all : SignsAll coin config unsigned index pairs signed calls) : ∀ call ∈ calls, call.isSignature = true := by
  induction all with
  | nil => exact fun _ member => absurd member List.not_mem_nil
  | cons first _ ih =>
    intro call member
    rcases List.mem_cons.mp member with rfl | later
    · obtain ⟨_, _, _, _, rfl, _⟩ := first.answered
      rfl
    · exact ih call later

/-- The calls for signatures are those made for the inputs, in their order. -/
theorem Work.Ready.signature_calls (ready : work.Ready registry config request before after)
    (all : SignsAll work.coin config work.unsigned 0 work.pairs signed calls) {made : List Exchange}
    (divided : made = work.asked ++ calls) : made.filter Exchange.isSignature = calls := by
  have keys : work.asked.filter Exchange.isSignature = [] := by
    rw [List.filter_eq_nil_iff]
    intro call member
    obtain ⟨_, _, _, _, rfl⟩ := ready.fetches.asked call member
    exact Bool.false_ne_true
  rw [divided, List.filter_append, keys, List.nil_append, List.filter_eq_self]
  exact all.isSignature

theorem Asks.hasPreimage {requested : RequestedInput} {coin : Coin} {unsigned : Transaction} {index : Nat}
    {input : PreparedInput} {key : Octets 33} {call : Exchange} {image : Bytes}
    (prepares : Prepares coin config requested input) (inside : index < unsigned.inputs.length)
    (asks : Asks coin config unsigned index input key call image) :
    requested.HasPreimage coin unsigned index key image := by
  have kind : input.kind = Sighash.Kind.select coin requested.scriptType := by
    rw [prepares.kind, prepares.scriptType]
  obtain ⟨made, locked⟩ := preimage_ok prepares inside asks.1
  refine ⟨input.amount, input.prevScript, Script.p2pkh (hash160 key.bytes).bytes, prepares.spends, ?_, ?_⟩
  · split
    · rename_i legacy
      obtain ⟨script, known⟩ := prepares.known (kind.trans legacy)
      have own := locked script known
      rw [legacy_forKey prepares (kind.trans legacy) (hash160 key.bytes)] at own
      cases own
      exact known
    · rfl
  · rw [← kind]
    exact made

theorem Signs.hasPreimage {requested : RequestedInput} {coin : Coin} {unsigned : Transaction} {index : Nat}
    {input : PreparedInput} {key : Octets 33} {one : Signature × TxIn} {call : Exchange} {image : Bytes}
    (prepares : Prepares coin config requested input) (inside : index < unsigned.inputs.length)
    (signs : Signs coin config unsigned index input key one call image) :
    requested.HasPreimage coin unsigned index key image :=
  signs.asks.hasPreimage prepares inside

end Signing

theorem RequestedInput.HasPreimage.of_stripped {requested : RequestedInput} {coin : Coin} {tx : Transaction}
    {index : Nat} {key : Octets 33} {image : Bytes}
    (has : requested.HasPreimage coin tx.stripped index key image) :
    requested.HasPreimage coin tx index key image := by
  obtain ⟨amount, script, code, spends, covered, made⟩ := has
  rw [Sighash.preimage_stripped] at made
  exact ⟨amount, script, code, spends, covered, made⟩

namespace Session

open Signing

/-- In the transaction read back from the bytes, each input has the unlocking data of its script type, with a key from
its path and with the numbers that the oracle returned for the input when it was asked to sign the digest of the input's
pre-image. If signatures are verified, the low form of the numbers verifies against the pre-image of that very
transaction. -/
theorem sign_sound {σ : Type} (session : Session) (registry : Registry) (config : SigningConfig)
    (oracle : Oracle σ) (memory : σ) (request : SigningRequest) (cache : KeyCache) (signal : CancelSignal)
    {signed : SignedTransaction}
    (returned : (session.sign registry config oracle memory request cache signal).result = some (.ok signed)) :
    let attempt := session.sign registry config oracle memory request cache signal
    ∃ coin tx, registry.require request.coin = .ok coin ∧
      Wire.Reader.whole Wire.readTransaction signed.bytes = .ok tx ∧
      tx.inputs.length = request.inputs.length ∧
      oracle.Replays memory attempt.exchanges attempt.oracle ∧
      (attempt.exchanges.filter Exchange.isSignature).length = request.inputs.length ∧
      ∀ (index : Nat) input, tx.inputs[index]? = some input → ∃ requested key typed signature image,
        request.inputs[index]? = some requested ∧
        attempt.cache.find? requested.path = some key ∧
        (cache.find? requested.path = some key ∨ ∃ call ∈ attempt.exchanges, call.Gives requested.path key) ∧
        input.UnlockedBy requested.scriptType typed key ∧
        Der.decodeTyped typed = .ok (signature, some (coin.sighashType &&& 0xff).toUInt8) ∧
        requested.HasPreimage coin tx index key image ∧
        (∃ algorithm payload response answer, algorithm = (config.payloadHashingFor coin.name).algorithm ∧
          Digests algorithm image payload ∧
          oracle.SignsAt memory attempt.exchanges index requested.path payload algorithm response ∧
          response.answer = some (.ok answer) ∧ answer.Conveys signature) ∧
        (config.verifySignatures = true → ∃ point, PublicKey.parse? key.bytes = some point ∧
          Ecdsa.verifies (sha256d image) point signature.r.toNat (Ecdsa.low signature.s.toNat) = true) := by
  intro attempt
  have replays := sign_replays session registry config oracle memory request cache signal
  obtain ⟨work, inputs, calls, ready, all, exchanges, _, rfl⟩ := sign_ok returned
  have calls_eq : attempt.exchanges.filter Exchange.isSignature = calls := ready.signature_calls all exchanges
  have count : (work.signedTx inputs).inputs.length = request.inputs.length :=
    (ready.becomes all).inputs.length_eq.symm
  refine ⟨work.coin, work.signedTx inputs, ready.coin,
    Wire.whole_of_reads (Wire.reads_transaction (ready.readable all)), count, replays, ?_, ?_⟩
  · rw [calls_eq, all.length_eq.2, ready.length_pairs]
  intro index input found
  obtain ⟨one, present, rfl⟩ : ∃ one, inputs[index]? = some one ∧ one.2 = input := by
    rw [Work.signedTx, List.getElem?_map, Option.map_eq_some_iff] at found
    exact found
  obtain ⟨requested, prepared, key, call, image, given, prepares, known, called, signs, unlocked⟩ :=
    ready.signed_at all present
  have inside : index < work.unsigned.inputs.length := by
    rw [← ready.stripped_signedTx all, Transaction.stripped, List.length_map]
    exact (List.getElem?_eq_some_iff.mp found).1
  have covers := signs.hasPreimage prepares inside
  rw [← ready.stripped_signedTx all] at covers
  obtain ⟨algorithm, response, answer, chosen, rfl, answered, decoded⟩ := signs.answered
  refine ⟨requested, key, work.typed one.1, one.1, image, given, known, ?_, unlocked,
    Der.decodeTyped_encodeTyped _ _, covers.of_stripped, ?_, ?_⟩
  · refine (ready.fetches.learnt _ _ known).imp_right ?_
    rintro ⟨call, member, gives⟩
    refine ⟨call, ?_, gives⟩
    rw [show attempt.exchanges = _ from exchanges]
    exact List.mem_append_left _ member
  · refine ⟨algorithm, _, response, answer, chosen, digests_payload algorithm image, replays.signsAt ?_, answered,
      decodeAnswer_eq_ok_iff.mp decoded⟩
    rw [show List.filter _ _ = calls from calls_eq, called, prepares.path]
  · exact fun checks => verify_ok (signs.verified checks)

/-- A legacy input and a segwit one, with a signature by another key each that verifies for the pre-image of the input. -/
theorem sign_sound_sample : ∃ signed tx,
    (({} : Session).sign .builtin {} Wallet.oracle 0 Wallet.request .empty .armed).result = some (.ok signed) ∧
    Wire.Reader.whole Wire.readTransaction signed.bytes = .ok tx ∧ tx.inputs.length = 2 ∧
    ∀ (index : Nat) input, tx.inputs[index]? = some input → ∃ requested key typed signature image point,
      Wallet.request.inputs[index]? = some requested ∧ input.UnlockedBy requested.scriptType typed key ∧
      Der.decodeTyped typed = .ok (signature, some 0x01) ∧ requested.HasPreimage Wallet.coin tx index key image ∧
      PublicKey.parse? key.bytes = some point ∧
      Ecdsa.verifies (sha256d image) point signature.r.toNat (Ecdsa.low signature.s.toNat) = true := by
  obtain ⟨signed, returned⟩ := Wallet.signs
  obtain ⟨coin, tx, known, decoded, count, _, _, each⟩ := sign_sound {} .builtin {} Wallet.oracle 0 Wallet.request .empty
    .armed returned
  obtain rfl := Except.ok.inj (Wallet.required.symm.trans known)
  refine ⟨signed, tx, returned, decoded, count, fun index input found => ?_⟩
  obtain ⟨requested, key, typed, signature, image, given, _, _, unlocked, read, covers, _, verified⟩ :=
    each index input found
  obtain ⟨point, parsed, verifies⟩ := verified rfl
  exact ⟨requested, key, typed, signature, image, point, given, unlocked, read, covers, parsed, verifies⟩

end Session

end CoinSpend
