import CoinSpend.Proofs.Signing.Calls
import CoinSpend.Proofs.Signing.Coupling
import CoinSpend.Proofs.Signing.Polling
import CoinSpend.Signing.SeedOracle

/-! Who applies the second round of hashing, the request or the oracle, makes no difference: what is signed in the end is
one digest. Two attempts that differ in this alone are compared call by call. -/
namespace CoinSpend

namespace Oracle

variable {σ : Type}

/-- The oracle hashes a payload as it is told to, and signs what comes out. -/
def Conforms (oracle : Oracle σ) : Prop :=
  ∀ path message memory,
    (oracle.sign path message .sha256 memory).1 = (oracle.sign path (sha256 message).bytes .none memory).1

/-- What the oracle answers does not depend on what it was asked before. -/
structure Steady (oracle : Oracle σ) : Prop where
  publicKey : ∀ path memory other, (oracle.publicKey path memory).1 = (oracle.publicKey path other).1
  sign : ∀ path message algorithm memory other,
    (oracle.sign path message algorithm memory).1 = (oracle.sign path message algorithm other).1

/-- What a conforming oracle answers depends on the digest alone. -/
theorem Conforms.sign_eq {oracle : Oracle σ} (conforms : oracle.Conforms) (steady : oracle.Steady) (path : KeyPath)
    (message : Bytes) (algorithm : HashAlgorithm) (memory other : σ) : (oracle.sign path message algorithm memory).1 =
      (oracle.sign path (Signing.digest algorithm message) .none other).1 := by
  cases algorithm with
  | none => exact steady.sign _ _ _ _ _
  | sha256 => exact (conforms path message memory).trans (steady.sign _ _ _ _ _)

end Oracle

/-- What the software oracle signs is the digest. -/
theorem SeedOracle.sign_congr {oracle : SeedOracle} {path : KeyPath} {message other : Bytes}
    {algorithm another : HashAlgorithm} (same : Signing.digest algorithm message = Signing.digest another other) :
    oracle.sign path message algorithm = oracle.sign path other another := by
  have sized := congrArg (Octets.ofBytes? 32) same
  rw [SeedOracle.sign.eq_def, SeedOracle.sign.eq_def]
  dsimp only
  split
  · rename_i first
    split
    · rfl
    · rename_i second
      cases first.symm.trans (sized.trans second)
  · rename_i first
    split
    · rename_i second
      cases first.symm.trans (sized.trans second)
    · rename_i second
      cases first.symm.trans (sized.trans second)
      rfl

theorem SeedOracle.conforms (oracle : SeedOracle) : oracle.toOracle.Conforms := by
  intro path message memory
  have same : oracle.sign path message .sha256 = oracle.sign path (sha256 message).bytes .none := sign_congr rfl
  unfold SeedOracle.toOracle
  dsimp only
  rw [same]

theorem SeedOracle.steady (oracle : SeedOracle) : oracle.toOracle.Steady := ⟨fun _ _ _ => rfl, fun _ _ _ _ _ => rfl⟩

/-- A call for a signature as a call to sign the digest. -/
def Exchange.digested : Exchange → Exchange
  | publicKey path response => publicKey path response
  | signature path payload algorithm response => signature path (Signing.digest algorithm payload) .none response

namespace Validation

variable {config altered : SigningConfig} (hash : altered.verifyPrevTxHash = config.verifyPrevTxHash)
  (sequence : altered.defaultSequence = config.defaultSequence)

include hash sequence

theorem prepareInputs_congr (coin : Coin) (ready : List PreparedInput) (inputs : List RequestedInput) :
    prepareInputs coin altered ready inputs = prepareInputs coin config ready inputs := by
  have same (input : RequestedInput) : prepareInput coin altered input = prepareInput coin config input := by
    unfold prepareInput spentAmount checkedSpent
    rw [hash, sequence]
  induction inputs generalizing ready with
  | nil => rfl
  | cons input inputs ih =>
    rw [prepareInputs, prepareInputs, same]
    simp only [ih]

/-- Few fields of a configuration bear on the checks of a request. -/
theorem validate_congr (version : altered.defaultVersion = config.defaultVersion) (request : SigningRequest)
    (coin : Coin) : request.validate coin altered = request.validate coin config := by
  unfold SigningRequest.validate
  rw [prepareInputs_congr hash sequence, version]

end Validation

variable {σ : Type}

/-- Two states that differ in nothing but the oracle's memory and in how the signed digests came about. -/
structure Progress.SameDigests (one other : Progress σ) : Prop where
  signal : one.signal = other.signal
  cache : one.cache = other.cache
  session : one.session = other.session
  exchanges : one.exchanges.map Exchange.digested = other.exchanges.map Exchange.digested

theorem Progress.SameDigests.asked {one other : Progress σ} (same : one.SameDigests other) {call twin : Exchange}
    (digested : call.digested = twin.digested) (memory another : σ) :
    (one.asked call memory).SameDigests (other.asked twin another) where
  signal := by
    have cancels (call : Exchange) : call.digested.cancels = call.cancels := by cases call <;> rfl
    rw [Progress.asked, Progress.asked, ← cancels call, digested, cancels twin, same.signal]
  cache := same.cache
  session := same.session
  exchanges := by
    simp only [Progress.asked, List.map_append, same.exchanges, List.map_singleton, digested]

/-- Two attempts that sign the same digests. -/
def digesting : Coupling σ σ where
  alike := Progress.SameDigests
  stopped _ := Progress.SameDigests
  parted _ _ _ := False
  fails := fun same _ => same
  enters := fun same _ => ⟨same.signal, same.cache, congrArg (Session.enter · _) same.session, same.exchanges⟩
  alone := fun never => never.elim

theorem digesting_sharesKeys : (digesting : Coupling σ σ).SharesKeys where
  same := fun same => same.cache.symm
  hit := fun same => ⟨same.signal, congrArg KeyCache.hit same.cache, same.session, same.exchanges⟩
  store := fun same _ _ =>
    ⟨same.signal, congrArg (KeyCache.set · _ _) same.cache, same.session, same.exchanges⟩

theorem digesting_call {α : Type} {config altered : SigningConfig} {exchange twin : Oracle.Response α → Exchange}
    {ask twinAsk : σ → Oracle.Response α × σ} (keeps : Exchange.Keeps exchange) (twinKeeps : Exchange.Keeps twin)
    (digested : ∀ response, (exchange response).digested = (twin response).digested)
    (answers : ∀ memory other, (ask memory).1 = (twinAsk other).1)
    (limit : altered.oracleTimeoutMs = config.oracleTimeoutMs) :
    (digesting : Coupling σ σ).Mirrors (Step.call config exchange ask) (Step.call altered twin twinAsk) where
  together := by
    intro one other same
    cases clear : one.signal.isCancelled with
    | true =>
      rw [Step.call_cancelled clear, Step.call_cancelled (same.signal ▸ clear)]
      exact .stopped same
    | false =>
      rw [Step.call_started keeps clear, Step.call_started twinKeeps (same.signal ▸ clear), limit]
      have answer := answers one.oracle other.oracle
      generalize ask one.oracle = asked at answer ⊢
      generalize twinAsk other.oracle = twinAsked at answer ⊢
      obtain ⟨response, memory⟩ := asked
      obtain ⟨_, another⟩ := twinAsked
      obtain rfl : response = _ := answer
      have after : (one.asked (exchange response) memory).SameDigests (other.asked (twin response) another) :=
        Progress.SameDigests.asked same (digested response) memory another
      dsimp only
      rw [after.signal, Step.ends_eq_leave, Step.ends_eq_leave]
      exact .leave after fun _ => after
  apart := fun never => never.elim

/-- A configuration with other choices of what an oracle is given to sign. -/
def SigningConfig.rehashed (config : SigningConfig) (hashing : PayloadHashing)
    (exceptions : List (String × PayloadHashing)) : SigningConfig :=
  { config with payloadHashing := hashing, coinPayloadHashing := exceptions }

theorem digesting_run {oracle : Oracle σ} (conforms : oracle.Conforms) (steady : oracle.Steady)
    (config : SigningConfig) (hashing : PayloadHashing) (exceptions : List (String × PayloadHashing))
    (registry : Registry) (request : SigningRequest) :
    digesting.Mirrors (Signing.run oracle config registry request)
      (Signing.run oracle (config.rehashed hashing exceptions) registry request) := by
  have validation (coin : Coin) : request.validate coin (config.rehashed hashing exceptions) =
      request.validate coin config := Validation.validate_congr (by rfl) (by rfl) (by rfl) request coin
  have verification : (config.rehashed hashing exceptions).verifySignatures = config.verifySignatures := rfl
  refine Coupling.mirrors_run verification (fun coin path image => ?_) registry request validation fun path =>
    digesting_sharesKeys.mirrors ?_
  · refine digesting_call (Exchange.keeps_signature _ _ _) (Exchange.keeps_signature _ _ _) (fun response => ?_)
      (fun memory other => ?_) rfl
    · rw [Exchange.digested, Exchange.digested, Signing.digest_payload, Signing.digest_payload]
    · rw [conforms.sign_eq steady path _ _ memory memory, conforms.sign_eq steady path _ _ other memory,
        Signing.digest_payload, Signing.digest_payload]
  · exact digesting_call (Exchange.keeps_publicKey path) (Exchange.keeps_publicKey path) (fun _ => rfl)
      (fun memory other => steady.publicKey path memory other) rfl

/-- Two attempts with the same outcome, in which the same digests are signed. -/
structure Attempt.SameDigests (one other : Attempt σ) : Prop where
  result : one.result = other.result
  session : one.session = other.session
  cache : one.cache = other.cache
  signal : one.signal = other.signal
  exchanges : one.exchanges.map Exchange.digested = other.exchanges.map Exchange.digested

/-- The call is for the signature of the input with the number `index`: its payload has 32 bytes, and the digest that the
oracle ends up signing is the double hash of the input's pre-image. -/
def SigningRequest.DigestedAt (request : SigningRequest) (registry : Registry) (config : SigningConfig)
    (keys : KeyCache) (index : Nat) (call : Exchange) : Prop :=
  ∃ coin tx requested key image payload algorithm response,
    registry.require request.coin = .ok coin ∧ request.Becomes coin config keys tx ∧
    request.inputs[index]? = some requested ∧ keys.find? requested.path = some key ∧
    requested.HasPreimage coin tx index key image ∧
    algorithm = (config.payloadHashingFor coin.name).algorithm ∧
    call = .signature requested.path payload algorithm response ∧
    payload.length = 32 ∧ Signing.digest algorithm payload = (sha256d image).bytes

theorem SigningRequest.SignatureCalls.digestedAt {request : SigningRequest} {registry : Registry}
    {config : SigningConfig} {coin : Coin} {tx : Transaction} {keys : KeyCache} {signal : CancelSignal}
    {finished : Prop} {made : List Exchange} (calls : request.SignatureCalls coin config tx keys signal finished made)
    (required : registry.require request.coin = .ok coin) (becomes : request.Becomes coin config keys tx) {index : Nat}
    {call : Exchange} (found : made[index]? = some call) : request.DigestedAt registry config keys index call := by
  obtain ⟨key, image, ⟨requested, given, known, asked⟩, _⟩ := calls.each index call found
  obtain ⟨algorithm, payload, response, chosen, same, digests⟩ := asked.call
  exact ⟨coin, tx, requested, key, image, payload, algorithm, response, required, becomes, given, known, asked.covers,
    chosen, same, digests.length, digests.digest⟩

namespace Session

open Signing

theorem finish_sameDigests {one other : Progress σ} (same : one.SameDigests other) :
    (∀ signed, (finish (.ok signed one)).SameDigests (finish (.ok signed other))) ∧
      ∀ stop, (finish (.error stop one)).SameDigests (finish (.error stop other)) := by
  obtain ⟨signal, cache, session, exchanges⟩ := same
  obtain ⟨signs, ends⟩ := finish_congr session
  refine ⟨fun signed => ⟨rfl, signs signed, cache, signal, exchanges⟩, fun stop => ?_⟩
  cases stop <;> exact ⟨rfl, (ends _).2, cache, signal, exchanges⟩

theorem sameDigests_of_rehashed {oracle : Oracle σ} (conforms : oracle.Conforms) (steady : oracle.Steady)
    (session : Session) (registry : Registry) (config : SigningConfig) (hashing : PayloadHashing)
    (exceptions : List (String × PayloadHashing)) (memory : σ) (request : SigningRequest) (cache : KeyCache)
    (signal : CancelSignal) :
    (session.sign registry config oracle memory request cache signal).SameDigests
      (session.sign registry (config.rehashed hashing exceptions) oracle memory request cache signal) := by
  by_cases fresh : session.Fresh
  · have start : (digesting : Coupling σ σ).alike ⟨memory, signal, cache, [], session⟩
        ⟨memory, signal, cache, [], session⟩ := ⟨rfl, rfl, rfl, rfl⟩
    have together := (digesting_run conforms steady config hashing exceptions registry request).together start
    rw [sign_fresh fresh, sign_fresh fresh]
    generalize run oracle config registry request _ = result at together ⊢
    generalize run oracle (config.rehashed hashing exceptions) registry request _ = other at together ⊢
    cases together with
    | alike same => exact (finish_sameDigests same).1 _
    | stopped same => exact (finish_sameDigests same).2 _
    | parted never => exact never.elim
  · rw [sign_used fresh, sign_used fresh]
    exact ⟨rfl, rfl, rfl, rfl, rfl⟩

/-- Whichever part of the hashing is left to the oracle, it ends up signing the double hash of each pre-image. -/
theorem sign_digests (session : Session) (registry : Registry) (config : SigningConfig) (oracle : Oracle σ)
    (memory : σ) (request : SigningRequest) (cache : KeyCache) (signal : CancelSignal) :
    let attempt := session.sign registry config oracle memory request cache signal
    ∀ (index : Nat) call, (attempt.exchanges.filter Exchange.isSignature)[index]? = some call →
      request.DigestedAt registry config attempt.cache index call := by
  intro attempt index call found
  rcases sign_account session registry config oracle memory request cache signal with
    unasked | ⟨_, calls⟩ | ⟨work, calls, exchanges, ready, signatures⟩
  · rw [show attempt.exchanges = [] from unasked] at found
    cases found
  · rw [calls.filter_isSignature] at found
    cases found
  · rw [show attempt.exchanges = _ from exchanges, List.filter_append, ready.fetches.keyCalls.filter_isSignature,
      List.nil_append, List.filter_eq_self.mpr signatures.isSignature] at found
    exact signatures.digestedAt ready.coin ready.unsigned_becomes found

/-- Payload hashing modes are interchangeable. The software oracle conforms; and for every conforming oracle whose
answers do not depend on what it was asked before, attempts that differ in nothing but the mode have the same outcome. In
every mode the oracle ends up signing the double hash of the pre-image of the input at hand. -/
theorem sign_hashing_interchangeable :
    (∀ seed : SeedOracle, seed.toOracle.Conforms ∧ seed.toOracle.Steady) ∧
    ∀ (σ : Type) (oracle : Oracle σ), oracle.Conforms → oracle.Steady →
      ∀ (session : Session) (registry : Registry) (config : SigningConfig) (hashing : PayloadHashing)
        (exceptions : List (String × PayloadHashing)) (memory : σ) (request : SigningRequest) (cache : KeyCache)
        (signal : CancelSignal),
      let attempt := session.sign registry config oracle memory request cache signal
      attempt.SameDigests
          (session.sign registry (config.rehashed hashing exceptions) oracle memory request cache signal) ∧
        ∀ (index : Nat) call, (attempt.exchanges.filter Exchange.isSignature)[index]? = some call →
          request.DigestedAt registry config attempt.cache index call := by
  refine ⟨fun seed => ⟨seed.conforms, seed.steady⟩, fun σ oracle conforms steady session registry config hashing
    exceptions memory request cache signal => ⟨?_, ?_⟩⟩
  · exact sameDigests_of_rehashed conforms steady session registry config hashing exceptions memory request cache signal
  · exact sign_digests session registry config oracle memory request cache signal

/-- The oracle signs the digest of each payload, so that other payloads have other signatures. -/
theorem sign_hashing_interchangeable_sample : Wallet.oracle.Conforms ∧ Wallet.oracle.Steady ∧ ∃ signed,
    (({} : Session).sign .builtin {} Wallet.oracle 0 Wallet.request .empty .armed).result = some (.ok signed) ∧
    (({} : Session).sign .builtin (SigningConfig.rehashed {} .singleSha256 []) Wallet.oracle 0 Wallet.request .empty
      .armed).result = some (.ok signed) := by
  have conforms : Wallet.oracle.Conforms := fun _ _ _ => rfl
  have steady : Wallet.oracle.Steady := ⟨fun _ _ _ => rfl, fun _ _ _ _ _ => rfl⟩
  obtain ⟨signed, returned⟩ := Wallet.signs
  have same := (sign_hashing_interchangeable.2 Nat Wallet.oracle conforms steady {} .builtin {} .singleSha256 [] 0
    Wallet.request .empty .armed).1
  exact ⟨conforms, steady, signed, returned, by rw [← same.result, returned]⟩

end Session

end CoinSpend
