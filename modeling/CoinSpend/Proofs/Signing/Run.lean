import CoinSpend.Proofs.Related
import CoinSpend.Proofs.Signing.Fetching
import CoinSpend.Proofs.Signing.Inputs

/-! The whole work on a request, from any cache and with any oracle: what is true of a signed transaction, and every
way in which the work can end early. -/
namespace CoinSpend

/-- The paths whose keys the work needs. -/
def ValidatedRequest.paths (validated : ValidatedRequest) : List KeyPath :=
  validated.outputs.flatMap PlannedOutput.paths ++ validated.inputs.flatMap fun input => [input.path]

namespace Signing

/-- A request whose keys have been fetched, so that its inputs can be signed. -/
structure Work where
  coin : Coin
  validated : ValidatedRequest
  outputs : List TxOut
  keys : List (Octets 33)
  /-- The calls for keys. -/
  asked : List Exchange

namespace Work

def unsigned (work : Work) : Transaction where
  version := work.validated.version
  inputs := work.validated.inputs.map fun input => .unsigned input.outpoint input.sequence
  outputs := work.outputs
  lockTime := work.validated.lockTime

def pairs (work : Work) : List (PreparedInput × Octets 33) := work.validated.inputs.zip work.keys

/-- The transaction with the inputs that were signed. -/
def signedTx (work : Work) (signed : List (Signature × TxIn)) : Transaction :=
  { work.unsigned with inputs := signed.map Prod.snd }

def result (work : Work) (signed : List (Signature × TxIn)) : SignedTransaction where
  signatures := signed.map fun one => Der.encode one.1
  bytes := (work.signedTx signed).bytes
  txid := (work.signedTx signed).txid
  fee := work.validated.fee

/-- The work stems from a request, and its keys are those known after they have been fetched. -/
structure Ready (work : Work) (registry : Registry) (config : SigningConfig) (request : SigningRequest)
    (before after : KeyCache) : Prop where
  coin : registry.require request.coin = .ok work.coin
  accepts : Accepts work.coin config request work.validated
  outputs : List.Forall₂ (fun planned => planned.Resolves after) work.validated.outputs work.outputs
  keys : List.Forall₂ (fun input key => after.find? input.path = some key) work.validated.inputs work.keys
  fetches : Fetches work.validated.paths work.asked before after

namespace Ready

variable {work : Work} {registry : Registry} {config : SigningConfig} {request : SigningRequest}
  {before after : KeyCache}

theorem length_pairs (ready : work.Ready registry config request before after) :
    work.pairs.length = request.inputs.length := by
  rw [pairs, List.length_zip, ← ready.keys.length_eq, Nat.min_self, ready.accepts.inputs.length_eq]

theorem prepared (ready : work.Ready registry config request before after) :
    ∀ pair ∈ work.pairs, ∃ requested, Prepares work.coin config requested pair.1 := by
  intro pair member
  obtain ⟨requested, _, prepares⟩ := partner_of_mem ready.accepts.inputs (List.of_mem_zip member).1
  exact ⟨requested, prepares⟩

theorem length_unsigned (ready : work.Ready registry config request before after) :
    work.unsigned.inputs.length = request.inputs.length := by
  rw [unsigned, List.length_map, ready.accepts.inputs.length_eq]

/-- Each input is paired with the key at its path. -/
theorem at_index (ready : work.Ready registry config request before after) {index : Nat}
    {input : PreparedInput} {key : Octets 33} (found : work.pairs[index]? = some (input, key)) :
    ∃ requested, request.inputs[index]? = some requested ∧ Prepares work.coin config requested input ∧
      after.find? input.path = some key := by
  obtain ⟨first, second⟩ := List.getElem?_zip_eq_some.mp found
  obtain ⟨requested, given, prepares⟩ := forall₂_at ready.accepts.inputs first
  obtain ⟨other, same, known⟩ := forall₂_at ready.keys second
  cases first.symm.trans same
  exact ⟨requested, given, prepares, known⟩

end Ready

end Work

/-- Why the work on a request ends early, with the phases and calls up to there, with the keys known before and after it
and with the signal in the end. -/
inductive Ends (registry : Registry) (config : SigningConfig) (request : SigningRequest)
    (before after : KeyCache) (signal : CancelSignal) : List Phase → List Exchange → Stop → Prop where
  | refused {failure : Failure} (code : failure.code.isValidation = true)
      (cause : ∀ coin validated, registry.require request.coin = .ok coin →
        request.validate coin config ≠ .ok validated) :
      Ends registry config request before after signal [] [] (.failed failure)
  /-- A key was not served. -/
  | unserved {coin : Coin} {validated : ValidatedRequest} {calls : List Exchange} {stop : Stop}
      (accepts : Accepts coin config request validated) (reason : stop.Unserved)
      (stops : FetchStops validated.paths calls before after signal) :
      Ends registry config request before after signal [] calls stop
  | broken {work : Work} {phases : List Phase} {calls : List Exchange} {stop : Stop}
      (ready : work.Ready registry config request before after)
      (breaks : BreaksAt work.coin config work.unsigned 0 work.pairs signal phases calls stop) :
      Ends registry config request before after signal phases (work.asked ++ calls) stop

section Fetched

variable {σ : Type} (oracle : Oracle σ) (config : SigningConfig)

theorem fetching_outputs {coin : Coin} {request : SigningRequest} {validated : ValidatedRequest}
    (accepts : Accepts coin config request validated) :
    Fetching (validated.outputs.mapM (resolveOutput oracle config))
      (validated.outputs.flatMap PlannedOutput.paths)
      fun cache => List.Forall₂ (fun planned => planned.Resolves cache) validated.outputs := by
  refine Fetching.mapM (fun _ _ _ _ kept resolves => PlannedOutput.resolves_of_kept kept resolves) ?_
  intro planned member
  apply fetching_resolveOutput
  intro path scriptType script
  obtain ⟨requested, _, plans⟩ := partner_of_mem accepts.outputs member
  exact Validation.planScript_change (script ▸ plans.script)

theorem fetching_keys (inputs : List PreparedInput) :
    Fetching (inputs.mapM fun input => publicKey oracle config input.path)
      (inputs.flatMap fun input => [input.path])
      fun cache => List.Forall₂ (fun input key => cache.find? input.path = some key) inputs :=
  Fetching.mapM (fun _ _ _ _ kept found => kept _ _ found)
    fun input _ => fetching_publicKey oracle config input.path

end Fetched

theorem run_meets {σ : Type} (oracle : Oracle σ) (config : SigningConfig) (registry : Registry)
    (request : SigningRequest) (before : Progress σ) :
    (run oracle config registry request).Meets before
      (fun result after => ∃ (work : Work) (signed : List (Signature × TxIn)) (calls : List Exchange),
        work.Ready registry config request before.cache after.cache ∧
          SignsAll work.coin config work.unsigned 0 work.pairs signed calls ∧
          before.Records after (Phase.rounds 0 request.inputs.length ++ [.finalizing])
            (work.asked ++ calls) ∧
          result = work.result signed)
      (fun stop after => ∃ phases calls, before.Records after phases calls ∧
        Ends registry config request before.cache after.cache after.signal phases calls stop) := by
  unfold run
  have refused {failure : Failure} (code : failure.code.isValidation = true)
      (cause : ∀ coin validated, registry.require request.coin = .ok coin →
        request.validate coin config ≠ .ok validated) :
      ∃ phases calls, before.Records before phases calls ∧
        Ends registry config request before.cache before.cache before.signal phases calls (.failed failure) :=
    ⟨[], [], .refl before, .refused code cause⟩
  refine .ofExcept (fun coin required => ?_) fun failure failed =>
    refused (registry.require_failsWith request.coin failure failed) fun _ _ required => ?_
  case refine_2 => cases failed.symm.trans required
  refine .ofExcept (fun validated accepted => ?_) fun failure failed =>
    refused (request.validate_failsWith coin config failure failed) fun _ _ same accepted => ?_
  case refine_2 =>
    cases required.symm.trans same
    cases failed.symm.trans accepted
  have accepts := SigningRequest.validate_iff.mp accepted
  refine .bind (fetching_outputs oracle config accepts before) (fun stop after ended => ?_)
    fun outputs resolved first => ?_
  · obtain ⟨reason, calls, recorded, stops⟩ := ended
    exact ⟨[], calls, recorded, .unserved accepts reason (stops.extend _)⟩
  obtain ⟨resolves, asked, recorded, fetched⟩ := first
  refine .bind (fetching_keys oracle config validated.inputs resolved) (fun stop after ended => ?_)
    fun keys served second => ?_
  · obtain ⟨reason, calls, later, stops⟩ := ended
    exact ⟨[], _, recorded.trans later, .unserved accepts reason (.behind fetched stops)⟩
  obtain ⟨keyed, more, later, fetchedMore⟩ := second
  have recorded := recorded.trans later
  let work : Work := ⟨coin, validated, outputs, keys, asked ++ more⟩
  have ready : work.Ready registry config request before.cache served.cache := {
    coin := required
    accepts := accepts
    outputs := resolves.imp fun _ _ holds => PlannedOutput.resolves_of_kept fetchedMore.kept holds
    keys := keyed
    fetches := fetched.trans fetchedMore }
  have inside : 0 + work.pairs.length ≤ work.unsigned.inputs.length := by
    rw [ready.length_pairs, ready.length_unsigned, Nat.zero_add]
  refine .bind (signInputs_meets oracle ready.prepared inside served) (fun stop after ended => ?_)
    fun signed after third => ?_
  · obtain ⟨same, phases, calls, broke, breaks⟩ := ended
    exact ⟨phases, _, recorded.trans broke, .broken (same ▸ ready) breaks⟩
  obtain ⟨cache, calls, done, signs⟩ := third
  refine .enter fun finished finalized same => .pure ⟨work, signed, calls, ?_, signs, ?_, rfl⟩
  · rw [same, cache]
    exact ready
  · rw [← ready.length_pairs]
    simpa only [List.nil_append, List.append_nil] using (recorded.trans done).trans finalized

end Signing

namespace Session

open Signing

variable {σ : Type} {session : Session} {registry : Registry} {config : SigningConfig} {oracle : Oracle σ}
  {memory : σ} {request : SigningRequest} {cache : KeyCache} {signal : CancelSignal}

theorem sign_used (used : ¬ session.Fresh) :
    session.sign registry config oracle memory request cache signal =
      ⟨some (.error (.plain .internal "Signing session already used")), session, memory, signal, cache, []⟩ := by
  rw [sign, if_neg used]

/-- The attempt signed: only a new session does, and its result is put together from what was fetched and signed. -/
theorem sign_ok {result : SignedTransaction}
    (signed : (session.sign registry config oracle memory request cache signal).result = some (.ok result)) :
    let attempt := session.sign registry config oracle memory request cache signal
    ∃ (work : Work) (inputs : List (Signature × TxIn)) (calls : List Exchange),
      work.Ready registry config request cache attempt.cache ∧
        SignsAll work.coin config work.unsigned 0 work.pairs inputs calls ∧
        attempt.exchanges = work.asked ++ calls ∧
        attempt.session = session.through (Phase.rounds 0 request.inputs.length ++ [.finalizing] ++ [.done]) ∧
        result = work.result inputs := by
  by_cases fresh : session.Fresh
  · rw [sign, if_pos fresh] at signed ⊢
    have meets := run_meets oracle config registry request ⟨memory, signal, cache, [], session⟩
    unfold Step.Meets at meets
    split at signed
    · rename_i value after ran
      cases signed
      rw [ran] at meets
      obtain ⟨work, inputs, calls, ready, signs, recorded, same⟩ := meets
      refine ⟨work, inputs, calls, ready, signs, recorded.exchanges, ?_, same⟩
      rw [Session.through_concat, ← recorded.session]
      rfl
    · cases signed
    · cases signed
  · rw [sign_used fresh] at signed
    cases signed

/-- An attempt on a new session that signed nothing: the work ended early, with a failure or at a call that stays
open. -/
theorem sign_ends (fresh : session.Fresh)
    (unsigned : ∀ signed, (session.sign registry config oracle memory request cache signal).result ≠
      some (.ok signed)) :
    let attempt := session.sign registry config oracle memory request cache signal
    ∃ phases stop, Ends registry config request cache attempt.cache attempt.signal phases attempt.exchanges stop ∧
      match stop with
      | .failed failure => attempt.result = some (.error failure) ∧
          attempt.session = session.through (phases ++ [.failed failure.code])
      | .stalled => attempt.result = none ∧ attempt.session = session.through phases := by
  rw [sign, if_pos fresh] at unsigned ⊢
  have meets := run_meets oracle config registry request ⟨memory, signal, cache, [], session⟩
  unfold Step.Meets at meets
  split at unsigned
  · exact absurd rfl (unsigned _)
  · rename_i failure after ran
    rw [ran] at meets
    obtain ⟨phases, calls, recorded, ends⟩ := meets
    obtain rfl : after.exchanges = calls := recorded.exchanges
    refine ⟨phases, .failed failure, ends, rfl, ?_⟩
    rw [Session.through_concat, ← recorded.session]
    rfl
  · rename_i after ran
    rw [ran] at meets
    obtain ⟨phases, calls, recorded, ends⟩ := meets
    obtain rfl : after.exchanges = calls := recorded.exchanges
    exact ⟨phases, .stalled, ends, rfl, recorded.session⟩

/-- The attempt failed on a new session: the work ended early, and the failure is the last phase. -/
theorem sign_error (fresh : session.Fresh) {failure : Failure}
    (failed : (session.sign registry config oracle memory request cache signal).result =
      some (.error failure)) :
    let attempt := session.sign registry config oracle memory request cache signal
    ∃ phases, attempt.session = session.through (phases ++ [.failed failure.code]) ∧
      Ends registry config request cache attempt.cache attempt.signal phases attempt.exchanges (.failed failure) := by
  have unsigned : ∀ signed, (session.sign registry config oracle memory request cache signal).result ≠
      some (.ok signed) := by
    intro signed same
    cases failed.symm.trans same
  obtain ⟨phases, stop, ends, outcome⟩ := sign_ends fresh unsigned
  cases stop with
  | failed cause =>
    obtain ⟨same, entered⟩ := outcome
    cases failed.symm.trans same
    exact ⟨phases, entered, ends⟩
  | stalled => cases failed.symm.trans outcome.1

end Session

/-! ### A request that is signed -/

theorem Attempt.signed_of_isOk {σ : Type} {attempt : Attempt σ} (succeeds : attempt.result.any (·.isOk) = true) :
    ∃ signed, attempt.result = some (.ok signed) := by
  cases ended : attempt.result with
  | none =>
    rw [ended] at succeeds
    cases succeeds
  | some result =>
    rw [ended] at succeeds
    cases result with
    | ok signed => exact ⟨signed, rfl⟩
    | error failure => cases succeeds

namespace Sample

def key : Octets 33 := PublicKey.compressed Secp256k1.generator

/-- Spends a native segwit output on an empty data output. -/
def request : SigningRequest where
  coin := "Bitcoin"
  inputs := [⟨[0], .p2wpkh, Hex.encode (Octets.zeros 32).bytes, 0, some 1000, none, none⟩]
  outputs := [.data []]
  version := none
  lockTime := none
  countable := ⟨by decide, by decide⟩

/-- Gives one signature for everything and no keys. -/
def oracle : Oracle Unit where
  publicKey := fun _ _ => (⟨some (.error .rejected), false⟩, ())
  sign := fun _ _ _ _ => (⟨some (.ok (.raw ⟨.zeros 32, .zeros 32⟩)), false⟩, ())

def config : SigningConfig := { verifySignatures := false }

def cache : KeyCache := KeyCache.empty.set [0] key

theorem signs : ∃ signed,
    (({} : Session).sign .builtin config oracle () request cache .armed).result = some (.ok signed) :=
  Attempt.signed_of_isOk (by decide +kernel)

end Sample

end CoinSpend
