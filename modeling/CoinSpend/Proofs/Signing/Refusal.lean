import CoinSpend.Proofs.Signing.History

/-! When a validation code means that the oracle was not asked. It always does for a refusal before the first call; but
whether a spent output is locked to a key can be said only when the key is there, and the session says it with a
validation code too. -/
namespace CoinSpend

/-- The paths of change outputs and inputs. -/
def SigningRequest.paths (request : SigningRequest) : List KeyPath :=
  request.outputs.flatMap (·.path.toList) ++ request.inputs.map (·.path)

namespace Validation

variable {coin : Coin}

theorem planScript_paths {requested : RequestedOutput} {script : OutputScript} {amount : UInt64}
    (planned : planScript coin requested = .ok script) :
    PlannedOutput.paths ⟨amount, script⟩ = requested.path.toList := by
  rcases planScript_iff.mp planned with ⟨_, _, _, pathless, _, _, rfl⟩ | ⟨_, _, _, given, _, _, _, _, rfl⟩ |
    ⟨_, _, _, _, pathless, _, _, _, _, rfl⟩
  · rw [pathless]
    rfl
  · rw [given]
    rfl
  · rw [pathless]
    rfl

end Validation

theorem Accepts.paths_eq {coin : Coin} {config : SigningConfig} {request : SigningRequest}
    {validated : ValidatedRequest} (accepts : Accepts coin config request validated) :
    validated.paths = request.paths := by
  have outputs : validated.outputs.flatMap PlannedOutput.paths = request.outputs.flatMap (·.path.toList) := by
    have each := accepts.outputs
    generalize validated.outputs = planned at each ⊢
    generalize request.outputs = requested at each ⊢
    induction each with
    | nil => rfl
    | cons plans _ ih => rw [List.flatMap_cons, List.flatMap_cons, ih, ← Validation.planScript_paths plans.script]
  have inputs : validated.inputs.flatMap (fun input => [input.path]) = request.inputs.map (·.path) := by
    have each := accepts.inputs
    generalize validated.inputs = prepared at each ⊢
    generalize request.inputs = requested at each ⊢
    induction each with
    | nil => rfl
    | cons prepares _ ih => rw [List.flatMap_cons, List.map_cons, ih, prepares.path, List.singleton_append]
  rw [ValidatedRequest.paths, SigningRequest.paths, outputs, inputs]

namespace Signing

variable {registry : Registry} {config : SigningConfig} {request : SigningRequest} {before after : KeyCache}
  {signal : CancelSignal}

theorem Work.Ready.served {work : Work} (ready : work.Ready registry config request before after) :
    ∀ path ∈ work.validated.paths, ∃ key, after.find? path = some key := by
  intro path wanted
  rcases List.mem_append.mp wanted with change | spent
  · obtain ⟨planned, member, own⟩ := List.mem_flatMap.mp change
    obtain ⟨output, _, _, resolves⟩ := partner_of_mem ready.outputs.flip member
    cases planned with
    | mk amount script =>
      cases script with
      | fixed script => cases own
      | change other scriptType =>
        obtain ⟨key, found, _⟩ := resolves
        cases List.mem_singleton.mp own
        exact ⟨key, found⟩
  · obtain ⟨input, member, own⟩ := List.mem_flatMap.mp spent
    obtain ⟨key, _, found⟩ := partner_of_mem ready.keys.flip member
    cases List.mem_singleton.mp own
    exact ⟨key, found⟩

/-- No call for a key is made just when the keys of all paths are cached. -/
theorem Work.Ready.asked_eq_nil_iff {work : Work} (ready : work.Ready registry config request before after) :
    work.asked = [] ↔ ∀ path ∈ request.paths, ∃ key, before.find? path = some key := by
  rw [ready.fetches.calls_eq_nil_iff ready.served, ready.accepts.paths_eq]

theorem isOracle_of_isValidation {code : Failure.Code} (validation : code.isValidation = true) :
    code.isOracle = false := by
  cases code <;> first | rfl | cases validation

theorem Breaks.phases_ne_nil {coin : Coin} {unsigned : Transaction} {index : Nat} {input : PreparedInput}
    {key : Octets 33} {phases : List Phase} {calls : List Exchange} {stop : Stop}
    (breaks : Breaks coin config unsigned index input key signal phases calls stop) : phases ≠ [] := by
  cases breaks <;> exact List.cons_ne_nil _ _

/-- With a validation code, only the first input can have been looked at without a call. -/
theorem BreaksAt.calls_eq_nil_iff {coin : Coin} {unsigned : Transaction} {pairs : List (PreparedInput × Octets 33)}
    {phases : List Phase} {calls : List Exchange} {failure : Failure}
    (validation : failure.code.isValidation = true)
    (breaks : BreaksAt coin config unsigned 0 pairs signal phases calls (.failed failure)) :
    calls = [] ↔ phases = [.hashing 0] := by
  obtain ⟨done, pair, signed, broken, earlier, last, found, all, rfl, rfl, cause⟩ := breaks
  have count := SignsAll.length_take found all
  rw [Nat.zero_add] at cause
  constructor
  · intro none
    obtain ⟨rfl, rfl⟩ := List.append_eq_nil_iff.mp none
    cases count
    cases cause with
    | notLocked => rfl
    | cancelled reason => cases (isOracle_of_isValidation validation).symm.trans reason
  · intro first
    cases done with
    | zero =>
      rw [List.length_eq_zero_iff] at count
      subst count
      cases cause with
      | notLocked => rfl
      | cancelled => cases first
      | unserved => cases first
      | unusable => cases first
    | succ done => cases first

/-- When the work ended early with a validation code, no call was made just if it ended before any input, or at the
first input with every key cached. -/
theorem Ends.calls_eq_nil_iff {phases : List Phase} {calls : List Exchange} {failure : Failure}
    (validation : failure.code.isValidation = true)
    (ends : Ends registry config request before after signal phases calls (.failed failure)) :
    calls = [] ↔ phases = [] ∨ phases = [.hashing 0] ∧
      ∀ path ∈ request.paths, ∃ key, before.find? path = some key := by
  cases ends with
  | refused => exact ⟨fun _ => .inl rfl, fun _ => rfl⟩
  | unserved _ reason _ => cases (isOracle_of_isValidation validation).symm.trans reason
  | broken ready breaks =>
    have some : phases ≠ [] := by
      obtain ⟨done, pair, signed, broken, earlier, last, _, _, rfl, _, cause⟩ := breaks
      exact List.append_ne_nil_of_right_ne_nil _ cause.phases_ne_nil
    rw [List.append_eq_nil_iff, ready.asked_eq_nil_iff, breaks.calls_eq_nil_iff validation]
    constructor
    · exact fun ⟨known, first⟩ => .inr ⟨first, known⟩
    · rintro (none | ⟨first, known⟩)
      · exact absurd none some
      · exact ⟨known, first⟩

end Signing

/-- A validation code in the result means that the oracle was not called. -/
def Attempt.RefusedUnasked {σ : Type} (attempt : Attempt σ) : Prop :=
  ∀ failure, attempt.result = some (.error failure) → failure.code.isValidation = true →
    attempt.exchanges = []

namespace Session

open Signing

/-- A validation code means that the oracle was not called just if the attempt was left while building, or at the
first input with every key cached. Otherwise the code is that of an invalid input, and the cause is an output that
is shown to be locked to another key, or a cached key that is none. -/
theorem refusedUnasked_iff {σ : Type} (registry : Registry) (config : SigningConfig) (oracle : Oracle σ)
    (memory : σ) (request : SigningRequest) (cache : KeyCache) (signal : CancelSignal) :
    let attempt := ({} : Session).sign registry config oracle memory request cache signal
    (attempt.RefusedUnasked ↔ ∀ failure, attempt.result = some (.error failure) →
      failure.code.isValidation = true →
        attempt.session.history = [.building, .failed failure.code] ∨
        attempt.session.history = [.building, .hashing 0, .failed failure.code] ∧
          ∀ path ∈ request.paths, ∃ key, cache.find? path = some key) ∧
      (¬ attempt.RefusedUnasked → ∃ failure, attempt.result = some (.error failure) ∧
        failure.code = .invalidInput ∧
        ((∃ requested ∈ request.inputs, requested.NotLocked attempt.cache) ∨ ¬ cache.Valid)) := by
  intro attempt
  have unasked (failure : Failure) (failed : attempt.result = some (.error failure))
      (validation : failure.code.isValidation = true) : attempt.exchanges = [] ↔
        attempt.session.history = [.building, .failed failure.code] ∨
        attempt.session.history = [.building, .hashing 0, .failed failure.code] ∧
          ∀ path ∈ request.paths, ∃ key, cache.find? path = some key := by
    obtain ⟨phases, left, ends⟩ := sign_error fresh_default failed
    have same (entered : List Phase) : attempt.session.history = .building :: entered ++ [.failed failure.code] ↔
        phases = entered := by
      have history : attempt.session.history = .building :: phases ++ [.failed failure.code] := by
        rw [show attempt.session = _ from left, history_through]
        rfl
      rw [history, List.append_left_inj, List.cons.injEq]
      exact and_iff_right rfl
    rw [ends.calls_eq_nil_iff validation, ← same [], ← same [.hashing 0]]
    rfl
  constructor
  · constructor
    · exact fun holds failure failed validation =>
        (unasked failure failed validation).mp (holds failure failed validation)
    · exact fun early failure failed validation =>
        (unasked failure failed validation).mpr (early failure failed validation)
  · intro asked
    simp only [Attempt.RefusedUnasked, not_forall] at asked
    obtain ⟨failure, failed, validation, calls⟩ := asked
    obtain ⟨phases, history, leaves⟩ := history_of_failed failed
    have further : phases ≠ [.building] := by
      rintro rfl
      exact calls ((unasked failure failed validation).mpr (.inl history))
    obtain ⟨left, later, allowed⟩ := leaves.later further
    refine ⟨failure, failed, ?_⟩
    cases left with
    | building => exact absurd rfl later
    | hashing index =>
      obtain ⟨code, requested, given, locked⟩ := allowed
      exact ⟨code, .inl ⟨requested, List.mem_of_getElem? given, locked⟩⟩
    | awaitingSignature index => cases (isOracle_of_isValidation validation).symm.trans allowed
    | assembling index =>
      rcases allowed with malformed | ⟨code, invalid⟩
      · rw [malformed] at validation
        cases validation
      · exact ⟨code, .inr invalid⟩
    | finalizing | done | failed _ => exact allowed.elim

namespace Foreign

/-- An earlier transaction whose output has an empty script. -/
def earlier : Transaction where
  version := 1
  inputs := [.unsigned ⟨.zeros 32, 0⟩ 0xffffffff]
  outputs := [⟨1000, []⟩]
  lockTime := 0

/-- Spends the output as if it were locked to a key. -/
def request : SigningRequest where
  coin := "Bitcoin"
  inputs := [⟨[0], .p2pkh, Hex.encode (Octets.zeros 32).bytes, 0, none, some (Hex.encode earlier.bytes), none⟩]
  outputs := [.data []]
  version := none
  lockTime := none
  countable := ⟨by decide, by decide⟩

def config : SigningConfig := { verifyPrevTxHash := false }

/-- Gives the generator as every key, in 65 bytes. -/
def oracle : Oracle Unit where
  publicKey := fun _ _ =>
    (⟨some (.ok (0x04 :: bigEndian 32 Secp256k1.generator.x ++ bigEndian 32 Secp256k1.generator.y)), false⟩, ())
  sign := fun _ _ _ _ => (⟨some (.error .rejected), false⟩, ())

end Foreign

/-- The key of the output's owner is asked for before the input is found to be invalid. -/
theorem asked_then_refused : ¬ (({} : Session).sign .builtin Foreign.config Foreign.oracle () Foreign.request
    .empty .armed).RefusedUnasked := by
  have observed : (({} : Session).sign .builtin Foreign.config Foreign.oracle () Foreign.request .empty
      .armed).result.elim false (fun result => match result with
        | .ok _ => false
        | .error failure => failure.code.isValidation) = true ∧
      (({} : Session).sign .builtin Foreign.config Foreign.oracle () Foreign.request .empty
        .armed).exchanges.length = 1 := by decide +kernel
  obtain ⟨refused, calls⟩ := observed
  intro unasked
  unfold Attempt.RefusedUnasked at unasked
  generalize (({} : Session).sign .builtin Foreign.config Foreign.oracle () Foreign.request .empty
    .armed).result = result at refused unasked
  cases result with
  | none => cases refused
  | some result =>
    cases result with
    | ok signed => cases refused
    | error failure =>
      rw [unasked failure rfl refused] at calls
      cases calls

end Session

end CoinSpend
