import Mathlib.Data.List.Forall2
import Mathlib.Data.List.Nodup
import CoinSpend.Proofs.Address
import CoinSpend.Proofs.Failure
import CoinSpend.Proofs.Script.Instructions
import CoinSpend.Signing.Validation

/-! What validation accepts, check by check: each succeeds exactly if the facts hold that signing relies on. A refusal
has a code of its own kind. -/
namespace CoinSpend

namespace RequestedInput

/-- The amount, and the script if it is known, of the output that the input spends: those in the raw earlier
transaction if it is given, else the declared amount. -/
def Spends (requested : RequestedInput) (amount : UInt64) (script : Option Bytes) : Prop :=
  match requested.rawPrevTx with
  | some raw => ∃ spent, spentOutput raw requested.vout = .ok spent ∧ amount = spent.value ∧
      script = some spent.script
  | none => requested.amount = some amount ∧ script = none

theorem Spends.from_raw {requested : RequestedInput} {amount : UInt64} {script : Bytes}
    (spends : requested.Spends amount (some script)) :
    ∃ raw spent, requested.rawPrevTx = some raw ∧ spentOutput raw requested.vout = .ok spent ∧
      spent.script = script := by
  unfold Spends at spends
  split at spends
  · rename_i raw given
    obtain ⟨spent, looked, _, same⟩ := spends
    exact ⟨raw, spent, given, looked, (Option.some.inj same).symm⟩
  · cases spends.2

end RequestedInput

/-- What a prepared input keeps of the requested one, and what was asked of it. -/
structure Prepares (coin : Coin) (config : SigningConfig) (requested : RequestedInput)
    (prepared : PreparedInput) : Prop where
  singleKey : prepared.scriptType.isMultisig = false
  supported : coin.supports prepared.scriptType = true
  scriptType : prepared.scriptType = requested.scriptType
  owned : requested.path ≠ []
  path : prepared.path = requested.path
  sequence : prepared.sequence = requested.sequence.getD config.defaultSequence
  kind : prepared.kind = Sighash.Kind.select coin prepared.scriptType
  txid : Hex.decodeTrimmed requested.prevTxid = .ok prepared.outpoint.txid.reverse.bytes
  vout : prepared.outpoint.vout = requested.vout
  spends : requested.Spends prepared.amount prepared.prevScript
  known : prepared.kind = .legacy → ∃ script, prepared.prevScript = some script
  declared : ∀ amount, requested.amount = some amount → amount = prepared.amount
  named : config.verifyPrevTxHash = true → ∀ raw spent, requested.rawPrevTx = some raw →
    spentOutput raw requested.vout = .ok spent → spent.txid = prepared.outpoint.txid.reverse

/-- What a planned output keeps of the requested one. -/
structure Plans (coin : Coin) (requested : RequestedOutput) (planned : PlannedOutput) : Prop where
  amount : planned.amount = requested.amount
  script : Validation.planScript coin requested = .ok planned.script

namespace Validation

variable {coin : Coin} {config : SigningConfig}

theorem ensureSignable_iff {scriptType : ScriptType} : ensureSignable coin scriptType = .ok () ↔
    scriptType.isMultisig = false ∧ coin.supports scriptType = true := by
  unfold ensureSignable
  cases scriptType.isMultisig with
  | true =>
    rw [if_pos rfl]
    constructor
    · intro refused
      cases refused
    · rintro ⟨single, _⟩
      cases single
  | false =>
    rw [if_neg Bool.false_ne_true]
    split
    · rename_i supported
      exact ⟨fun _ => ⟨rfl, supported⟩, fun _ => rfl⟩
    · rename_i unsupported
      constructor
      · intro refused
        cases refused
      · rintro ⟨_, supported⟩
        exact absurd supported unsupported

theorem previousTxid_iff {text : String} {txid : Octets 32} :
    previousTxid text = .ok txid ↔ Hex.decodeTrimmed text = .ok txid.bytes := by
  constructor
  · intro read
    obtain ⟨bytes, decoded, sized⟩ := bind_eq_ok.mp read
    split at sized
    · rename_i found fits
      cases sized
      rw [decoded, Octets.ofBytes?_eq_some_iff.mp fits]
    · cases sized
  · intro decoded
    refine bind_eq_ok.mpr ⟨_, decoded, ?_⟩
    rw [Octets.ofBytes?_eq_some_iff.mpr rfl]
    rfl

theorem checkedSpent_iff {requested : RequestedInput} {txid : Octets 32} {raw : String} {spent : SpentOutput} :
    checkedSpent config requested txid raw = .ok spent ↔
      spentOutput raw requested.vout = .ok spent ∧
        (config.verifyPrevTxHash = true → spent.txid = txid) ∧
        ∀ amount, requested.amount = some amount → amount = spent.value := by
  constructor
  · intro checked
    obtain ⟨found, looked, compared⟩ := bind_eq_ok.mp checked
    split at compared
    · cases compared
    · rename_i same
      have named : config.verifyPrevTxHash = true → found.txid = txid :=
        fun verifies => Decidable.not_not.mp fun other => same ⟨verifies, other⟩
      split at compared
      · rename_i declared stated
        split at compared
        · cases compared
        · rename_i equal
          cases compared
          refine ⟨looked, named, fun amount given => ?_⟩
          cases stated.symm.trans given
          exact Decidable.not_not.mp equal
      · rename_i absent
        cases compared
        exact ⟨looked, named, fun amount given => by cases absent.symm.trans given⟩
  · rintro ⟨looked, named, declared⟩
    refine bind_eq_ok.mpr ⟨spent, looked, ?_⟩
    rw [if_neg fun other => other.2 (named other.1)]
    split
    · rename_i amount stated
      rw [if_neg (Decidable.not_not.mpr (declared amount stated))]
      rfl
    · rfl

theorem spentAmount_iff {requested : RequestedInput} {kind : Sighash.Kind} {txid : Octets 32}
    {amount : UInt64} {script : Option Bytes} :
    spentAmount config requested kind txid = .ok (amount, script) ↔
      requested.Spends amount script ∧ (kind = .legacy → ∃ known, script = some known) ∧
        (∀ declared, requested.amount = some declared → declared = amount) ∧
        (config.verifyPrevTxHash = true → ∀ raw spent, requested.rawPrevTx = some raw →
          spentOutput raw requested.vout = .ok spent → spent.txid = txid) := by
  unfold spentAmount RequestedInput.Spends
  cases given : requested.rawPrevTx with
  | some raw =>
    constructor
    · intro found
      obtain ⟨spent, checked, same⟩ := bind_eq_ok.mp found
      cases same
      obtain ⟨looked, named, declared⟩ := checkedSpent_iff.mp checked
      refine ⟨⟨spent, looked, rfl, rfl⟩, fun _ => ⟨spent.script, rfl⟩, declared, ?_⟩
      intro verifies other shown same again
      obtain rfl := Option.some.inj same
      obtain rfl := Except.ok.inj (looked.symm.trans again)
      exact named verifies
    · rintro ⟨⟨spent, looked, rfl, rfl⟩, _, declared, named⟩
      refine bind_eq_ok.mpr ⟨spent, checkedSpent_iff.mpr ⟨looked, ?_, declared⟩, rfl⟩
      exact fun verifies => named verifies raw spent rfl looked
  | none =>
    dsimp only
    constructor
    · intro found
      split at found
      · cases found
      · rename_i other
        split at found
        · rename_i declared stated
          cases found
          refine ⟨⟨stated, rfl⟩, fun legacy => absurd legacy other, fun again given => ?_, ?_⟩
          · cases stated.symm.trans given
            rfl
          · intro _ raw spent shown
            cases shown
        · cases found
    · rintro ⟨⟨stated, rfl⟩, known, _⟩
      have other : kind ≠ .legacy := by
        intro legacy
        obtain ⟨script, shown⟩ := known legacy
        cases shown
      simp only [if_neg other, stated]
      rfl

theorem prepareInput_iff {requested : RequestedInput} {prepared : PreparedInput} :
    prepareInput coin config requested = .ok prepared ↔ Prepares coin config requested prepared := by
  constructor
  · intro ready
    obtain ⟨_, signable, ready⟩ := bind_eq_ok.mp ready
    split at ready
    · cases ready
    · rename_i owned
      obtain ⟨txid, read, ready⟩ := bind_eq_ok.mp ready
      obtain ⟨⟨amount, script⟩, found, ready⟩ := bind_eq_ok.mp ready
      cases ready
      obtain ⟨singleKey, supported⟩ := ensureSignable_iff.mp signable
      obtain ⟨spends, known, declared, named⟩ := spentAmount_iff.mp found
      exact {
        singleKey := singleKey
        supported := supported
        scriptType := rfl
        owned := fun none => owned (List.isEmpty_iff.mpr none)
        path := rfl
        sequence := rfl
        kind := rfl
        txid := by rw [Octets.reverse_reverse]; exact previousTxid_iff.mp read
        vout := rfl
        spends := spends
        known := known
        declared := declared
        named := by rw [Octets.reverse_reverse]; exact named }
  · intro prepares
    obtain ⟨⟨txid, vout⟩, sequence, path, scriptType, kind, amount, script⟩ := prepared
    obtain ⟨singleKey, supported, rfl, owned, rfl, rfl, select, read, rfl, spends, known, declared, named⟩ := prepares
    have chosen : kind = Sighash.Kind.select coin requested.scriptType := select
    subst chosen
    refine bind_eq_ok.mpr ⟨(), ensureSignable_iff.mpr ⟨singleKey, supported⟩, ?_⟩
    rw [if_neg fun none => owned (List.isEmpty_iff.mp none)]
    refine bind_eq_ok.mpr ⟨txid.reverse, previousTxid_iff.mpr read, ?_⟩
    refine bind_eq_ok.mpr ⟨(amount, script), spentAmount_iff.mpr ⟨spends, known, declared, named⟩, ?_⟩
    rw [Octets.reverse_reverse]
    rfl

theorem not_spent_iff {ready : List PreparedInput} {prepared : PreparedInput} :
    ¬ ready.any (·.outpoint == prepared.outpoint) = true ↔ prepared.outpoint ∉ ready.map (·.outpoint) := by
  simp only [List.any_eq_true, beq_iff_eq, List.mem_map]

/-- Every input is compared with those before it, so that in the end no two are alike. -/
theorem prepareInputs_iff {inputs : List RequestedInput} {ready all : List PreparedInput}
    (distinct : (ready.map (·.outpoint)).Nodup) :
    prepareInputs coin config ready inputs = .ok all ↔
      ∃ more, all = ready.reverse ++ more ∧ List.Forall₂ (Prepares coin config) inputs more ∧
        ((ready.reverse ++ more).map (·.outpoint)).Nodup := by
  induction inputs generalizing ready with
  | nil =>
    constructor
    · intro prepared
      cases prepared
      refine ⟨[], (List.append_nil _).symm, .nil, ?_⟩
      rw [List.append_nil, List.map_reverse, List.nodup_reverse]
      exact distinct
    · rintro ⟨_, rfl, ⟨⟩, _⟩
      rw [prepareInputs, List.append_nil]
  | cons input inputs ih =>
    constructor
    · intro prepared
      obtain ⟨first, checked, prepared⟩ := bind_eq_ok.mp prepared
      obtain ⟨made, prepares, checked⟩ := bind_eq_ok.mp (mapError_eq_ok.mp checked)
      split at checked
      · cases checked
      · rename_i fresh
        cases checked
        have unlike : ((first :: ready).map (·.outpoint)).Nodup :=
          List.nodup_cons.mpr ⟨not_spent_iff.mp fresh, distinct⟩
        obtain ⟨more, rfl, each, apart⟩ := (ih unlike).mp prepared
        rw [List.reverse_cons, List.append_assoc] at apart ⊢
        exact ⟨first :: more, rfl, .cons (prepareInput_iff.mp prepares) each, apart⟩
    · rintro ⟨each, rfl, related, apart⟩
      obtain ⟨first, more, prepares, each, rfl⟩ := List.forall₂_cons_left_iff.mp related
      have regrouped : ready.reverse ++ first :: more = (first :: ready).reverse ++ more := by
        rw [List.reverse_cons, List.append_assoc, List.singleton_append]
      rw [regrouped] at apart
      have unlike : ((first :: ready).map (·.outpoint)).Nodup := by
        rw [List.map_append, List.map_reverse] at apart
        exact List.nodup_reverse.mp (List.nodup_append.mp apart).1
      refine bind_eq_ok.mpr ⟨first, mapError_eq_ok.mpr (bind_eq_ok.mpr ⟨first, prepareInput_iff.mpr prepares, ?_⟩),
        (ih unlike).mpr ⟨more, regrouped, each, apart⟩⟩
      rw [if_neg (not_spent_iff.mpr (List.nodup_cons.mp unlike).1)]
      rfl

theorem planOutputs_iff {outputs : List RequestedOutput} {before all : List PlannedOutput} :
    planOutputs coin before outputs = .ok all ↔
      ∃ more, all = before.reverse ++ more ∧ List.Forall₂ (Plans coin) outputs more := by
  induction outputs generalizing before with
  | nil =>
    constructor
    · intro planned
      cases planned
      exact ⟨[], (List.append_nil _).symm, .nil⟩
    · rintro ⟨_, rfl, ⟨⟩⟩
      rw [planOutputs, List.append_nil]
  | cons output outputs ih =>
    constructor
    · intro planned
      obtain ⟨script, chosen, planned⟩ := bind_eq_ok.mp planned
      obtain ⟨more, rfl, each⟩ := ih.mp planned
      exact ⟨⟨output.amount, script⟩ :: more, by simp, .cons ⟨rfl, mapError_eq_ok.mp chosen⟩ each⟩
    · rintro ⟨each, rfl, related⟩
      obtain ⟨⟨amount, script⟩, more, ⟨same, chosen⟩, each, rfl⟩ := List.forall₂_cons_left_iff.mp related
      obtain rfl : amount = output.amount := same
      exact bind_eq_ok.mpr ⟨script, mapError_eq_ok.mpr chosen, ih.mpr ⟨more, by simp, each⟩⟩

theorem total_iff {amounts : List UInt64} {sum : Nat} :
    total amounts = .ok sum ↔ sum = exactSum amounts ∧ exactSum amounts < UInt64.size := by
  unfold total
  split
  · rename_i fits
    constructor
    · intro same
      cases same
      exact ⟨rfl, fits⟩
    · rintro ⟨rfl, _⟩
      rfl
  · rename_i large
    constructor
    · intro refused
      cases refused
    · rintro ⟨_, fits⟩
      exact absurd fits large

/-- An output pays to an address, to a key of its own, or carries data. -/
theorem planScript_iff {requested : RequestedOutput} {script : OutputScript} :
    planScript coin requested = .ok script ↔
      (∃ address target, requested.address = some address ∧ requested.path = none ∧
        requested.returnData = none ∧ coin.classify address = .ok target ∧ script = .fixed target.script) ∨
      (∃ path scriptType, requested.address = none ∧ requested.path = some path ∧
        requested.returnData = none ∧ requested.scriptType = some scriptType ∧
        scriptType.isMultisig = false ∧ coin.supports scriptType = true ∧ script = .change path scriptType) ∨
      ∃ data bytes returned, requested.address = none ∧ requested.path = none ∧
        requested.returnData = some data ∧ requested.amount = 0 ∧ Hex.decodeTrimmed data = .ok bytes ∧
        Script.opReturn bytes = .ok returned ∧ script = .fixed returned := by
  constructor
  · intro planned
    unfold planScript at planned
    split at planned
    · rename_i address given pathless dataless
      obtain ⟨target, classified, same⟩ := bind_eq_ok.mp planned
      cases same
      exact .inl ⟨address, target, given, pathless, dataless, classified, rfl⟩
    · rename_i path addressless given dataless
      split at planned
      · cases planned
      · rename_i scriptType typed
        obtain ⟨_, signable, same⟩ := bind_eq_ok.mp planned
        cases same
        obtain ⟨single, supported⟩ := ensureSignable_iff.mp signable
        exact .inr (.inl ⟨path, scriptType, addressless, given, dataless, typed, single, supported, rfl⟩)
    · rename_i data addressless pathless given
      split at planned
      · cases planned
      · rename_i free
        obtain ⟨bytes, decoded, planned⟩ := bind_eq_ok.mp planned
        obtain ⟨returned, made, same⟩ := bind_eq_ok.mp planned
        cases same
        exact .inr (.inr ⟨data, bytes, returned, addressless, pathless, given, Decidable.not_not.mp free, decoded,
          made, rfl⟩)
    · cases planned
    · cases planned
  · rintro (⟨address, target, given, pathless, dataless, classified, rfl⟩ |
      ⟨path, scriptType, addressless, given, dataless, typed, single, supported, rfl⟩ |
      ⟨data, bytes, returned, addressless, pathless, given, free, decoded, made, rfl⟩)
    · simp only [planScript, given, pathless, dataless, classified]
      rfl
    · simp only [planScript, addressless, given, dataless, typed, ensureSignable_iff.mpr ⟨single, supported⟩]
      rfl
    · simp only [planScript, addressless, pathless, given]
      rw [if_neg (Decidable.not_not.mpr free)]
      exact bind_eq_ok.mpr ⟨bytes, decoded, bind_eq_ok.mpr ⟨returned, made, rfl⟩⟩

/-- A planned change output pays to one key. -/
theorem planScript_change {requested : RequestedOutput} {path : KeyPath} {scriptType : ScriptType}
    (planned : planScript coin requested = .ok (.change path scriptType)) :
    scriptType.isMultisig = false := by
  rcases planScript_iff.mp planned with ⟨_, _, _, _, _, _, other⟩ | ⟨_, _, _, _, _, _, single, _, same⟩ |
    ⟨_, _, _, _, _, _, _, _, _, other⟩
  · cases other
  · cases same
    exact single
  · cases other

end Validation

/-- What an accepted request becomes, and what was asked of it as a whole. -/
structure Accepts (coin : Coin) (config : SigningConfig) (request : SigningRequest)
    (validated : ValidatedRequest) : Prop where
  version : validated.version = request.version.getD config.defaultVersion
  lockTime : validated.lockTime = request.lockTime.getD 0
  spends : validated.inputs ≠ []
  pays : validated.outputs ≠ []
  inputs : List.Forall₂ (Prepares coin config) request.inputs validated.inputs
  outputs : List.Forall₂ (Plans coin) request.outputs validated.outputs
  distinct : (validated.inputs.map (·.outpoint)).Nodup
  totalIn : Validation.exactSum (validated.inputs.map (·.amount)) < UInt64.size
  totalOut : Validation.exactSum (request.outputs.map (·.amount)) < UInt64.size
  fee : validated.fee + Validation.exactSum (request.outputs.map (·.amount)) =
    Validation.exactSum (validated.inputs.map (·.amount))

open Validation in
theorem SigningRequest.validate_iff {request : SigningRequest} {coin : Coin} {config : SigningConfig}
    {validated : ValidatedRequest} :
    request.validate coin config = .ok validated ↔ Accepts coin config request validated := by
  have nonempty {α β : Type} {related : α → β → Prop} {left : List α} {right : List β}
      (each : List.Forall₂ related left right) : left.isEmpty = true ↔ right = [] := by
    rw [List.isEmpty_iff_length_eq_zero, each.length_eq, List.length_eq_zero_iff]
  have unspent : (([] : List PreparedInput).map (·.outpoint)).Nodup := List.nodup_nil
  unfold SigningRequest.validate
  constructor
  · intro accepted
    split at accepted
    · cases accepted
    · rename_i spends
      split at accepted
      · cases accepted
      · rename_i pays
        obtain ⟨inputs, ready, accepted⟩ := bind_eq_ok.mp accepted
        obtain ⟨outputs, planned, accepted⟩ := bind_eq_ok.mp accepted
        obtain ⟨totalIn, sumIn, accepted⟩ := bind_eq_ok.mp accepted
        obtain ⟨totalOut, sumOut, accepted⟩ := bind_eq_ok.mp accepted
        obtain ⟨_, rfl, eachInput, distinct⟩ := (prepareInputs_iff unspent).mp ready
        obtain ⟨_, rfl, eachOutput⟩ := planOutputs_iff.mp planned
        obtain ⟨rfl, fitsIn⟩ := total_iff.mp sumIn
        obtain ⟨rfl, fitsOut⟩ := total_iff.mp sumOut
        split at accepted
        · cases accepted
        · rename_i covered
          cases accepted
          exact ⟨rfl, rfl, mt (nonempty eachInput).mpr spends, mt (nonempty eachOutput).mpr pays, eachInput,
            eachOutput, distinct, fitsIn, fitsOut, Nat.sub_add_cancel (Nat.not_lt.mp covered)⟩
  · intro accepts
    obtain ⟨version, lockTime, inputs, outputs, fee⟩ := validated
    obtain ⟨rfl, rfl, spends, pays, eachInput, eachOutput, distinct, fitsIn, fitsOut, balance⟩ := accepts
    rw [if_neg (mt (nonempty eachInput).mp spends), if_neg (mt (nonempty eachOutput).mp pays)]
    refine bind_eq_ok.mpr ⟨inputs, (prepareInputs_iff unspent).mpr ⟨inputs, rfl, eachInput, distinct⟩, ?_⟩
    refine bind_eq_ok.mpr ⟨outputs, planOutputs_iff.mpr ⟨outputs, rfl, eachOutput⟩, ?_⟩
    refine bind_eq_ok.mpr ⟨_, total_iff.mpr ⟨rfl, fitsIn⟩, bind_eq_ok.mpr ⟨_, total_iff.mpr ⟨rfl, fitsOut⟩, ?_⟩⟩
    have paid : fee + exactSum (request.outputs.map (·.amount)) = exactSum (inputs.map (·.amount)) := balance
    rw [if_neg (by omega), Nat.eq_sub_of_add_eq paid]
    rfl

/-! ### Codes of refusals -/

theorem Refusal.code_isValidation (refusal : Refusal) : refusal.toFailure.code.isValidation = true := by
  cases refusal <;> rfl

theorem refuse_failsWith {α : Type} (refusal : Refusal) :
    FailsWith Failure.Code.isValidation (refuse refusal : Except Failure α) :=
  .error refusal.code_isValidation

theorem Registry.require_failsWith (registry : Registry) (name : String) :
    FailsWith Failure.Code.isValidation (registry.require name) := by
  unfold Registry.require
  split
  · exact .ok _
  · exact .error rfl

theorem Hex.decodeTrimmed_failsWith (text : String) :
    FailsWith Failure.Code.isValidation (Hex.decodeTrimmed text) :=
  .mapError fun _ _ => rfl

theorem spentOutput_failsWith (raw : String) (vout : UInt32) :
    FailsWith Failure.Code.isValidation (spentOutput raw vout) := by
  refine .bind (Hex.decodeTrimmed_failsWith raw) fun bytes => ?_
  refine .bind (.mapError fun _ _ => rfl) fun tx => ?_
  split
  · exact .ok _
  · exact .error rfl

theorem Coin.classify_failsWith (coin : Coin) (address : String) :
    FailsWith Failure.Code.isValidation (coin.classify address) := by
  intro failure failed
  rw [Coin.unrecognized_of_classify failed]
  rfl

theorem Script.opReturn_failsWith (data : Bytes) :
    FailsWith Failure.Code.isValidation (Script.opReturn data) := by
  unfold Script.opReturn
  split
  · exact .error rfl
  · exact .ok _

namespace Validation

variable (coin : Coin) (config : SigningConfig)

theorem ensureSignable_failsWith (scriptType : ScriptType) :
    FailsWith Failure.Code.isValidation (ensureSignable coin scriptType) := by
  unfold ensureSignable
  split
  · exact refuse_failsWith _
  · split
    · exact .ok _
    · exact .error rfl

theorem previousTxid_failsWith (text : String) :
    FailsWith Failure.Code.isValidation (previousTxid text) := by
  refine .bind (Hex.decodeTrimmed_failsWith text) fun bytes => ?_
  split
  · exact .ok _
  · exact refuse_failsWith _

theorem checkedSpent_failsWith (requested : RequestedInput) (txid : Octets 32) (raw : String) :
    FailsWith Failure.Code.isValidation (checkedSpent config requested txid raw) := by
  refine .bind (spentOutput_failsWith raw requested.vout) fun spent => ?_
  split
  · exact refuse_failsWith _
  · split
    · split
      · exact refuse_failsWith _
      · exact .ok _
    · exact .ok _

theorem spentAmount_failsWith (requested : RequestedInput) (kind : Sighash.Kind) (txid : Octets 32) :
    FailsWith Failure.Code.isValidation (spentAmount config requested kind txid) := by
  unfold spentAmount
  split
  · exact .bind (checkedSpent_failsWith config requested txid _) fun spent => .ok _
  · split
    · exact refuse_failsWith _
    · split
      · exact .ok _
      · exact refuse_failsWith _

theorem prepareInput_failsWith (requested : RequestedInput) :
    FailsWith Failure.Code.isValidation (prepareInput coin config requested) := by
  refine .bind (ensureSignable_failsWith coin requested.scriptType) fun _ => ?_
  split
  · exact refuse_failsWith _
  · refine .bind (previousTxid_failsWith requested.prevTxid) fun txid => ?_
    exact .bind (spentAmount_failsWith config requested _ txid) fun _ => .ok _

theorem prepareInputs_failsWith (inputs : List RequestedInput) (ready : List PreparedInput) :
    FailsWith Failure.Code.isValidation (prepareInputs coin config ready inputs) := by
  induction inputs generalizing ready with
  | nil => exact .ok _
  | cons input inputs ih =>
    refine .bind (.withDetails _ (.bind (prepareInput_failsWith coin config input) fun prepared => ?_))
      fun prepared => ih (prepared :: ready)
    split
    · exact refuse_failsWith _
    · exact .ok _

theorem planScript_failsWith (requested : RequestedOutput) :
    FailsWith Failure.Code.isValidation (planScript coin requested) := by
  unfold planScript
  split
  · exact .bind (coin.classify_failsWith _) fun _ => .ok _
  · split
    · exact refuse_failsWith _
    · exact .bind (ensureSignable_failsWith coin _) fun _ => .ok _
  · split
    · exact refuse_failsWith _
    · refine .bind (Hex.decodeTrimmed_failsWith _) fun data => ?_
      exact .bind (Script.opReturn_failsWith data) fun _ => .ok _
  · exact refuse_failsWith _
  · exact refuse_failsWith _

theorem planOutputs_failsWith (outputs : List RequestedOutput) (planned : List PlannedOutput) :
    FailsWith Failure.Code.isValidation (planOutputs coin planned outputs) := by
  induction outputs generalizing planned with
  | nil => exact .ok _
  | cons output outputs ih =>
    exact .bind (.withDetails _ (planScript_failsWith coin output)) fun script => ih _

theorem total_failsWith (amounts : List UInt64) :
    FailsWith Failure.Code.isValidation (total amounts) := by
  unfold total
  split
  · exact .ok _
  · exact refuse_failsWith _

end Validation

open Validation in
theorem SigningRequest.validate_failsWith (request : SigningRequest) (coin : Coin)
    (config : SigningConfig) :
    FailsWith Failure.Code.isValidation (request.validate coin config) := by
  unfold SigningRequest.validate
  split
  · exact refuse_failsWith _
  · split
    · exact refuse_failsWith _
    · refine .bind (prepareInputs_failsWith coin config _ _) fun inputs => ?_
      refine .bind (planOutputs_failsWith coin _ _) fun outputs => ?_
      refine .bind (total_failsWith _) fun totalIn => ?_
      refine .bind (total_failsWith _) fun totalOut => ?_
      split
      · exact refuse_failsWith _
      · exact .ok _

end CoinSpend
