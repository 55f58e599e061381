import CoinSpend.Proofs.Bytes.Hex
import CoinSpend.Proofs.Related
import CoinSpend.Proofs.Signing.Validation

/-! Which requests are accepted. The conditions are said of the request alone, input by input and output by output, and
then of all together; validation succeeds exactly under them, and its fee is what they leave over. -/
namespace CoinSpend

/-- The text is the raw form of a transaction which has the output at the given place. -/
def RawOutput (raw : String) (vout : UInt32) (earlier : Transaction) (output : TxOut) : Prop :=
  ∃ bytes, Hex.decodeTrimmed raw = .ok bytes ∧ Wire.Reader.whole Wire.readTransaction bytes = .ok earlier ∧
    earlier.outputs[vout.toNat]? = some output

theorem spentOutput_iff {raw : String} {vout : UInt32} {spent : SpentOutput} :
    spentOutput raw vout = .ok spent ↔
      ∃ earlier output, RawOutput raw vout earlier output ∧
        spent = ⟨earlier.txid, output.value, output.script⟩ := by
  constructor
  · intro looked
    obtain ⟨bytes, decoded, looked⟩ := bind_eq_ok.mp looked
    obtain ⟨earlier, read, looked⟩ := bind_eq_ok.mp looked
    split at looked
    · rename_i output found
      cases looked
      exact ⟨earlier, output, ⟨bytes, decoded, mapError_eq_ok.mp read, found⟩, rfl⟩
    · cases looked
  · rintro ⟨earlier, output, ⟨bytes, decoded, read, found⟩, rfl⟩
    refine bind_eq_ok.mpr ⟨bytes, decoded, bind_eq_ok.mpr ⟨earlier, mapError_eq_ok.mpr read, ?_⟩⟩
    rw [found]
    rfl

/-- Ids are shown in the order opposite to the one in which they are written. -/
theorem Outpoint.eq_of_shown {outpoint other : Outpoint}
    (txid : outpoint.txid.reverse.bytes = other.txid.reverse.bytes) (vout : outpoint.vout = other.vout) :
    outpoint = other := by
  obtain ⟨id, _⟩ := outpoint
  obtain ⟨named, _⟩ := other
  obtain rfl : id = named := Octets.ext (List.reverse_inj.mp txid)
  rw [mk.injEq]
  exact ⟨rfl, vout⟩

/-- The input may be spent, and it spends `amount` at `outpoint`. -/
structure RequestedInput.Acceptable (requested : RequestedInput) (coin : Coin) (config : SigningConfig)
    (outpoint : Outpoint) (amount : UInt64) : Prop where
  singleKey : requested.scriptType.isMultisig = false
  supported : coin.supports requested.scriptType = true
  owned : requested.path ≠ []
  txid : Hex.decodeTrimmed requested.prevTxid = .ok outpoint.txid.reverse.bytes
  vout : outpoint.vout = requested.vout
  /-- The raw earlier transaction, if it is given, has the output, and nothing that is declared contradicts it. -/
  shown : ∀ raw, requested.rawPrevTx = some raw → ∃ earlier output,
    RawOutput raw requested.vout earlier output ∧ output.value = amount ∧
      (∀ declared, requested.amount = some declared → declared = output.value) ∧
      (config.verifyPrevTxHash = true →
        Text.sameName (Hex.encode earlier.txid.bytes) (Text.trim requested.prevTxid) = true)
  declared : requested.rawPrevTx = none →
    Sighash.Kind.select coin requested.scriptType ≠ .legacy ∧ requested.amount = some amount

/-- The output names one target, and that can be paid to. -/
def RequestedOutput.Acceptable (requested : RequestedOutput) (coin : Coin) : Prop :=
  (∃ address target, requested.address = some address ∧ requested.path = none ∧ requested.returnData = none ∧
    coin.classify address = .ok target) ∨
  (∃ path scriptType, requested.address = none ∧ requested.path = some path ∧ requested.returnData = none ∧
    requested.scriptType = some scriptType ∧ scriptType.isMultisig = false ∧ coin.supports scriptType = true) ∨
  ∃ data bytes, requested.address = none ∧ requested.path = none ∧ requested.returnData = some data ∧
    requested.amount = 0 ∧ Hex.decodeTrimmed data = .ok bytes ∧ bytes.length ≤ 80

/-- The request may be signed, and its inputs spend the given amounts at the given outpoints, no two at one. -/
structure SigningRequest.Acceptable (request : SigningRequest) (coin : Coin) (config : SigningConfig)
    (spent : List (Outpoint × UInt64)) : Prop where
  spends : request.inputs ≠ []
  pays : request.outputs ≠ []
  inputs : List.Forall₂ (fun requested own => requested.Acceptable coin config own.1 own.2) request.inputs spent
  outputs : ∀ output ∈ request.outputs, output.Acceptable coin
  distinct : (spent.map Prod.fst).Nodup
  totalIn : Validation.exactSum (spent.map Prod.snd) < UInt64.size
  totalOut : Validation.exactSum (request.outputs.map (·.amount)) < UInt64.size
  covered : Validation.exactSum (request.outputs.map (·.amount)) ≤ Validation.exactSum (spent.map Prod.snd)

section Parts

variable {coin : Coin} {config : SigningConfig}

/-- Names are compared as texts, but both are hexadecimal. -/
theorem sameName_txid_iff {requested : RequestedInput} {earlier txid : Octets 32}
    (read : Hex.decodeTrimmed requested.prevTxid = .ok txid.bytes) :
    Text.sameName (Hex.encode earlier.bytes) (Text.trim requested.prevTxid) = true ↔ earlier = txid := by
  rw [Hex.sameName_iff (Hex.decode_encode _) (mapError_eq_ok.mp read)]
  exact ⟨Octets.ext, congrArg Octets.bytes⟩

/-- The request alone says which output an input spends, and with which amount. -/
theorem RequestedInput.Acceptable.unique {requested : RequestedInput} {outpoint other : Outpoint}
    {amount another : UInt64} (acceptable : requested.Acceptable coin config outpoint amount)
    (again : requested.Acceptable coin config other another) : (outpoint, amount) = (other, another) := by
  have outpoints : outpoint = other :=
    Outpoint.eq_of_shown (Except.ok.inj (acceptable.txid.symm.trans again.txid))
      (acceptable.vout.trans again.vout.symm)
  have amounts : amount = another := by
    cases given : requested.rawPrevTx with
    | some raw =>
      obtain ⟨earlier, output, has, rfl, _⟩ := acceptable.shown raw given
      obtain ⟨_, _, shown, rfl, _⟩ := again.shown raw given
      have looked := spentOutput_iff.mpr ⟨_, _, has, rfl⟩
      have relooked := spentOutput_iff.mpr ⟨_, _, shown, rfl⟩
      exact congrArg SpentOutput.value (Except.ok.inj (looked.symm.trans relooked))
    | none =>
      have stated := (acceptable.declared given).2
      exact Option.some.inj (stated.symm.trans (again.declared given).2)
  rw [outpoints, amounts]

/-- What is acceptable is prepared, with the script that the raw transaction shows. -/
theorem RequestedInput.Acceptable.prepares {requested : RequestedInput} {outpoint : Outpoint} {amount : UInt64}
    (acceptable : requested.Acceptable coin config outpoint amount) :
    ∃ prepared, Prepares coin config requested prepared ∧
      (prepared.outpoint, prepared.amount) = (outpoint, amount) := by
  have prepares (script : Option Bytes) (spends : requested.Spends amount script)
      (known : Sighash.Kind.select coin requested.scriptType = .legacy → ∃ known, script = some known)
      (stated : ∀ declared, requested.amount = some declared → declared = amount)
      (named : config.verifyPrevTxHash = true → ∀ raw spent, requested.rawPrevTx = some raw →
        spentOutput raw requested.vout = .ok spent → spent.txid = outpoint.txid.reverse) :
      Prepares coin config requested ⟨outpoint, requested.sequence.getD config.defaultSequence, requested.path,
        requested.scriptType, Sighash.Kind.select coin requested.scriptType, amount, script⟩ :=
    ⟨acceptable.singleKey, acceptable.supported, rfl, acceptable.owned, rfl, rfl, rfl, acceptable.txid,
      acceptable.vout, spends, known, stated, named⟩
  cases given : requested.rawPrevTx with
  | some raw =>
    obtain ⟨earlier, output, has, value, stated, named⟩ := acceptable.shown raw given
    have looked := spentOutput_iff.mpr ⟨earlier, output, has, rfl⟩
    refine ⟨_, prepares (some output.script) ?_ (fun _ => ⟨_, rfl⟩) (value ▸ stated) ?_, rfl⟩
    · rw [Spends, given]
      exact ⟨_, looked, value.symm, rfl⟩
    · intro verifies other spent same again
      obtain rfl := Option.some.inj (given.symm.trans same)
      obtain rfl := Except.ok.inj (looked.symm.trans again)
      exact (sameName_txid_iff acceptable.txid).mp (named verifies)
  | none =>
    obtain ⟨other, stated⟩ := acceptable.declared given
    refine ⟨_, prepares none ?_ (fun legacy => absurd legacy other) (fun declared again => ?_) ?_, rfl⟩
    · rw [Spends, given]
      exact ⟨stated, rfl⟩
    · exact (Option.some.inj (stated.symm.trans again)).symm
    · intro _ raw _ shown
      cases given.symm.trans shown

theorem Script.opReturn_iff {data script : Bytes} :
    Script.opReturn data = .ok script ↔ data.length ≤ 80 ∧ script = [0x6a] ++ Script.push data := by
  unfold Script.opReturn Script.maxReturnData
  split
  · rename_i long
    constructor
    · intro refused
      cases refused
    · rintro ⟨short, _⟩
      omega
  · rename_i short
    constructor
    · intro made
      cases made
      exact ⟨Nat.not_lt.mp short, rfl⟩
    · rintro ⟨_, rfl⟩
      rfl

theorem RequestedOutput.acceptable_iff {requested : RequestedOutput} :
    requested.Acceptable coin ↔ ∃ planned, Plans coin requested planned := by
  constructor
  · rintro (⟨address, target, given, pathless, dataless, classified⟩ |
      ⟨path, scriptType, addressless, given, dataless, typed, single, supported⟩ |
      ⟨data, bytes, addressless, pathless, given, free, decoded, short⟩)
    · exact ⟨⟨requested.amount, _⟩, rfl,
        Validation.planScript_iff.mpr (.inl ⟨address, target, given, pathless, dataless, classified, rfl⟩)⟩
    · exact ⟨⟨requested.amount, _⟩, rfl, Validation.planScript_iff.mpr
        (.inr (.inl ⟨path, scriptType, addressless, given, dataless, typed, single, supported, rfl⟩))⟩
    · exact ⟨⟨requested.amount, _⟩, rfl, Validation.planScript_iff.mpr (.inr (.inr ⟨data, bytes, _, addressless,
        pathless, given, free, decoded, Script.opReturn_iff.mpr ⟨short, rfl⟩, rfl⟩))⟩
  · rintro ⟨planned, _, script⟩
    rcases Validation.planScript_iff.mp script with ⟨address, target, given, pathless, dataless, classified, _⟩ |
      ⟨path, scriptType, addressless, given, dataless, typed, single, supported, _⟩ |
      ⟨data, bytes, _, addressless, pathless, given, free, decoded, made, _⟩
    · exact .inl ⟨address, target, given, pathless, dataless, classified⟩
    · exact .inr (.inl ⟨path, scriptType, addressless, given, dataless, typed, single, supported⟩)
    · exact .inr (.inr ⟨data, bytes, addressless, pathless, given, free, decoded, (Script.opReturn_iff.mp made).1⟩)

end Parts

namespace SigningRequest

variable {request : SigningRequest} {coin : Coin} {config : SigningConfig}

theorem Acceptable.accepts {spent : List (Outpoint × UInt64)} (acceptable : request.Acceptable coin config spent) :
    ∃ validated, Accepts coin config request validated := by
  obtain ⟨inputs, prepared, same⟩ :=
    forall₂_factor (fun _ _ holds => RequestedInput.Acceptable.prepares holds) acceptable.inputs
  obtain ⟨outputs, planned⟩ := exists_forall₂ fun output member =>
    RequestedOutput.acceptable_iff.mp (acceptable.outputs output member)
  have amounts : inputs.map (·.amount) = spent.map Prod.snd := by
    rw [← same, List.map_map]
    rfl
  have outpoints : inputs.map (·.outpoint) = spent.map Prod.fst := by
    rw [← same, List.map_map]
    rfl
  have balance := Nat.sub_add_cancel acceptable.covered
  refine ⟨⟨_, _, inputs, outputs, _⟩, rfl, rfl, ?_, ?_, prepared, planned, ?_, ?_, acceptable.totalOut,
    balance.trans ?_⟩
  · rintro rfl
    exact acceptable.spends (List.length_eq_zero_iff.mp prepared.length_eq)
  · rintro rfl
    exact acceptable.pays (List.length_eq_zero_iff.mp planned.length_eq)
  · rw [outpoints]
    exact acceptable.distinct
  · rw [amounts]
    exact acceptable.totalIn
  · rw [amounts]

end SigningRequest

end CoinSpend
