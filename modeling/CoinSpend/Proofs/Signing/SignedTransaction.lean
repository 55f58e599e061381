import CoinSpend.Proofs.Address
import CoinSpend.Proofs.Signature.DerRoundTrip
import CoinSpend.Proofs.Signing.Run
import CoinSpend.Proofs.Wire.RoundTrip

/-! What a signed request has become: its bytes read back as a transaction with the requested inputs and outputs. -/
namespace CoinSpend

/-- The input carries a typed signature and a key as outputs of the script type ask for them. -/
def TxIn.UnlockedBy (input : TxIn) (scriptType : ScriptType) (typed : Bytes) (key : Octets 33) : Prop :=
  match scriptType with
  | .p2pkh => input.scriptSig = Script.push typed ++ Script.push key.bytes ∧ input.witness = []
  | .p2shP2wpkh => input.scriptSig = Script.push (Script.witnessV0 (hash160 key.bytes).bytes) ∧
      input.witness = [typed, key.bytes]
  | .p2wpkh => input.scriptSig = [] ∧ input.witness = [typed, key.bytes]
  | _ => False

namespace TxIn.UnlockedBy

variable {input : TxIn} {scriptType : ScriptType} {typed : Bytes} {key : Octets 33}

/-- A signature takes at most seventy-three bytes with its type. -/
theorem readable (unlocked : input.UnlockedBy scriptType typed key) (short : typed.length ≤ 73) :
    input.scriptSig.length < UInt64.size ∧ Wire.WitnessFits input.witness := by
  have size := key.length_bytes
  have empty : Wire.WitnessFits [] := ⟨by decide, by decide⟩
  have pair : Wire.WitnessFits [typed, key.bytes] := by
    have first := Wire.CompactSize.length_encode_le typed.length
    have second := Wire.CompactSize.length_encode_le key.bytes.length
    refine ⟨by simp [Wire.maxAllocation], ?_⟩
    simp only [Wire.witnessSpace, Wire.maxAllocation]
    omega
  have large : 200 < UInt64.size := by decide
  cases scriptType with
  | p2pkh =>
    obtain ⟨script, witness⟩ := unlocked
    have first := Script.length_push_le typed
    have second := Script.length_push_le key.bytes
    rw [script, witness, List.length_append]
    exact ⟨by omega, empty⟩
  | p2shP2wpkh =>
    obtain ⟨script, witness⟩ := unlocked
    have pushed := Script.length_push_le (Script.witnessV0 (hash160 key.bytes).bytes)
    have program := Script.length_witnessV0_le (hash160 key.bytes).bytes
    have hash := (hash160 key.bytes).length_bytes
    rw [script, witness]
    exact ⟨by omega, pair⟩
  | p2wpkh =>
    obtain ⟨script, witness⟩ := unlocked
    rw [script, witness]
    exact ⟨by decide, pair⟩
  | p2sh | p2wsh | p2shP2wsh => exact unlocked.elim

end TxIn.UnlockedBy

/-- The script is that of the output's address, of the key at its path, or of its data. -/
def RequestedOutput.PaysTo (requested : RequestedOutput) (coin : Coin) (keys : KeyCache) (script : Bytes) : Prop :=
  (∃ address target, requested.address = some address ∧ coin.classify address = .ok target ∧
    script = target.script ∧ target.PaidBy script) ∨
  (∃ path scriptType key, requested.path = some path ∧ requested.scriptType = some scriptType ∧
    keys.find? path = some key ∧ Script.forKey (hash160 key.bytes) scriptType = .ok script ∧
    Script.PaysToKey (hash160 key.bytes) scriptType script) ∨
  ∃ data bytes, requested.returnData = some data ∧ Hex.decodeTrimmed data = .ok bytes ∧
    Script.opReturn bytes = .ok script ∧ Script.Carries bytes script

namespace RequestedOutput.PaysTo

variable {requested : RequestedOutput} {coin : Coin} {keys : KeyCache}

theorem of_resolves {planned : PlannedOutput} {output : TxOut} (plans : Plans coin requested planned)
    (resolves : planned.Resolves keys output) : requested.PaysTo coin keys output.script := by
  obtain ⟨amount, script⟩ := planned
  obtain ⟨_, resolved⟩ := resolves
  rcases Validation.planScript_iff.mp plans.script with ⟨address, target, given, _, _, classified, same⟩ |
    ⟨path, scriptType, _, given, _, typed, _, _, same⟩ | ⟨data, bytes, returned, _, _, given, _, decoded, made, same⟩
  · cases same
    have own : output.script = target.script := resolved
    have short : target.hash.length < 0x4c := by
      rcases Coin.classify_hash classified with size | size <;> omega
    have paid := AddressTarget.paidBy_script short
    rw [← own] at paid
    exact .inl ⟨address, target, given, classified, own, paid⟩
  · cases same
    obtain ⟨key, found, own⟩ := resolved
    exact .inr (.inl ⟨path, scriptType, key, given, typed, found, own, Script.paysToKey_of_forKey own⟩)
  · cases same
    cases resolved
    exact .inr (.inr ⟨data, bytes, given, decoded, made, Script.carries_of_opReturn made⟩)

theorem length_le {script : Bytes} (pays : requested.PaysTo coin keys script) : script.length ≤ 86 := by
  rcases pays with ⟨_, target, _, classified, rfl, _⟩ | ⟨_, _, _, _, _, _, own, _⟩ | ⟨_, _, _, _, made, _⟩
  · have bound := target.length_script_le
    rcases Coin.classify_hash classified with size | size <;> omega
  · exact Nat.le_trans (Script.length_forKey_le own) (by decide)
  · exact Script.length_opReturn_le made

end RequestedOutput.PaysTo

/-- The transaction has the requested version, lock time, inputs and outputs in order, where `keys` are the keys of
change. -/
structure SigningRequest.Becomes (request : SigningRequest) (coin : Coin) (config : SigningConfig)
    (keys : KeyCache) (tx : Transaction) : Prop where
  version : tx.version = request.version.getD config.defaultVersion
  lockTime : tx.lockTime = request.lockTime.getD 0
  inputs : List.Forall₂ (fun requested input =>
    Hex.decodeTrimmed requested.prevTxid = .ok input.outpoint.txid.reverse.bytes ∧
      input.outpoint.vout = requested.vout ∧
      input.sequence = requested.sequence.getD config.defaultSequence) request.inputs tx.inputs
  outputs : List.Forall₂ (fun requested output => output.value = requested.amount ∧
    requested.PaysTo coin keys output.script) request.outputs tx.outputs

namespace Signing

variable {registry : Registry} {config : SigningConfig} {request : SigningRequest} {before after : KeyCache}

theorem unlock_ok {input : PreparedInput} {key : Octets 33} {typed : Bytes} {txIn : TxIn}
    (unlocked : unlock input key typed = .ok txIn) :
    txIn.outpoint = input.outpoint ∧ txIn.sequence = input.sequence ∧
      txIn.UnlockedBy input.scriptType typed key := by
  unfold unlock at unlocked
  unfold TxIn.UnlockedBy
  cases type : input.scriptType with
  | p2pkh | p2shP2wpkh | p2wpkh =>
    rw [type] at unlocked
    cases unlocked
    exact ⟨rfl, rfl, rfl, rfl⟩
  | p2sh | p2wsh | p2shP2wsh =>
    rw [type] at unlocked
    cases unlocked

/-- The signature of an input with the low byte of the coin's hash type. -/
def Work.typed (work : Work) (signature : Signature) : Bytes :=
  Der.encodeTyped signature (work.coin.sighashType &&& 0xff).toUInt8

/-- Each input of the signed transaction is traced back to its request, its key and its call. -/
theorem Work.Ready.signed_at {work : Work} (ready : work.Ready registry config request before after)
    {signed : List (Signature × TxIn)} {calls : List Exchange}
    (all : SignsAll work.coin config work.unsigned 0 work.pairs signed calls) {index : Nat}
    {one : Signature × TxIn} (found : signed[index]? = some one) :
    ∃ requested input key call image, request.inputs[index]? = some requested ∧
      Prepares work.coin config requested input ∧ after.find? requested.path = some key ∧
      calls[index]? = some call ∧ Signs work.coin config work.unsigned index input key one call image ∧
      one.2.UnlockedBy requested.scriptType (work.typed one.1) key := by
  obtain ⟨input, key, call, image, paired, called, signs⟩ := all.at_index found
  obtain ⟨requested, given, prepares, known⟩ := ready.at_index paired
  rw [Nat.zero_add] at signs
  rw [prepares.path] at known
  obtain ⟨_, _, unlocked⟩ := unlock_ok signs.unlocked
  rw [prepares.scriptType] at unlocked
  exact ⟨requested, input, key, call, image, given, prepares, known, called, signs, unlocked⟩

/-- Every output is the requested one at its place. -/
theorem Work.Ready.outputs_pay {work : Work} (ready : work.Ready registry config request before after) :
    List.Forall₂ (fun requested output => output.value = requested.amount ∧
      requested.PaysTo work.coin after output.script) request.outputs work.outputs := by
  refine forall₂_of_at (ready.accepts.outputs.length_eq.trans ready.outputs.length_eq) fun index output found => ?_
  obtain ⟨planned, between, resolves⟩ := forall₂_at ready.outputs found
  obtain ⟨requested, given, plans⟩ := forall₂_at ready.accepts.outputs between
  exact ⟨requested, given, resolves.1.trans plans.amount, .of_resolves plans resolves⟩

variable {work : Work} {signed : List (Signature × TxIn)} {calls : List Exchange}

theorem Work.Ready.signed_length (ready : work.Ready registry config request before after)
    (all : SignsAll work.coin config work.unsigned 0 work.pairs signed calls) :
    request.inputs.length = signed.length := by
  rw [all.length_eq.1, ready.length_pairs]

/-- Every input spends the requested outpoint at its place. -/
theorem Work.Ready.inputs_spend (ready : work.Ready registry config request before after)
    (all : SignsAll work.coin config work.unsigned 0 work.pairs signed calls) :
    List.Forall₂ (fun requested one => Hex.decodeTrimmed requested.prevTxid =
        .ok one.2.outpoint.txid.reverse.bytes ∧ one.2.outpoint.vout = requested.vout ∧
        one.2.sequence = requested.sequence.getD config.defaultSequence) request.inputs signed := by
  refine forall₂_of_at (ready.signed_length all) fun index one found => ?_
  obtain ⟨requested, input, key, call, image, given, prepares, _, _, signs, _⟩ := ready.signed_at all found
  obtain ⟨outpoint, sequence, _⟩ := unlock_ok signs.unlocked
  rw [outpoint, sequence]
  exact ⟨requested, given, prepares.txid, prepares.vout, prepares.sequence⟩

/-- Every input is unlocked as its script type asks for it. -/
theorem Work.Ready.inputs_unlocked (ready : work.Ready registry config request before after)
    (all : SignsAll work.coin config work.unsigned 0 work.pairs signed calls) :
    List.Forall₂ (fun requested one => ∃ key, one.2.UnlockedBy requested.scriptType (work.typed one.1) key)
      request.inputs signed := by
  refine forall₂_of_at (ready.signed_length all) fun index one found => ?_
  obtain ⟨requested, _, key, _, _, given, _, _, _, _, unlocked⟩ := ready.signed_at all found
  exact ⟨requested, given, key, unlocked⟩

theorem Work.Ready.readable (ready : work.Ready registry config request before after)
    (all : SignsAll work.coin config work.unsigned 0 work.pairs signed calls) :
    (work.signedTx signed).Readable := by
  have count : (work.signedTx signed).inputs.length = request.inputs.length := by
    rw [ready.signed_length all]
    exact List.length_map _
  have each : ∀ input ∈ (work.signedTx signed).inputs,
      input.scriptSig.length < UInt64.size ∧ Wire.WitnessFits input.witness := by
    intro input member
    obtain ⟨one, inside, rfl⟩ := List.mem_map.mp member
    obtain ⟨_, _, _, unlocked⟩ := partner_of_mem (ready.inputs_unlocked all) inside
    exact unlocked.readable (Der.length_encodeTyped _ _).2
  constructor
  · intro none
    have same := count.symm.trans (congrArg List.length none)
    rw [ready.accepts.inputs.length_eq, List.length_nil, List.length_eq_zero_iff] at same
    exact ready.accepts.spends same
  · rw [count]
    exact request.countable.1
  · rw [Work.signedTx, Work.unsigned, ← ready.outputs_pay.length_eq]
    exact request.countable.2
  · exact fun input member => (each input member).1
  · intro output member
    obtain ⟨requested, _, _, pays⟩ := partner_of_mem ready.outputs_pay member
    exact Nat.lt_of_le_of_lt pays.length_le (by decide)
  · exact fun input member => (each input member).2

theorem Work.Ready.becomes (ready : work.Ready registry config request before after)
    (all : SignsAll work.coin config work.unsigned 0 work.pairs signed calls) :
    request.Becomes work.coin config after (work.signedTx signed) where
  version := ready.accepts.version
  lockTime := ready.accepts.lockTime
  inputs := List.forall₂_map_right_iff.mpr (ready.inputs_spend all)
  outputs := ready.outputs_pay

end Signing

/-! ### A wallet whose signatures verify -/

namespace Wallet

open Secp256k1

/-- The key at a path is a small multiple of the generator. -/
def secret (path : KeyPath) : Nat := (path.headD 0).toNat + 1

def answering {α : Type} (given : Option α) : Oracle.Response α :=
  { answer := some (given.elim (.error .rejected) .ok) }

/-- Signs digests, always with the nonce one, and counts its signatures. -/
def oracle : Oracle Nat where
  publicKey path count :=
    (answering ((multiple? (secret path) generator).map fun point => (PublicKey.compressed point).bytes), count)
  sign path payload algorithm count :=
    let digest := match algorithm with
      | .none => payload
      | .sha256 => (sha256 payload).bytes
    (answering ((Ecdsa.signWith? (secret path) (ofBigEndian digest) 1).map .raw), count + 1)

/-- The hash of the first key. -/
def keyHash : Octets 20 :=
  ⟨[0x75, 0x1e, 0x76, 0xe8, 0x19, 0x91, 0x96, 0xd4, 0x54, 0x94, 0x1c, 0x45, 0xd1, 0xb3, 0xa3, 0x23, 0xf1, 0x43, 0x3b,
    0xd6], rfl⟩

/-- Pays to the first key. -/
def funding : Transaction where
  version := 1
  inputs := [.unsigned ⟨.zeros 32, 0⟩ 0xffffffff]
  outputs := [⟨700, Script.p2pkh keyHash.bytes⟩]
  lockTime := 0

/-- Spends that output and a native segwit one on an empty data output. -/
def request : SigningRequest where
  coin := "Bitcoin"
  inputs := [⟨[0], .p2pkh, Hex.encode funding.txid.bytes, 0, none, some (Hex.encode funding.bytes), none⟩,
    ⟨[1], .p2wpkh, Hex.encode (Octets.zeros 32).bytes, 1, some 800, none, none⟩]
  outputs := [.data []]
  version := none
  lockTime := none
  countable := ⟨by decide, by decide⟩

def coin : Coin := Registry.builtin.coins.head (List.cons_ne_nil _ _)

def fundingHash : Octets 32 :=
  ⟨[0x1f, 0x21, 0x3d, 0x54, 0x76, 0xc0, 0xa1, 0x07, 0x6d, 0xdb, 0xca, 0x5d, 0xdc, 0x45, 0x1e, 0xf0, 0x0e, 0x68, 0x97,
    0xef, 0xc2, 0xdc, 0x5f, 0xa4, 0x4b, 0xc8, 0xd2, 0x5d, 0x6a, 0xab, 0x1d, 0x9f], rfl⟩

/-- What is left of the request once it has been checked. -/
def validated : ValidatedRequest where
  version := 1
  lockTime := 0
  inputs := [⟨⟨fundingHash, 0⟩, 0xffffffff, [0], .p2pkh, .legacy, 700, some (Script.p2pkh keyHash.bytes)⟩,
    ⟨⟨.zeros 32, 1⟩, 0xffffffff, [1], .p2wpkh, .witnessV0, 800, none⟩]
  outputs := [⟨0, .fixed [0x6a, 0x00]⟩]
  fee := 1500

theorem required : Registry.builtin.require request.coin = .ok coin := by decide +kernel

theorem fundingHash_reverse : fundingHash.reverse = funding.txid := by decide +kernel

theorem funding_readable : funding.Readable :=
  ⟨by decide, by decide, by decide, by decide, by decide, by decide⟩

theorem funded : spentOutput (Hex.encode funding.bytes) 0 = .ok ⟨funding.txid, 700, Script.p2pkh keyHash.bytes⟩ :=
  Transaction.spentOutput_bytes funding_readable 0 rfl

theorem accepted : Accepts coin {} request validated where
  version := rfl
  lockTime := rfl
  spends := List.cons_ne_nil _ _
  pays := List.cons_ne_nil _ _
  inputs := by
    refine .cons ?legacy (.cons ?segwit .nil)
    case legacy =>
      exact {
        singleKey := rfl
        supported := rfl
        scriptType := rfl
        owned := List.cons_ne_nil _ _
        path := rfl
        sequence := rfl
        kind := rfl
        txid := (Hex.decodeTrimmed_encode _).trans (by rw [← fundingHash_reverse])
        vout := rfl
        spends := ⟨_, funded, rfl, rfl⟩
        known := fun _ => ⟨_, rfl⟩
        declared := fun _ given => by cases given
        named := fun _ raw spent given found => by
          obtain rfl := Option.some.inj given
          obtain rfl := Except.ok.inj (funded.symm.trans found)
          exact fundingHash_reverse.symm }
    case segwit =>
      exact {
        singleKey := rfl
        supported := rfl
        scriptType := rfl
        owned := List.cons_ne_nil _ _
        path := rfl
        sequence := rfl
        kind := rfl
        txid := Hex.decodeTrimmed_encode _
        vout := rfl
        spends := ⟨rfl, rfl⟩
        known := fun legacy => by cases legacy
        declared := fun _ given => by cases given; rfl
        named := fun _ raw spent given => by cases given }
  outputs := .cons ⟨rfl, by decide +kernel⟩ .nil
  distinct := by decide +kernel
  totalIn := by decide
  totalOut := by decide
  fee := rfl

/-- Both signatures are checked. -/
theorem signs : ∃ signed,
    (({} : Session).sign .builtin {} oracle 0 request .empty .armed).result = some (.ok signed) := by
  refine Attempt.signed_of_isOk ?_
  rw [Session.sign, if_pos Session.fresh_default, Signing.run]
  simp only [required, SigningRequest.validate_iff.mpr accepted, Step.ofExcept, pure_bind]
  decide +kernel

end Wallet

namespace Session

open Signing

end Session

end CoinSpend
