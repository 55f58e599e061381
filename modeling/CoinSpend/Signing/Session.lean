import CoinSpend.Key.Ecdsa
import CoinSpend.Signature.Der
import CoinSpend.Signing.KeyCache
import CoinSpend.Signing.Oracle
import CoinSpend.Signing.Validation

/-! One signing request, from validation to the signed transaction. The session asks the oracle for the keys of
change outputs and inputs and then for one signature per input, asks nothing twice, and records every phase it
enters and every exchange with the oracle. -/
namespace CoinSpend

inductive Phase where
  | building
  | hashing (input : Nat)
  | awaitingSignature (input : Nat)
  | assembling (input : Nat)
  | finalizing
  | done
  | failed (code : Failure.Code)
deriving DecidableEq

namespace Phase

def isTerminal : Phase → Bool
  | done | failed _ => true
  | _ => false

def render : Phase → String
  | building => "Building"
  | hashing input => s!"Hashing({input})"
  | awaitingSignature input => s!"AwaitingSignature({input})"
  | assembling input => s!"Assembling({input})"
  | finalizing => "Finalizing"
  | done => "Done"
  | failed code => s!"Failed({code.name})"

end Phase

/-- A call that was started, and its course. -/
inductive Exchange where
  | publicKey (path : KeyPath) (response : Oracle.Response Bytes)
  | signature (path : KeyPath) (payload : Bytes) (algorithm : HashAlgorithm)
      (response : Oracle.Response Oracle.Answer)

/-- Where one request stands, and every phase that it has been in. -/
structure Session where
  phase : Phase := .building
  history : List Phase := [.building]
deriving DecidableEq

namespace Session

/-- A session serves one request. -/
def Fresh (session : Session) : Prop := session.history.length ≤ 1 ∧ session.phase = .building

instance (session : Session) : Decidable session.Fresh := inferInstanceAs (Decidable (_ ∧ _))

def enter (session : Session) (phase : Phase) : Session := ⟨phase, session.history ++ [phase]⟩

end Session

/-- What changes while a request is signed. -/
structure Progress (σ : Type) where
  /-- The oracle's memory. -/
  oracle : σ
  signal : CancelSignal
  cache : KeyCache
  exchanges : List Exchange
  session : Session

/-- A request ends early with a failure, or stays open when a call never ends. -/
inductive Stop where
  | failed (failure : Failure)
  | stalled
deriving DecidableEq

/-- A part of the work on a request. -/
abbrev Step (σ : Type) := EStateM Stop (Progress σ)

namespace Step

variable {σ α : Type}

def ofExcept (result : Except Failure α) : Step σ α :=
  match result with
  | .ok value => pure value
  | .error failure => throw (.failed failure)

def enter (phase : Phase) : Step σ Unit :=
  modify fun progress => { progress with session := progress.session.enter phase }

/-- Makes a call unless the request is cancelled already. An answer counts even if the request is cancelled while
it is given; a call that stays open ends with the cancellation, or else with the timeout. -/
def call (config : SigningConfig) (exchange : Oracle.Response α → Exchange)
    (ask : σ → Oracle.Response α × σ) : Step σ α :=
  fun progress =>
    if progress.signal.isCancelled then .error (.failed Oracle.Error.cancelled.toFailure) progress
    else
      let (response, memory) := ask progress.oracle
      let signal := if response.cancels then progress.signal.cancel else progress.signal
      let progress := { progress with
        oracle := memory
        signal := signal
        exchanges := progress.exchanges ++ [exchange response] }
      match response.answer with
      | some (.ok value) => .ok value progress
      | some (.error error) => .error (.failed error.toFailure) progress
      | none =>
        if signal.isCancelled then .error (.failed Oracle.Error.cancelled.toFailure) progress
        else if config.oracleTimeoutMs.isSome then
          .error (.failed Oracle.Error.timeout.toFailure) progress
        else .error .stalled progress

end Step

namespace Signing

variable {σ : Type} (oracle : Oracle σ) (config : SigningConfig)

/-- The compressed key at a path, from the cache or else from the oracle. -/
def publicKey (path : KeyPath) : Step σ (Octets 33) := do
  let (found, cache) := (← get).cache.get path
  match found with
  | some key =>
    modify fun progress => { progress with cache }
    return key
  | none =>
    let bytes ← Step.call config (.publicKey path) (oracle.publicKey path)
    match PublicKey.compress bytes with
    | .ok key =>
      modify fun progress => { progress with cache := progress.cache.set path key }
      return key
    | .error error =>
      let reason := error.message
      throw (.failed (.plain .oracleError s!"Oracle returned an invalid public key: {reason}"))

def resolveOutput (output : PlannedOutput) : Step σ TxOut :=
  match output.script with
  | .fixed script => return ⟨output.amount, script⟩
  | .change path scriptType => do
    let key ← publicKey oracle config path
    return ⟨output.amount, ← Step.ofExcept (Script.forKey (hash160 key.bytes) scriptType)⟩

/-- Checks a signature with its second number made low. -/
def verify (signature : Signature) (digest : Octets 32) (key : Octets 33) : Except Failure Unit :=
  if Ecdsa.inRange signature then
    match PublicKey.parse? key.bytes with
    | none => .error PublicKey.Error.malformed.toFailure
    | some point =>
      if Ecdsa.verifies digest point signature.r.toNat (Ecdsa.low signature.s.toNat) then .ok ()
      else .error (.plain .malformedSignature "Signature does not verify against the sighash")
  else .error (.plain .malformedSignature "Invalid signature values: malformed signature")

/-- The script that the pre-image of an input covers. The spent output must pay to the key, if it is known. -/
def scriptCode (index : Nat) (input : PreparedInput) (hash : Octets 20) : Except Failure Bytes := do
  let expected ← Script.forKey hash input.scriptType
  if input.prevScript.any (· != expected) then
    .error (.plain .invalidInput
      s!"Input {index} spends an output not locked to the key at its path")
  else if input.kind = .legacy then
    match input.prevScript with
    | some script => return script
    | none => Validation.atInput index (refuse (.missing "raw_prev_tx_hex"))
  else return Script.p2pkh hash.bytes

/-- The pre-image of an input, from the transaction without scripts and witnesses. -/
def preimage (coin : Coin) (unsigned : Transaction) (index : Nat) (input : PreparedInput)
    (hash : Octets 20) : Except Failure Bytes := do
  let code ← scriptCode index input hash
  (Sighash.preimage unsigned coin.sighashType index ⟨input.kind, code, some input.amount⟩).mapError
    Sighash.Error.toFailure

/-- What an oracle is given for a pre-image. -/
def payload (algorithm : HashAlgorithm) (preimage : Bytes) : Bytes :=
  match algorithm with
  | .none => (sha256d preimage).bytes
  | .sha256 => (sha256 preimage).bytes

def decodeAnswer : Oracle.Answer → Except Failure Signature
  | .raw signature => .ok signature
  | .der bytes => (Der.decode bytes).mapError Der.Error.toFailure

/-- The input with the unlocking data of its script type. -/
def unlock (input : PreparedInput) (key : Octets 33) (typed : Bytes) : Except Failure TxIn :=
  let blank := TxIn.unsigned input.outpoint input.sequence
  match input.scriptType with
  | .p2pkh => .ok { blank with scriptSig := Script.push typed ++ Script.push key.bytes }
  | .p2shP2wpkh => .ok { blank with
      scriptSig := Script.push (Script.witnessV0 (hash160 key.bytes).bytes)
      witness := [typed, key.bytes] }
  | .p2wpkh => .ok { blank with witness := [typed, key.bytes] }
  | other =>
    let type := other.name
    .error (.plain .unsupportedScriptType s!"Cannot sign {type} inputs")

/-- Signs one input: its signature, and the input with its unlocking data. -/
def signInput (coin : Coin) (unsigned : Transaction) (index : Nat) (input : PreparedInput)
    (key : Octets 33) : Step σ (Signature × TxIn) := do
  let algorithm := (config.payloadHashingFor coin.name).algorithm
  Step.enter (.hashing index)
  let image ← Step.ofExcept (preimage coin unsigned index input (hash160 key.bytes))
  let message := payload algorithm image
  Step.enter (.awaitingSignature index)
  let answer ← Step.call config (.signature input.path message algorithm)
    (oracle.sign input.path message algorithm)
  Step.enter (.assembling index)
  let signature ← Step.ofExcept (decodeAnswer answer)
  if config.verifySignatures then
    Step.ofExcept (Validation.atInput index (verify signature (sha256d image) key))
  let typed := Der.encodeTyped signature (coin.sighashType &&& 0xff).toUInt8
  return (signature, ← Step.ofExcept (unlock input key typed))

/-- Signs inputs with their keys in turn, the first having number `index`. -/
def signInputs (coin : Coin) (unsigned : Transaction) (index : Nat) :
    List (PreparedInput × Octets 33) → Step σ (List (Signature × TxIn))
  | [] => return []
  | (input, key) :: others => do
    let signed ← signInput oracle config coin unsigned index input key
    return signed :: (← signInputs coin unsigned (index + 1) others)

/-- The whole work on a request. -/
def run (registry : Registry) (request : SigningRequest) : Step σ SignedTransaction := do
  let coin ← Step.ofExcept (registry.require request.coin)
  let validated ← Step.ofExcept (request.validate coin config)
  let outputs ← validated.outputs.mapM (resolveOutput oracle config)
  let unsigned : Transaction := {
    version := validated.version
    inputs := validated.inputs.map fun input => .unsigned input.outpoint input.sequence
    outputs
    lockTime := validated.lockTime }
  let keys ← validated.inputs.mapM fun input => publicKey oracle config input.path
  let signed ← signInputs oracle config coin unsigned 0 (validated.inputs.zip keys)
  Step.enter .finalizing
  let tx := { unsigned with inputs := signed.map Prod.snd }
  return {
    signatures := signed.map fun one => Der.encode one.1
    bytes := tx.bytes
    txid := tx.txid
    fee := validated.fee }

end Signing

/-- How an attempt to sign ends. Without a result, a call stays open for ever. -/
structure Attempt (σ : Type) where
  result : Option (Except Failure SignedTransaction)
  session : Session
  oracle : σ
  signal : CancelSignal
  cache : KeyCache
  exchanges : List Exchange

namespace Session

variable {σ : Type}

/-- Ends an attempt with a last phase. -/
def close (progress : Progress σ) (result : Except Failure SignedTransaction) (last : Phase) :
    Attempt σ :=
  ⟨some result, progress.session.enter last, progress.oracle, progress.signal, progress.cache,
    progress.exchanges⟩

/-- Signs a request. Only a fresh session does; another one refuses and changes nothing. -/
def sign (session : Session) (registry : Registry) (config : SigningConfig) (oracle : Oracle σ)
    (memory : σ) (request : SigningRequest) (cache : KeyCache) (signal : CancelSignal) : Attempt σ :=
  if session.Fresh then
    match Signing.run oracle config registry request ⟨memory, signal, cache, [], session⟩ with
    | .ok signed progress => close progress (.ok signed) .done
    | .error (.failed failure) progress => close progress (.error failure) (.failed failure.code)
    | .error .stalled progress =>
      ⟨none, progress.session, progress.oracle, progress.signal, progress.cache, progress.exchanges⟩
  else
    ⟨some (.error (.plain .internal "Signing session already used")), session, memory, signal, cache, []⟩

end Session

/-- Signs a request for a built-in coin, with nothing cached and no way to cancel. -/
def signTransaction {σ : Type} (config : SigningConfig) (oracle : Oracle σ) (memory : σ)
    (request : SigningRequest) : Attempt σ :=
  ({} : Session).sign .builtin config oracle memory request .empty .never

end CoinSpend
