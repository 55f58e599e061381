import CoinSpend.Proofs.Signature.DerRoundTrip
import CoinSpend.Proofs.Signing.Steps
import CoinSpend.Proofs.Signing.Validation

/-! Signing the inputs one after another. Each takes three phases and one call; the work can end early in each of the
three, and the phase tells the cause. -/
namespace CoinSpend

namespace Phase

/-- The phases of one input. -/
def round (input : Nat) : List Phase := [.hashing input, .awaitingSignature input, .assembling input]

/-- The phases of `count` inputs, the first having number `first`. -/
def rounds : Nat → Nat → List Phase
  | _, 0 => []
  | first, count + 1 => round first ++ rounds (first + 1) count

end Phase

/-- The call gave a signature that is accepted for the pre-image and the key. -/
def Exchange.Signed (call : Exchange) (config : SigningConfig) (key : Octets 33) (image : Bytes) : Prop :=
  ∃ path payload algorithm response answer signature, call = .signature path payload algorithm response ∧
    response.answer = some (.ok answer) ∧ Signing.decodeAnswer answer = .ok signature ∧
    (config.verifySignatures = true → Signing.verify signature (sha256d image) key = .ok ())

namespace Exchange

variable {path : KeyPath} {payload : Bytes} {algorithm : HashAlgorithm} {response : Oracle.Response Oracle.Answer}
  {config : SigningConfig} {key : Octets 33} {image : Bytes}

theorem signed_iff : (signature path payload algorithm response).Signed config key image ↔
    ∃ answer signature, response.answer = some (.ok answer) ∧ Signing.decodeAnswer answer = .ok signature ∧
      (config.verifySignatures = true → Signing.verify signature (sha256d image) key = .ok ()) := by
  constructor
  · rintro ⟨_, _, _, _, answer, signature, same, answered, decoded, verified⟩
    cases same
    exact ⟨answer, signature, answered, decoded, verified⟩
  · rintro ⟨answer, signature, answered, decoded, verified⟩
    exact ⟨_, _, _, _, answer, signature, rfl, answered, decoded, verified⟩

theorem not_signed_of_silent (silent : ∀ answer, response.answer ≠ some (.ok answer)) :
    ¬ (signature path payload algorithm response).Signed config key image := by
  rw [signed_iff]
  rintro ⟨answer, _, answered, _⟩
  exact silent answer answered

variable {answer : Oracle.Answer} {cause : Failure}

theorem not_signed_of_undecoded (answered : response.answer = some (.ok answer))
    (failed : Signing.decodeAnswer answer = .error cause) :
    ¬ (signature path payload algorithm response).Signed config key image := by
  rw [signed_iff]
  rintro ⟨_, _, again, decoded, _⟩
  cases answered.symm.trans again
  cases failed.symm.trans decoded

theorem not_signed_of_refuted {numbers : Signature} (answered : response.answer = some (.ok answer))
    (decoded : Signing.decodeAnswer answer = .ok numbers) (checks : config.verifySignatures = true)
    (refuted : Signing.verify numbers (sha256d image) key = .error cause) :
    ¬ (signature path payload algorithm response).Signed config key image := by
  rw [signed_iff]
  rintro ⟨_, _, again, redecoded, verified⟩
  cases answered.symm.trans again
  cases decoded.symm.trans redecoded
  cases refuted.symm.trans (verified checks)

end Exchange

namespace Signing

variable {σ : Type} {oracle : Oracle σ} {coin : Coin} {config : SigningConfig}

/-- How an input comes to its signature and its unlocking data. -/
structure Signs (coin : Coin) (config : SigningConfig) (unsigned : Transaction) (index : Nat)
    (input : PreparedInput) (key : Octets 33) (signed : Signature × TxIn) (call : Exchange)
    (image : Bytes) : Prop where
  hashed : preimage coin unsigned index input (hash160 key.bytes) = .ok image
  answered : ∃ algorithm response answer,
    algorithm = (config.payloadHashingFor coin.name).algorithm ∧
      call = .signature input.path (payload algorithm image) algorithm response ∧
      response.answer = some (.ok answer) ∧ decodeAnswer answer = .ok signed.1
  verified : config.verifySignatures = true → verify signed.1 (sha256d image) key = .ok ()
  unlocked : unlock input key (Der.encodeTyped signed.1 (coin.sighashType &&& 0xff).toUInt8) = .ok signed.2

/-- The call asks for a signature of the input, by the pre-image of the input and the path of its key. -/
def Asks (coin : Coin) (config : SigningConfig) (unsigned : Transaction) (index : Nat) (input : PreparedInput)
    (key : Octets 33) (call : Exchange) (image : Bytes) : Prop :=
  preimage coin unsigned index input (hash160 key.bytes) = .ok image ∧ ∃ algorithm response,
    algorithm = (config.payloadHashingFor coin.name).algorithm ∧
      call = .signature input.path (payload algorithm image) algorithm response

theorem Signs.asks {unsigned : Transaction} {index : Nat} {input : PreparedInput} {key : Octets 33}
    {signed : Signature × TxIn} {call : Exchange} {image : Bytes}
    (signs : Signs coin config unsigned index input key signed call image) :
    Asks coin config unsigned index input key call image := by
  obtain ⟨algorithm, response, _, chosen, asked, _⟩ := signs.answered
  exact ⟨signs.hashed, algorithm, response, chosen, asked⟩

theorem Signs.call_signed {unsigned : Transaction} {index : Nat} {input : PreparedInput} {key : Octets 33}
    {signed : Signature × TxIn} {call : Exchange} {image : Bytes}
    (signs : Signs coin config unsigned index input key signed call image) : call.Signed config key image := by
  obtain ⟨_, _, _, _, asked, answered, decoded⟩ := signs.answered
  exact ⟨_, _, _, _, _, _, asked, answered, decoded, signs.verified⟩

/-- Why the work on an input ends early, with the signal then and with the phases and calls up to there. -/
inductive Breaks (coin : Coin) (config : SigningConfig) (unsigned : Transaction) (index : Nat) (input : PreparedInput)
    (key : Octets 33) (signal : CancelSignal) : List Phase → List Exchange → Stop → Prop where
  /-- The spent output is known and pays to something else. -/
  | notLocked {expected script : Bytes} {failure : Failure}
      (own : Script.forKey (hash160 key.bytes) input.scriptType = .ok expected)
      (known : input.prevScript = some script) (different : script ≠ expected)
      (code : failure.code = .invalidInput) :
      Breaks coin config unsigned index input key signal [.hashing index] [] (.failed failure)
  | cancelled {stop : Stop} (reason : stop.Unserved) (fired : signal.isCancelled = true) :
      Breaks coin config unsigned index input key signal [.hashing index, .awaitingSignature index] [] stop
  | unserved {call : Exchange} {image : Bytes} {stop : Stop} (reason : stop.Unserved)
      (asks : Asks coin config unsigned index input key call image) (useless : ¬ call.Signed config key image) :
      Breaks coin config unsigned index input key signal [.hashing index, .awaitingSignature index] [call] stop
  /-- The answer is not a signature of the digest, or the key is none that signatures can be checked with. -/
  | unusable {call : Exchange} {image : Bytes} {failure : Failure}
      (asks : Asks coin config unsigned index input key call image) (useless : ¬ call.Signed config key image)
      (cause : failure.code = .malformedSignature ∨
        failure.code = .invalidInput ∧ config.verifySignatures = true ∧
          PublicKey.parse? key.bytes = none) :
      Breaks coin config unsigned index input key signal (Phase.round index) [call] (.failed failure)

/-- Either no call was made for the input, or one that gave no signature of it. -/
theorem Breaks.outcome {unsigned : Transaction} {index : Nat} {input : PreparedInput} {key : Octets 33}
    {signal : CancelSignal} {phases : List Phase} {calls : List Exchange} {stop : Stop}
    (breaks : Breaks coin config unsigned index input key signal phases calls stop) :
    calls = [] ∧ (signal.isCancelled = true ∨ ∃ expected script,
        Script.forKey (hash160 key.bytes) input.scriptType = .ok expected ∧ input.prevScript = some script ∧
          script ≠ expected) ∨
      ∃ call image, calls = [call] ∧ Asks coin config unsigned index input key call image ∧
        ¬ call.Signed config key image := by
  cases breaks with
  | notLocked own known different => exact .inl ⟨rfl, .inr ⟨_, _, own, known, different⟩⟩
  | cancelled _ fired => exact .inl ⟨rfl, .inl fired⟩
  | unserved _ asks useless | unusable asks useless => exact .inr ⟨_, _, rfl, asks, useless⟩

variable {requested : RequestedInput} {input : PreparedInput} {index : Nat}
  {unsigned : Transaction}

/-- A single key's legacy script is the one that the layouts with an amount cover anyway. -/
theorem legacy_forKey (prepared : Prepares coin config requested input) (legacy : input.kind = .legacy)
    (hash : Octets 20) :
    Script.forKey hash input.scriptType = .ok (Script.p2pkh hash.bytes) := by
  have plain : input.scriptType.isSegwit = false := by
    have chosen := prepared.kind.symm.trans legacy
    unfold Sighash.Kind.select at chosen
    split at chosen
    · cases chosen
    · split at chosen
      · cases chosen
      · rename_i other
        exact Bool.eq_false_iff.mpr other
  have single := prepared.singleKey
  cases known : input.scriptType with
  | p2pkh => rfl
  | p2shP2wpkh | p2wpkh =>
    rw [known] at plain
    cases plain
  | p2sh | p2wsh | p2shP2wsh =>
    rw [known] at single
    cases single

/-- The spent output is known to pay to something else, or there is a script code. -/
theorem scriptCode_cases (prepared : Prepares coin config requested input) (index : Nat) (hash : Octets 20) :
    (∃ expected script failure, Script.forKey hash input.scriptType = .ok expected ∧
      input.prevScript = some script ∧ script ≠ expected ∧ failure.code = .invalidInput ∧
      scriptCode index input hash = .error failure) ∨
    scriptCode index input hash = .ok (Script.p2pkh hash.bytes) ∧
      ∀ script, input.prevScript = some script → Script.forKey hash input.scriptType = .ok script := by
  obtain ⟨expected, own⟩ := Script.forKey_of_singleKey hash prepared.singleKey
  cases known : input.prevScript with
  | none =>
    have other : input.kind ≠ .legacy := by
      intro legacy
      obtain ⟨script, given⟩ := prepared.known legacy
      cases known.symm.trans given
    have unfolded : scriptCode index input hash =
        if input.kind = .legacy then Validation.atInput index (refuse (.missing "raw_prev_tx_hex"))
        else .ok (Script.p2pkh hash.bytes) := by
      rw [scriptCode, own, known]
      rfl
    right
    rw [unfolded, if_neg other]
    exact ⟨rfl, fun script given => by cases given⟩
  | some script =>
    have unfolded : scriptCode index input hash =
        if script != expected then .error (.plain .invalidInput
          s!"Input {index} spends an output not locked to the key at its path")
        else if input.kind = .legacy then .ok script else .ok (Script.p2pkh hash.bytes) := by
      rw [scriptCode, own, known]
      rfl
    rw [unfolded]
    by_cases same : script = expected
    · right
      subst same
      have equal : ¬ (script != script) = true := by simp
      rw [if_neg equal]
      refine ⟨?_, fun other given => by cases given; exact own⟩
      by_cases legacy : input.kind = .legacy
      · rw [if_pos legacy]
        exact own.symm.trans (legacy_forKey prepared legacy hash)
      · rw [if_neg legacy]
    · left
      have different : (script != expected) = true := by simpa using same
      rw [if_pos different]
      exact ⟨expected, script, _, own, rfl, same, rfl, rfl⟩

/-- A script code without separators has a pre-image in every layout. -/
theorem sighash_ok (inside : index < unsigned.inputs.length) {code : Bytes}
    (bare : Script.withoutCodeSeparators code = .ok code) (hashType : UInt32) (kind : Sighash.Kind)
    (amount : UInt64) :
    ∃ image, Sighash.preimage unsigned hashType index ⟨kind, code, some amount⟩ = .ok image := by
  have found : unsigned.inputs[index]? = some unsigned.inputs[index] := List.getElem?_eq_getElem inside
  cases kind with
  | legacy =>
    simp only [Sighash.preimage, Sighash.legacyPreimage, found, bare]
    exact ⟨_, rfl⟩
  | witnessV0 | forkId =>
    simp only [Sighash.preimage, Sighash.amountPreimage, found]
    exact ⟨_, rfl⟩

theorem preimage_cases (prepared : Prepares coin config requested input)
    (inside : index < unsigned.inputs.length) (hash : Octets 20) :
    (∃ expected script failure, Script.forKey hash input.scriptType = .ok expected ∧
      input.prevScript = some script ∧ script ≠ expected ∧ failure.code = .invalidInput ∧
      preimage coin unsigned index input hash = .error failure) ∨
    ∃ image, preimage coin unsigned index input hash = .ok image ∧
      Sighash.preimage unsigned coin.sighashType index
        ⟨input.kind, Script.p2pkh hash.bytes, some input.amount⟩ = .ok image ∧
      ∀ script, input.prevScript = some script → Script.forKey hash input.scriptType = .ok script := by
  unfold preimage
  rcases scriptCode_cases prepared index hash with
    ⟨expected, script, failure, own, known, different, code, failed⟩ | ⟨coded, locked⟩
  · left
    rw [failed]
    exact ⟨expected, script, failure, own, known, different, code, rfl⟩
  · right
    obtain ⟨image, made⟩ := sighash_ok inside (Script.withoutCodeSeparators_p2pkh hash) coin.sighashType
      input.kind input.amount
    refine ⟨image, ?_, made, locked⟩
    rw [coded]
    exact mapError_eq_ok.mpr made

/-- A pre-image was made with the script code of the key, so that the spent output, if it is known, pays to the key. -/
theorem preimage_ok (prepared : Prepares coin config requested input) (inside : index < unsigned.inputs.length)
    {hash : Octets 20} {image : Bytes} (hashed : preimage coin unsigned index input hash = .ok image) :
    Sighash.preimage unsigned coin.sighashType index ⟨input.kind, Script.p2pkh hash.bytes, some input.amount⟩ =
        .ok image ∧
      ∀ script, input.prevScript = some script → Script.forKey hash input.scriptType = .ok script := by
  rcases preimage_cases prepared inside hash with ⟨_, _, _, _, _, _, _, failed⟩ | ⟨other, same, made, locked⟩
  · cases failed.symm.trans hashed
  · cases same.symm.trans hashed
    exact ⟨made, locked⟩

theorem decodeAnswer_error {answer : Oracle.Answer} {failure : Failure}
    (failed : decodeAnswer answer = .error failure) : failure.code = .malformedSignature := by
  cases answer with
  | raw signature => cases failed
  | der bytes =>
    obtain ⟨cause, _, rfl⟩ := mapError_eq_error.mp failed
    rfl

theorem verify_ok {signature : Signature} {digest : Octets 32} {key : Octets 33}
    (verified : verify signature digest key = .ok ()) :
    ∃ point, PublicKey.parse? key.bytes = some point ∧
      Ecdsa.verifies digest point signature.r.toNat (Ecdsa.low signature.s.toNat) = true := by
  unfold verify at verified
  split at verified
  · split at verified
    · cases verified
    · rename_i point parsed
      split at verified
      · rename_i verifies
        exact ⟨point, parsed, verifies⟩
      · cases verified
  · cases verified

theorem verify_error {signature : Signature} {digest : Octets 32} {key : Octets 33} {failure : Failure}
    (failed : verify signature digest key = .error failure) :
    failure.code = .malformedSignature ∨
      failure.code = .invalidInput ∧ PublicKey.parse? key.bytes = none := by
  unfold verify at failed
  split at failed
  · split at failed
    · rename_i unknown
      cases failed
      exact .inr ⟨rfl, unknown⟩
    · split at failed
      · cases failed
      · cases failed
        exact .inl rfl
  · cases failed
    exact .inl rfl

theorem unlock_of_singleKey (single : input.scriptType.isMultisig = false) (key : Octets 33)
    (typed : Bytes) : ∃ txIn, unlock input key typed = .ok txIn := by
  unfold unlock
  cases known : input.scriptType with
  | p2pkh | p2shP2wpkh | p2wpkh => exact ⟨_, rfl⟩
  | p2sh | p2wsh | p2shP2wsh =>
    rw [known] at single
    cases single

theorem signInput_meets (oracle : Oracle σ) (prepared : Prepares coin config requested input)
    (inside : index < unsigned.inputs.length) (key : Octets 33) (before : Progress σ) :
    (signInput oracle config coin unsigned index input key).Meets before
      (fun signed after => after.cache = before.cache ∧ ∃ call image,
        before.Records after (Phase.round index) [call] ∧
          Signs coin config unsigned index input key signed call image)
      (fun stop after => after.cache = before.cache ∧ ∃ phases calls, before.Records after phases calls ∧
        Breaks coin config unsigned index input key after.signal phases calls stop) := by
  unfold signInput
  refine .enter fun hashing entered sameCache => ?_
  refine .ofExcept (fun image hashed => ?_) fun failure failed => ?_
  · refine .enter fun awaiting awaited keptCache => ?_
    have waiting := entered.trans awaited
    refine .bind (Step.call_meets config _ _ awaiting) (fun stop after ended => ?_)
      fun answer answered given => ?_
    · obtain ⟨unserved, cache, calls, recorded, unanswered⟩ := ended
      refine ⟨cache.trans (keptCache.trans sameCache), _, _, waiting.trans recorded, ?_⟩
      rcases unanswered with ⟨rfl, fired⟩ | ⟨response, rfl, silent⟩
      · exact .cancelled unserved fired
      · exact .unserved unserved ⟨hashed, _, response, rfl, rfl⟩ (Exchange.not_signed_of_silent silent)
    · obtain ⟨cache, response, answer, recorded⟩ := given
      have asks : Asks coin config unsigned index input key (.signature input.path _ _ response) image :=
        ⟨hashed, _, response, rfl, rfl⟩
      refine .enter fun assembling assembled heldCache => ?_
      have recorded := (waiting.trans recorded).trans assembled
      have unchanged : assembling.cache = before.cache :=
        heldCache.trans (cache.trans (keptCache.trans sameCache))
      refine .ofExcept (fun signature decoded => ?_) fun failure failed =>
        ⟨unchanged, _, _, recorded, .unusable asks (Exchange.not_signed_of_undecoded answer failed)
          (.inl (decodeAnswer_error failed))⟩
      obtain ⟨txIn, unlocked⟩ := unlock_of_singleKey prepared.singleKey key
        (Der.encodeTyped signature (coin.sighashType &&& 0xff).toUInt8)
      have finish (verified : config.verifySignatures = true → verify signature (sha256d image) key = .ok ()) :
          Signs coin config unsigned index input key (signature, txIn) _ image :=
        ⟨hashed, ⟨_, response, _, rfl, rfl, answer, decoded⟩, verified, unlocked⟩
      simp only [unlocked]
      by_cases checks : config.verifySignatures = true
      · rw [if_pos checks]
        refine .ofExcept (fun _ verified => ?_) fun failure failed => ?_
        · exact .pure ⟨unchanged, _, image, recorded, finish fun _ => mapError_eq_ok.mp verified⟩
        · obtain ⟨cause, refuted, rfl⟩ := mapError_eq_error.mp failed
          refine ⟨unchanged, _, _, recorded,
            .unusable asks (Exchange.not_signed_of_refuted answer decoded checks refuted) ?_⟩
          rcases verify_error refuted with malformed | ⟨code, unknown⟩
          · exact .inl malformed
          · exact .inr ⟨code, checks, unknown⟩
      · rw [if_neg checks]
        exact .pure ⟨unchanged, _, image, recorded, finish fun on => absurd on checks⟩
  · refine ⟨sameCache, _, _, entered, ?_⟩
    rcases preimage_cases prepared inside (hash160 key.bytes) with
      ⟨expected, script, cause, own, known, different, code, broken⟩ | ⟨image, made, _⟩
    · cases broken.symm.trans failed
      exact .notLocked own known different code
    · cases made.symm.trans failed

/-- The inputs are signed in turn, the first having number `index`, with one call each. -/
inductive SignsAll (coin : Coin) (config : SigningConfig) (unsigned : Transaction) :
    Nat → List (PreparedInput × Octets 33) → List (Signature × TxIn) → List Exchange → Prop where
  | nil {index : Nat} : SignsAll coin config unsigned index [] [] []
  | cons {index : Nat} {input : PreparedInput} {key : Octets 33} {others : List (PreparedInput × Octets 33)}
      {signed : Signature × TxIn} {rest : List (Signature × TxIn)} {call : Exchange}
      {calls : List Exchange} {image : Bytes}
      (first : Signs coin config unsigned index input key signed call image)
      (later : SignsAll coin config unsigned (index + 1) others rest calls) :
      SignsAll coin config unsigned index ((input, key) :: others) (signed :: rest) (call :: calls)

namespace SignsAll

variable {pairs : List (PreparedInput × Octets 33)} {signed : List (Signature × TxIn)} {calls : List Exchange}

theorem length_eq (all : SignsAll coin config unsigned index pairs signed calls) :
    signed.length = pairs.length ∧ calls.length = pairs.length := by
  induction all with
  | nil => exact ⟨rfl, rfl⟩
  | cons _ _ ih =>
    obtain ⟨one, other⟩ := ih
    simp only [List.length_cons, one, other, and_self]

/-- As many calls were made as inputs are signed before another one. -/
theorem length_take {first done : Nat} {pair : PreparedInput × Octets 33} (found : pairs[done]? = some pair)
    (all : SignsAll coin config unsigned first (pairs.take done) signed calls) : calls.length = done := by
  have inside := (List.getElem?_eq_some_iff.mp found).1
  rw [all.length_eq.2, List.length_take, Nat.min_eq_left (Nat.le_of_lt inside)]

/-- No index is shifted: each signed input belongs to the pair and to the call at its own place. -/
theorem at_index (all : SignsAll coin config unsigned index pairs signed calls) {offset : Nat}
    {one : Signature × TxIn} (found : signed[offset]? = some one) :
    ∃ input key call image, pairs[offset]? = some (input, key) ∧ calls[offset]? = some call ∧
      Signs coin config unsigned (index + offset) input key one call image := by
  induction all generalizing offset with
  | nil => cases found
  | @cons index input key others first rest call calls image signs _ ih =>
    cases offset with
    | zero =>
      cases found
      exact ⟨input, key, call, image, rfl, rfl, signs⟩
    | succ offset =>
      obtain ⟨input, key, call, image, pair, made, signs⟩ := ih found
      refine ⟨input, key, call, image, pair, made, ?_⟩
      rwa [show index + (offset + 1) = index + 1 + offset by omega]

end SignsAll

/-- Some inputs are signed and the work on the next one ends early. -/
def BreaksAt (coin : Coin) (config : SigningConfig) (unsigned : Transaction) (first : Nat)
    (pairs : List (PreparedInput × Octets 33)) (signal : CancelSignal) (phases : List Phase) (calls : List Exchange)
    (stop : Stop) : Prop :=
  ∃ done pair signed broken earlier last, pairs[done]? = some pair ∧
    SignsAll coin config unsigned first (pairs.take done) signed earlier ∧
    phases = Phase.rounds first done ++ broken ∧ calls = earlier ++ last ∧
    Breaks coin config unsigned (first + done) pair.1 pair.2 signal broken last stop

theorem BreaksAt.next {first : Nat} {input : PreparedInput} {key : Octets 33} {one : Signature × TxIn}
    {call : Exchange} {image : Bytes} {pairs : List (PreparedInput × Octets 33)} {phases : List Phase}
    {calls : List Exchange} {signal : CancelSignal} {stop : Stop}
    (signs : Signs coin config unsigned first input key one call image)
    (breaks : BreaksAt coin config unsigned (first + 1) pairs signal phases calls stop) :
    BreaksAt coin config unsigned first ((input, key) :: pairs) signal (Phase.round first ++ phases) (call :: calls)
      stop := by
  obtain ⟨done, reached, signed, broken, earlier, last, found, all, rfl, rfl, cause⟩ := breaks
  refine ⟨done + 1, reached, one :: signed, broken, call :: earlier, last, found, .cons signs all, ?_, rfl, ?_⟩
  · rw [Phase.rounds, List.append_assoc]
  · rwa [show first + (done + 1) = first + 1 + done by omega]

/-- By induction on the inputs that are left, each being in range of the transaction. -/
theorem signInputs_meets (oracle : Oracle σ) {pairs : List (PreparedInput × Octets 33)}
    (prepared : ∀ pair ∈ pairs, ∃ requested, Prepares coin config requested pair.1)
    (inside : index + pairs.length ≤ unsigned.inputs.length) (before : Progress σ) :
    (signInputs oracle config coin unsigned index pairs).Meets before
      (fun signed after => after.cache = before.cache ∧ ∃ calls,
        before.Records after (Phase.rounds index pairs.length) calls ∧
          SignsAll coin config unsigned index pairs signed calls)
      (fun stop after => after.cache = before.cache ∧ ∃ phases calls, before.Records after phases calls ∧
        BreaksAt coin config unsigned index pairs after.signal phases calls stop) := by
  induction pairs generalizing index before with
  | nil => exact .pure ⟨rfl, [], .refl before, .nil⟩
  | cons pair pairs ih =>
    obtain ⟨input, key⟩ := pair
    obtain ⟨requested, ready⟩ := prepared (input, key) List.mem_cons_self
    rw [List.length_cons] at inside
    have others (next : PreparedInput × Octets 33) (member : next ∈ pairs) :=
      prepared next (List.mem_cons_of_mem _ member)
    unfold signInputs
    refine .bind (signInput_meets oracle ready (by omega) key before) (fun stop after broken => ?_)
      fun signed middle done => ?_
    · obtain ⟨same, phases, calls, recorded, breaks⟩ := broken
      exact ⟨same, phases, calls, recorded, 0, (input, key), [], phases, [], calls, rfl, .nil, rfl, rfl, breaks⟩
    · obtain ⟨cache, call, image, recorded, signs⟩ := done
      refine .bind (ih others (by omega) middle) (fun stop after broken => ?_)
        fun rest after more => ?_
      · obtain ⟨same, phases, calls, next, breaks⟩ := broken
        exact ⟨same.trans cache, _, _, recorded.trans next, breaks.next signs⟩
      · obtain ⟨kept, calls, next, all⟩ := more
        exact .pure ⟨kept.trans cache, call :: calls, recorded.trans next, .cons signs all⟩

end Signing

end CoinSpend
