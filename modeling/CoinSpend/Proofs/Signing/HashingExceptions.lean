import CoinSpend.Proofs.Signing.PayloadModes

/-! Exceptions to the payload hashing, which are kept by name in no particular order. They settle the choice for a coin
just if all that bear its name, in whatever case, choose the same; then the order in which they are met shows nowhere in an
attempt to sign. -/
namespace CoinSpend

namespace SigningConfig

variable {config other : SigningConfig} {coin : String} {entry : String × PayloadHashing}

/-- The same configuration, with its exceptions met in another order. -/
def Reorders (config other : SigningConfig) : Prop :=
  ∃ exceptions, exceptions.Perm config.coinPayloadHashing ∧ other = config.rehashed config.payloadHashing exceptions

/-- Exceptions whose names are the coin's up to case choose the same. -/
def Settles (config : SigningConfig) (coin : String) : Prop :=
  ∀ entry ∈ config.coinPayloadHashing, ∀ another ∈ config.coinPayloadHashing,
    Text.sameName entry.1 coin = true → Text.sameName another.1 coin = true → entry.2 = another.2

theorem Settles.payloadHashingFor_eq (settles : config.Settles coin) (member : entry ∈ config.coinPayloadHashing)
    (named : Text.sameName entry.1 coin = true) : config.payloadHashingFor coin = entry.2 := by
  unfold payloadHashingFor
  cases found : config.coinPayloadHashing.find? fun entry => Text.sameName entry.1 coin with
  | none => exact absurd named (List.find?_eq_none.mp found entry member)
  | some another =>
    have namedToo : Text.sameName another.1 coin = true := by simpa only using List.find?_some found
    exact settles another (List.mem_of_find?_eq_some found) entry member namedToo named

theorem payloadHashingFor_of_unnamed (unnamed : ∀ entry ∈ config.coinPayloadHashing, ¬ Text.sameName entry.1 coin = true) :
    config.payloadHashingFor coin = config.payloadHashing := by
  rw [payloadHashingFor, List.find?_eq_none.mpr unnamed]

theorem Reorders.mem_iff (reorders : config.Reorders other) :
    entry ∈ other.coinPayloadHashing ↔ entry ∈ config.coinPayloadHashing := by
  obtain ⟨exceptions, perm, rfl⟩ := reorders
  exact perm.mem_iff

theorem Reorders.settles (reorders : config.Reorders other) (settles : config.Settles coin) : other.Settles coin := by
  intro entry member another memberToo
  exact settles entry (reorders.mem_iff.mp member) another (reorders.mem_iff.mp memberToo)

theorem Reorders.payloadHashing_eq (reorders : config.Reorders other) : other.payloadHashing = config.payloadHashing := by
  obtain ⟨_, _, rfl⟩ := reorders
  rfl

theorem Reorders.payloadHashingFor_eq (reorders : config.Reorders other) (settles : config.Settles coin) :
    other.payloadHashingFor coin = config.payloadHashingFor coin := by
  by_cases named : ∃ entry ∈ config.coinPayloadHashing, Text.sameName entry.1 coin = true
  · obtain ⟨entry, member, named⟩ := named
    rw [settles.payloadHashingFor_eq member named,
      (reorders.settles settles).payloadHashingFor_eq (reorders.mem_iff.mpr member) named]
  · have unnamed (entry : String × PayloadHashing) (member : entry ∈ config.coinPayloadHashing) :
        ¬ Text.sameName entry.1 coin = true := fun same => named ⟨entry, member, same⟩
    rw [payloadHashingFor_of_unnamed unnamed,
      payloadHashingFor_of_unnamed fun entry member => unnamed entry (reorders.mem_iff.mp member),
      reorders.payloadHashing_eq]

/-- Every exception that bears the name of a coin comes first in some order. -/
theorem exists_reorders_of_mem (member : entry ∈ config.coinPayloadHashing) (named : Text.sameName entry.1 coin = true) :
    ∃ other, config.Reorders other ∧ other.payloadHashingFor coin = entry.2 := by
  obtain ⟨before, behind, split⟩ := List.append_of_mem member
  refine ⟨config.rehashed config.payloadHashing (entry :: (before ++ behind)), ⟨_, ?_, rfl⟩, ?_⟩
  · rw [split]
    exact List.perm_middle.symm
  · simp only [payloadHashingFor, rehashed, List.find?_cons, named]

theorem settles_iff : config.Settles coin ↔
    ∀ other, config.Reorders other → other.payloadHashingFor coin = config.payloadHashingFor coin := by
  constructor
  · exact fun settles other reorders => reorders.payloadHashingFor_eq settles
  · intro orderless entry member another memberToo named namedToo
    obtain ⟨first, reorders, own⟩ := exists_reorders_of_mem member named
    obtain ⟨second, reordersToo, ownToo⟩ := exists_reorders_of_mem memberToo namedToo
    rw [← own, ← ownToo, orderless first reorders, orderless second reordersToo]

/-- All coins are settled just if exceptions with one name up to case choose the same. -/
theorem forall_settles_iff : (∀ coin, config.Settles coin) ↔
    ∀ entry ∈ config.coinPayloadHashing, ∀ another ∈ config.coinPayloadHashing,
      Text.sameName entry.1 another.1 = true → entry.2 = another.2 := by
  simp only [Settles, Text.sameName, beq_iff_eq]
  constructor
  · intro settles entry member another memberToo same
    exact settles another.1 entry member another memberToo same rfl
  · intro agree coin entry member another memberToo named namedToo
    exact agree entry member another memberToo (named.trans namedToo.symm)

end SigningConfig

namespace Signing

variable {σ : Type} {oracle : Oracle σ} {config : SigningConfig} {hashing : PayloadHashing}
  {exceptions : List (String × PayloadHashing)} {coin : Coin}

theorem signInput_rehashed (same : (config.rehashed hashing exceptions).payloadHashingFor coin.name =
    config.payloadHashingFor coin.name) (unsigned : Transaction) (index : Nat) (input : PreparedInput) (key : Octets 33) :
    signInput oracle (config.rehashed hashing exceptions) coin unsigned index input key =
      signInput oracle config coin unsigned index input key := by
  unfold signInput
  rw [same]
  rfl

theorem signInputs_rehashed (same : (config.rehashed hashing exceptions).payloadHashingFor coin.name =
    config.payloadHashingFor coin.name) (unsigned : Transaction) (index : Nat)
    (pairs : List (PreparedInput × Octets 33)) :
    signInputs oracle (config.rehashed hashing exceptions) coin unsigned index pairs =
      signInputs oracle config coin unsigned index pairs := by
  induction pairs generalizing index with
  | nil => rfl
  | cons pair pairs ih =>
    unfold signInputs
    rw [signInput_rehashed same]
    simp only [ih]

/-- All that the work reads of the choices for payloads is the choice for the coin at hand. -/
theorem run_rehashed {registry : Registry} {request : SigningRequest}
    (same : ∀ coin, registry.require request.coin = .ok coin →
      (config.rehashed hashing exceptions).payloadHashingFor coin.name = config.payloadHashingFor coin.name) :
    run oracle (config.rehashed hashing exceptions) registry request = run oracle config registry request := by
  unfold run
  cases known : registry.require request.coin with
  | error cause => rfl
  | ok coin =>
    have checks : request.validate coin (config.rehashed hashing exceptions) = request.validate coin config :=
      Validation.validate_congr (by rfl) (by rfl) (by rfl) request coin
    have signs (unsigned : Transaction) (pairs : List (PreparedInput × Octets 33)) :
        signInputs oracle (config.rehashed hashing exceptions) coin unsigned 0 pairs =
          signInputs oracle config coin unsigned 0 pairs := signInputs_rehashed (same coin known) unsigned 0 pairs
    simp only [Step.ofExcept, pure_bind, checks, signs]
    rfl

end Signing

namespace Session

variable {σ : Type} {config other : SigningConfig}

theorem sign_rehashed {oracle : Oracle σ} {hashing : PayloadHashing} {exceptions : List (String × PayloadHashing)}
    {registry : Registry} {request : SigningRequest} (session : Session) (memory : σ) (cache : KeyCache)
    (signal : CancelSignal) (same : ∀ coin, registry.require request.coin = .ok coin →
      (config.rehashed hashing exceptions).payloadHashingFor coin.name = config.payloadHashingFor coin.name) :
    session.sign registry (config.rehashed hashing exceptions) oracle memory request cache signal =
      session.sign registry config oracle memory request cache signal := by
  unfold sign
  rw [Signing.run_rehashed same]

theorem algorithm_of_signature {oracle : Oracle σ} {session : Session} {registry : Registry} {memory : σ}
    {request : SigningRequest} {cache : KeyCache} {signal : CancelSignal} {path : KeyPath} {payload : Bytes}
    {algorithm : HashAlgorithm} {response : Oracle.Response Oracle.Answer} (called : .signature path payload algorithm response ∈
      (session.sign registry config oracle memory request cache signal).exchanges) :
    ∃ coin, registry.require request.coin = .ok coin ∧ algorithm = (config.payloadHashingFor coin.name).algorithm := by
  have asked : .signature path payload algorithm response ∈
      (session.sign registry config oracle memory request cache signal).exchanges.filter Exchange.isSignature :=
    List.mem_filter.mpr ⟨called, rfl⟩
  obtain ⟨index, found⟩ := List.mem_iff_getElem?.mp asked
  obtain ⟨coin, _, _, _, _, _, _, _, required, _, _, _, _, chosen, same, _⟩ :=
    sign_digests session registry config oracle memory request cache signal index _ found
  cases same
  exact ⟨coin, required, chosen⟩

/-- What the oracle is given to sign is the choice for the coin, and the choice is a matter of the configuration alone
exactly if the exceptions settle it: those that bear the coin's name up to case choose the same. Then an attempt is the
same in every order of the exceptions. -/
theorem sign_orderless_iff (config : SigningConfig) :
    (∀ coin, (∀ other, config.Reorders other → other.payloadHashingFor coin = config.payloadHashingFor coin) ↔
      config.Settles coin) ∧
    ((∀ coin other, config.Reorders other → other.payloadHashingFor coin = config.payloadHashingFor coin) ↔
      ∀ entry ∈ config.coinPayloadHashing, ∀ another ∈ config.coinPayloadHashing,
        Text.sameName entry.1 another.1 = true → entry.2 = another.2) ∧
    ∀ (σ : Type) (session : Session) (registry : Registry) (oracle : Oracle σ) (memory : σ) (request : SigningRequest)
      (cache : KeyCache) (signal : CancelSignal),
      (∀ path payload algorithm response, .signature path payload algorithm response ∈
          (session.sign registry config oracle memory request cache signal).exchanges →
        ∃ coin, registry.require request.coin = .ok coin ∧
          algorithm = (config.payloadHashingFor coin.name).algorithm) ∧
      ((∀ coin, registry.require request.coin = .ok coin → config.Settles coin.name) →
        ∀ other, config.Reorders other → session.sign registry other oracle memory request cache signal =
          session.sign registry config oracle memory request cache signal) := by
  refine ⟨fun coin => SigningConfig.settles_iff.symm, ?_, fun σ session registry oracle memory request cache signal =>
    ⟨fun _ _ _ _ called => algorithm_of_signature called, fun settles other reorders => ?_⟩⟩
  · simp only [← SigningConfig.forall_settles_iff, SigningConfig.settles_iff]
  · obtain ⟨exceptions, perm, rfl⟩ := id reorders
    exact sign_rehashed session memory cache signal fun coin required =>
      reorders.payloadHashingFor_eq (settles coin required)

namespace Spelled

/-- Two exceptions for one coin, whose names differ in case. -/
def given (first second : PayloadHashing) : SigningConfig :=
  { coinPayloadHashing := [("Bitcoin", first), ("bitcoin", second)], verifySignatures := false }

/-- The same exceptions, the second one first. -/
def swapped (first second : PayloadHashing) : SigningConfig :=
  { coinPayloadHashing := [("bitcoin", second), ("Bitcoin", first)], verifySignatures := false }

theorem reorders (first second : PayloadHashing) : (given first second).Reorders (swapped first second) :=
  ⟨_, .swap _ _ _, rfl⟩

def attempt (config : SigningConfig) : Attempt Unit :=
  ({} : Session).sign .builtin config Sample.oracle () Sample.request Sample.cache .armed

/-- The call leaves the second round of hashing to the oracle. -/
def leavesHashing : Exchange → Bool
  | .signature _ _ .sha256 _ => true
  | _ => false

/-- Text of a configuration that has both exceptions. -/
def text : String :=
  "\x7b\"coin_payload_hashing\": \x7b\"Bitcoin\": \"digest\", \"bitcoin\": \"single_sha256\"\x7d, " ++
    "\"verify_signatures\": false\x7d"

end Spelled

/-- Exceptions that choose the same may have names that differ in case. -/
theorem sign_orderless_iff_sample : ∃ path payload response coin,
    .signature path payload .sha256 response ∈ (Spelled.attempt (Spelled.given .singleSha256 .singleSha256)).exchanges ∧
    Registry.builtin.require "Bitcoin" = .ok coin ∧ (Spelled.given .singleSha256 .singleSha256).Settles coin.name ∧
    HashAlgorithm.sha256 = ((Spelled.given .singleSha256 .singleSha256).payloadHashingFor coin.name).algorithm ∧
    Spelled.attempt (Spelled.swapped .singleSha256 .singleSha256) =
      Spelled.attempt (Spelled.given .singleSha256 .singleSha256) := by
  have asked : (Spelled.attempt (Spelled.given .singleSha256 .singleSha256)).exchanges.any Spelled.leavesHashing = true := by
    decide +kernel
  obtain ⟨call, made, left⟩ := List.any_eq_true.mp asked
  have settles (coin : String) : (Spelled.given .singleSha256 .singleSha256).Settles coin := by
    simp [SigningConfig.Settles, Spelled.given]
  obtain ⟨_, _, attempts⟩ := sign_orderless_iff (Spelled.given .singleSha256 .singleSha256)
  obtain ⟨chosen, same⟩ := attempts Unit {} .builtin Sample.oracle () Sample.request Sample.cache .armed
  cases call with
  | publicKey path response => cases left
  | signature path payload algorithm response =>
    cases algorithm with
    | none => cases left
    | sha256 =>
      obtain ⟨coin, known, algorithm⟩ := chosen path payload .sha256 response made
      exact ⟨path, payload, response, coin, made, known, settles coin.name, algorithm,
        same (fun coin _ => settles coin.name) _ (Spelled.reorders _ _)⟩

/-- Where two exceptions bear the name of a coin and differ, the order in which they are met decides what the oracle is
given to sign. -/
theorem payload_by_order : ∃ config other : SigningConfig,
    (SigningConfig.ofJsonText Spelled.text).toOption = some config ∧ (config.coinPayloadHashing.map Prod.fst).Nodup ∧
    config.Reorders other ∧ config.payloadHashingFor "Bitcoin" = .digest ∧
    other.payloadHashingFor "Bitcoin" = .singleSha256 ∧
    (Spelled.attempt config).exchanges.map Spelled.leavesHashing = [false] ∧
    (Spelled.attempt other).exchanges.map Spelled.leavesHashing = [true] := by
  refine ⟨Spelled.given .digest .singleSha256, Spelled.swapped .digest .singleSha256, ?_, by decide,
    Spelled.reorders _ _, by decide, by decide, ?_, ?_⟩ <;> decide +kernel

end Session

end CoinSpend
