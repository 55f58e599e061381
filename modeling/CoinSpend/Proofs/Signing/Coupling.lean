import CoinSpend.Proofs.Signing.Fetching
import CoinSpend.Proofs.Signing.Polling

/-! Two runs of the work on a request, side by side. A coupling says what they have in common as long as both go on.
The rules here follow the text of the program once for both runs, so that a comparison of two attempts comes down to
their calls. -/
namespace CoinSpend

namespace Signing

variable {σ : Type} (oracle : Oracle σ) (config : SigningConfig)

/-- What is done with the answer to a call for a key. -/
def keepKey (path : KeyPath) (bytes : Bytes) : Step σ (Octets 33) :=
  match PublicKey.compress bytes with
  | .ok key => do
    modify fun progress => { progress with cache := progress.cache.set path key }
    return key
  | .error error =>
    let reason := error.message
    throw (.failed (.plain .oracleError s!"Oracle returned an invalid public key: {reason}"))

def askKey (path : KeyPath) : Step σ Bytes := Step.call config (.publicKey path) (oracle.publicKey path)

theorem get_bind {α : Type} (next : Progress σ → Step σ α) (before : Progress σ) :
    (MonadState.get >>= next) before = next before before := rfl

/-- A known key is looked up, and any other one is asked for. -/
theorem publicKey_eq (path : KeyPath) (before : Progress σ) : publicKey oracle config path before =
    match before.cache.find? path with
    | some key => .ok key { before with cache := before.cache.hit }
    | none => (askKey oracle config path >>= keepKey path) before := by
  unfold publicKey
  rw [get_bind, KeyCache.get]
  cases before.cache.find? path with
  | some key => rfl
  | none => rfl

/-- The call for the signature of a pre-image. -/
def askSignature (coin : Coin) (path : KeyPath) (image : Bytes) : Step σ Oracle.Answer :=
  let algorithm := (config.payloadHashingFor coin.name).algorithm
  Step.call config (.signature path (payload algorithm image) algorithm)
    (oracle.sign path (payload algorithm image) algorithm)

end Signing

/-- What is true of two runs while both go on, when both have ended early for one reason, and once the first one alone
has ended. -/
structure Coupling (σ τ : Type) where
  alike : Progress σ → Progress τ → Prop
  stopped : Stop → Progress σ → Progress τ → Prop
  parted : Stop → Progress σ → Progress τ → Prop
  fails : ∀ {one other}, alike one other → ∀ cause, stopped (.failed cause) one other
  enters : ∀ {one other}, alike one other → ∀ phase,
    alike { one with session := one.session.enter phase } { other with session := other.session.enter phase }
  alone : ∀ {stop one other later}, parted stop one other → other.session.history <+: later.session.history →
    other.exchanges <+: later.exchanges → parted stop one later

namespace Coupling

/-- Runs that stay alike whatever they end with, so that neither goes on alone. -/
def lockstep {σ τ : Type} (alike : Progress σ → Progress τ → Prop) (enters : ∀ {one other}, alike one other → ∀ phase,
    alike { one with session := one.session.enter phase } { other with session := other.session.enter phase }) :
    Coupling σ τ where
  alike := alike
  stopped _ := alike
  parted _ _ _ := False
  fails := fun both _ => both
  enters := enters
  alone := fun never => never.elim

variable {σ τ α β : Type} (c : Coupling σ τ)

inductive Together : EStateM.Result Stop (Progress σ) α → EStateM.Result Stop (Progress τ) α → Prop where
  | alike {value : α} {one : Progress σ} {other : Progress τ} (both : c.alike one other) :
      Together (.ok value one) (.ok value other)
  | stopped {stop : Stop} {one : Progress σ} {other : Progress τ} (both : c.stopped stop one other) :
      Together (.error stop one) (.error stop other)
  | parted {stop : Stop} {one : Progress σ} {result : EStateM.Result Stop (Progress τ) α}
      (left : c.parted stop one (Step.final result)) : Together (.error stop one) result

/-- Runs that are alike stay together, and a first run that has ended is not disturbed by the second one. -/
structure Mirrors (step : Step σ α) (twin : Step τ α) : Prop where
  together : ∀ {one other}, c.alike one other → c.Together (step one) (twin other)
  apart : ∀ {stop one other}, c.parted stop one other → c.parted stop one (Step.final (twin other))

/-- Both runs know the same keys, whether these are looked up or given. -/
structure SharesKeys : Prop where
  same : ∀ {one other}, c.alike one other → other.cache = one.cache
  hit : ∀ {one other}, c.alike one other →
    c.alike { one with cache := one.cache.hit } { other with cache := other.cache.hit }
  store : ∀ {one other call path key}, c.alike one other → call ∈ one.exchanges → call.Gives path key →
    c.alike { one with cache := one.cache.set path key } { other with cache := other.cache.set path key }

variable {c}

/-- If the first run has ended, the second one goes on alone. -/
theorem apart_bind {twin : Step τ α} {next : α → Step τ β} {stop : Stop} {one : Progress σ} {other : Progress τ}
    (left : c.parted stop one (Step.final (twin other)))
    (apart : ∀ value {other}, c.parted stop one other → c.parted stop one (Step.final (next value other))) :
    c.parted stop one (Step.final ((twin >>= next) other)) := by
  change c.parted stop one (Step.final (EStateM.bind twin next other))
  unfold EStateM.bind
  cases ended : twin other with
  | ok value after =>
    rw [ended] at left
    exact apart value left
  | error stop after =>
    rw [ended] at left
    exact left

theorem apart_call {config : SigningConfig} {exchange : Oracle.Response α → Exchange}
    {ask : τ → Oracle.Response α × τ} {stop : Stop} {one : Progress σ} {other : Progress τ}
    (left : c.parted stop one other) : c.parted stop one (Step.final (Step.call config exchange ask other)) := by
  have meets := Step.call_meets config exchange ask other
  unfold Step.Meets at meets
  cases ended : Step.call config exchange ask other with
  | ok value after =>
    rw [ended] at meets
    obtain ⟨_, _, _, recorded⟩ := meets
    exact c.alone left ⟨_, recorded.history.symm⟩ ⟨_, recorded.exchanges.symm⟩
  | error stop after =>
    rw [ended] at meets
    obtain ⟨_, _, _, recorded, _⟩ := meets
    exact c.alone left ⟨_, recorded.history.symm⟩ ⟨_, recorded.exchanges.symm⟩

theorem Together.bind {step : Step σ α} {twin : Step τ α} {next : α → Step σ β} {twinNext : α → Step τ β}
    {one : Progress σ} {other : Progress τ} (start : c.Together (step one) (twin other))
    (both : ∀ {value after later}, step one = .ok value after → c.alike after later →
      c.Together (next value after) (twinNext value later))
    (apart : ∀ value {stop one other}, c.parted stop one other → c.parted stop one (Step.final (twinNext value other))) :
    c.Together ((step >>= next) one) ((twin >>= twinNext) other) := by
  have onward {stop : Stop} {ended : Progress σ} (left : c.parted stop ended (Step.final (twin other))) :=
    apart_bind left fun value {_} => apart value
  change c.Together (EStateM.bind step next one) (EStateM.bind twin twinNext other)
  generalize ran : step one = result at start
  generalize twinRan : twin other = twinResult at start
  cases start with
  | alike alike =>
    rw [EStateM.bind, EStateM.bind, ran, twinRan]
    exact both ran alike
  | stopped stopped =>
    rw [EStateM.bind, EStateM.bind, ran, twinRan]
    exact .stopped stopped
  | parted left =>
    rw [EStateM.bind, ran]
    exact .parted (onward (twinRan ▸ left))

/-- Where being alike is enough to stop alike, one verdict keeps both runs together. -/
theorem Together.leave {verdict : Except Stop α} {one : Progress σ} {other : Progress τ} (both : c.alike one other)
    (stops : ∀ stop, c.stopped stop one other) : c.Together (Step.leave verdict one) (Step.leave verdict other) := by
  cases verdict with
  | ok value => exact .alike both
  | error stop => exact .stopped (stops stop)

namespace Mirrors

theorem pure (value : α) : c.Mirrors (Pure.pure value) (Pure.pure value) :=
  ⟨fun both => .alike both, fun left => left⟩

theorem bind {step : Step σ α} {twin : Step τ α} {next : α → Step σ β} {twinNext : α → Step τ β}
    (first : c.Mirrors step twin) (second : ∀ value, c.Mirrors (next value) (twinNext value)) :
    c.Mirrors (step >>= next) (twin >>= twinNext) where
  together := fun both =>
    (first.together both).bind (fun _ alike => (second _).together alike) fun value => (second value).apart
  apart := fun left => apart_bind (first.apart left) fun value => (second value).apart

theorem ofExcept (result : Except Failure α) : c.Mirrors (Step.ofExcept result) (Step.ofExcept result) := by
  cases result with
  | ok value => exact pure value
  | error cause => exact ⟨fun both => .stopped (c.fails both cause), fun left => left⟩

theorem enter (phase : Phase) : c.Mirrors (Step.enter phase) (Step.enter phase) where
  together := fun both => .alike (c.enters both phase)
  apart := fun left => c.alone left (List.prefix_append _ _) List.prefix_rfl

theorem mapM {each : α → Step σ β} {twin : α → Step τ β} (one : ∀ item, c.Mirrors (each item) (twin item))
    (items : List α) : c.Mirrors (items.mapM each) (items.mapM twin) := by
  induction items with
  | nil => exact pure []
  | cons item items ih =>
    rw [List.mapM_cons, List.mapM_cons]
    exact .bind (one item) fun value => .bind ih fun values => pure (value :: values)

end Mirrors

section Work

open Signing

variable {oracle : Oracle σ} {twin : Oracle τ} {config altered : SigningConfig}

/-- Runs that know the same keys need the same calls for keys. -/
theorem SharesKeys.mirrors (keys : c.SharesKeys) {path : KeyPath}
    (calls : c.Mirrors (askKey oracle config path) (askKey twin altered path)) :
    c.Mirrors (publicKey oracle config path) (publicKey twin altered path) := by
  have kept (bytes : Bytes) {stop : Stop} {one : Progress σ} {other : Progress τ} (left : c.parted stop one other) :
      c.parted stop one (Step.final (keepKey path bytes other)) := by
    unfold keepKey
    cases PublicKey.compress bytes with
    | ok key => exact c.alone left List.prefix_rfl List.prefix_rfl
    | error error => exact left
  refine ⟨fun {one other} both => ?_, fun {stop one other} left => ?_⟩
  · rw [publicKey_eq, publicKey_eq, keys.same both]
    cases one.cache.find? path with
    | some key => exact .alike (keys.same both ▸ keys.hit both)
    | none =>
      refine (calls.together both).bind (fun {bytes after later} answered alike => ?_) fun value => kept value
      have meets := Step.call_meets config (.publicKey path) (oracle.publicKey path) one
      unfold Step.Meets at meets
      rw [show Step.call config _ _ one = _ from answered] at meets
      obtain ⟨_, response, given, recorded⟩ := meets
      have made : Exchange.publicKey path response ∈ after.exchanges := by
        rw [recorded.exchanges]
        exact List.mem_append_right _ List.mem_cons_self
      unfold keepKey
      cases compressed : PublicKey.compress bytes with
      | ok key => exact .alike (keys.store alike made ⟨response, bytes, rfl, given, compressed⟩)
      | error error => exact .stopped (c.fails alike _)
  · rw [publicKey_eq]
    cases other.cache.find? path with
    | some key => exact c.alone left List.prefix_rfl List.prefix_rfl
    | none => exact apart_bind (calls.apart left) fun value => kept value

theorem mirrors_resolveOutput
    (keys : ∀ path, c.Mirrors (publicKey oracle config path) (publicKey twin altered path)) (planned : PlannedOutput) :
    c.Mirrors (resolveOutput oracle config planned) (resolveOutput twin altered planned) := by
  unfold resolveOutput
  cases planned with
  | mk amount script =>
    cases script with
    | fixed script => exact .pure _
    | change path scriptType => exact .bind (keys path) fun _ => .bind (.ofExcept _) fun _ => .pure _

variable (verification : altered.verifySignatures = config.verifySignatures)
  (signatures : ∀ coin path image, c.Mirrors (askSignature oracle config coin path image)
    (askSignature twin altered coin path image))

include verification signatures

theorem mirrors_signInput (coin : Coin) (unsigned : Transaction) (index : Nat) (input : PreparedInput)
    (key : Octets 33) : c.Mirrors (signInput oracle config coin unsigned index input key)
      (signInput twin altered coin unsigned index input key) := by
  unfold signInput
  rw [verification]
  refine .bind (.enter _) fun _ => .bind (.ofExcept _) fun image => .bind (.enter _) fun _ =>
    .bind (signatures coin input.path image) fun answer => .bind (.enter _) fun _ =>
    .bind (.ofExcept _) fun signature => ?_
  split
  · exact .bind (.ofExcept _) fun _ => .bind (.ofExcept _) fun _ => .pure _
  · exact .bind (.ofExcept _) fun _ => .pure _

theorem mirrors_signInputs (coin : Coin) (unsigned : Transaction) (index : Nat)
    (pairs : List (PreparedInput × Octets 33)) : c.Mirrors (signInputs oracle config coin unsigned index pairs)
      (signInputs twin altered coin unsigned index pairs) := by
  induction pairs generalizing index with
  | nil => exact .pure _
  | cons pair pairs ih =>
    unfold signInputs
    exact .bind (mirrors_signInput verification signatures coin unsigned index pair.1 pair.2) fun _ =>
      .bind (ih _) fun _ => .pure _

/-- Runs stay together if their calls do, as long as both configurations lead to the same checks. -/
theorem mirrors_run (registry : Registry) (request : SigningRequest)
    (validation : ∀ coin, request.validate coin altered = request.validate coin config)
    (keys : ∀ path, c.Mirrors (publicKey oracle config path) (publicKey twin altered path)) :
    c.Mirrors (run oracle config registry request) (run twin altered registry request) := by
  unfold run
  refine .bind (.ofExcept _) fun coin => ?_
  rw [validation]
  exact .bind (.ofExcept _) fun validated => .bind (.mapM (mirrors_resolveOutput keys) _) fun outputs =>
    .bind (.mapM (fun input : PreparedInput => keys input.path) _) fun keyed =>
    .bind (mirrors_signInputs verification signatures _ _ _ _) fun signed => .bind (.enter _) fun _ => .pure _

end Work

end Coupling

namespace Session

variable {σ : Type}

/-- The attempt that an end of the work amounts to. -/
def finish : EStateM.Result Stop (Progress σ) SignedTransaction → Attempt σ
  | .ok signed progress => close progress (.ok signed) .done
  | .error (.failed failure) progress => close progress (.error failure) (.failed failure.code)
  | .error .stalled progress =>
    ⟨none, progress.session, progress.oracle, progress.signal, progress.cache, progress.exchanges⟩

theorem sign_fresh {session : Session} (fresh : session.Fresh) (registry : Registry)
    (config : SigningConfig) (oracle : Oracle σ) (memory : σ) (request : SigningRequest) (cache : KeyCache)
    (signal : CancelSignal) : session.sign registry config oracle memory request cache signal =
      finish (Signing.run oracle config registry request ⟨memory, signal, cache, [], session⟩) := by
  rw [sign, if_pos fresh]
  rfl

/-- Result and phases depend on how the work ends and on the phases up to there. -/
theorem finish_congr {τ : Type} {one : Progress σ} {other : Progress τ} (session : one.session = other.session) :
    (∀ signed, (finish (.ok signed one)).session = (finish (.ok signed other)).session) ∧
      ∀ stop, (finish (.error stop one)).result = (finish (.error stop other)).result ∧
        (finish (.error stop one)).session = (finish (.error stop other)).session := by
  refine ⟨fun signed => ?_, fun stop => ?_⟩
  · simp only [finish, close, session]
  · cases stop <;> simp only [finish, close, session, and_self]

/-- Apart from its result and its last phase, an attempt is what the work leaves. -/
theorem finish_final (result : EStateM.Result Stop (Progress σ) SignedTransaction) :
    (finish result).oracle = (Step.final result).oracle ∧ (finish result).signal = (Step.final result).signal ∧
      (finish result).cache = (Step.final result).cache ∧
      (finish result).exchanges = (Step.final result).exchanges ∧
      (Step.final result).session.history <+: (finish result).session.history := by
  cases result with
  | ok signed progress => exact ⟨rfl, rfl, rfl, rfl, List.prefix_append _ _⟩
  | error stop progress =>
    cases stop with
    | failed failure => exact ⟨rfl, rfl, rfl, rfl, List.prefix_append _ _⟩
    | stalled => exact ⟨rfl, rfl, rfl, rfl, List.prefix_rfl⟩

end Session

end CoinSpend
