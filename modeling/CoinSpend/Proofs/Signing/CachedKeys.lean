import CoinSpend.Proofs.Signing.Calls
import CoinSpend.Proofs.Signing.Coupling

/-! A cached key is an answer known in advance. Attempts that differ in what is cached ask for different keys, and if
everything cached is what the oracle would answer, that is all they differ in. -/
namespace CoinSpend

namespace Oracle

variable {σ : Type} (oracle : Oracle σ)

/-- The memories of an oracle that has been asked for so many signatures, and for any keys. -/
inductive Reaches (origin : σ) : Nat → σ → Prop where
  | origin : Reaches origin 0 origin
  | publicKey {count : Nat} {memory : σ} (path : KeyPath) (before : Reaches origin count memory) :
    Reaches origin count (oracle.publicKey path memory).2
  | sign {count : Nat} {memory : σ} (path : KeyPath) (message : Bytes) (algorithm : HashAlgorithm)
    (before : Reaches origin count memory) : Reaches origin (count + 1) (oracle.sign path message algorithm memory).2

/-- What is answered for a key depends on its path alone; what is answered for a signature may depend on how many were
asked for before it, too. -/
structure Regular (origin : σ) : Prop where
  publicKey : ∀ {count memory}, oracle.Reaches origin count memory →
    ∀ path, (oracle.publicKey path memory).1 = (oracle.publicKey path origin).1
  sign : ∀ {count memory other}, oracle.Reaches origin count memory → oracle.Reaches origin count other →
    ∀ path message algorithm,
      (oracle.sign path message algorithm memory).1 = (oracle.sign path message algorithm other).1

/-- Nothing that happens during a call cancels the request. -/
structure Quiet (origin : σ) (signal : CancelSignal) : Prop where
  clear : signal.isCancelled = false
  publicKey : ∀ {count memory}, oracle.Reaches origin count memory →
    ∀ path, signal.heed (oracle.publicKey path memory).1.cancels = signal
  sign : ∀ {count memory}, oracle.Reaches origin count memory →
    ∀ path message algorithm, signal.heed (oracle.sign path message algorithm memory).1.cancels = signal

end Oracle

/-- Every cached key is the one that the oracle would give. -/
def KeyCache.Truthful {σ : Type} (cache : KeyCache) (oracle : Oracle σ) (origin : σ) : Prop :=
  ∀ path key, cache.find? path = some key →
    ∃ bytes, (oracle.publicKey path origin).1.answer = some (.ok bytes) ∧ PublicKey.compress bytes = .ok key

section Comparison

variable {σ : Type} {oracle : Oracle σ} {origin : σ} {signal : CancelSignal}

theorem KeyCache.truthful_empty : KeyCache.empty.Truthful oracle origin := by
  intro path key found
  cases found

theorem KeyCache.Truthful.set {cache : KeyCache} (truthful : cache.Truthful oracle origin) {path : KeyPath}
    {bytes : Bytes} {key : Octets 33} (answered : (oracle.publicKey path origin).1.answer = some (.ok bytes))
    (compressed : PublicKey.compress bytes = .ok key) : (cache.set path key).Truthful oracle origin := by
  intro other another found
  rw [KeyCache.find?_set] at found
  split at found
  · rename_i same
    cases found
    exact ⟨bytes, same ▸ answered, compressed⟩
  · exact truthful other another found

namespace Signing

/-- What looking up a key comes to if it has to be asked for. -/
def keyVerdict (limited : Bool) (signal : CancelSignal) (response : Oracle.Response Bytes) :
    Except Stop (Octets 33) := do
  let bytes ← Step.verdict limited signal response
  (PublicKey.compress bytes).mapError fun error =>
    let reason := error.message
    .failed (.plain .oracleError s!"Oracle returned an invalid public key: {reason}")

end Signing

/-- An attempt has come so far: these phases and signatures, and whatever keys. -/
structure Progress.At (oracle : Oracle σ) (origin : σ) (signal : CancelSignal) (count : Nat) (session : Session)
    (signatures : List Exchange) (progress : Progress σ) : Prop where
  reached : oracle.Reaches origin count progress.oracle
  signal : progress.signal = signal
  truthful : progress.cache.Truthful oracle origin
  session : progress.session = session
  signatures : progress.exchanges.filter Exchange.isSignature = signatures

namespace Progress.At

open Signing

variable {count : Nat} {session : Session} {signatures : List Exchange} {before : Progress σ}

theorem entered (progress : before.At oracle origin signal count session signatures) (phase : Phase) :
    { before with session := before.session.enter phase : Progress σ }.At oracle origin signal count
      (session.enter phase) signatures :=
  ⟨progress.reached, progress.signal, progress.truthful, congrArg (·.enter phase) progress.session, progress.signatures⟩

theorem cached (progress : before.At oracle origin signal count session signatures) {cache : KeyCache}
    (truthful : cache.Truthful oracle origin) :
    { before with cache := cache : Progress σ }.At oracle origin signal count session signatures :=
  ⟨progress.reached, progress.signal, truthful, progress.session, progress.signatures⟩

theorem asked_publicKey (quiet : oracle.Quiet origin signal)
    (progress : before.At oracle origin signal count session signatures) (path : KeyPath) :
    (before.asked (.publicKey path (oracle.publicKey path before.oracle).1) (oracle.publicKey path before.oracle).2).At
      oracle origin signal count session signatures where
  reached := .publicKey path progress.reached
  signal := by
    rw [Progress.asked, progress.signal]
    exact quiet.publicKey progress.reached path
  truthful := progress.truthful
  session := progress.session
  signatures := by
    rw [Progress.asked, List.filter_append, progress.signatures]
    exact List.append_nil _

theorem asked_sign (quiet : oracle.Quiet origin signal)
    (progress : before.At oracle origin signal count session signatures) (path : KeyPath) (message : Bytes)
    (algorithm : HashAlgorithm) :
    let (response, memory) := oracle.sign path message algorithm before.oracle
    let call := Exchange.signature path message algorithm response
    (before.asked call memory).At oracle origin signal (count + 1) session (signatures ++ [call]) where
  reached := .sign path message algorithm progress.reached
  signal := by
    rw [Progress.asked, progress.signal]
    exact quiet.sign progress.reached path message algorithm
  truthful := progress.truthful
  session := progress.session
  signatures := by
    rw [Progress.asked, List.filter_append, progress.signatures]
    rfl

/-- Cached or not, a key is looked up with one verdict, and only the cache and the calls for keys tell the difference. -/
theorem publicKey (regular : oracle.Regular origin) (quiet : oracle.Quiet origin signal)
    (progress : before.At oracle origin signal count session signatures) (config : SigningConfig) (path : KeyPath) :
    ∃ after, publicKey oracle config path before =
        Step.leave (keyVerdict config.oracleTimeoutMs.isSome signal (oracle.publicKey path origin).1) after ∧
      after.At oracle origin signal count session signatures := by
  rw [publicKey_eq, keyVerdict]
  cases known : before.cache.find? path with
  | some key =>
    obtain ⟨bytes, answered, compressed⟩ := progress.truthful path key known
    rw [Step.verdict_eq_ok_iff.mpr answered]
    refine ⟨{ before with cache := before.cache.hit }, ?_, ?_⟩
    · simp only [bind, Except.bind, compressed]
      rfl
    · exact progress.cached progress.truthful
  | none =>
    have clear : before.signal.isCancelled = false := progress.signal ▸ quiet.clear
    have asked := progress.asked_publicKey quiet path
    change ∃ after, EStateM.bind (askKey oracle config path) (keepKey path) before = _ ∧ _
    rw [EStateM.bind, askKey, Step.call_started (Exchange.keeps_publicKey path) clear]
    dsimp only
    rw [asked.signal, Step.ends_eq_leave, regular.publicKey progress.reached path]
    rw [regular.publicKey progress.reached path] at asked
    generalize before.asked _ _ = middle at asked ⊢
    cases ended : Step.verdict config.oracleTimeoutMs.isSome signal (oracle.publicKey path origin).1 with
    | error stop => exact ⟨middle, rfl, asked⟩
    | ok bytes =>
      simp only [Step.leave, keepKey, bind, Except.bind]
      cases compressed : PublicKey.compress bytes with
      | error error => exact ⟨middle, rfl, asked⟩
      | ok key =>
        have truthful := asked.truthful.set (Step.verdict_eq_ok_iff.mp ended) compressed
        exact ⟨{ middle with cache := middle.cache.set path key }, rfl, asked.cached truthful⟩

end Progress.At

/-- Two attempts that have come equally far. -/
def Progress.Abreast (oracle : Oracle σ) (origin : σ) (signal : CancelSignal) (one other : Progress σ) : Prop :=
  ∃ count session signatures, one.At oracle origin signal count session signatures ∧
    other.At oracle origin signal count session signatures

theorem Progress.Abreast.entered {one other : Progress σ} (abreast : one.Abreast oracle origin signal other)
    (phase : Phase) : { one with session := one.session.enter phase : Progress σ }.Abreast oracle origin signal
      { other with session := other.session.enter phase } := by
  obtain ⟨count, _, signatures, first, second⟩ := abreast
  exact ⟨count, _, signatures, first.entered phase, second.entered phase⟩

/-- Two attempts that may differ in what is cached. -/
def recalling (oracle : Oracle σ) (origin : σ) (signal : CancelSignal) : Coupling σ σ :=
  .lockstep (Progress.Abreast oracle origin signal) Progress.Abreast.entered

section Recalling

open Signing

variable (regular : oracle.Regular origin) (quiet : oracle.Quiet origin signal) (config : SigningConfig)

include regular quiet

theorem recalling_publicKey (path : KeyPath) : (recalling oracle origin signal).Mirrors (publicKey oracle config path)
    (publicKey oracle config path) where
  together := by
    rintro one other ⟨count, session, signatures, first, second⟩
    obtain ⟨after, ended, left⟩ := first.publicKey regular quiet config path
    obtain ⟨later, alsoEnded, alsoLeft⟩ := second.publicKey regular quiet config path
    rw [ended, alsoEnded]
    have abreast : after.Abreast oracle origin signal later := ⟨count, session, signatures, left, alsoLeft⟩
    exact .leave abreast fun _ => abreast
  apart := fun never => never.elim

theorem recalling_sign (path : KeyPath) (message : Bytes) (algorithm : HashAlgorithm) :
    (recalling oracle origin signal).Mirrors
      (Step.call config (.signature path message algorithm) (oracle.sign path message algorithm))
      (Step.call config (.signature path message algorithm) (oracle.sign path message algorithm)) where
  together := by
    rintro one other ⟨count, session, signatures, first, second⟩
    have keeps := Exchange.keeps_signature path message algorithm
    rw [Step.call_started keeps (first.signal ▸ quiet.clear), Step.call_started keeps (second.signal ▸ quiet.clear)]
    have left := first.asked_sign quiet path message algorithm
    have alsoLeft := second.asked_sign quiet path message algorithm
    have answer := regular.sign second.reached first.reached path message algorithm
    dsimp only at left alsoLeft ⊢
    rw [left.signal, alsoLeft.signal, answer, Step.ends_eq_leave, Step.ends_eq_leave]
    rw [answer] at alsoLeft
    have abreast : Progress.Abreast oracle origin signal _ _ := ⟨_, _, _, left, alsoLeft⟩
    exact .leave abreast fun _ => abreast
  apart := fun never => never.elim

theorem recalling_run (registry : Registry) (request : SigningRequest) : (recalling oracle origin signal).Mirrors
    (run oracle config registry request) (run oracle config registry request) :=
  Coupling.mirrors_run rfl (fun _ path _ => recalling_sign regular quiet config path _ _) registry request
    (fun _ => rfl) fun path => recalling_publicKey regular quiet config path

end Recalling

/-- Two attempts with the same outcome and the same calls for signatures. -/
structure Attempt.SameSignatures (one other : Attempt σ) : Prop where
  result : one.result = other.result
  session : one.session = other.session
  signatures : one.exchanges.filter Exchange.isSignature = other.exchanges.filter Exchange.isSignature

namespace Session

open Signing

theorem finish_sameSignatures {one other : Progress σ} (abreast : one.Abreast oracle origin signal other) :
    (∀ signed, (finish (.ok signed one)).SameSignatures (finish (.ok signed other))) ∧
      ∀ stop, (finish (.error stop one)).SameSignatures (finish (.error stop other)) := by
  obtain ⟨count, session, signatures, first, second⟩ := abreast
  obtain ⟨signs, ends⟩ := finish_congr (first.session.trans second.session.symm)
  have calls := first.signatures.trans second.signatures.symm
  refine ⟨fun signed => ⟨rfl, signs signed, calls⟩, fun stop => ⟨(ends stop).1, (ends stop).2, ?_⟩⟩
  cases stop <;> exact calls

/-- Attempts with different caches, both of them truthful, differ in the calls for keys alone. -/
theorem sameSignatures_of_truthful (regular : oracle.Regular origin) (quiet : oracle.Quiet origin signal)
    {cache other : KeyCache} (truthful : cache.Truthful oracle origin) (alsoTruthful : other.Truthful oracle origin)
    (session : Session) (registry : Registry) (config : SigningConfig) (request : SigningRequest) :
    (session.sign registry config oracle origin request cache signal).SameSignatures
      (session.sign registry config oracle origin request other signal) := by
  by_cases fresh : session.Fresh
  · have start (keys : KeyCache) (given : keys.Truthful oracle origin) :
        (⟨origin, signal, keys, [], session⟩ : Progress σ).At oracle origin signal 0 session [] :=
      ⟨.origin, rfl, given, rfl, rfl⟩
    have together := (recalling_run regular quiet config registry request).together
      ⟨0, _, [], start cache truthful, start other alsoTruthful⟩
    rw [sign_fresh fresh, sign_fresh fresh]
    generalize run oracle config registry request _ = result at together ⊢
    generalize run oracle config registry request _ = twin at together ⊢
    cases together with
    | alike abreast => exact (finish_sameSignatures abreast).1 _
    | stopped abreast => exact (finish_sameSignatures abreast).2 _
    | parted never => exact never.elim
  · rw [sign_used fresh, sign_used fresh]
    exact ⟨rfl, rfl, rfl⟩

/-- The cache is transparent: with keys that the oracle would give, an attempt ends as it would with nothing cached, in
the same phases and after the same calls for signatures. -/
theorem sign_cache_transparent (regular : oracle.Regular origin) (quiet : oracle.Quiet origin signal)
    {cache : KeyCache} (truthful : cache.Truthful oracle origin) (session : Session) (registry : Registry)
    (config : SigningConfig) (request : SigningRequest) :
    (session.sign registry config oracle origin request cache signal).SameSignatures
      (session.sign registry config oracle origin request .empty signal) :=
  sameSignatures_of_truthful regular quiet truthful KeyCache.truthful_empty session registry config request

end Session

end Comparison

namespace Session

namespace Numbered

/-- Gives one key for every path, and puts the number of the call into each signature. -/
def oracle : Oracle Nat where
  publicKey := fun path count => ((Foreign.oracle.publicKey path ()).1, count)
  sign := fun _ _ _ count => (⟨some (.ok (.raw ⟨Octets.ofNat 32 count, .zeros 32⟩)), false⟩, count + 1)

theorem count_of_reaches {count memory : Nat} (reached : oracle.Reaches 0 count memory) : memory = count := by
  induction reached with
  | origin => rfl
  | publicKey path before same => exact same
  | sign path message algorithm before same => exact congrArg (· + 1) same

theorem regular : oracle.Regular 0 where
  publicKey := fun _ _ => rfl
  sign := by
    intro count memory other reached alsoReached path message algorithm
    rw [count_of_reaches reached, count_of_reaches alsoReached]

theorem quiet : oracle.Quiet 0 .armed := ⟨rfl, fun _ _ => rfl, fun _ _ _ _ => rfl⟩

end Numbered

/-- The key that both inputs have is cached, and that of the change is not. -/
theorem sign_cache_transparent_sample : ∃ signed,
    (({} : Session).sign .builtin Sample.config Numbered.oracle 0 Repeated.request .empty .armed).result =
      some (.ok signed) ∧
    (({} : Session).sign .builtin Sample.config Numbered.oracle 0 Repeated.request Sample.cache .armed).result =
      some (.ok signed) := by
  obtain ⟨signed, returned⟩ : ∃ signed, (({} : Session).sign .builtin Sample.config Numbered.oracle 0
      Repeated.request .empty .armed).result = some (.ok signed) := Attempt.signed_of_isOk (by decide +kernel)
  have compressed : PublicKey.compress (0x04 :: bigEndian 32 Secp256k1.generator.x ++
      bigEndian 32 Secp256k1.generator.y) = .ok Sample.key := by decide +kernel
  have truthful : Sample.cache.Truthful Numbered.oracle 0 := KeyCache.truthful_empty.set rfl compressed
  have same := sign_cache_transparent Numbered.regular Numbered.quiet truthful {} .builtin Sample.config
    Repeated.request
  exact ⟨signed, returned, same.result.trans returned⟩

end Session

end CoinSpend
