import CoinSpend.Proofs.Signing.Refusal
import CoinSpend.Proofs.Signing.Soundness

/-! The calls that an attempt makes, whatever the oracle answers and wherever the attempt ends. Each call may ask a
person to confirm something, so none is made twice and none after the first that is of no use. -/
namespace CoinSpend

theorem KeyCache.nodup_missing (cache : KeyCache) (paths : List KeyPath) : (cache.missing paths).Nodup := by
  rw [missing]
  exact nodup_eraseDups _

/-- The calls by which the keys at `looked` were looked up. There is one for each missing path, in the order of the
paths, and all but the last give a key; what was not missing is a hit. Keys are known later that were known before or
were given. -/
structure KeyCalls (looked : List KeyPath) (made : List Exchange) (before after : KeyCache) : Prop where
  asked : List.Forall₂ (fun path call => ∃ response, call = Exchange.publicKey path response)
    (before.missing looked) made
  given : ∀ call ∈ made.dropLast, ∃ path key, Exchange.Gives call path key
  cached : ∀ path key, after.find? path = some key ↔
    before.find? path = some key ∨ ∃ call ∈ made, Exchange.Gives call path key
  hits : after.hits + made.length = before.hits + looked.length

namespace Fetches

variable {paths : List KeyPath} {calls : List Exchange} {before after : KeyCache}

theorem gives (fetches : Fetches paths calls before after) :
    ∀ call ∈ calls, ∃ path key, Exchange.Gives call path key := by
  obtain ⟨served, _, given⟩ := fetches.missing_append []
  intro call member
  obtain ⟨path, _, key, holds⟩ := partner_of_mem given member
  exact ⟨path, key, holds⟩

theorem keyCalls (fetches : Fetches paths calls before after) : KeyCalls paths calls before after where
  asked := by
    obtain ⟨served, split, given⟩ := fetches.missing_append []
    rw [List.append_nil, show after.missing [] = [] from rfl, List.append_nil] at split
    rw [split]
    refine given.imp ?_
    rintro path _ ⟨key, response, _, asked, _⟩
    exact ⟨response, asked⟩
  given := fun call member => fetches.gives call (List.mem_of_mem_dropLast member)
  cached := fetches.learnt_iff
  hits := fetches.hits

/-- One more call, which gives no key, changes nothing. -/
theorem keyCalls_useless (fetches : Fetches paths calls before after) {path : KeyPath}
    {response : Oracle.Response Bytes} (unknown : after.find? path = none)
    (useless : ∀ other key, ¬ (Exchange.publicKey path response).Gives other key) :
    KeyCalls (paths ++ [path]) (calls ++ [.publicKey path response]) before after where
  asked := by
    obtain ⟨served, split, given⟩ := fetches.missing_append [path]
    have last : after.missing [path] = [path] := KeyCache.missing_cons_of_none unknown default
    rw [split, last]
    refine List.rel_append (given.imp ?_) (.cons ⟨response, rfl⟩ .nil)
    rintro path _ ⟨key, response, _, asked, _⟩
    exact ⟨response, asked⟩
  given := by
    rw [List.dropLast_concat]
    exact fetches.gives
  cached := by
    intro other key
    rw [fetches.learnt_iff]
    constructor
    · rintro (known | ⟨call, member, gives⟩)
      · exact .inl known
      · exact .inr ⟨call, List.mem_append_left _ member, gives⟩
    · rintro (known | ⟨call, member, gives⟩)
      · exact .inl known
      · rcases List.mem_append.mp member with early | last
        · exact .inr ⟨call, early, gives⟩
        · cases List.mem_singleton.mp last
          exact absurd gives (useless other key)
  hits := by
    rw [List.length_append, List.length_append, ← Nat.add_assoc, ← Nat.add_assoc, fetches.hits]
    rfl

end Fetches

/-- Where fetching stops, the paths that were looked up end with the one that is missing. -/
theorem FetchStops.keyCalls {paths : List KeyPath} {calls : List Exchange} {before after : KeyCache}
    {signal : CancelSignal} (stops : FetchStops paths calls before after signal) :
    (∃ looked, looked <+: paths ∧ KeyCalls looked calls before after) ∧
      (signal.isCancelled = true ∨ ∃ call ∈ calls, ∀ path key, ¬ Exchange.Gives call path key) := by
  cases stops with
  | cancelled fetches path unknown fired rest =>
    exact ⟨⟨_, List.prefix_append _ _, fetches.keyCalls⟩, .inl fired⟩
  | @unusable served earlier _ _ _ fetches path response unknown useless rest =>
    have none : ∀ other key, ¬ (Exchange.publicKey path response).Gives other key := by
      rintro other key ⟨_, bytes, same, gives⟩
      cases same
      exact useless key ⟨_, bytes, rfl, gives⟩
    have reached : served ++ [path] <+: served ++ path :: rest := ⟨rest, by simp⟩
    exact ⟨⟨_, reached, fetches.keyCalls_useless unknown none⟩,
      .inr ⟨_, List.mem_append_right _ List.mem_cons_self, none⟩⟩

/-- The call asks for the signature of the digest of the input's pre-image, at the input's path, and the spent output pays
to the key if the earlier transaction shows it. -/
structure RequestedInput.AskedFor (requested : RequestedInput) (coin : Coin) (config : SigningConfig) (tx : Transaction)
    (index : Nat) (key : Octets 33) (call : Exchange) (image : Bytes) : Prop where
  call : ∃ algorithm payload response, algorithm = (config.payloadHashingFor coin.name).algorithm ∧
    call = .signature requested.path payload algorithm response ∧ Signing.Digests algorithm image payload
  covers : requested.HasPreimage coin tx index key image
  locked : ∀ raw spent, requested.rawPrevTx = some raw → spentOutput raw requested.vout = .ok spent →
    Script.forKey (hash160 key.bytes) requested.scriptType = .ok spent.script

/-- The call is for the input with the number `index`, whose key is among `keys`. -/
def SigningRequest.AsksAt (request : SigningRequest) (coin : Coin) (config : SigningConfig) (tx : Transaction)
    (keys : KeyCache) (index : Nat) (call : Exchange) (key : Octets 33) (image : Bytes) : Prop :=
  ∃ requested, request.inputs[index]? = some requested ∧ keys.find? requested.path = some key ∧
    requested.AskedFor coin config tx index key call image

/-- The calls for signatures. Each is for the input at its own place, and each but the last gave a signature of it. If
the work is finished, so did the last one, and there is one for every input. It stays unfinished only if it is
cancelled, if the next input spends an output that is shown to pay elsewhere, or if the last call gave no signature of
its input. -/
structure SigningRequest.SignatureCalls (request : SigningRequest) (coin : Coin) (config : SigningConfig)
    (tx : Transaction) (keys : KeyCache) (signal : CancelSignal) (finished : Prop) (made : List Exchange) : Prop where
  each : ∀ (index : Nat) call, made[index]? = some call → ∃ key image,
    request.AsksAt coin config tx keys index call key image ∧
      (index + 1 < made.length ∨ finished → call.Signed config key image)
  whole : finished → made.length = request.inputs.length
  stopped : ¬ finished → signal.isCancelled = true ∨
    (∃ requested, request.inputs[made.length]? = some requested ∧ requested.NotLocked keys) ∨
    ∃ index call key image, index + 1 = made.length ∧ made[index]? = some call ∧
      request.AsksAt coin config tx keys index call key image ∧ ¬ call.Signed config key image

theorem SigningRequest.SignatureCalls.isSignature {request : SigningRequest} {config : SigningConfig} {coin : Coin}
    {tx : Transaction} {keys : KeyCache} {signal : CancelSignal} {finished : Prop} {made : List Exchange}
    (calls : request.SignatureCalls coin config tx keys signal finished made) :
    ∀ call ∈ made, call.isSignature = true := by
  intro call member
  obtain ⟨index, found⟩ := List.mem_iff_getElem?.mp member
  obtain ⟨_, _, ⟨_, _, _, asked⟩, _⟩ := calls.each index call found
  obtain ⟨_, _, _, _, rfl, _⟩ := asked.call
  rfl

/-- No call for a key is one for a signature. -/
theorem KeyCalls.filter_isSignature {looked : List KeyPath} {made : List Exchange} {before after : KeyCache}
    (calls : KeyCalls looked made before after) : made.filter Exchange.isSignature = [] := by
  rw [List.filter_eq_nil_iff]
  intro call member
  obtain ⟨_, _, _, rfl⟩ := partner_of_mem calls.asked member
  exact Bool.false_ne_true

namespace Signing

variable {registry : Registry} {config : SigningConfig} {request : SigningRequest} {before after : KeyCache}
  {work : Work} {signed : List (Signature × TxIn)} {calls : List Exchange}

theorem Asks.askedFor {coin : Coin} {unsigned : Transaction} {index : Nat} {requested : RequestedInput}
    {input : PreparedInput} {key : Octets 33} {call : Exchange} {image : Bytes}
    (prepares : Prepares coin config requested input) (inside : index < unsigned.inputs.length)
    (asks : Asks coin config unsigned index input key call image) :
    requested.AskedFor coin config unsigned index key call image where
  call := by
    obtain ⟨_, algorithm, response, chosen, asked⟩ := asks
    exact ⟨algorithm, _, response, chosen, prepares.path ▸ asked, digests_payload algorithm image⟩
  covers := asks.hasPreimage prepares inside
  locked := by
    intro raw spent given looked
    have spends := prepares.spends
    rw [RequestedInput.Spends, given] at spends
    obtain ⟨other, found, _, script⟩ := spends
    obtain rfl := Except.ok.inj (looked.symm.trans found)
    rw [← prepares.scriptType]
    exact (preimage_ok prepares inside asks.1).2 spent.script script

theorem SignsAll.call_at {coin : Coin} {unsigned : Transaction} {first : Nat} {pairs : List (PreparedInput × Octets 33)}
    (all : SignsAll coin config unsigned first pairs signed calls) {offset : Nat} {call : Exchange}
    (found : calls[offset]? = some call) : ∃ input key one image, pairs[offset]? = some (input, key) ∧
      Signs coin config unsigned (first + offset) input key one call image := by
  have inside : offset < signed.length := by
    rw [all.length_eq.1, ← all.length_eq.2]
    exact (List.getElem?_eq_some_iff.mp found).1
  obtain ⟨input, key, other, image, paired, called, signs⟩ := all.at_index (List.getElem?_eq_getElem inside)
  obtain rfl := Option.some.inj (found.symm.trans called)
  exact ⟨input, key, _, image, paired, signs⟩

theorem Work.Ready.unsigned_becomes (ready : work.Ready registry config request before after) :
    request.Becomes work.coin config after work.unsigned where
  version := ready.accepts.version
  lockTime := ready.accepts.lockTime
  inputs := List.forall₂_map_right_iff.mpr (ready.accepts.inputs.imp fun _ _ prepares =>
    ⟨prepares.txid, prepares.vout, prepares.sequence⟩)
  outputs := ready.outputs_pay

theorem Work.Ready.asksAt (ready : work.Ready registry config request before after) {index : Nat}
    {input : PreparedInput} {key : Octets 33} {call : Exchange} {image : Bytes}
    (paired : work.pairs[index]? = some (input, key))
    (asks : Asks work.coin config work.unsigned index input key call image) :
    request.AsksAt work.coin config work.unsigned after index call key image := by
  obtain ⟨requested, given, prepares, known⟩ := ready.at_index paired
  have inside : index < work.unsigned.inputs.length := by
    rw [ready.length_unsigned]
    exact (List.getElem?_eq_some_iff.mp given).1
  rw [prepares.path] at known
  exact ⟨requested, given, known, asks.askedFor prepares inside⟩

theorem Work.Ready.signatureCalls (ready : work.Ready registry config request before after)
    (all : SignsAll work.coin config work.unsigned 0 work.pairs signed calls) (signal : CancelSignal) {finished : Prop}
    (finishes : finished) :
    request.SignatureCalls work.coin config work.unsigned after signal finished calls where
  each := by
    intro index call found
    obtain ⟨input, key, one, image, paired, signs⟩ := all.call_at found
    rw [Nat.zero_add] at signs
    exact ⟨key, image, ready.asksAt paired signs.asks, fun _ => signs.call_signed⟩
  whole := fun _ => by rw [all.length_eq.2, ready.length_pairs]
  stopped := fun unfinished => absurd finishes unfinished

/-- There are calls for the inputs that are signed, and at most one for the input at which the work ends. -/
theorem Work.Ready.signatureCalls_of_breaks (ready : work.Ready registry config request before after)
    {signal : CancelSignal} {phases : List Phase} {stop : Stop}
    (breaks : BreaksAt work.coin config work.unsigned 0 work.pairs signal phases calls stop) {finished : Prop}
    (unfinished : ¬ finished) :
    request.SignatureCalls work.coin config work.unsigned after signal finished calls := by
  obtain ⟨done, ⟨input, key⟩, signed, broken, earlier, last, reached, all, rfl, rfl, cause⟩ := breaks
  have count := SignsAll.length_take reached all
  rw [Nat.zero_add] at cause
  have answered (index : Nat) (call : Exchange) (found : earlier[index]? = some call) :
      ∃ key image, request.AsksAt work.coin config work.unsigned after index call key image ∧
        call.Signed config key image := by
    obtain ⟨own, other, one, image, paired, signs⟩ := all.call_at found
    rw [List.getElem?_take_of_lt (count ▸ (List.getElem?_eq_some_iff.mp found).1)] at paired
    rw [Nat.zero_add] at signs
    exact ⟨other, image, ready.asksAt paired signs.asks, signs.call_signed⟩
  rcases cause.outcome with ⟨rfl, uncalled⟩ | ⟨final, image, rfl, asks, useless⟩
  · rw [List.append_nil]
    refine ⟨fun index call found => ?_, fun finishes => absurd finishes unfinished, fun _ => ?_⟩
    · obtain ⟨other, image, asked, signs⟩ := answered index call found
      exact ⟨other, image, asked, fun _ => signs⟩
    · rcases uncalled with fired | ⟨expected, script, own, known, different⟩
      · exact .inl fired
      · rw [count]
        exact .inr (.inl (ready.notLocked reached own known different))
  · have length : (earlier ++ [final]).length = done + 1 := by
      rw [List.length_append, count, List.length_singleton]
    have placed : (earlier ++ [final])[done]? = some final := by
      rw [← count]
      exact List.getElem?_concat_length
    have asked := ready.asksAt reached asks
    refine ⟨fun index call found => ?_, fun finishes => absurd finishes unfinished, fun _ => .inr (.inr
      ⟨done, final, key, image, length.symm, placed, asked, useless⟩)⟩
    rcases Nat.lt_or_ge index done with early | late
    · rw [List.getElem?_append_left (count ▸ early)] at found
      obtain ⟨other, image, asked, signs⟩ := answered index call found
      exact ⟨other, image, asked, fun _ => signs⟩
    · have inside := (List.getElem?_eq_some_iff.mp found).1
      obtain rfl : index = done := by omega
      obtain rfl := Option.some.inj (placed.symm.trans found)
      refine ⟨key, image, asked, ?_⟩
      rintro (more | finishes)
      · omega
      · exact absurd finishes unfinished

end Signing

namespace Session

open Signing

/-- The calls of any attempt: none, some for keys, or those for all keys and behind them those for signatures. -/
theorem sign_account {σ : Type} (session : Session) (registry : Registry) (config : SigningConfig) (oracle : Oracle σ)
    (memory : σ) (request : SigningRequest) (cache : KeyCache) (signal : CancelSignal) :
    let attempt := session.sign registry config oracle memory request cache signal
    attempt.exchanges = [] ∨ (∃ looked, KeyCalls looked attempt.exchanges cache attempt.cache) ∨
      ∃ (work : Work) (calls : List Exchange), attempt.exchanges = work.asked ++ calls ∧
        work.Ready registry config request cache attempt.cache ∧
        request.SignatureCalls work.coin config work.unsigned attempt.cache attempt.signal
          (∃ signed, attempt.result = some (.ok signed)) calls := by
  intro attempt
  by_cases fresh : session.Fresh
  case neg =>
    refine .inl ?_
    change (session.sign registry config oracle memory request cache signal).exchanges = []
    rw [sign_used fresh]
  by_cases successful : ∃ signed, attempt.result = some (.ok signed)
  · obtain ⟨signed, returned⟩ := id successful
    obtain ⟨work, inputs, calls, ready, all, exchanges, _⟩ := sign_ok returned
    exact .inr (.inr ⟨work, calls, exchanges, ready, ready.signatureCalls all _ successful⟩)
  · obtain ⟨phases, stop, ends, _⟩ := sign_ends fresh fun signed returned => successful ⟨signed, returned⟩
    change Ends registry config request cache attempt.cache attempt.signal phases attempt.exchanges stop at ends
    generalize attempt.exchanges = made at ends ⊢
    cases ends with
    | refused => exact .inl rfl
    | unserved _ _ stops =>
      obtain ⟨⟨looked, _, calls⟩, _⟩ := stops.keyCalls
      exact .inr (.inl ⟨looked, calls⟩)
    | broken ready breaks =>
      exact .inr (.inr ⟨_, _, rfl, ready, ready.signatureCalls_of_breaks breaks successful⟩)

/-- The calls of an attempt on an accepted request, which the oracle answers one after another. Keys are asked for first,
each path at most once and in order. If a call gives no key or the request is cancelled, nothing is asked behind that;
otherwise every path is looked up, and the calls for signatures follow. -/
theorem sign_calls {σ : Type} (registry : Registry) (config : SigningConfig) (oracle : Oracle σ) (memory : σ)
    (request : SigningRequest) (cache : KeyCache) (signal : CancelSignal) {coin : Coin} {validated : ValidatedRequest}
    (required : registry.require request.coin = .ok coin)
    (accepted : request.validate coin config = .ok validated) :
    let attempt := ({} : Session).sign registry config oracle memory request cache signal
    let signs := ∃ signed, attempt.result = some (.ok signed)
    oracle.Replays memory attempt.exchanges attempt.oracle ∧
    (cache.missing request.paths).Nodup ∧ ∃ looked fetched asked,
      attempt.exchanges = fetched ++ asked ∧
      looked <+: request.paths ∧ cache.missing looked <+: cache.missing request.paths ∧
      KeyCalls looked fetched cache attempt.cache ∧
      (asked = [] ∧ ¬ signs ∧
          (attempt.signal.isCancelled = true ∨ ∃ call ∈ fetched, ∀ path key, ¬ call.Gives path key) ∨
        looked = request.paths ∧ (∀ call ∈ fetched, ∃ path key, call.Gives path key) ∧
          ∃ tx, request.Becomes coin config attempt.cache tx ∧
            request.SignatureCalls coin config tx attempt.cache attempt.signal signs asked) := by
  intro attempt signs
  refine ⟨sign_replays {} registry config oracle memory request cache signal, cache.nodup_missing _, ?_⟩
  by_cases successful : signs
  · obtain ⟨signed, returned⟩ := id successful
    obtain ⟨work, inputs, calls, ready, all, exchanges, _, rfl⟩ := sign_ok returned
    obtain rfl := Except.ok.inj (required.symm.trans ready.coin)
    have fetches := ready.fetches
    rw [ready.accepts.paths_eq] at fetches
    exact ⟨request.paths, work.asked, calls, exchanges, List.prefix_rfl, List.prefix_rfl, fetches.keyCalls,
      .inr ⟨rfl, fetches.gives, work.unsigned, ready.unsigned_becomes, ready.signatureCalls all _ successful⟩⟩
  · have unsigned : ∀ signed, attempt.result ≠ some (.ok signed) :=
      fun signed returned => successful ⟨signed, returned⟩
    obtain ⟨phases, stop, ends, _⟩ := sign_ends fresh_default unsigned
    generalize exchanges : attempt.exchanges = made at ends ⊢
    cases ends with
    | refused _ cause => exact absurd accepted (cause coin validated required)
    | unserved accepts _ stops =>
      rw [accepts.paths_eq] at stops
      obtain ⟨⟨looked, part, calls⟩, useless⟩ := stops.keyCalls
      exact ⟨looked, made, [], (List.append_nil _).symm, part, KeyCache.missing_prefix part, calls,
        .inl ⟨rfl, successful, useless⟩⟩
    | @broken work _ calls _ ready breaks =>
      obtain rfl := Except.ok.inj (required.symm.trans ready.coin)
      have fetches := ready.fetches
      rw [ready.accepts.paths_eq] at fetches
      exact ⟨request.paths, work.asked, calls, rfl, List.prefix_rfl, List.prefix_rfl, fetches.keyCalls,
        .inr ⟨rfl, fetches.gives, work.unsigned, ready.unsigned_becomes,
          ready.signatureCalls_of_breaks breaks successful⟩⟩

namespace Repeated

/-- Two inputs at one path, and change at another one. -/
def request : SigningRequest where
  coin := "Bitcoin"
  inputs := [⟨[0], .p2wpkh, Hex.encode (Octets.zeros 32).bytes, 0, some 1000, none, none⟩,
    ⟨[0], .p2wpkh, Hex.encode (Octets.zeros 32).bytes, 1, some 1000, none, none⟩]
  outputs := [.change [1] .p2wpkh 500]
  version := none
  lockTime := none
  countable := ⟨by decide, by decide⟩

/-- Gives one key for every path and one signature for everything, and counts its calls. -/
def oracle : Oracle Nat where
  publicKey := fun path count => ((Foreign.oracle.publicKey path ()).1, count + 1)
  sign := fun path message algorithm count => ((Sample.oracle.sign path message algorithm ()).1, count + 1)

theorem signs : ∃ signed,
    (({} : Session).sign .builtin Sample.config oracle 0 request .empty .armed).result = some (.ok signed) :=
  Attempt.signed_of_isOk (by decide +kernel)

end Repeated

/-- The path that both inputs have is asked for once, behind that of the change, and each input is signed. -/
theorem sign_calls_sample : ∃ asked,
    let change := Repeated.oracle.publicKey [1] 0
    let spent := Repeated.oracle.publicKey [0] change.2
    (({} : Session).sign .builtin Sample.config Repeated.oracle 0 Repeated.request .empty .armed).exchanges =
      [.publicKey [1] change.1, .publicKey [0] spent.1] ++ asked ∧ asked.length = 2 := by
  obtain ⟨signed, returned⟩ := Repeated.signs
  obtain ⟨work, _, _, ready, _⟩ := sign_ok returned
  obtain ⟨replays, _, looked, fetched, asked, exchanges, _, _, calls, stage⟩ := sign_calls .builtin Sample.config
    Repeated.oracle 0 Repeated.request .empty .armed ready.coin (SigningRequest.validate_iff.mpr ready.accepts)
  obtain ⟨_, unsigned, _⟩ | ⟨rfl, _, _, _, signatures⟩ := stage
  · exact absurd ⟨signed, returned⟩ unsigned
  have paths : KeyCache.empty.missing Repeated.request.paths = [[1], [0]] := by decide
  have asks := calls.asked
  rw [paths] at asks
  obtain ⟨_, _, ⟨change, rfl⟩, later, rfl⟩ := List.forall₂_cons_left_iff.mp asks
  obtain ⟨_, _, ⟨spent, rfl⟩, none, rfl⟩ := List.forall₂_cons_left_iff.mp later
  cases none
  rw [exchanges] at replays
  obtain _ | ⟨first, rest⟩ := replays
  obtain _ | ⟨second, _⟩ := rest
  obtain ⟨rfl, rfl⟩ := Prod.mk.inj first
  obtain ⟨rfl, rfl⟩ := Prod.mk.inj second
  exact ⟨asked, exchanges, signatures.whole ⟨signed, returned⟩⟩

end Session

end CoinSpend
