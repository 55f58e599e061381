import Mathlib.Data.List.Forall2
import CoinSpend.Proofs.Key.PublicKeys
import CoinSpend.Proofs.Script.Instructions
import CoinSpend.Proofs.Signing.Steps

/-! Keys of change outputs and inputs come from the cache or from the oracle. Fetching asks for missing keys only,
keeps what was cached, and caches nothing but the compressed form of an answer. -/
namespace CoinSpend

namespace KeyCache

theorem lookup_without {path other : KeyPath} (different : other ≠ path)
    (entries : List (KeyPath × Octets 33)) : (without path entries).lookup other = entries.lookup other := by
  induction entries with
  | nil => rfl
  | cons entry entries ih =>
    obtain ⟨key, value⟩ := entry
    unfold without at ih ⊢
    by_cases same : key = path
    · have missed : (other == key) = false := beq_eq_false_iff_ne.mpr (same ▸ different)
      rw [List.filter_cons_of_neg (by simpa using same), List.lookup_cons, missed]
      exact ih
    · rw [List.filter_cons_of_pos (by simpa using same), List.lookup_cons, List.lookup_cons, ih]

theorem find?_set (cache : KeyCache) (path other : KeyPath) (key : Octets 33) :
    (cache.set path key).find? other = if other = path then some key else cache.find? other := by
  unfold find? set
  by_cases same : other = path
  · rw [if_pos same, same, List.lookup_cons, beq_self_eq_true]
  · rw [if_neg same, List.lookup_cons, beq_eq_false_iff_ne.mpr same]
    exact lookup_without same cache.entries

/-- A look-up that finds a key is only counted. -/
def hit (cache : KeyCache) : KeyCache := { cache with hits := cache.hits + 1 }

/-- The paths without a key, each at its first place. -/
def missing (cache : KeyCache) (paths : List KeyPath) : List KeyPath :=
  (paths.filter fun path => (cache.find? path).isNone).eraseDups

section Missing

variable {cache : KeyCache} {path : KeyPath} {paths : List KeyPath}

theorem missing_cons_of_some {key : Octets 33} (known : cache.find? path = some key) :
    cache.missing (path :: paths) = cache.missing paths := by
  rw [missing, missing, List.filter_cons_of_neg]
  rw [known]
  exact Bool.false_ne_true

/-- Once the first missing key is cached, the others are still missing. -/
theorem missing_cons_of_none (unknown : cache.find? path = none) (key : Octets 33) :
    cache.missing (path :: paths) = path :: (cache.set path key).missing paths := by
  have others : (paths.filter fun other => (cache.find? other).isNone).filter (fun other => !other == path) =
      paths.filter fun other => ((cache.set path key).find? other).isNone := by
    rw [List.filter_filter]
    congr 1
    funext other
    rw [find?_set]
    by_cases same : other = path
    · rw [if_pos same, same, beq_self_eq_true]
      rfl
    · rw [if_neg same, beq_eq_false_iff_ne.mpr same, Bool.not_false, Bool.true_and]
  rw [missing, List.filter_cons_of_pos (by rw [unknown]; rfl), List.eraseDups_cons, others, missing]

theorem missing_prefix {some : List KeyPath} (part : some <+: paths) : cache.missing some <+: cache.missing paths := by
  obtain ⟨rest, rfl⟩ := part
  rw [missing, missing, List.filter_append, List.eraseDups_append]
  exact List.prefix_append _ _

end Missing

/-- Each key is the compressed form of a point. -/
def Valid (cache : KeyCache) : Prop :=
  ∀ path key, cache.find? path = some key → ∃ point, PublicKey.parse? key.bytes = some point

end KeyCache

/-- The exchange is the oracle's answer that a key stems from. -/
def Exchange.Gives (exchange : Exchange) (path : KeyPath) (key : Octets 33) : Prop :=
  ∃ response bytes, exchange = .publicKey path response ∧ response.answer = some (.ok bytes) ∧
    PublicKey.compress bytes = .ok key

theorem Exchange.Gives.unique {exchange : Exchange} {path other : KeyPath} {key another : Octets 33}
    (gives : exchange.Gives path key) (again : exchange.Gives other another) : path = other ∧ key = another := by
  obtain ⟨response, bytes, rfl, answered, made⟩ := gives
  obtain ⟨_, _, same, reanswered, remade⟩ := again
  cases same
  cases answered.symm.trans reanswered
  cases made.symm.trans remade
  exact ⟨rfl, rfl⟩

/-- How a cache changes when the keys at `paths` are looked up in turn, and those that are missing are fetched. -/
inductive Fetches : List KeyPath → List Exchange → KeyCache → KeyCache → Prop where
  | done {cache : KeyCache} : Fetches [] [] cache cache
  | hit {path : KeyPath} {paths : List KeyPath} {calls : List Exchange} {before after : KeyCache} {key : Octets 33}
      (known : before.find? path = some key) (later : Fetches paths calls before.hit after) :
      Fetches (path :: paths) calls before after
  | fetch {path : KeyPath} {paths : List KeyPath} {call : Exchange} {calls : List Exchange}
      {before after : KeyCache} {key : Octets 33} (unknown : before.find? path = none) (gives : call.Gives path key)
      (later : Fetches paths calls (before.set path key) after) :
      Fetches (path :: paths) (call :: calls) before after

namespace Fetches

variable {paths others : List KeyPath} {calls more : List Exchange} {before middle after : KeyCache}

theorem trans (first : Fetches paths calls before middle) (second : Fetches others more middle after) :
    Fetches (paths ++ others) (calls ++ more) before after := by
  induction first with
  | done => exact second
  | hit known _ ih => exact .hit known (ih second)
  | fetch unknown gives _ ih => exact .fetch unknown gives (ih second)

/-- A key is cached only where there was none. -/
theorem kept (fetches : Fetches paths calls before after) : ∀ path key,
    before.find? path = some key → after.find? path = some key := by
  induction fetches with
  | done => exact fun _ _ found => found
  | hit _ _ ih => exact ih
  | @fetch path paths call calls before after key unknown _ _ ih =>
    intro other found known
    refine ih other found ?_
    rw [KeyCache.find?_set, if_neg ?_]
    · exact known
    · rintro rfl
      cases unknown.symm.trans known

/-- Every call is for a path that was missing. -/
theorem asked (fetches : Fetches paths calls before after) : ∀ call ∈ calls, ∃ path ∈ paths,
    before.find? path = none ∧ ∃ response, call = .publicKey path response := by
  induction fetches with
  | done => exact fun _ member => absurd member List.not_mem_nil
  | hit _ _ ih =>
    intro call member
    obtain ⟨path, wanted, unknown, asks⟩ := ih call member
    exact ⟨path, List.mem_cons_of_mem _ wanted, unknown, asks⟩
  | @fetch path paths call calls before after key unknown gives _ ih =>
    intro next member
    rcases List.mem_cons.mp member with rfl | later
    · obtain ⟨response, _, rfl, _⟩ := gives
      exact ⟨path, List.mem_cons_self, unknown, response, rfl⟩
    · obtain ⟨other, wanted, still, asks⟩ := ih next later
      refine ⟨other, List.mem_cons_of_mem _ wanted, ?_, asks⟩
      rw [KeyCache.find?_set] at still
      split at still
      · cases still
      · exact still

theorem learnt_iff (fetches : Fetches paths calls before after) (path : KeyPath) (key : Octets 33) :
    after.find? path = some key ↔ before.find? path = some key ∨ ∃ call ∈ calls, call.Gives path key := by
  induction fetches with
  | done => simp
  | hit _ _ ih => exact ih
  | @fetch own paths call calls before after made unknown gives later ih =>
    rw [ih, KeyCache.find?_set]
    constructor
    · rintro (stored | ⟨next, member, given⟩)
      · split at stored
        · rename_i same
          cases stored
          exact .inr ⟨call, List.mem_cons_self, same ▸ gives⟩
        · exact .inl stored
      · exact .inr ⟨next, List.mem_cons_of_mem _ member, given⟩
    · rintro (known | ⟨next, member, given⟩)
      · left
        rw [if_neg]
        · exact known
        · rintro rfl
          cases unknown.symm.trans known
      · rcases List.mem_cons.mp member with rfl | further
        · obtain ⟨rfl, rfl⟩ := gives.unique given
          exact .inl (if_pos rfl)
        · exact .inr ⟨next, further, given⟩

theorem learnt (fetches : Fetches paths calls before after) : ∀ path key, after.find? path = some key →
    before.find? path = some key ∨ ∃ call ∈ calls, call.Gives path key :=
  fun path key => (fetches.learnt_iff path key).mp

/-- The calls are for the missing paths in their order, and leave missing what comes later. -/
theorem missing_append (fetches : Fetches paths calls before after) (more : List KeyPath) :
    ∃ served, before.missing (paths ++ more) = served ++ after.missing more ∧
      List.Forall₂ (fun path call => ∃ key, Exchange.Gives call path key) served calls := by
  induction fetches with
  | done => exact ⟨[], rfl, .nil⟩
  | hit known _ ih =>
    obtain ⟨served, split, given⟩ := ih
    refine ⟨served, ?_, given⟩
    rw [List.cons_append, KeyCache.missing_cons_of_some known]
    exact split
  | @fetch path paths call calls before after key unknown gives _ ih =>
    obtain ⟨served, split, given⟩ := ih
    refine ⟨path :: served, ?_, .cons ⟨key, gives⟩ given⟩
    rw [List.cons_append, KeyCache.missing_cons_of_none unknown key, split, List.cons_append]

/-- Every look-up is counted or makes a call. -/
theorem hits (fetches : Fetches paths calls before after) :
    after.hits + calls.length = before.hits + paths.length := by
  induction fetches with
  | done => rfl
  | @hit path paths calls before after _ _ _ ih =>
    have counted : before.hit.hits = before.hits + 1 := rfl
    rw [List.length_cons, ih, counted]
    omega
  | @fetch path paths call calls before after key _ _ _ ih =>
    have same : (before.set path key).hits = before.hits := rfl
    rw [List.length_cons, List.length_cons, ← Nat.add_assoc, ih, same, Nat.add_assoc]

/-- An answer is compressed before it is kept, and what was compressed is a key. -/
theorem valid (fetches : Fetches paths calls before after) (ready : before.Valid) : after.Valid := by
  intro path key found
  rcases fetches.learnt path key found with known | ⟨call, _, _, _, _, _, made⟩
  · exact ready path key known
  · exact PublicKey.parse?_of_compress made

/-- Nothing is asked just when every key is known. -/
theorem calls_eq_nil_iff (fetches : Fetches paths calls before after)
    (served : ∀ path ∈ paths, ∃ key, after.find? path = some key) :
    calls = [] ↔ ∀ path ∈ paths, ∃ key, before.find? path = some key := by
  constructor
  · rintro rfl path wanted
    obtain ⟨key, found⟩ := served path wanted
    rcases fetches.learnt path key found with known | ⟨call, member, _⟩
    · exact ⟨key, known⟩
    · cases member
  · intro known
    apply List.eq_nil_iff_forall_not_mem.mpr
    intro call member
    obtain ⟨path, wanted, missing, _⟩ := fetches.asked call member
    obtain ⟨key, found⟩ := known path wanted
    cases found.symm.trans missing

end Fetches

/-- How fetching the keys at `paths` stops at one that is missing: the request was cancelled before the call for it, or
the call gives no key. -/
inductive FetchStops : List KeyPath → List Exchange → KeyCache → KeyCache → CancelSignal → Prop where
  | cancelled {served : List KeyPath} {calls : List Exchange} {before after : KeyCache} {signal : CancelSignal}
      (fetches : Fetches served calls before after) (path : KeyPath) (unknown : after.find? path = none)
      (fired : signal.isCancelled = true) (rest : List KeyPath) :
      FetchStops (served ++ path :: rest) calls before after signal
  | unusable {served : List KeyPath} {calls : List Exchange} {before after : KeyCache} {signal : CancelSignal}
      (fetches : Fetches served calls before after) {path : KeyPath} {response : Oracle.Response Bytes}
      (unknown : after.find? path = none) (useless : ∀ key, ¬ (Exchange.publicKey path response).Gives path key)
      (rest : List KeyPath) :
      FetchStops (served ++ path :: rest) (calls ++ [.publicKey path response]) before after signal

namespace FetchStops

variable {paths others : List KeyPath} {calls more : List Exchange} {before middle after : KeyCache}
  {signal : CancelSignal}

theorem extend (stops : FetchStops paths calls before after signal) (others : List KeyPath) :
    FetchStops (paths ++ others) calls before after signal := by
  cases stops with
  | cancelled fetches path unknown fired rest =>
    rw [List.append_assoc, List.cons_append]
    exact .cancelled fetches path unknown fired (rest ++ others)
  | unusable fetches unknown useless rest =>
    rw [List.append_assoc, List.cons_append]
    exact .unusable fetches unknown useless (rest ++ others)

theorem behind (first : Fetches paths calls before middle) (later : FetchStops others more middle after signal) :
    FetchStops (paths ++ others) (calls ++ more) before after signal := by
  cases later with
  | cancelled fetches path unknown fired rest =>
    rw [← List.append_assoc]
    exact .cancelled (first.trans fetches) path unknown fired rest
  | unusable fetches unknown useless rest =>
    rw [← List.append_assoc, ← List.append_assoc]
    exact .unusable (first.trans fetches) unknown useless rest

end FetchStops

/-- The step fetches the keys at `paths`, and its value agrees with the keys that are known in the end. -/
def Fetching {σ α : Type} (step : Step σ α) (paths : List KeyPath) (agrees : KeyCache → α → Prop) : Prop :=
  ∀ before, step.Meets before
    (fun value after => agrees after.cache value ∧
      ∃ calls, before.Records after [] calls ∧ Fetches paths calls before.cache after.cache)
    (fun stop after => stop.Unserved ∧ ∃ calls, before.Records after [] calls ∧
      FetchStops paths calls before.cache after.cache after.signal)

/-- The output has the planned amount and script, the script of change being that of the key at its path. -/
def PlannedOutput.Resolves (planned : PlannedOutput) (cache : KeyCache) (output : TxOut) : Prop :=
  output.value = planned.amount ∧
    match planned.script with
    | .fixed script => output.script = script
    | .change path scriptType => ∃ key, cache.find? path = some key ∧
        Script.forKey (hash160 key.bytes) scriptType = .ok output.script

/-- The path of a change output. -/
def PlannedOutput.paths (planned : PlannedOutput) : List KeyPath :=
  match planned.script with
  | .fixed _ => []
  | .change path _ => [path]

theorem PlannedOutput.resolves_of_kept {planned : PlannedOutput} {output : TxOut} {before after : KeyCache}
    (kept : ∀ path key, before.find? path = some key → after.find? path = some key)
    (resolves : planned.Resolves before output) : planned.Resolves after output := by
  obtain ⟨amount, script⟩ := resolves
  refine ⟨amount, ?_⟩
  cases planned with
  | mk amount planned =>
    cases planned with
    | fixed fixed => exact script
    | change path scriptType =>
      obtain ⟨key, found, made⟩ := script
      exact ⟨key, kept path key found, made⟩

namespace Fetching

variable {σ α β : Type}

/-- What agrees with a key goes on doing so, since keys are kept. -/
theorem mapM {each : α → Step σ β} {items : List α} {paths : α → List KeyPath}
    {agrees : KeyCache → α → β → Prop}
    (stays : ∀ item value before after, (∀ path key, before.find? path = some key →
      after.find? path = some key) → agrees before item value → agrees after item value)
    (one : ∀ item ∈ items, Fetching (each item) (paths item) fun cache => agrees cache item) :
    Fetching (items.mapM each) (items.flatMap paths) fun cache => List.Forall₂ (agrees cache) items := by
  induction items with
  | nil => exact fun before => .pure ⟨.nil, [], .refl before, .done⟩
  | cons item items ih =>
    intro before
    have later := ih fun next member => one next (List.mem_cons_of_mem _ member)
    rw [List.mapM_cons]
    refine .bind (one item List.mem_cons_self before) (fun stop after ended => ?_) fun value middle first => ?_
    · obtain ⟨unserved, calls, recorded, stops⟩ := ended
      exact ⟨unserved, calls, recorded, stops.extend _⟩
    obtain ⟨agreed, calls, recorded, fetched⟩ := first
    refine .bind (later middle) (fun stop after ended => ?_) fun values after rest => ?_
    · obtain ⟨unserved, more, next, stops⟩ := ended
      exact ⟨unserved, calls ++ more, recorded.trans next, .behind fetched stops⟩
    · obtain ⟨others, more, next, fetchedMore⟩ := rest
      exact .pure ⟨.cons (stays _ _ _ _ fetchedMore.kept agreed) others, calls ++ more, recorded.trans next,
        fetched.trans fetchedMore⟩

end Fetching

namespace Signing

variable {σ : Type} (oracle : Oracle σ) (config : SigningConfig)

theorem fetching_publicKey (path : KeyPath) :
    Fetching (publicKey oracle config path) [path] fun cache key => cache.find? path = some key := by
  intro before
  unfold publicKey
  refine .get ?_
  cases known : before.cache.find? path with
  | some key =>
    have recorded := Progress.Records.refl before
    simp only [KeyCache.get, known]
    exact .modify (.pure ⟨known, [], ⟨recorded.session, recorded.exchanges⟩, .hit known .done⟩)
  | none =>
    simp only [KeyCache.get, known]
    refine .bind (Step.call_meets config _ _ before) (fun stop after ended => ?_) fun bytes middle answered => ?_
    · obtain ⟨unserved, same, calls, recorded, unanswered⟩ := ended
      refine ⟨unserved, calls, recorded, ?_⟩
      have unknown : after.cache.find? path = none := by rw [same, known]
      have start : Fetches [] [] before.cache after.cache := same ▸ .done
      rcases unanswered with ⟨rfl, fired⟩ | ⟨response, rfl, silent⟩
      · exact .cancelled start path unknown fired []
      · refine .unusable start unknown ?_ []
        rintro key ⟨_, bytes, asked, answer, _⟩
        cases asked
        exact silent bytes answer
    obtain ⟨same, response, answer, recorded⟩ := answered
    cases made : PublicKey.compress bytes with
    | ok key =>
      have stored : (middle.cache.set path key).find? path = some key := by
        rw [KeyCache.find?_set, if_pos rfl]
      have fetches : Fetches [path] [.publicKey path response] before.cache (middle.cache.set path key) := by
        rw [same]
        exact .fetch known ⟨response, bytes, rfl, answer, made⟩ .done
      exact .modify (.pure ⟨stored, _, ⟨recorded.session, recorded.exchanges⟩, fetches⟩)
    | error error =>
      have start : Fetches [] [] before.cache middle.cache := same ▸ .done
      refine .throw ⟨rfl, _, recorded, .unusable start (same ▸ known) ?_ []⟩
      rintro key ⟨_, other, asked, again, compressed⟩
      cases asked
      cases answer.symm.trans again
      cases made.symm.trans compressed

theorem fetching_resolveOutput {planned : PlannedOutput}
    (single : ∀ path scriptType, planned.script = .change path scriptType → scriptType.isMultisig = false) :
    Fetching (resolveOutput oracle config planned) planned.paths fun cache => planned.Resolves cache := by
  intro before
  unfold resolveOutput PlannedOutput.paths PlannedOutput.Resolves
  cases planned with
  | mk amount script =>
    cases script with
    | fixed script => exact .pure ⟨⟨rfl, rfl⟩, [], .refl before, .done⟩
    | change path scriptType =>
      refine .bind (fetching_publicKey oracle config path before) (fun _ _ ended => ended)
        fun key after fetched => ?_
      obtain ⟨found, calls, recorded, fetches⟩ := fetched
      obtain ⟨script, made⟩ := Script.forKey_of_singleKey (hash160 key.bytes) (single path scriptType rfl)
      refine .ofExcept (fun script same => ?_) fun failure failed => ?_
      · exact .pure ⟨⟨rfl, key, found, same⟩, calls, recorded, fetches⟩
      · cases made.symm.trans failed

end Signing

end CoinSpend
