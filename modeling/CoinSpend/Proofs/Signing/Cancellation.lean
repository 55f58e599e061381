import CoinSpend.Proofs.Signing.Calls
import CoinSpend.Proofs.Signing.Coupling
import CoinSpend.Proofs.Signing.Polling

/-! Cancelling a request. An attempt is compared with a calm one, in which the same oracle is asked and nothing cancels:
it goes the same way, until it is cancelled while a call is pending or is to make a call once it is cancelled. The signal
is looked at for calls only, so a cancellation between two calls is like one during the first of them. -/
namespace CoinSpend

namespace Oracle

def Response.calm {α : Type} (response : Response α) : Response α := { response with cancels := false }

/-- The oracle without anything that cancels while it is asked. -/
def calm {σ : Type} (oracle : Oracle σ) : Oracle σ where
  publicKey := fun path memory => ((oracle.publicKey path memory).1.calm, (oracle.publicKey path memory).2)
  sign := fun path payload algorithm memory =>
    ((oracle.sign path payload algorithm memory).1.calm, (oracle.sign path payload algorithm memory).2)

end Oracle

def Exchange.calm : Exchange → Exchange
  | publicKey path response => publicKey path response.calm
  | signature path payload algorithm response => signature path payload algorithm response.calm

/-- The stop is the one that the call leads to, if it gave no value. -/
def Exchange.Explains (call : Exchange) (signal : CancelSignal) (stop : Stop) : Prop :=
  match call.reply with
  | some (.ok _) => True
  | some (.error error) => stop = .failed error.toFailure
  | none => signal.isCancelled = true → stop = .failed Oracle.Error.cancelled.toFailure

theorem Exchange.explains_of_served {call : Exchange} (served : call.reply = some (.ok ())) (signal : CancelSignal)
    (stop : Stop) : call.Explains signal stop := by
  rw [Explains, served]
  trivial

/-- The signal behind a list of calls. -/
def CancelSignal.after (signal : CancelSignal) (calls : List Exchange) : CancelSignal :=
  calls.foldl (fun signal call => signal.heed call.cancels) signal

theorem CancelSignal.after_concat (signal : CancelSignal) (calls : List Exchange) (call : Exchange) :
    signal.after (calls ++ [call]) = (signal.after calls).heed call.cancels := by
  rw [after, List.foldl_append]
  rfl

variable {σ : Type}

namespace Progress

/-- What holds at every moment of an attempt: each call was started before the request was cancelled, and without calls
no key is learnt. -/
structure Heeds (start : CancelSignal) (cache : KeyCache) (progress : Progress σ) : Prop where
  signal : progress.signal = start.after progress.exchanges
  started : ∀ earlier call later, progress.exchanges = earlier ++ call :: later →
    (start.after earlier).isCancelled = false
  untouched : progress.exchanges = [] → progress.cache.entries = cache.entries

/-- The second state is that of the calm attempt at the same moment. -/
structure CalmAs (one other : Progress σ) : Prop where
  oracle : other.oracle = one.oracle
  signal : other.signal = .never
  cache : other.cache = one.cache
  session : other.session = one.session
  exchanges : other.exchanges = one.exchanges.map Exchange.calm

theorem Heeds.asked {start : CancelSignal} {cache : KeyCache} {before : Progress σ} (heeds : before.Heeds start cache)
    (clear : before.signal.isCancelled = false) (call : Exchange) (memory : σ) :
    (before.asked call memory).Heeds start cache where
  signal := by
    rw [Progress.asked, CancelSignal.after_concat, ← heeds.signal]
  started := by
    intro earlier next later split
    rcases List.eq_nil_or_concat later with rfl | ⟨others, last, rfl⟩
    · obtain ⟨rfl, _⟩ := List.append_inj' split rfl
      rw [← heeds.signal, clear]
    · rw [List.concat_eq_append, ← List.cons_append, ← List.append_assoc] at split
      exact heeds.started _ _ _ (List.append_inj' split rfl).1
  untouched := fun none => absurd none (List.append_ne_nil_of_right_ne_nil _ (List.cons_ne_nil _ _))

/-- Nothing is asked if the request is cancelled from the start. -/
theorem Heeds.unasked {start : CancelSignal} {cache : KeyCache} {progress : Progress σ}
    (heeds : progress.Heeds start cache) (fired : start = .fired) : progress.exchanges = [] := by
  cases made : progress.exchanges with
  | nil => rfl
  | cons call later =>
    have clear := heeds.started [] call later made
    rw [fired] at clear
    cases clear

theorem CalmAs.asked {one other : Progress σ} (same : one.CalmAs other) (call : Exchange) (memory : σ) :
    (one.asked call memory).CalmAs (other.asked call.calm memory) where
  oracle := rfl
  signal := by
    have unheeded : call.calm.cancels = false := by cases call <;> rfl
    rw [Progress.asked, unheeded, CancelSignal.heed_false, same.signal]
  cache := same.cache
  session := same.session
  exchanges := by
    rw [Progress.asked, Progress.asked, List.map_append, same.exchanges]
    rfl

end Progress

/-- How an attempt that was cancelled stands to the calm one: it made no other calls and entered no other phases, and it
was to make another call or is left with one that gave no answer. -/
structure Progress.CutOff (one other : Progress σ) : Prop where
  signal : one.signal.isCancelled = true
  history : one.session.history <+: other.session.history
  exchanges : one.exchanges.map Exchange.calm <+: other.exchanges
  last : (∃ call, one.exchanges.getLast? = some call ∧ call.reply = none) ∨
    one.exchanges.length < other.exchanges.length

/-- An attempt and the calm one. -/
def calming (start : CancelSignal) (cache : KeyCache) : Coupling σ σ where
  alike one other := one.Heeds start cache ∧ one.CalmAs other ∧ ∀ call ∈ one.exchanges, call.reply = some (.ok ())
  stopped stop one other := one.Heeds start cache ∧ one.CalmAs other ∧
    (∀ call ∈ one.exchanges, call.Explains one.signal stop) ∧ (stop = .stalled → one.exchanges ≠ [])
  parted stop one other := one.Heeds start cache ∧ one.CutOff other ∧
    (∀ call ∈ one.exchanges, call.Explains one.signal stop) ∧ stop = .failed Oracle.Error.cancelled.toFailure
  fails := by
    rintro one other ⟨heeds, calm, served⟩ cause
    refine ⟨heeds, calm, fun call member => ?_, fun stalled => ?_⟩
    · exact Exchange.explains_of_served (served call member) _ _
    · cases stalled
  enters := by
    rintro one other ⟨heeds, calm, served⟩ phase
    refine ⟨⟨heeds.signal, heeds.started, heeds.untouched⟩, ⟨calm.oracle, calm.signal, calm.cache, ?_, calm.exchanges⟩,
      served⟩
    rw [calm.session]
  alone := by
    rintro stop one other later ⟨heeds, cut, explained, cancelled⟩ history exchanges
    refine ⟨heeds, ⟨cut.signal, cut.history.trans history, cut.exchanges.trans exchanges, ?_⟩, explained, cancelled⟩
    exact cut.last.imp_right fun fewer => Nat.lt_of_lt_of_le fewer exchanges.length_le

section Calming

variable {start : CancelSignal} {cache : KeyCache} {config : SigningConfig}

theorem calming_sharesKeys : (calming start cache : Coupling σ σ).SharesKeys where
  same := fun ⟨_, calm, _⟩ => calm.cache
  hit := by
    rintro one other ⟨heeds, calm, served⟩
    refine ⟨⟨heeds.signal, heeds.started, heeds.untouched⟩,
      ⟨calm.oracle, calm.signal, ?_, calm.session, calm.exchanges⟩, served⟩
    rw [calm.cache]
  store := by
    rintro one other call path key ⟨heeds, calm, served⟩ made _
    refine ⟨⟨heeds.signal, heeds.started, fun none => ?_⟩,
      ⟨calm.oracle, calm.signal, ?_, calm.session, calm.exchanges⟩, served⟩
    · exact absurd (none ▸ made) List.not_mem_nil
    · rw [calm.cache]

section Call

variable {α : Type} {exchange : Oracle.Response α → Exchange} {one other : Progress σ} {response : Oracle.Response α}
  (both : (calming start cache).alike one other)

include both

/-- The calm attempt goes on to a call. -/
theorem calming_refused (cancelled : one.signal.isCancelled = true) (call : Exchange) (memory : σ) :
    (calming start cache).parted (.failed Oracle.Error.cancelled.toFailure) one (other.asked call memory) := by
  obtain ⟨heeds, calm, served⟩ := both
  refine ⟨heeds, ⟨cancelled, ?_, ?_, .inr ?_⟩, fun call member => ?_, rfl⟩
  · rw [Progress.asked, calm.session]
  · rw [Progress.asked, ← calm.exchanges]
    exact List.prefix_append _ _
  · rw [Progress.asked, calm.exchanges, List.length_append, List.length_map]
    exact Nat.lt_succ_self _
  · exact Exchange.explains_of_served (served call member) _ _

variable (keeps : Exchange.Keeps exchange) (calms : (exchange response).calm = exchange response.calm)
  (clear : one.signal.isCancelled = false)

include keeps calms clear

/-- An answer counts in both attempts. -/
theorem calming_answered {answer : Except Oracle.Error α} (answered : response.answer = some answer) (memory : σ) :
    (calming start cache).Together (Step.ends (some answer) (one.asked (exchange response) memory))
      (Step.ends (some answer) (other.asked (exchange response.calm) memory)) := by
  obtain ⟨heeds, calm, served⟩ := both
  have heeded := heeds.asked clear (exchange response) memory
  have same := calm.asked (exchange response) memory
  have replied := keeps.reply response
  rw [calms] at same
  rw [answered] at replied
  cases answer with
  | ok value =>
    exact .alike ⟨heeded, same, List.forall_mem_append.mpr ⟨served, List.forall_mem_singleton.mpr replied⟩⟩
  | error error =>
    refine .stopped ⟨heeded, same, List.forall_mem_append.mpr ⟨fun call member => ?_, ?_⟩, fun stalled => ?_⟩
    · exact Exchange.explains_of_served (served call member) _ _
    · rw [List.forall_mem_singleton, Exchange.Explains, replied]
      rfl
    · cases stalled

/-- A call without an answer ends the attempts in the same way, unless the request is cancelled. -/
theorem calming_pending (silent : response.answer = none) (limited : Bool) (memory : σ) :
    (calming start cache).Together
      (Step.ends (response.outcome limited (one.asked (exchange response) memory).signal)
        (one.asked (exchange response) memory))
      (Step.ends (response.calm.outcome limited (other.asked (exchange response.calm) memory).signal)
        (other.asked (exchange response.calm) memory)) := by
  obtain ⟨heeds, calm, served⟩ := both
  have heeded := heeds.asked clear (exchange response) memory
  have same := calm.asked (exchange response) memory
  have replied := keeps.reply response
  rw [calms] at same
  rw [silent] at replied
  have explained (stop : Stop) (agrees : (one.asked (exchange response) memory).signal.isCancelled = true →
      stop = .failed Oracle.Error.cancelled.toFailure) :
      ∀ call ∈ one.exchanges ++ [exchange response],
        call.Explains (one.asked (exchange response) memory).signal stop := by
    refine List.forall_mem_append.mpr ⟨fun call member => ?_, List.forall_mem_singleton.mpr ?_⟩
    · exact Exchange.explains_of_served (served call member) _ _
    · rw [Exchange.Explains, replied]
      exact agrees
  have silentCalm : response.calm.answer = none := silent
  have still : (other.asked (exchange response.calm) memory).signal.isCancelled = false := by
    rw [same.signal]
    rfl
  cases fired : (one.asked (exchange response) memory).signal.isCancelled with
  | true =>
    simp only [Oracle.Response.outcome, silent, fired, if_true]
    refine .parted ⟨heeded, ⟨fired, ?_, ?_, .inl ⟨_, List.getLast?_concat, replied⟩⟩, explained _ fun _ => rfl, rfl⟩
    · rw [Step.final_ends, same.session]
    · rw [Step.final_ends, same.exchanges]
  | false =>
    have unmoved : (one.asked (exchange response) memory).exchanges ≠ [] :=
      List.append_ne_nil_of_right_ne_nil _ (List.cons_ne_nil _ _)
    have agrees (stop : Stop) := explained stop fun cancelled => absurd (fired.symm.trans cancelled) Bool.false_ne_true
    simp only [Oracle.Response.outcome, silent, silentCalm, fired, still, Bool.false_eq_true, if_false]
    cases limited <;> exact .stopped ⟨heeded, same, agrees _, fun _ => unmoved⟩

end Call

/-- A call and its calm twin: only a cancellation before the call or before its answer makes a difference. -/
theorem calming_call {α : Type} {exchange : Oracle.Response α → Exchange} (keeps : Exchange.Keeps exchange)
    (calms : ∀ response, (exchange response).calm = exchange response.calm) (ask : σ → Oracle.Response α × σ) :
    (calming start cache).Mirrors (Step.call config exchange ask)
      (Step.call config exchange fun memory => ((ask memory).1.calm, (ask memory).2)) where
  together := by
    intro one other both
    have free : other.signal.isCancelled = false := by
      rw [both.2.1.signal]
      rfl
    rw [Step.call_started keeps free, both.2.1.oracle]
    cases clear : one.signal.isCancelled with
    | true =>
      rw [Step.call_cancelled clear]
      refine .parted ?_
      rw [Step.final_ends]
      exact calming_refused both clear _ _
    | false =>
      rw [Step.call_started keeps clear]
      generalize ask one.oracle = asked
      obtain ⟨response, memory⟩ := asked
      dsimp only
      cases answered : response.answer with
      | some answer =>
        have decided (signal : CancelSignal) : response.outcome config.oracleTimeoutMs.isSome signal = some answer ∧
            response.calm.outcome config.oracleTimeoutMs.isSome signal = some answer := by
          simp only [Oracle.Response.outcome, Oracle.Response.calm, answered, and_self]
        rw [(decided _).1, (decided _).2]
        exact calming_answered both keeps (calms response) clear answered memory
      | none => exact calming_pending both keeps (calms response) clear answered _ memory
  apart := Coupling.apart_call

theorem calming_run (config : SigningConfig) (oracle : Oracle σ) (registry : Registry) (request : SigningRequest) :
    (calming start cache).Mirrors (Signing.run oracle config registry request)
      (Signing.run oracle.calm config registry request) :=
  Coupling.mirrors_run rfl (fun _ _ _ => calming_call (Exchange.keeps_signature _ _ _) (fun _ => rfl) _) registry request
    (fun _ => rfl)
    fun path => calming_sharesKeys.mirrors (calming_call (Exchange.keeps_publicKey path) (fun _ => rfl) _)

end Calming

/-- The attempt goes the way of the calm one to its end. -/
structure Attempt.AsCalm (attempt calm : Attempt σ) : Prop where
  result : attempt.result = calm.result
  session : attempt.session = calm.session
  oracle : attempt.oracle = calm.oracle
  cache : attempt.cache = calm.cache
  exchanges : attempt.exchanges.map Exchange.calm = calm.exchanges

/-- The attempt goes the way of the calm one up to a call that is pending when the request is cancelled, or that the calm
one makes next. -/
structure Attempt.CutOff (attempt calm : Attempt σ) : Prop where
  result : attempt.result = some (.error Oracle.Error.cancelled.toFailure)
  signal : attempt.signal.isCancelled = true
  history : ∃ phases, attempt.session.history = phases ++ [.failed .cancelled] ∧ phases <+: calm.session.history
  exchanges : attempt.exchanges.map Exchange.calm <+: calm.exchanges
  last : (∃ call, attempt.exchanges.getLast? = some call ∧ call.reply = none) ∨
    attempt.exchanges.length < calm.exchanges.length

/-- How an attempt that starts with a signal and a cache heeds the signal. -/
structure Attempt.Heeds (attempt calm : Attempt σ) (start : CancelSignal) (cache : KeyCache) : Prop where
  signal : attempt.signal = start.after attempt.exchanges
  /-- No call is started once the request is cancelled. -/
  started : ∀ earlier call later, attempt.exchanges = earlier ++ call :: later →
    (start.after earlier).isCancelled = false
  /-- A call that is pending when the request is cancelled ends it. -/
  pending : ∀ call ∈ attempt.exchanges, call.reply = none → attempt.signal.isCancelled = true →
    attempt.result = some (.error Oracle.Error.cancelled.toFailure) ∧
      attempt.session.history.getLast? = some (.failed .cancelled)
  /-- Errors are reported as they were given. -/
  failed : ∀ call ∈ attempt.exchanges, ∀ error, call.reply = some (.error error) →
    attempt.result = some (.error error.toFailure)
  /-- Keys are kept that were given. -/
  learnt : ∀ path key, attempt.cache.find? path = some key ↔
    cache.find? path = some key ∨ ∃ call ∈ attempt.exchanges, call.Gives path key
  /-- Cancelling does nothing else. -/
  way : attempt.AsCalm calm ∨ attempt.CutOff calm
  /-- A request that is cancelled from the start asks for nothing and fails. -/
  fired : start = .fired → attempt.exchanges = [] ∧ attempt.cache.entries = cache.entries ∧
    ∃ failure, attempt.result = some (.error failure)

/-- Calls for signatures give no keys. -/
theorem Fetches.learnt_append {paths : List KeyPath} {asked calls : List Exchange} {before after : KeyCache}
    (fetches : Fetches paths asked before after) (signatures : ∀ call ∈ calls, call.isSignature = true) (path : KeyPath)
    (key : Octets 33) : after.find? path = some key ↔
      before.find? path = some key ∨ ∃ call ∈ asked ++ calls, Exchange.Gives call path key := by
  rw [fetches.learnt_iff]
  refine or_congr_right ⟨fun ⟨call, member, gives⟩ => ⟨call, List.mem_append_left _ member, gives⟩, ?_⟩
  rintro ⟨call, member, gives⟩
  rcases List.mem_append.mp member with early | late
  · exact ⟨call, early, gives⟩
  · obtain ⟨_, _, rfl, _⟩ := gives
    cases signatures _ late

namespace Session

open Signing

theorem finish_asCalm {one other : Progress σ} (same : one.CalmAs other) :
    (∀ signed, (finish (.ok signed one)).AsCalm (finish (.ok signed other))) ∧
      ∀ stop, (finish (.error stop one)).AsCalm (finish (.error stop other)) := by
  obtain ⟨memory, _, cache, session, exchanges⟩ := same
  obtain ⟨signs, ends⟩ := finish_congr session.symm
  refine ⟨fun signed => ⟨rfl, signs signed, memory.symm, cache.symm, exchanges.symm⟩, fun stop => ?_⟩
  cases stop <;> exact ⟨rfl, (ends _).2, memory.symm, cache.symm, exchanges.symm⟩

theorem finish_cutOff {one : Progress σ} {calm : EStateM.Result Stop (Progress σ) SignedTransaction}
    (cut : one.CutOff (Step.final calm)) :
    (finish (.error (.failed Oracle.Error.cancelled.toFailure) one)).CutOff (finish calm) := by
  obtain ⟨_, _, _, exchanges, history⟩ := finish_final calm
  refine ⟨rfl, cut.signal, ⟨one.session.history, rfl, cut.history.trans history⟩, ?_, ?_⟩
  · rw [exchanges]
    exact cut.exchanges
  · rw [exchanges]
    exact cut.last

/-- Work that ended early heeds the signal if its end is explained by its calls. -/
theorem finish_heeds {start : CancelSignal} {cache : KeyCache} {stop : Stop} {one : Progress σ} {calm : Attempt σ}
    (heeds : one.Heeds start cache) (explained : ∀ call ∈ one.exchanges, call.Explains one.signal stop)
    (stalled : stop = .stalled → one.exchanges ≠ [])
    (learnt : ∀ path key, one.cache.find? path = some key ↔
      cache.find? path = some key ∨ ∃ call ∈ one.exchanges, call.Gives path key)
    (way : (finish (.error stop one)).AsCalm calm ∨ (finish (.error stop one)).CutOff calm) :
    (finish (.error stop one)).Heeds calm start cache := by
  have silent {call : Exchange} (member : call ∈ one.exchanges) (none : call.reply = none)
      (cancelled : one.signal.isCancelled = true) : stop = .failed Oracle.Error.cancelled.toFailure := by
    have agrees := explained call member
    rw [Exchange.Explains, none] at agrees
    exact agrees cancelled
  have erroneous {call : Exchange} {error : Oracle.Error} (member : call ∈ one.exchanges)
      (failed : call.reply = some (.error error)) : stop = .failed error.toFailure := by
    have agrees := explained call member
    rwa [Exchange.Explains, failed] at agrees
  cases stop with
  | failed failure =>
    refine ⟨heeds.signal, heeds.started, fun call member none cancelled => ?_, fun call member error failed => ?_,
      learnt, way, fun fired => ?_⟩
    · cases silent member none cancelled
      exact ⟨rfl, List.getLast?_concat⟩
    · cases erroneous member failed
      rfl
    · have unasked := heeds.unasked fired
      exact ⟨unasked, heeds.untouched unasked, failure, rfl⟩
  | stalled =>
    refine ⟨heeds.signal, heeds.started, fun call member none cancelled => ?_, fun call member error failed => ?_,
      learnt, way, fun fired => ?_⟩
    · cases silent member none cancelled
    · cases erroneous member failed
    · exact absurd (heeds.unasked fired) (stalled rfl)

section Attempts

variable (session : Session) (registry : Registry) (config : SigningConfig) (oracle : Oracle σ) (memory : σ)
  (request : SigningRequest) (cache : KeyCache) (signal : CancelSignal)

/-- If no key is learnt without a call, the keys known in the end are those known before and those given. -/
theorem sign_learns :
    let attempt := session.sign registry config oracle memory request cache signal
    (attempt.exchanges = [] → attempt.cache.entries = cache.entries) → ∀ path key,
      attempt.cache.find? path = some key ↔
        cache.find? path = some key ∨ ∃ call ∈ attempt.exchanges, call.Gives path key := by
  intro attempt untouched path key
  rcases sign_account session registry config oracle memory request cache signal with
    unasked | ⟨_, calls⟩ | ⟨work, calls, exchanges, ready, signatures⟩
  · have same : attempt.cache.find? path = cache.find? path := by rw [KeyCache.find?, untouched unasked, KeyCache.find?]
    rw [same, show attempt.exchanges = [] from unasked]
    simp
  · exact calls.cached path key
  · rw [show attempt.exchanges = _ from exchanges]
    exact ready.fetches.learnt_append signatures.isSignature path key

theorem sign_makes_call (signed : SignedTransaction)
    (returned : (session.sign registry config oracle memory request cache signal).result = some (.ok signed)) :
    (session.sign registry config oracle memory request cache signal).exchanges ≠ [] := by
  obtain ⟨work, inputs, calls, ready, all, exchanges, _⟩ := sign_ok returned
  rw [exchanges]
  intro none
  have count := all.length_eq.2
  rw [(List.append_eq_nil_iff.mp none).2, ready.length_pairs, ready.accepts.inputs.length_eq] at count
  exact ready.accepts.spends (List.length_eq_zero_iff.mp count.symm)

theorem heeds_of_fresh (fresh : session.Fresh) :
    (session.sign registry config oracle memory request cache signal).Heeds
      (session.sign registry config oracle.calm memory request cache .never) signal cache := by
  have learns := sign_learns session registry config oracle memory request cache signal
  have asks := sign_makes_call session registry config oracle memory request cache signal
  have start : (calming signal cache).alike (⟨memory, signal, cache, [], session⟩ : Progress σ)
      ⟨memory, .never, cache, [], session⟩ := by
    refine ⟨⟨rfl, fun earlier call later split => ?_, fun _ => rfl⟩, ⟨rfl, rfl, rfl, rfl, rfl⟩,
      fun _ member => absurd member List.not_mem_nil⟩
    cases earlier <;> cases split
  have together := (calming_run config oracle registry request).together start
  rw [sign_fresh fresh] at learns asks ⊢
  rw [sign_fresh fresh]
  generalize run oracle config registry request _ = result at together learns asks ⊢
  generalize run oracle.calm config registry request _ = calm at together ⊢
  cases together with
  | @alike signed one other both =>
    obtain ⟨heeds, same, served⟩ := both
    refine ⟨heeds.signal, heeds.started, fun call member none => ?_, fun call member error failed => ?_,
      learns heeds.untouched, .inl ((finish_asCalm same).1 signed), fun fired => ?_⟩
    · cases (served call member).symm.trans none
    · cases (served call member).symm.trans failed
    · exact absurd (heeds.unasked fired) (asks signed rfl)
  | @stopped stop one other both =>
    obtain ⟨heeds, same, explained, stalled⟩ := both
    obtain ⟨_, _, known, exchanges, _⟩ := finish_final (.error stop one)
    dsimp only at learns
    rw [known, exchanges] at learns
    exact finish_heeds heeds explained stalled (learns heeds.untouched) (.inl ((finish_asCalm same).2 stop))
  | @parted stop one calm left =>
    obtain ⟨heeds, cut, explained, rfl⟩ := left
    exact finish_heeds heeds explained (fun stalled => by cases stalled) (learns heeds.untouched)
      (.inr (finish_cutOff cut))

/-- An attempt heeds its signal, whatever the oracle does and whenever the request is cancelled. What a response says of
a call agrees with the looks at it: a cancellation that finds the call pending ends it, and an answer counts even if the
request is cancelled during the same look. -/
theorem sign_heeds_cancellation :
    (session.sign registry config oracle memory request cache signal).Heeds
      (session.sign registry config oracle.calm memory request cache .never) signal cache ∧
    ∀ (α : Type) (exchange : Oracle.Response α → Exchange) (polls : List (Oracle.Poll α)) (before : Progress σ)
      (memory : σ), Exchange.Keeps exchange → before.signal = .armed →
      let limited := config.oracleTimeoutMs.isSome
      let response := Oracle.Response.ofPolls limited polls
      Step.call config exchange (fun _ => (response, memory)) before =
        Step.ends (Oracle.watch limited .armed polls) (before.asked (exchange response) memory) ∧
      ∀ (quiet later : List (Oracle.Poll α)) (poll : Oracle.Poll α), polls = quiet ++ poll :: later →
        (∀ earlier ∈ quiet, earlier.Waits limited ∧ earlier.cancels = false) →
        (poll.Waits limited → poll.cancels = true →
          response = ⟨none, true⟩ ∧ Oracle.watch limited .armed polls = some (.error .cancelled)) ∧
        ∀ answer, poll.answer = some answer →
          response = ⟨some answer, poll.cancels⟩ ∧ Oracle.watch limited .armed polls = some answer := by
  refine ⟨?_, fun α exchange polls before memory keeps armed => ⟨?_, ?_⟩⟩
  · by_cases fresh : session.Fresh
    · exact heeds_of_fresh session registry config oracle memory request cache signal fresh
    · have unasked (path : KeyPath) (key : Octets 33) : cache.find? path = some key ↔
          cache.find? path = some key ∨ ∃ call ∈ ([] : List Exchange), call.Gives path key := by simp
      rw [sign_used fresh, sign_used fresh]
      refine ⟨rfl, fun earlier call later split => ?_, fun _ member => absurd member List.not_mem_nil,
        fun _ member => absurd member List.not_mem_nil, unasked, .inl ⟨rfl, rfl, rfl, rfl, rfl⟩,
        fun _ => ⟨rfl, rfl, _, rfl⟩⟩
      cases earlier <;> cases split
  · have clear : before.signal.isCancelled = false := by
      rw [armed]
      rfl
    rw [← armed]
    exact Step.call_ofPolls keeps clear (fun lost => by cases armed.symm.trans lost) memory
  · rintro quiet later poll rfl waiting
    refine ⟨fun waits cancels => ?_, fun answer answered => ?_⟩
    · have course := Oracle.ofPolls_cancelled waiting later waits cancels
      refine ⟨course, ?_⟩
      rw [Oracle.watch_armed, course]
      rfl
    · have course := Oracle.ofPolls_answered waiting later answered
      refine ⟨course, ?_⟩
      rw [Oracle.watch_armed, course]
      rfl

end Attempts

/-- Cancels the request while it is asked for a signature. -/
def abrupt (answer : Option (Except Oracle.Error Oracle.Answer)) : Oracle Unit where
  publicKey := Sample.oracle.publicKey
  sign := fun _ _ _ _ => (⟨answer, true⟩, ())

/-- A signature that is given is used. A call without an answer is given up. -/
theorem sign_heeds_cancellation_sample :
    let sign oracle := ({} : Session).sign .builtin Sample.config oracle () Sample.request Sample.cache
    let signing := abrupt (some (.ok (.raw ⟨.zeros 32, .zeros 32⟩)))
    (∃ signed, (sign signing .armed).result = some (.ok signed) ∧ (sign signing .armed).signal = .fired ∧
      (sign signing.calm .never).result = some (.ok signed)) ∧
    (sign (abrupt none) .armed).result = some (.error Oracle.Error.cancelled.toFailure) ∧
    (sign (abrupt none) .armed).session.history.getLast? = some (.failed .cancelled) := by
  intro sign signing
  constructor
  · have signs : ∃ signed, (sign signing .armed).result = some (.ok signed) := Attempt.signed_of_isOk (by decide +kernel)
    obtain ⟨signed, returned⟩ := signs
    have heeds := (sign_heeds_cancellation {} .builtin Sample.config signing () Sample.request Sample.cache .armed).1
    refine ⟨signed, returned, by decide +kernel, ?_⟩
    rcases heeds.way with calm | cut
    · exact calm.result.symm.trans returned
    · cases cut.result.symm.trans returned
  · have heeds :=
      (sign_heeds_cancellation {} .builtin Sample.config (abrupt none) () Sample.request Sample.cache .armed).1
    have unanswered : ∃ call ∈ (sign (abrupt none) .armed).exchanges, call.reply.isNone := by decide +kernel
    obtain ⟨call, member, silent⟩ := unanswered
    exact heeds.pending call member (Option.isNone_iff_eq_none.mp silent) (by decide +kernel)

end Session

end CoinSpend
