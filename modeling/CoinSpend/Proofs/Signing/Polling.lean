import CoinSpend.Proofs.Signing.Steps

/-! One call, looked at again and again until it ends. Each time the signal is looked at first, then the answer and last
the time limit; the response of a call says all that matters of its course. -/
namespace CoinSpend

namespace CancelSignal

/-- The signal after a call in whose course the request is cancelled or not. -/
def heed (signal : CancelSignal) (cancels : Bool) : CancelSignal := if cancels then signal.cancel else signal

theorem heed_false (signal : CancelSignal) : signal.heed false = signal := rfl

theorem isCancelled_cancel {signal : CancelSignal} (handle : signal ≠ .never) : signal.cancel.isCancelled = true := by
  cases signal with
  | armed => rfl
  | fired => rfl
  | never => exact absurd rfl handle

end CancelSignal

namespace Exchange

def cancels : Exchange → Bool
  | publicKey _ response => response.cancels
  | signature _ _ _ response => response.cancels

/-- The answer but for its value; none while the call is pending. -/
def reply : Exchange → Option (Except Oracle.Error Unit)
  | publicKey _ response => response.answer.map (Except.map fun _ => ())
  | signature _ _ _ response => response.answer.map (Except.map fun _ => ())

/-- The kind of exchange keeps the response as it is. -/
structure Keeps {α : Type} (exchange : Oracle.Response α → Exchange) : Prop where
  cancels : ∀ response, (exchange response).cancels = response.cancels
  reply : ∀ response, (exchange response).reply = response.answer.map (Except.map fun _ => ())

theorem keeps_publicKey (path : KeyPath) : Keeps (publicKey path) := ⟨fun _ => rfl, fun _ => rfl⟩

theorem keeps_signature (path : KeyPath) (payload : Bytes) (algorithm : HashAlgorithm) :
    Keeps (signature path payload algorithm) := ⟨fun _ => rfl, fun _ => rfl⟩

end Exchange

namespace Oracle

variable {α : Type}

/-- What a call ends with, the signal being what it is in the end; none if it stays open. -/
def Response.outcome (limited : Bool) (signal : CancelSignal) (response : Response α) : Option (Except Error α) :=
  match response.answer with
  | some answer => some answer
  | none =>
    if signal.isCancelled then some (.error .cancelled)
    else if limited then some (.error .timeout)
    else none

/-- One look at a call: whether it answers, whether the request is cancelled meanwhile or before the next look, and
whether its time is up. -/
structure Poll (α : Type) where
  answer : Option (Except Error α) := none
  cancels : Bool := false
  expires : Bool := false

/-- The call goes on. -/
def Poll.Waits (limited : Bool) (poll : Poll α) : Prop := poll.answer = none ∧ (limited && poll.expires) = false

/-- What a call ends with. After the last look only the signal or the time limit can end it. -/
def watch (limited : Bool) : CancelSignal → List (Poll α) → Option (Except Error α)
  | signal, [] =>
    if signal.isCancelled then some (.error .cancelled)
    else if limited then some (.error .timeout)
    else none
  | signal, poll :: later =>
    if signal.isCancelled then some (.error .cancelled)
    else
      match poll.answer with
      | some answer => some answer
      | none =>
        if limited && poll.expires then some (.error .timeout)
        else watch limited (signal.heed poll.cancels) later

/-- The course of a call as a whole. -/
def Response.ofPolls (limited : Bool) : List (Poll α) → Response α
  | [] => ⟨none, false⟩
  | poll :: later =>
    match poll.answer with
    | some answer => ⟨some answer, poll.cancels⟩
    | none =>
      -- time that is up is seen before what else happened during the same look
      if limited && poll.expires then
        if poll.cancels then ⟨some (.error .timeout), true⟩ else ⟨none, false⟩
      else if poll.cancels then ⟨none, true⟩
      else ofPolls limited later

theorem watch_of_cancelled {limited : Bool} {signal : CancelSignal} (cancelled : signal.isCancelled = true)
    (polls : List (Poll α)) : watch limited signal polls = some (.error .cancelled) := by
  cases polls <;> exact if_pos cancelled

/-- The response of a call tells what it ends with. A lost handle cancels nothing. -/
theorem outcome_ofPolls (limited : Bool) {signal : CancelSignal} {polls : List (Poll α)}
    (clear : signal.isCancelled = false) (heard : signal = .never → ∀ poll ∈ polls, poll.cancels = false) :
    (Response.ofPolls limited polls).outcome limited (signal.heed (Response.ofPolls limited polls).cancels) =
      watch limited signal polls := by
  induction polls with
  | nil => rfl
  | cons poll later ih =>
    obtain ⟨answer, cancels, expires⟩ := poll
    have later := ih fun lost next member => heard lost next (List.mem_cons_of_mem _ member)
    rw [Response.ofPolls, watch, clear, if_neg Bool.false_ne_true]
    cases answer with
    | some answer => rfl
    | none =>
      dsimp only
      cases up : limited && expires with
      | true =>
        obtain ⟨rfl, rfl⟩ := Bool.and_eq_true_iff.mp up
        cases cancels with
        | true => rfl
        | false =>
          simp only [if_true, Bool.false_eq_true, if_false, Response.outcome, CancelSignal.heed_false, clear]
      | false =>
        rw [if_neg Bool.false_ne_true, if_neg Bool.false_ne_true]
        cases cancels with
        | true =>
          have handle : signal ≠ .never := fun lost => absurd (heard lost _ List.mem_cons_self) Bool.noConfusion
          have fired : (signal.heed true).isCancelled = true := CancelSignal.isCancelled_cancel handle
          rw [watch_of_cancelled fired, if_pos rfl, Response.outcome, if_pos fired]
        | false => exact later

theorem watch_armed (limited : Bool) (polls : List (Poll α)) :
    let response := Response.ofPolls limited polls
    watch limited .armed polls = response.outcome limited (CancelSignal.armed.heed response.cancels) :=
  (outcome_ofPolls limited rfl fun lost => by cases lost).symm

section Course

variable {limited : Bool} {quiet : List (Poll α)} {poll : Poll α}
  (waiting : ∀ earlier ∈ quiet, earlier.Waits limited ∧ earlier.cancels = false) (later : List (Poll α))

include waiting

theorem ofPolls_append :
    Response.ofPolls limited (quiet ++ later) = Response.ofPolls limited later := by
  induction quiet with
  | nil => rfl
  | cons first others ih =>
    obtain ⟨⟨⟨unanswered, running⟩, calm⟩, rest⟩ := List.forall_mem_cons.mp waiting
    rw [List.cons_append, Response.ofPolls, unanswered]
    simp only [running, calm, Bool.false_eq_true, if_false]
    exact ih rest

/-- A cancellation that finds the call pending ends it, whatever the call would do at the next look. -/
theorem ofPolls_cancelled (waits : poll.Waits limited) (cancels : poll.cancels = true) :
    Response.ofPolls limited (quiet ++ poll :: later) = ⟨none, true⟩ := by
  rw [ofPolls_append waiting, Response.ofPolls, waits.1]
  simp only [waits.2, cancels, Bool.false_eq_true, if_false, if_true]

/-- An answer is one even if the request is cancelled during the same look. -/
theorem ofPolls_answered {answer : Except Error α} (answered : poll.answer = some answer) :
    Response.ofPolls limited (quiet ++ poll :: later) = ⟨some answer, poll.cancels⟩ := by
  rw [ofPolls_append waiting, Response.ofPolls, answered]

end Course

end Oracle

variable {σ α : Type}

/-- The state behind a call that was started. -/
def Progress.asked (before : Progress σ) (call : Exchange) (memory : σ) : Progress σ :=
  { before with
    oracle := memory
    signal := before.signal.heed call.cancels
    exchanges := before.exchanges ++ [call] }

namespace Step

/-- The state that is left in the end, whatever the end is. -/
def final : EStateM.Result Stop (Progress σ) α → Progress σ
  | .ok _ after => after
  | .error _ after => after

/-- The end of a step with a given outcome. -/
def ends (outcome : Option (Except Oracle.Error α)) (after : Progress σ) : EStateM.Result Stop (Progress σ) α :=
  match outcome with
  | some (.ok value) => .ok value after
  | some (.error error) => .error (.failed error.toFailure) after
  | none => .error .stalled after

/-- The end of a step with a verdict. -/
def leave (verdict : Except Stop α) (after : Progress σ) : EStateM.Result Stop (Progress σ) α :=
  match verdict with
  | .ok value => .ok value after
  | .error stop => .error stop after

/-- What a call comes to for the work on a request. -/
def verdict (limited : Bool) (signal : CancelSignal) (response : Oracle.Response α) : Except Stop α :=
  match response.outcome limited signal with
  | some (.ok value) => .ok value
  | some (.error error) => .error (.failed error.toFailure)
  | none => .error .stalled

theorem ends_eq_leave (limited : Bool) (signal : CancelSignal) (response : Oracle.Response α) (after : Progress σ) :
    ends (response.outcome limited signal) after = leave (verdict limited signal response) after := by
  unfold ends verdict
  generalize response.outcome limited signal = outcome
  split <;> rfl

/-- Only an answer gives a value. -/
theorem verdict_eq_ok_iff {limited : Bool} {signal : CancelSignal} {response : Oracle.Response α} {value : α} :
    verdict limited signal response = .ok value ↔ response.answer = some (.ok value) := by
  unfold verdict Oracle.Response.outcome
  cases response.answer with
  | some answer => cases answer <;> simp
  | none => cases signal.isCancelled <;> cases limited <;> simp

theorem final_ends (outcome : Option (Except Oracle.Error α)) (after : Progress σ) :
    final (ends outcome after) = after := by
  unfold ends
  split <;> rfl

variable {config : SigningConfig} {exchange : Oracle.Response α → Exchange} {ask : σ → Oracle.Response α × σ}
  {before : Progress σ}

theorem call_cancelled (cancelled : before.signal.isCancelled = true) :
    call config exchange ask before = .error (.failed Oracle.Error.cancelled.toFailure) before := by
  rw [call, if_pos cancelled]

theorem call_started (keeps : Exchange.Keeps exchange) (clear : before.signal.isCancelled = false) :
    call config exchange ask before =
      let (response, memory) := ask before.oracle
      let after := before.asked (exchange response) memory
      ends (response.outcome config.oracleTimeoutMs.isSome after.signal) after := by
  have free : ¬ before.signal.isCancelled = true := by rw [clear]; exact Bool.false_ne_true
  rw [call, if_neg free]
  simp only [Progress.asked, keeps.cancels, CancelSignal.heed]
  generalize (if (ask before.oracle).1.cancels then before.signal.cancel else before.signal) = signal
  cases answered : (ask before.oracle).1.answer with
  | some answer => cases answer <;> simp only [Oracle.Response.outcome, answered, ends]
  | none =>
    simp only [Oracle.Response.outcome, answered]
    split
    · rfl
    · split <;> rfl

/-- A call that is looked at again and again ends as the looks say. -/
theorem call_ofPolls (keeps : Exchange.Keeps exchange) (clear : before.signal.isCancelled = false)
    {polls : List (Oracle.Poll α)} (heard : before.signal = .never → ∀ poll ∈ polls, poll.cancels = false)
    (memory : σ) :
    let response := Oracle.Response.ofPolls config.oracleTimeoutMs.isSome polls
    call config exchange (fun _ => (response, memory)) before =
      ends (Oracle.watch config.oracleTimeoutMs.isSome before.signal polls)
        (before.asked (exchange response) memory) := by
  intro response
  rw [call_started keeps clear]
  dsimp only
  rw [Progress.asked, keeps.cancels, Oracle.outcome_ofPolls _ clear heard]

end Step

end CoinSpend
