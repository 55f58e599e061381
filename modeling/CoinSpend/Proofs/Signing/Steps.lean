import CoinSpend.Signing.Session

/-! A part of the work on a request ends with a value or early. One condition is stated for each outcome, and the rules
here follow the text of the program, so that each operation has one lemma about both outcomes. -/
namespace CoinSpend

/-- The oracle or the caller is the reason: a call failed, was cancelled, timed out or never ends. -/
def Stop.Unserved : Stop → Prop
  | .failed failure => failure.code.isOracle = true
  | .stalled => True

namespace Session

theorem fresh_default : ({} : Session).Fresh := by decide

/-- The session after it has entered further phases. -/
def through (session : Session) (phases : List Phase) : Session := phases.foldl enter session

theorem through_append (session : Session) (phases later : List Phase) :
    session.through (phases ++ later) = (session.through phases).through later := by
  rw [through, List.foldl_append]
  rfl

theorem through_concat (session : Session) (phases : List Phase) (last : Phase) :
    session.through (phases ++ [last]) = (session.through phases).enter last :=
  session.through_append phases [last]

theorem history_through (session : Session) (phases : List Phase) :
    (session.through phases).history = session.history ++ phases := by
  induction phases generalizing session with
  | nil => exact (List.append_nil _).symm
  | cons phase phases ih =>
    have next := ih (session.enter phase)
    rw [enter, List.append_assoc] at next
    exact next

/-- The phase that a session is in is the last one of its history. -/
def Tracks (session : Session) : Prop := session.history.getLast? = some session.phase

theorem tracks_enter (session : Session) (phase : Phase) : (session.enter phase).Tracks := List.getLast?_concat

theorem Tracks.through {session : Session} (tracks : session.Tracks) (phases : List Phase) :
    (session.through phases).Tracks := by
  induction phases generalizing session with
  | nil => exact tracks
  | cons phase phases ih => exact ih (session.tracks_enter phase)

end Session

/-- The phases entered and the calls made on the way from `before` to `after`. -/
structure Progress.Records {σ : Type} (before after : Progress σ) (phases : List Phase)
    (calls : List Exchange) : Prop where
  session : after.session = before.session.through phases
  exchanges : after.exchanges = before.exchanges ++ calls

namespace Progress.Records

variable {σ : Type} {before middle after : Progress σ} {phases later : List Phase}
  {calls more : List Exchange}

theorem refl (progress : Progress σ) : Records progress progress [] [] := ⟨rfl, (List.append_nil _).symm⟩

theorem trans (first : Records before middle phases calls) (second : Records middle after later more) :
    Records before after (phases ++ later) (calls ++ more) := by
  constructor
  · rw [second.session, first.session, Session.through_append]
  · rw [second.exchanges, first.exchanges, List.append_assoc]

theorem history (records : Records before after phases calls) : after.session.history =
    before.session.history ++ phases := by
  rw [records.session, Session.history_through]

end Progress.Records

namespace Step

variable {σ α β : Type}

/-- From `before`, the step gives a value for which `onValue` holds, or ends early and `onStop` holds. -/
def Meets (step : Step σ α) (before : Progress σ) (onValue : α → Progress σ → Prop)
    (onStop : Stop → Progress σ → Prop) : Prop :=
  match step before with
  | .ok value after => onValue value after
  | .error stop after => onStop stop after

namespace Meets

variable {before : Progress σ} {onValue : α → Progress σ → Prop} {onStop : Stop → Progress σ → Prop}

theorem pure {value : α} (holds : onValue value before) :
    Meets (Pure.pure value : Step σ α) before onValue onStop := holds

theorem throw {stop : Stop} (holds : onStop stop before) :
    Meets (MonadExcept.throw stop : Step σ α) before onValue onStop := holds

theorem get {next : Progress σ → Step σ α} (holds : Meets (next before) before onValue onStop) :
    Meets (MonadState.get >>= next) before onValue onStop := holds

theorem modify {change : Progress σ → Progress σ} {next : Unit → Step σ α}
    (holds : Meets (next ()) (change before) onValue onStop) :
    Meets ((modifyGet fun progress => ((), change progress)) >>= next) before onValue onStop := holds

/-- The first step may end early for reasons of its own. -/
theorem bind {step : Step σ α} {next : α → Step σ β} {middle : α → Progress σ → Prop}
    {early : Stop → Progress σ → Prop} {onValue : β → Progress σ → Prop} (first : Meets step before middle early)
    (stops : ∀ stop after, early stop after → onStop stop after)
    (second : ∀ value after, middle value after → Meets (next value) after onValue onStop) :
    Meets (step >>= next) before onValue onStop := by
  have unfolded : (step >>= next) before = EStateM.bind step next before := rfl
  unfold Meets at first ⊢
  rw [unfolded, EStateM.bind]
  cases ended : step before with
  | ok value after =>
    rw [ended] at first
    exact second value after first
  | error stop after =>
    rw [ended] at first
    exact stops stop after first

theorem ofExcept {result : Except Failure α} {next : α → Step σ β} {onValue : β → Progress σ → Prop}
    (success : ∀ value, result = .ok value → Meets (next value) before onValue onStop)
    (failure : ∀ cause, result = .error cause → onStop (.failed cause) before) :
    Meets (Step.ofExcept result >>= next) before onValue onStop := by
  cases result with
  | ok value => exact success value rfl
  | error cause => exact failure cause rfl

theorem enter {phase : Phase} {next : Unit → Step σ α}
    (holds : ∀ after, before.Records after [phase] [] → after.cache = before.cache →
      Meets (next ()) after onValue onStop) :
    Meets (Step.enter phase >>= next) before onValue onStop :=
  holds _ ⟨rfl, (List.append_nil _).symm⟩ rfl

end Meets

/-- The calls of a step that was to make one and got no value: there is none if the request was cancelled before it, and
otherwise one without a value. -/
def Unanswered (exchange : Oracle.Response α → Exchange) (signal : CancelSignal) (calls : List Exchange) : Prop :=
  calls = [] ∧ signal.isCancelled = true ∨
    ∃ response, calls = [exchange response] ∧ ∀ value, response.answer ≠ some (.ok value)

/-- A call is recorded once it was started; only an answer lets the work go on. -/
theorem call_meets (config : SigningConfig) (exchange : Oracle.Response α → Exchange)
    (ask : σ → Oracle.Response α × σ) (before : Progress σ) :
    Meets (call config exchange ask) before
      (fun value after => after.cache = before.cache ∧ ∃ response, response.answer = some (.ok value) ∧
        before.Records after [] [exchange response])
      (fun stop after => stop.Unserved ∧ after.cache = before.cache ∧
        ∃ calls, before.Records after [] calls ∧ Unanswered exchange after.signal calls) := by
  unfold Meets call
  by_cases cancelled : before.signal.isCancelled = true
  · simp only [if_pos cancelled]
    exact ⟨rfl, trivial, [], .refl before, .inl ⟨rfl, cancelled⟩⟩
  · simp only [if_neg cancelled]
    have recorded : ∀ signal : CancelSignal,
        (∀ value, (ask before.oracle).1.answer ≠ some (.ok value)) → ∃ calls, before.Records
          { before with
            oracle := (ask before.oracle).2
            signal := signal
            exchanges := before.exchanges ++ [exchange (ask before.oracle).1] } [] calls ∧
          Unanswered exchange signal calls :=
      fun _ silent => ⟨_, ⟨rfl, rfl⟩, .inr ⟨_, rfl, silent⟩⟩
    cases answered : (ask before.oracle).1.answer with
    | some answer =>
      cases answer with
      | ok value => exact ⟨rfl, _, answered, rfl, rfl⟩
      | error error =>
        refine ⟨by cases error <;> rfl, rfl, recorded _ fun value same => ?_⟩
        cases answered.symm.trans same
    | none =>
      have silent : ∀ value, (ask before.oracle).1.answer ≠ some (.ok value) := by
        intro value same
        cases answered.symm.trans same
      dsimp only
      generalize (if (ask before.oracle).1.cancels then before.signal.cancel else before.signal) = signal
      by_cases fired : signal.isCancelled = true
      · rw [if_pos fired]
        exact ⟨rfl, rfl, recorded signal silent⟩
      · rw [if_neg fired]
        by_cases timed : config.oracleTimeoutMs.isSome = true
        · rw [if_pos timed]
          exact ⟨rfl, rfl, recorded signal silent⟩
        · rw [if_neg timed]
          exact ⟨trivial, rfl, recorded signal silent⟩

end Step

end CoinSpend
