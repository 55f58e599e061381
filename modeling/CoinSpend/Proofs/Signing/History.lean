import CoinSpend.Proofs.Signing.Run

/-! The phases of an attempt to sign: the whole course if it succeeds, otherwise a part of the course and then the
failure. The phase in which an attempt fails limits the code that it fails with. -/
namespace CoinSpend

namespace Phase

/-- The phases of a request that is signed. -/
def course (inputs : Nat) : List Phase := .building :: rounds 0 inputs ++ [.finalizing, .done]

theorem course_eq_append_done (inputs : Nat) :
    course inputs = (.building :: rounds 0 inputs ++ [.finalizing]) ++ [.done] := by
  rw [course, List.append_assoc, List.singleton_append]

theorem rounds_add (first done more : Nat) :
    rounds first (done + more) = rounds first done ++ rounds (first + done) more := by
  induction done generalizing first with
  | zero => rw [Nat.zero_add, rounds, List.nil_append, Nat.add_zero]
  | succ done ih =>
    have next : first + 1 + done = first + (done + 1) := by omega
    rw [Nat.succ_add_eq_add_succ, Nat.add_succ, rounds, rounds, ih, List.append_assoc, next]

/-- An input that is not finished is followed by what is left of its round. -/
theorem started_prefix_course {done inputs : Nat} (left : done < inputs) {started : List Phase}
    (begun : started <+: round done) : .building :: rounds 0 done ++ started <+: course inputs := by
  obtain ⟨rest, whole⟩ := begun
  have count : inputs = done + (inputs - done - 1 + 1) := by omega
  refine ⟨rest ++ rounds (done + 1) (inputs - done - 1) ++ [.finalizing, .done], ?_⟩
  conv_rhs => rw [course, count, rounds_add, rounds, Nat.zero_add, ← whole]
  simp only [List.append_assoc, List.cons_append]

theorem mem_rounds {phase : Phase} {first count : Nat} (member : phase ∈ rounds first count) :
    ∃ index, phase ∈ round index := by
  induction count generalizing first with
  | zero => cases member
  | succ count ih =>
    rcases List.mem_append.mp member with inside | later
    · exact ⟨first, inside⟩
    · exact ih later

end Phase

/-- The raw earlier transaction shows an output that the key at the input's path does not unlock. -/
def RequestedInput.NotLocked (requested : RequestedInput) (keys : KeyCache) : Prop :=
  ∃ raw spent key own, requested.rawPrevTx = some raw ∧ spentOutput raw requested.vout = .ok spent ∧
    keys.find? requested.path = some key ∧
    Script.forKey (hash160 key.bytes) requested.scriptType = .ok own ∧ spent.script ≠ own

/-- The codes with which a request can fail in a phase, where `before` and `after` are the keys cached at the start
and in the end. -/
def Phase.FailsAs (request : SigningRequest) (before after : KeyCache) : Phase → Failure.Code → Prop
  | .building, code => code.isValidation = true ∨ code.isOracle = true
  | .hashing index, code => code = .invalidInput ∧
      ∃ requested, request.inputs[index]? = some requested ∧ requested.NotLocked after
  | .awaitingSignature _, code => code.isOracle = true
  | .assembling _, code => code = .malformedSignature ∨ code = .invalidInput ∧ ¬ before.Valid
  | _, _ => False

/-- The phases are a part of the course before its end, and the last of them allows the code. -/
def LeftWith (request : SigningRequest) (before after : KeyCache) (phases : List Phase)
    (code : Failure.Code) : Prop :=
  ∃ entered left, phases = entered ++ [left] ∧ phases <+: Phase.course request.inputs.length ∧
    .finalizing ∉ phases ∧ left.FailsAs request before after code

theorem Phase.FailsAs.code_ne {request : SigningRequest} {before after : KeyCache} {left : Phase}
    {code : Failure.Code} (later : left ≠ .building) (allowed : left.FailsAs request before after code) :
    code ≠ .internal ∧ code ≠ .missingRequiredField ∧ code ≠ .unsupportedScriptType := by
  cases left with
  | building => exact absurd rfl later
  | hashing index =>
    obtain ⟨rfl, _⟩ := allowed
    decide
  | awaitingSignature index =>
    have oracle : code.isOracle = true := allowed
    refine ⟨?_, ?_, ?_⟩ <;> rintro rfl <;> cases oracle
  | assembling index =>
    rcases allowed with rfl | ⟨rfl, _⟩ <;> decide
  | finalizing | done | failed _ => exact allowed.elim

/-- Building is the first phase only, so that a request that got further was left in another. -/
theorem LeftWith.later {request : SigningRequest} {before after : KeyCache} {phases : List Phase}
    {code : Failure.Code} (leaves : LeftWith request before after phases code) (further : phases ≠ [.building]) :
    ∃ left : Phase, left ≠ .building ∧ left.FailsAs request before after code := by
  obtain ⟨entered, left, rfl, ⟨rest, whole⟩, _, allowed⟩ := leaves
  refine ⟨left, ?_, allowed⟩
  rintro rfl
  cases entered with
  | nil => exact further rfl
  | cons first others =>
    have tail : others ++ [.building] ++ rest = Phase.rounds 0 request.inputs.length ++ [.finalizing, .done] :=
      (List.cons.inj whole).2
    have inside : Phase.building ∈ Phase.rounds 0 request.inputs.length ++ [.finalizing, .done] := by
      rw [← tail]
      simp
    rcases List.mem_append.mp inside with early | late
    · obtain ⟨index, within⟩ := Phase.mem_rounds early
      simp [Phase.round] at within
    · simp at late

namespace Signing

variable {registry : Registry} {config : SigningConfig} {request : SigningRequest} {before after : KeyCache}

theorem leftWith_building {code : Failure.Code} (allowed : code.isValidation = true ∨ code.isOracle = true) :
    LeftWith request before after [.building] code :=
  ⟨[], .building, rfl, ⟨_, rfl⟩, by simp, allowed⟩

theorem leftWith_round {done : Nat} (unfinished : done < request.inputs.length) (started : List Phase)
    {left : Phase} (begun : started ++ [left] <+: Phase.round done) {code : Failure.Code}
    (allowed : left.FailsAs request before after code) :
    LeftWith request before after (.building :: Phase.rounds 0 done ++ (started ++ [left])) code := by
  refine ⟨.building :: Phase.rounds 0 done ++ started, left, (List.append_assoc _ _ _).symm,
    Phase.started_prefix_course unfinished begun, ?_, allowed⟩
  intro member
  rcases List.mem_append.mp member with early | late
  · rcases List.mem_cons.mp early with first | inside
    · cases first
    · obtain ⟨index, within⟩ := Phase.mem_rounds inside
      simp [Phase.round] at within
  · have within := begun.subset late
    simp [Phase.round] at within

/-- Where a spent output is known and pays to something else than the input's key, the request shows it. -/
theorem Work.Ready.notLocked {work : Work} (ready : work.Ready registry config request before after) {index : Nat}
    {input : PreparedInput} {key : Octets 33} (found : work.pairs[index]? = some (input, key)) {expected script : Bytes}
    (own : Script.forKey (hash160 key.bytes) input.scriptType = .ok expected)
    (known : input.prevScript = some script) (different : script ≠ expected) :
    ∃ requested, request.inputs[index]? = some requested ∧ requested.NotLocked after := by
  obtain ⟨requested, given, prepares, keyed⟩ := ready.at_index found
  have spends := prepares.spends
  rw [known] at spends
  obtain ⟨raw, spent, shown, looked, rfl⟩ := spends.from_raw
  rw [prepares.path] at keyed
  rw [prepares.scriptType] at own
  exact ⟨requested, given, raw, spent, key, _, shown, looked, keyed, own, different⟩

theorem Work.Ready.leftWith {work : Work} (ready : work.Ready registry config request before after)
    {signal : CancelSignal} {phases : List Phase} {calls : List Exchange} {failure : Failure}
    (breaks : BreaksAt work.coin config work.unsigned 0 work.pairs signal phases calls (.failed failure)) :
    LeftWith request before after (.building :: phases) failure.code := by
  obtain ⟨done, ⟨input, key⟩, _, broken, _, _, found, _, rfl, _, cause⟩ := breaks
  obtain ⟨requested, given, prepares, keyed⟩ := ready.at_index found
  have unfinished : done < request.inputs.length := (List.getElem?_eq_some_iff.mp given).1
  rw [Nat.zero_add] at cause
  cases cause with
  | notLocked own known different code =>
    exact leftWith_round unfinished [] ⟨[.awaitingSignature done, .assembling done], rfl⟩
      ⟨code, ready.notLocked found own known different⟩
  | cancelled reason | unserved reason =>
    exact leftWith_round unfinished [.hashing done] ⟨[.assembling done], rfl⟩ reason
  | unusable _ _ cause =>
    refine leftWith_round unfinished [.hashing done, .awaitingSignature done] ⟨[], rfl⟩ ?_
    rcases cause with malformed | ⟨code, _, unknown⟩
    · exact .inl malformed
    · refine .inr ⟨code, fun valid => ?_⟩
      obtain ⟨point, parsed⟩ := ready.fetches.valid valid input.path key keyed
      cases unknown.symm.trans parsed

end Signing

namespace Session

open Signing

/-- The session after any further attempts with it. -/
inductive Reused (session : Session) : Session → Prop where
  | start : Reused session session
  | again {σ : Type} {later : Session} (reused : Reused session later) (registry : Registry)
      (config : SigningConfig) (oracle : Oracle σ) (memory : σ) (request : SigningRequest) (cache : KeyCache)
      (signal : CancelSignal) :
      Reused session (later.sign registry config oracle memory request cache signal).session

theorem reused_eq {session later : Session} (used : ¬ session.Fresh)
    (reused : session.Reused later) : later = session := by
  induction reused with
  | start => rfl
  | again _ registry config oracle memory request cache signal ih => rw [ih, sign_used used]

variable {σ : Type} {session : Session} {registry : Registry} {config : SigningConfig} {oracle : Oracle σ}
  {memory : σ} {request : SigningRequest} {cache : KeyCache} {signal : CancelSignal}

/-- In whatever phase an attempt leaves a session, its history says so. -/
theorem sign_tracks (tracks : session.Tracks) :
    (session.sign registry config oracle memory request cache signal).session.Tracks := by
  by_cases fresh : session.Fresh
  case neg =>
    rw [sign_used fresh]
    exact tracks
  by_cases successful : ∃ signed,
      (session.sign registry config oracle memory request cache signal).result = some (.ok signed)
  · obtain ⟨signed, returned⟩ := successful
    obtain ⟨_, _, _, _, _, _, entered, _⟩ := sign_ok returned
    rw [entered]
    exact tracks.through _
  · obtain ⟨phases, stop, _, outcome⟩ := sign_ends fresh fun signed returned => successful ⟨signed, returned⟩
    cases stop with
    | failed failure =>
      rw [outcome.2]
      exact tracks.through _
    | stalled =>
      rw [outcome.2]
      exact tracks.through _

theorem history_of_signed {signed : SignedTransaction}
    (returned : (({} : Session).sign registry config oracle memory request cache signal).result = some (.ok signed)) :
    (({} : Session).sign registry config oracle memory request cache signal).session.history =
      Phase.course request.inputs.length := by
  obtain ⟨_, _, _, _, _, _, entered, _⟩ := sign_ok returned
  rw [entered, history_through, Phase.course_eq_append_done, ← List.append_assoc]
  rfl

theorem history_of_failed {failure : Failure}
    (returned : (({} : Session).sign registry config oracle memory request cache signal).result =
      some (.error failure)) :
    let attempt := ({} : Session).sign registry config oracle memory request cache signal
    ∃ phases, attempt.session.history = phases ++ [.failed failure.code] ∧
      LeftWith request cache attempt.cache phases failure.code := by
  obtain ⟨phases, entered, ends⟩ := sign_error fresh_default returned
  refine ⟨.building :: phases, ?_, ?_⟩
  · rw [entered, history_through]
    rfl
  generalize (({} : Session).sign registry config oracle memory request cache signal).exchanges = calls at ends
  cases ends with
  | refused code => exact leftWith_building (.inl code)
  | unserved _ reason => exact leftWith_building (.inr reason)
  | broken ready breaks => exact ready.leftWith breaks

/-- The phases of a new session from beginning to end, however the oracle behaves and whenever the request is
cancelled. Further attempts are refused without a call and change nothing. -/
theorem sign_follows_course (registry : Registry) (config : SigningConfig) (oracle : Oracle σ) (memory : σ)
    (request : SigningRequest) (cache : KeyCache) (signal : CancelSignal)
    {result : Except Failure SignedTransaction}
    (returned : (({} : Session).sign registry config oracle memory request cache signal).result = some result) :
    let attempt := ({} : Session).sign registry config oracle memory request cache signal
    (attempt.session.history = Phase.course request.inputs.length ↔ ∃ signed, result = .ok signed) ∧
      (∀ failure, result = .error failure → ∃ phases,
        attempt.session.history = phases ++ [.failed failure.code] ∧
          LeftWith request cache attempt.cache phases failure.code ∧
          (phases ≠ [.building] → failure.code ≠ .internal ∧ failure.code ≠ .missingRequiredField ∧
            failure.code ≠ .unsupportedScriptType)) ∧
      attempt.session.history.getLast? = some attempt.session.phase ∧
      ∀ later, attempt.session.Reused later → ∀ {τ : Type} (registry : Registry) (config : SigningConfig)
        (oracle : Oracle τ) (memory : τ) (request : SigningRequest) (cache : KeyCache) (signal : CancelSignal),
        later.sign registry config oracle memory request cache signal =
          ⟨some (.error (.plain .internal "Signing session already used")), attempt.session, memory, signal,
            cache, []⟩ := by
  intro attempt
  have outcome : (∃ signed, result = .ok signed ∧
        attempt.session.history = Phase.course request.inputs.length) ∨
      ∃ failure phases, result = .error failure ∧
        attempt.session.history = phases ++ [.failed failure.code] ∧
          LeftWith request cache attempt.cache phases failure.code := by
    cases result with
    | ok signed => exact .inl ⟨signed, rfl, history_of_signed returned⟩
    | error failure =>
      obtain ⟨phases, history, leaves⟩ := history_of_failed returned
      exact .inr ⟨failure, phases, rfl, history, leaves⟩
  have tracks : attempt.session.Tracks := sign_tracks rfl
  have closed : attempt.session.phase.isTerminal = true := by
    rcases outcome with ⟨_, _, history⟩ | ⟨failure, phases, _, history, _⟩
    · rw [Tracks, history, Phase.course_eq_append_done, List.getLast?_concat] at tracks
      rw [← Option.some.inj tracks]
      rfl
    · rw [Tracks, history, List.getLast?_concat] at tracks
      rw [← Option.some.inj tracks]
      rfl
  refine ⟨⟨?_, ?_⟩, ?_, tracks, ?_⟩
  · intro whole
    rcases outcome with ⟨signed, same, _⟩ | ⟨failure, phases, _, history, _⟩
    · exact ⟨signed, same⟩
    · have last := (history.symm.trans whole).trans (Phase.course_eq_append_done _)
      cases (List.append_inj' last rfl).2
  · rintro ⟨signed, rfl⟩
    exact history_of_signed returned
  · rintro failure rfl
    rcases outcome with ⟨_, other, _⟩ | ⟨cause, phases, same, history, leaves⟩
    · cases other
    · cases same
      refine ⟨phases, history, leaves, fun further => ?_⟩
      obtain ⟨left, later, allowed⟩ := leaves.later further
      exact allowed.code_ne later
  · intro later reused τ registry config oracle memory request cache signal
    have used : ¬ attempt.session.Fresh := by
      rintro ⟨_, building⟩
      rw [building] at closed
      cases closed
    rw [reused_eq used reused, sign_used used]

theorem sign_follows_course_sample :
    (({} : Session).sign .builtin Sample.config Sample.oracle () Sample.request Sample.cache
      .armed).session.history = Phase.course Sample.request.inputs.length := by
  obtain ⟨signed, returned⟩ := Sample.signs
  have course := sign_follows_course .builtin Sample.config Sample.oracle () Sample.request Sample.cache .armed
    returned
  exact course.1.mpr ⟨signed, rfl⟩

end Session

end CoinSpend
