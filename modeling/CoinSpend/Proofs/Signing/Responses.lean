import CoinSpend.Proofs.Signing.Coupling
import CoinSpend.Proofs.Signing.Run

/-! The calls of an attempt are what the oracle was asked. Asked once more in the same order, from the memory that it
had at the start, it gives every response again and is left with the memory that it has in the end. -/
namespace CoinSpend

def Exchange.isSignature : Exchange → Bool
  | .signature .. => true
  | .publicKey .. => false

namespace Oracle

variable {σ : Type}

/-- The oracle gives the response of the call, and its memory becomes `after`. -/
def Responds (oracle : Oracle σ) (before : σ) (call : Exchange) (after : σ) : Prop :=
  match call with
  | .publicKey path response => oracle.publicKey path before = (response, after)
  | .signature path payload algorithm response => oracle.sign path payload algorithm before = (response, after)

/-- The oracle gives the responses of the calls one after another, each with the memory that the last one left. -/
inductive Replays (oracle : Oracle σ) : σ → List Exchange → σ → Prop where
  | nil {memory : σ} : Replays oracle memory [] memory
  | cons {before middle after : σ} {call : Exchange} {calls : List Exchange}
      (first : oracle.Responds before call middle) (later : Replays oracle middle calls after) :
      Replays oracle before (call :: calls) after

namespace Replays

variable {oracle : Oracle σ} {start middle finish : σ} {calls later : List Exchange} {call : Exchange}

theorem concat (replays : oracle.Replays start calls middle) (responds : oracle.Responds middle call finish) :
    oracle.Replays start (calls ++ [call]) finish := by
  induction replays with
  | nil => exact .cons responds .nil
  | cons first _ ih => exact .cons first (ih responds)

/-- The memory in the middle is what the earlier calls lead to. -/
theorem split (replays : oracle.Replays start (calls ++ later) finish) :
    ∃ middle, oracle.Replays start calls middle ∧ oracle.Replays middle later finish := by
  induction calls generalizing start with
  | nil => exact ⟨start, .nil, replays⟩
  | cons call calls ih =>
    cases replays with
    | cons first rest =>
      obtain ⟨middle, earlier, behind⟩ := ih rest
      exact ⟨middle, .cons first earlier, behind⟩

end Replays

/-- Among the calls, the one for the signature with the number `index` has these arguments, and the response is what the
oracle gives with the memory that the calls before it lead to. -/
def SignsAt (oracle : Oracle σ) (start : σ) (calls : List Exchange) (index : Nat) (path : KeyPath) (payload : Bytes)
    (algorithm : HashAlgorithm) (response : Response Answer) : Prop :=
  ∃ earlier later before after, calls = earlier ++ .signature path payload algorithm response :: later ∧
    (earlier.filter Exchange.isSignature).length = index ∧ oracle.Replays start earlier before ∧
    oracle.sign path payload algorithm before = (response, after)

/-- The signature with a number is the one behind as many others. -/
theorem split_of_signature {calls : List Exchange} {index : Nat} {call : Exchange}
    (found : (calls.filter Exchange.isSignature)[index]? = some call) : ∃ earlier later,
      calls = earlier ++ call :: later ∧ (earlier.filter Exchange.isSignature).length = index := by
  obtain ⟨inside, found⟩ := List.getElem?_eq_some_iff.mp found
  have divided := List.take_append_drop index (calls.filter Exchange.isSignature)
  rw [List.drop_eq_getElem_cons inside, found] at divided
  -- What the filter keeps in front of the call ends before the calls that it drops there.
  obtain ⟨front, behind, rfl, taken, rest⟩ := List.filter_eq_append_iff.mp divided.symm
  obtain ⟨keys, later, rfl, skipped, _⟩ := List.filter_eq_cons_iff.mp rest
  refine ⟨front ++ keys, later, (List.append_assoc ..).symm, ?_⟩
  rw [List.filter_append, taken, List.filter_eq_nil_iff.mpr skipped, List.append_nil, List.length_take_of_le inside.le]

theorem Replays.signsAt {oracle : Oracle σ} {start finish : σ} {calls : List Exchange}
    (replays : oracle.Replays start calls finish) {index : Nat} {path : KeyPath} {payload : Bytes}
    {algorithm : HashAlgorithm} {response : Response Answer}
    (found : (calls.filter Exchange.isSignature)[index]? = some (.signature path payload algorithm response)) :
    oracle.SignsAt start calls index path payload algorithm response := by
  obtain ⟨earlier, later, rfl, count⟩ := split_of_signature found
  obtain ⟨before, earlierReplays, behind⟩ := replays.split
  cases behind with
  | cons first _ => exact ⟨earlier, later, before, _, rfl, count, earlierReplays, first⟩

end Oracle

variable {σ : Type} {oracle : Oracle σ} {start : σ} {config : SigningConfig}

/-- An attempt beside itself. What its two runs have in common is true of each. -/
def replaying (oracle : Oracle σ) (start : σ) : Coupling σ σ :=
  .lockstep (fun one other => one = other ∧ oracle.Replays start one.exchanges one.oracle) <| by
    rintro one _ ⟨rfl, replays⟩ phase
    exact ⟨rfl, replays⟩

theorem replaying_sharesKeys : (replaying oracle start).SharesKeys where
  same := by
    rintro one _ ⟨rfl, _⟩
    rfl
  hit := by
    rintro one _ ⟨rfl, replays⟩
    exact ⟨rfl, replays⟩
  store := by
    rintro one _ call path key ⟨rfl, replays⟩ _ _
    exact ⟨rfl, replays⟩

theorem replaying_call {α : Type} {exchange : Oracle.Response α → Exchange} {ask : σ → Oracle.Response α × σ}
    (keeps : Exchange.Keeps exchange)
    (responds : ∀ memory, oracle.Responds memory (exchange (ask memory).1) (ask memory).2) :
    (replaying oracle start).Mirrors (Step.call config exchange ask) (Step.call config exchange ask) where
  together := by
    rintro one _ ⟨rfl, replays⟩
    cases clear : one.signal.isCancelled with
    | true =>
      rw [Step.call_cancelled clear]
      exact .stopped ⟨rfl, replays⟩
    | false =>
      rw [Step.call_started keeps clear]
      dsimp only
      rw [Step.ends_eq_leave]
      have after := replays.concat (responds one.oracle)
      exact .leave ⟨rfl, after⟩ fun _ => ⟨rfl, after⟩
  apart := fun never => never.elim

theorem replaying_run (config : SigningConfig) (registry : Registry) (request : SigningRequest) :
    (replaying oracle start).Mirrors (Signing.run oracle config registry request)
      (Signing.run oracle config registry request) :=
  Coupling.mirrors_run rfl
    (fun _ _ _ => replaying_call (Exchange.keeps_signature _ _ _) fun _ => rfl) registry request (fun _ => rfl)
    fun path => replaying_sharesKeys.mirrors (replaying_call (Exchange.keeps_publicKey path) fun _ => rfl)

namespace Session

open Signing

/-- Nothing is a call of an attempt that the oracle was not asked, and no response is another one than its own. -/
theorem sign_replays (session : Session) (registry : Registry) (config : SigningConfig) (oracle : Oracle σ) (memory : σ)
    (request : SigningRequest) (cache : KeyCache) (signal : CancelSignal) :
    let attempt := session.sign registry config oracle memory request cache signal
    oracle.Replays memory attempt.exchanges attempt.oracle := by
  intro attempt
  by_cases fresh : session.Fresh
  · have alike : (replaying oracle memory).alike ⟨memory, signal, cache, [], session⟩
        ⟨memory, signal, cache, [], session⟩ := ⟨rfl, .nil⟩
    have together := (replaying_run config registry request).together alike
    have unfolded : attempt = finish (run oracle config registry request ⟨memory, signal, cache, [], session⟩) :=
      sign_fresh fresh registry config oracle memory request cache signal
    rw [unfolded]
    generalize run oracle config registry request _ = result at together ⊢
    obtain ⟨remembered, _, _, exchanges, _⟩ := finish_final result
    rw [remembered, exchanges]
    cases together with
    | alike both => exact both.2
    | stopped both => exact both.2
    | parted never => exact never.elim
  · have unfolded : attempt = _ := sign_used fresh
    rw [unfolded]
    exact .nil

end Session

end CoinSpend
