import Mathlib.Data.List.Forall2
import CoinSpend.Failure

/-! Sequences of checks: when one succeeds, and which codes it can fail with. -/
namespace CoinSpend

theorem bind_eq_ok {ε α β : Type} {check : Except ε α} {next : α → Except ε β} {result : β} :
    (check >>= next) = .ok result ↔ ∃ value, check = .ok value ∧ next value = .ok result := by
  cases check with
  | error error =>
    constructor
    · intro failed
      cases failed
    · rintro ⟨_, failed, _⟩
      cases failed
  | ok value =>
    constructor
    · intro done
      exact ⟨value, rfl, done⟩
    · rintro ⟨_, same, done⟩
      cases same
      exact done

theorem map_eq_bind {ε α β : Type} (change : α → β) (check : Except ε α) :
    check.map change = check >>= fun value => .ok (change value) := by
  cases check <;> rfl

theorem map_eq_ok {ε α β : Type} {change : α → β} {check : Except ε α} {result : β} :
    check.map change = .ok result ↔ ∃ value, check = .ok value ∧ change value = result := by
  cases check with
  | error error =>
    constructor
    · intro failed
      cases failed
    · rintro ⟨_, failed, _⟩
      cases failed
  | ok value =>
    constructor
    · intro done
      cases done
      exact ⟨value, rfl, rfl⟩
    · rintro ⟨_, same, rfl⟩
      cases same
      rfl

theorem mapError_eq_ok {ε ε' α : Type} {change : ε → ε'} {check : Except ε α} {value : α} :
    check.mapError change = .ok value ↔ check = .ok value := by
  cases check with
  | error cause =>
    constructor <;> intro failed <;> cases failed
  | ok found =>
    constructor <;> intro same <;> cases same <;> rfl

theorem mapError_eq_error {ε ε' α : Type} {change : ε → ε'} {check : Except ε α} {error : ε'} :
    check.mapError change = .error error ↔ ∃ cause, check = .error cause ∧ change cause = error := by
  cases check with
  | error cause =>
    constructor
    · intro failed
      cases failed
      exact ⟨cause, rfl, rfl⟩
    · rintro ⟨_, same, rfl⟩
      cases same
      rfl
  | ok found =>
    constructor
    · intro failed
      cases failed
    · rintro ⟨_, failed, _⟩
      cases failed

theorem toOption_eq_some_iff {ε α : Type} {check : Except ε α} {value : α} :
    check.toOption = some value ↔ check = .ok value := by
  cases check with
  | error cause =>
    constructor <;> intro failed <;> cases failed
  | ok found =>
    constructor <;> intro same <;> cases same <;> rfl

theorem mapM_eq_ok {ε α β : Type} {check : α → Except ε β} {items : List α} {values : List β} :
    items.mapM check = .ok values ↔ (items.mapM fun item => (check item).toOption) = some values := by
  induction items generalizing values with
  | nil => simp [pure, Except.pure]
  | cons item items ih =>
    simp only [List.mapM_cons, bind_eq_ok, Option.bind_eq_bind, Option.bind_eq_some_iff, toOption_eq_some_iff, ih,
      pure, Except.pure, Except.ok.injEq, Option.some.injEq]

theorem mapM_eq_ok_iff_forall₂ {ε α β : Type} {check : α → Except ε β} {items : List α} {values : List β} :
    items.mapM check = .ok values ↔ List.Forall₂ (fun item value => check item = .ok value) items values := by
  induction items generalizing values with
  | nil => simp [pure, Except.pure, eq_comm]
  | cons item items ih =>
    simp only [List.mapM_cons, bind_eq_ok, ih, List.forall₂_cons_left_iff]
    constructor
    · rintro ⟨value, first, others, rest, same⟩
      cases same
      exact ⟨value, others, first, rest, rfl⟩
    · rintro ⟨value, others, first, rest, rfl⟩
      exact ⟨value, first, others, rest, rfl⟩

/-- Every failure of the check has a code of the given kind. -/
def FailsWith {α : Type} (kind : Failure.Code → Bool) (check : Except Failure α) : Prop :=
  ∀ failure, check = .error failure → kind failure.code = true

namespace FailsWith

variable {α β : Type} {kind : Failure.Code → Bool}

theorem ok (value : α) : FailsWith kind (.ok value) := by
  intro failure failed
  contradiction

theorem error {failure : Failure} (code : kind failure.code = true) :
    FailsWith kind (.error failure : Except Failure α) := by
  intro other failed
  cases failed
  exact code

theorem bind {check : Except Failure α} {next : α → Except Failure β} (first : FailsWith kind check)
    (second : ∀ value, FailsWith kind (next value)) : FailsWith kind (check >>= next) := by
  cases check with
  | error failure => exact error (first failure rfl)
  | ok value => exact second value

theorem mapError {ε : Type} {check : Except ε α} {change : ε → Failure}
    (codes : ∀ cause, check = .error cause → kind (change cause).code = true) :
    FailsWith kind (check.mapError change) := by
  intro failure failed
  obtain ⟨cause, broken, rfl⟩ := mapError_eq_error.mp failed
  exact codes cause broken

/-- Details say where a check failed and leave the code as it is. -/
theorem withDetails {check : Except Failure α} (details : String) (codes : FailsWith kind check) :
    FailsWith kind (check.mapError (·.withDetails details)) :=
  mapError fun cause failed => codes cause failed

end FailsWith

end CoinSpend
