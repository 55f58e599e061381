import Mathlib.Data.List.Forall2
import Mathlib.Data.List.GetD
import Mathlib.Data.List.Induction
import Mathlib.Data.List.Nodup

/-! Lists that are related item by item, from the point of view of one place or one item, and lists whose repetitions
are taken out. -/
namespace CoinSpend

variable {α β : Type} {relation : α → β → Prop} {left other : List α} {right : List β}

theorem forall₂_at (related : List.Forall₂ relation left right) {index : Nat} {item : β}
    (found : right[index]? = some item) : ∃ other, left[index]? = some other ∧ relation other item := by
  induction related generalizing index with
  | nil => cases found
  | cons first _ ih =>
    cases index with
    | zero =>
      cases found
      exact ⟨_, rfl, first⟩
    | succ index => exact ih found

theorem forall₂_of_at (length : left.length = right.length)
    (each : ∀ (index : Nat) item, right[index]? = some item →
      ∃ other, left[index]? = some other ∧ relation other item) :
    List.Forall₂ relation left right := by
  induction right generalizing left with
  | nil =>
    cases List.length_eq_zero_iff.mp length
    exact .nil
  | cons item right ih =>
    cases left with
    | nil => cases length
    | cons other left =>
      obtain ⟨_, same, first⟩ := each 0 item rfl
      cases same
      exact .cons first (ih (Nat.succ.inj length) fun index next found => each (index + 1) next found)

theorem partner_of_mem (related : List.Forall₂ relation left right) {item : β} (member : item ∈ right) :
    ∃ other ∈ left, relation other item := by
  obtain ⟨index, found⟩ := List.mem_iff_getElem?.mp member
  obtain ⟨other, present, holds⟩ := forall₂_at related found
  exact ⟨other, List.mem_of_getElem? present, holds⟩

theorem exists_forall₂ {items : List α} (each : ∀ item ∈ items, ∃ other, relation item other) :
    ∃ others, List.Forall₂ relation items others := by
  induction items with
  | nil => exact ⟨[], .nil⟩
  | cons item items ih =>
    obtain ⟨other, holds⟩ := each item List.mem_cons_self
    obtain ⟨others, related⟩ := ih fun next member => each next (List.mem_cons_of_mem _ member)
    exact ⟨other :: others, .cons holds related⟩

theorem eraseDups_concat_of_mem [BEq α] [LawfulBEq α] {items : List α} {item : α} (member : item ∈ items) :
    (items ++ [item]).eraseDups = items.eraseDups := by
  have none : [item].removeAll items = [] := by
    rw [List.removeAll, List.filter_singleton, List.elem_eq_true_of_mem member]
    rfl
  rw [List.eraseDups_append, none, List.eraseDups_nil, List.append_nil]

theorem eraseDups_concat_of_not_mem [BEq α] [LawfulBEq α] {items : List α} {item : α} (new : item ∉ items) :
    (items ++ [item]).eraseDups = items.eraseDups ++ [item] := by
  have kept : [item].removeAll items = [item] := by
    have absent : items.elem item = false := by simpa using new
    rw [List.removeAll, List.filter_singleton, absent]
    rfl
  rw [List.eraseDups_append, kept]
  rfl

theorem nodup_eraseDups [BEq α] [LawfulBEq α] (items : List α) : items.eraseDups.Nodup := by
  induction items using List.reverseRecOn with
  | nil => exact List.nodup_nil
  | append_singleton items item ih =>
    by_cases member : item ∈ items
    · rwa [eraseDups_concat_of_mem member]
    · rw [eraseDups_concat_of_not_mem member, List.nodup_append]
      refine ⟨ih, List.nodup_singleton item, ?_⟩
      rintro first old _ single rfl
      rw [List.mem_singleton.mp single, List.mem_eraseDups] at old
      exact absurd old member

/-- In a list without repetitions an item and its place determine each other. -/
theorem idxOf?_eq_some_iff_of_nodup [BEq α] [LawfulBEq α] {items : List α} (distinct : items.Nodup) {item : α}
    {index : Nat} (default : α) :
    items.idxOf? item = some index ↔ item = items.getD index default ∧ index < items.length := by
  rw [List.idxOf?_eq_some_iff]
  constructor
  · rintro ⟨inside, here, _⟩
    rw [List.getD_eq_getElem items default inside]
    exact ⟨here.symm, inside⟩
  · rintro ⟨here, inside⟩
    rw [List.getD_eq_getElem items default inside] at here
    refine ⟨inside, here.symm, fun earlier before same => ?_⟩
    have coincide : earlier = index := (List.Nodup.getElem_inj_iff distinct).mp (same.trans here)
    omega

/-- A reader that undoes a writer on single items undoes it on whole lists. -/
theorem mapM_eq_some_iff {read : α → Option β} {write : β → α} {fits : β → Prop}
    (undoes : ∀ item value, read item = some value ↔ item = write value ∧ fits value) :
    left.mapM read = some right ↔ left = right.map write ∧ ∀ value ∈ right, fits value := by
  induction left generalizing right with
  | nil =>
    constructor
    · intro done
      cases done
      exact ⟨rfl, by simp⟩
    · rintro ⟨same, _⟩
      rw [List.map_eq_nil_iff.mp same.symm]
      rfl
  | cons item items ih =>
    simp only [List.mapM_cons, Option.bind_eq_bind, Option.bind_eq_some_iff]
    constructor
    · rintro ⟨value, first, values, others, done⟩
      cases done
      obtain ⟨rfl, fitting⟩ := (undoes _ _).mp first
      obtain ⟨rfl, rest⟩ := ih.mp others
      exact ⟨rfl, List.forall_mem_cons.mpr ⟨fitting, rest⟩⟩
    · rintro ⟨same, fitting⟩
      obtain ⟨value, values, rfl, rfl, rfl⟩ := List.map_eq_cons_iff.mp same.symm
      obtain ⟨own, rest⟩ := List.forall_mem_cons.mp fitting
      exact ⟨value, (undoes _ _).mpr ⟨rfl, own⟩, values, ih.mpr ⟨rfl, rest⟩, rfl⟩

/-- Where one item at most is of use, it is found whatever stands before it. -/
theorem findSome?_eq_some_iff_of_exclusive {read : α → Option β} {value : β}
    (exclusive : left.Pairwise fun first second => read first = none ∨ read second = none) :
    left.findSome? read = some value ↔ ∃ item ∈ left, read item = some value := by
  induction left with
  | nil => simp
  | cons item items ih =>
    obtain ⟨apart, rest⟩ := List.pairwise_cons.mp exclusive
    rw [List.findSome?_cons, List.exists_mem_cons_iff]
    cases own : read item with
    | none => simp [ih rest]
    | some found =>
      constructor
      · exact .inl
      · rintro (same | ⟨next, member, same⟩)
        · exact same
        · rcases apart next member with none | none
          · cases own.symm.trans none
          · cases same.symm.trans none

theorem findSome?_perm {read : α → Option β} (perm : left.Perm other)
    (exclusive : left.Pairwise fun first second => read first = none ∨ read second = none) :
    left.findSome? read = other.findSome? read := by
  have kept := (perm.pairwise_iff fun either => either.symm).mp exclusive
  ext value
  rw [findSome?_eq_some_iff_of_exclusive exclusive, findSome?_eq_some_iff_of_exclusive kept]
  simp only [perm.mem_iff]

/-- A relation that factors through a function does so for whole lists. -/
theorem forall₂_factor {γ : Type} {finer : α → γ → Prop} {coarse : γ → β}
    (factors : ∀ item other, relation item other → ∃ middle, finer item middle ∧ coarse middle = other)
    (related : List.Forall₂ relation left right) :
    ∃ middle, List.Forall₂ finer left middle ∧ middle.map coarse = right := by
  induction related with
  | nil => exact ⟨[], .nil, rfl⟩
  | cons holds _ ih =>
    obtain ⟨middle, first, same⟩ := factors _ _ holds
    obtain ⟨rest, later, others⟩ := ih
    exact ⟨middle :: rest, .cons first later, by rw [List.map_cons, same, others]⟩

end CoinSpend
