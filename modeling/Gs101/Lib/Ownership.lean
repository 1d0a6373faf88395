import Mathlib.Algebra.Order.BigOperators.Group.Finset
import Mathlib.Data.Finset.Option
import Mathlib.Data.Fintype.Card

/-!
# Slots that own handles

Finitely many slots, each of which holds a handle or nothing.  `held f` is the set of handles in
the slots; `Distinct f` says that no handle sits in two slots.  The lemmas say what one assignment
to one slot does to both.
-/

namespace Gs101

namespace Ownership

variable {ι α : Type*} [Fintype ι] [DecidableEq α]

/-- The handles in the slots. -/
def held (f : ι → Option α) : Finset α := Finset.univ.biUnion fun i => (f i).toFinset

/-- No handle sits in two slots. -/
def Distinct (f : ι → Option α) : Prop := ∀ i j a, f i = some a → f j = some a → i = j

theorem mem_held {f : ι → Option α} {a : α} : a ∈ held f ↔ ∃ i, f i = some a := by
  simp [held, Option.mem_toFinset, Option.mem_def]

theorem mem_held_of_eq {f : ι → Option α} {i : ι} {a : α} (h : f i = some a) : a ∈ held f :=
  mem_held.2 ⟨i, h⟩

/-- There are at most as many handles as slots. -/
theorem card_held_le (f : ι → Option α) : (held f).card ≤ Fintype.card ι := by
  have h : ∀ i ∈ Finset.univ, (f i).toFinset.card ≤ 1 := by
    intro i _
    cases f i <;> simp
  simpa [held] using Finset.card_biUnion_le_card_mul _ _ 1 h

variable [DecidableEq ι] {f : ι → Option α} {i : ι}

/-- Emptying a slot gives up its handle, and nothing else. -/
theorem mem_held_update_none (hf : Distinct f) {a : α} :
    a ∈ held (Function.update f i none) ↔ a ∈ held f ∧ f i ≠ some a := by
  simp only [mem_held]
  constructor
  · rintro ⟨j, hj⟩
    have hji : j ≠ i := by rintro rfl; simp at hj
    rw [Function.update_of_ne hji] at hj
    exact ⟨⟨j, hj⟩, fun hi => hji (hf j i a hj hi)⟩
  · rintro ⟨⟨j, hj⟩, hi⟩
    have hji : j ≠ i := by rintro rfl; exact hi hj
    exact ⟨j, by rw [Function.update_of_ne hji]; exact hj⟩

/-- Assigning to a slot takes the new handle in and gives the old one up. -/
theorem mem_held_update_some (hf : Distinct f) {a b : α} :
    a ∈ held (Function.update f i (some b)) ↔ a = b ∨ (a ∈ held f ∧ f i ≠ some a) := by
  rw [← mem_held_update_none hf]
  simp only [mem_held]
  constructor
  · rintro ⟨j, hj⟩
    by_cases hji : j = i
    · subst hji
      rw [Function.update_self, Option.some.injEq] at hj
      exact .inl hj.symm
    · rw [Function.update_of_ne hji] at hj
      exact .inr ⟨j, by rw [Function.update_of_ne hji]; exact hj⟩
  · rintro (rfl | ⟨j, hj⟩)
    · exact ⟨i, Function.update_self ..⟩
    · have hji : j ≠ i := by rintro rfl; simp at hj
      exact ⟨j, by rw [Function.update_of_ne hji] at hj ⊢; exact hj⟩

/-- A handle that no slot holds may be put into any slot. -/
theorem distinct_update_some (hf : Distinct f) {b : α} (hb : b ∉ held f) :
    Distinct (Function.update f i (some b)) := by
  have other : ∀ j, j ≠ i → Function.update f i (some b) j = f j := fun j hj =>
    Function.update_of_ne hj _ _
  intro j k a hj hk
  by_cases hji : j = i <;> by_cases hki : k = i
  · rw [hji, hki]
  · subst hji
    rw [Function.update_self, Option.some.injEq] at hj
    rw [other k hki, ← hj] at hk
    exact absurd (mem_held_of_eq hk) hb
  · subst hki
    rw [Function.update_self, Option.some.injEq] at hk
    rw [other j hji, ← hk] at hj
    exact absurd (mem_held_of_eq hj) hb
  · rw [other j hji] at hj
    rw [other k hki] at hk
    exact hf j k a hj hk

end Ownership

end Gs101
