import Mathlib.Tactic.Common

/-!
# Total correctness of computations that may fail

For `x : Except ε α`, `Returns x Q` says that `x` ends without an error, in a value of which `Q`
holds: the weakest precondition of `Q`, and total, unlike "if `x` returns, then `Q`".

* `returns_bind`: what a sequence needs is what its first part needs for the second to return;
* `returns_congr`: only the values that the computation really returns matter;
* `ok_bind`, `returns_bind_and`, `of_bind_eq_ok`: a sequence in its parts.
-/

namespace Gs101

namespace Fallible

universe u

variable {ε : Type*} {α β : Type u}

/-- The computation ends without an error, in a value of which `Q` holds. -/
def Returns (x : Except ε α) (Q : α → Prop) : Prop := ∃ a, x = .ok a ∧ Q a

@[simp] theorem returns_ok {a : α} {Q : α → Prop} :
    Returns (.ok a : Except ε α) Q ↔ Q a := by
  constructor
  · rintro ⟨b, hb, hq⟩
    cases hb
    exact hq
  · intro hq
    exact ⟨a, rfl, hq⟩

@[simp] theorem returns_pure {a : α} {Q : α → Prop} :
    Returns (pure a : Except ε α) Q ↔ Q a := returns_ok

@[simp] theorem returns_error {e : ε} {Q : α → Prop} :
    ¬ Returns (.error e : Except ε α) Q := by
  rintro ⟨a, ha, -⟩
  cases ha

theorem ok_bind (a : α) (f : α → Except ε β) : (Except.ok a >>= f) = f a := rfl

/-- The rule of composition. -/
theorem returns_bind {x : Except ε α} {f : α → Except ε β} {Q : β → Prop} :
    Returns (x >>= f) Q ↔ Returns x fun a => Returns (f a) Q := by
  cases x with
  | error e => exact iff_of_false returns_error returns_error
  | ok a =>
    show Returns (f a) Q ↔ _
    rw [returns_ok]

/-- Only the values that the computation returns matter. -/
theorem returns_congr {x : Except ε α} {P Q : α → Prop} (h : ∀ a, x = .ok a → (P a ↔ Q a)) :
    Returns x P ↔ Returns x Q := by
  constructor
  · rintro ⟨a, ha, hp⟩
    exact ⟨a, ha, (h a ha).mp hp⟩
  · rintro ⟨a, ha, hq⟩
    exact ⟨a, ha, (h a ha).mpr hq⟩

/-- A sequence returns if and only if its parts do, when it does not depend on the value of the
first whether the second returns. -/
theorem returns_bind_and {x : Except ε α} {f : α → Except ε β} {Q : β → Prop} {p q : Prop}
    (hx : (Returns x fun _ => True) ↔ p) (hf : ∀ a, x = .ok a → (Returns (f a) Q ↔ q)) :
    Returns (x >>= f) Q ↔ p ∧ q := by
  rw [returns_bind, returns_congr hf, ← hx]
  constructor
  · rintro ⟨a, ha, hq⟩
    exact ⟨⟨a, ha, trivial⟩, hq⟩
  · rintro ⟨⟨a, ha, -⟩, hq⟩
    exact ⟨a, ha, hq⟩

/-- What a sequence returns, its second part returned. -/
theorem of_bind_eq_ok {x : Except ε α} {f : α → Except ε β} {b : β} (h : x >>= f = .ok b) :
    ∃ a, x = .ok a ∧ f a = .ok b := by
  cases x with
  | error e => cases h
  | ok a => exact ⟨a, rfl, h⟩

end Fallible

end Gs101
