import Mathlib.Tactic.Common

/-!
# Computations that log what they do

`Logged ε φ α` is a computation that logs actions of type `ε` and ends in a value or in a fault.
What was done before a fault stays done.

`Ends x Q` says that `x` ends without a fault, and that `Q` holds of its log and its value: the
weakest precondition of `Q`.

* `ends_bind`: the rule of composition;
* `Ends.log_bind`: the log of a sequence whose second part may fault;
* `Agree`: two computations that log the same and end alike; `Agree.bind` is its rule of
  composition.
-/

namespace Gs101

universe u

/-- A log, oldest first, and how the computation ended. -/
structure Logged (ε φ : Type*) (α : Type u) where
  log : List ε
  outcome : Except φ α

namespace Logged

variable {ε φ : Type*} {α β : Type u}

instance : Monad (Logged ε φ) where
  pure a := ⟨[], .ok a⟩
  bind x f :=
    match x.outcome with
    | .ok a => ⟨x.log ++ (f a).log, (f a).outcome⟩
    | .error e => ⟨x.log, .error e⟩

/-- Do `e`, and answer `a`. -/
def emit (e : ε) (a : α) : Logged ε φ α := ⟨[e], .ok a⟩

/-- The computation ends without a fault, with a log and a value of which `Q` holds. -/
def Ends (x : Logged ε φ α) (Q : List ε → α → Prop) : Prop := ∃ a, x.outcome = .ok a ∧ Q x.log a

@[simp] theorem ends_pure {a : α} {Q : List ε → α → Prop} :
    Ends (pure a : Logged ε φ α) Q ↔ Q [] a := by
  constructor
  · rintro ⟨b, hb, hq⟩
    cases hb
    exact hq
  · intro hq
    exact ⟨a, rfl, hq⟩

@[simp] theorem ends_emit {e : ε} {a : α} {Q : List ε → α → Prop} :
    Ends (emit e a : Logged ε φ α) Q ↔ Q [e] a := by
  constructor
  · rintro ⟨b, hb, hq⟩
    cases hb
    exact hq
  · intro hq
    exact ⟨a, rfl, hq⟩

theorem Ends.mono {x : Logged ε φ α} {P Q : List ε → α → Prop} (h : Ends x P)
    (hpq : ∀ l a, P l a → Q l a) : Ends x Q := by
  obtain ⟨a, ha, hp⟩ := h
  exact ⟨a, ha, hpq _ _ hp⟩

theorem bind_of_ok {x : Logged ε φ α} {a : α} (h : x.outcome = .ok a) (f : α → Logged ε φ β) :
    x >>= f = ⟨x.log ++ (f a).log, (f a).outcome⟩ := by
  show (match x.outcome with
    | .ok a => (⟨x.log ++ (f a).log, (f a).outcome⟩ : Logged ε φ β)
    | .error e => ⟨x.log, .error e⟩) = _
  rw [h]

theorem bind_of_error {x : Logged ε φ α} {e : φ} (h : x.outcome = .error e)
    (f : α → Logged ε φ β) : x >>= f = ⟨x.log, .error e⟩ := by
  show (match x.outcome with
    | .ok a => (⟨x.log ++ (f a).log, (f a).outcome⟩ : Logged ε φ β)
    | .error e => ⟨x.log, .error e⟩) = _
  rw [h]

/-- What was logged stays logged. -/
theorem log_prefix_bind (x : Logged ε φ α) (f : α → Logged ε φ β) : x.log <+: (x >>= f).log := by
  cases hx : x.outcome with
  | ok a =>
    rw [bind_of_ok hx]
    exact List.prefix_append _ _
  | error _ =>
    have hlog : (x >>= f).log = x.log := congrArg Logged.log (bind_of_error hx f)
    exact hlog ▸ List.prefix_rfl

/-- What is made of a value is not logged. -/
theorem log_bind_pure (x : Logged ε φ α) (g : α → β) : (x >>= fun a => pure (g a)).log = x.log := by
  cases hx : x.outcome with
  | ok a =>
    rw [bind_of_ok hx]
    exact List.append_nil _
  | error _ => rw [bind_of_error hx]

theorem mem_log_bind {x : Logged ε φ α} {e : ε} (h : e ∈ x.log) (f : α → Logged ε φ β) :
    e ∈ (x >>= f).log :=
  (log_prefix_bind x f).subset h

/-- A sequence that ends without a fault, in its parts. -/
theorem of_outcome_bind {x : Logged ε φ α} {f : α → Logged ε φ β} {b : β}
    (h : (x >>= f).outcome = .ok b) : ∃ a, x.outcome = .ok a ∧ (f a).outcome = .ok b := by
  cases hx : x.outcome with
  | ok a =>
    rw [bind_of_ok hx] at h
    exact ⟨a, rfl, h⟩
  | error e =>
    rw [bind_of_error hx] at h
    cases h

/-- The rule of composition: the second part adds to the log of the first. -/
theorem ends_bind {x : Logged ε φ α} {f : α → Logged ε φ β} {Q : List ε → β → Prop} :
    Ends (x >>= f) Q ↔ Ends x fun l a => Ends (f a) fun l' b => Q (l ++ l') b := by
  cases h : x.outcome with
  | ok a =>
    rw [bind_of_ok h]
    constructor
    · rintro ⟨b, hb, hq⟩
      exact ⟨a, h, b, hb, hq⟩
    · rintro ⟨a₁, ha, b, hb, hq⟩
      rw [h] at ha
      cases ha
      exact ⟨b, hb, hq⟩
  | error e =>
    rw [bind_of_error h]
    constructor
    · rintro ⟨b, hb, -⟩
      cases hb
    · rintro ⟨a, ha, -⟩
      rw [h] at ha
      cases ha

/-- The log of a sequence, whether or not its second part faults. -/
theorem Ends.log_bind {x : Logged ε φ α} {P : List ε → α → Prop} (h : Ends x P)
    (f : α → Logged ε φ β) : ∃ a, P x.log a ∧ (x >>= f).log = x.log ++ (f a).log := by
  obtain ⟨a, ha, hp⟩ := h
  exact ⟨a, hp, by rw [bind_of_ok ha]⟩

/-! ### Two computations -/

variable {α' β' : Type u} {R : α → α' → Prop}

/-- The same fault, or two values that `R` relates. -/
inductive EndAlike (R : α → α' → Prop) : Except φ α → Except φ α' → Prop
  | ok {a : α} {a' : α'} (h : R a a') : EndAlike R (.ok a) (.ok a')
  | error (e : φ) : EndAlike R (.error e) (.error e)

theorem EndAlike.bind {x : Except φ α} {x' : Except φ α'} {f : α → Except φ β}
    {f' : α' → Except φ β'} {Q : β → β' → Prop} (h : EndAlike R x x')
    (hf : ∀ a a', R a a' → EndAlike Q (f a) (f' a')) : EndAlike Q (x >>= f) (x' >>= f') := by
  cases h with
  | ok h => exact hf _ _ h
  | error e => exact .error e

/-- The two log the same and end alike. -/
structure Agree (R : α → α' → Prop) (x : Logged ε φ α) (x' : Logged ε φ α') : Prop where
  log : x.log = x'.log
  outcome : EndAlike R x.outcome x'.outcome

theorem Agree.pure {a : α} {a' : α'} (h : R a a') :
    Agree R (pure a : Logged ε φ α) (Pure.pure a') :=
  ⟨rfl, .ok h⟩

theorem Agree.refl {R : α → α → Prop} (x : Logged ε φ α) (h : ∀ a, R a a) : Agree R x x := by
  refine ⟨rfl, ?_⟩
  cases x.outcome with
  | ok a => exact .ok (h a)
  | error e => exact .error e

theorem Agree.mono {R' : α → α' → Prop} {x : Logged ε φ α} {x' : Logged ε φ α'} (h : Agree R x x')
    (hr : ∀ a a', R a a' → R' a a') : Agree R' x x' := by
  obtain ⟨log, outcome⟩ := x
  obtain ⟨log', outcome'⟩ := x'
  obtain ⟨hlog, houtcome⟩ := h
  refine ⟨hlog, ?_⟩
  cases houtcome with
  | ok h => exact .ok (hr _ _ h)
  | error e => exact .error e

/-- The rule of composition: the second parts may rely on the values of the first ones. -/
theorem Agree.bind {x : Logged ε φ α} {x' : Logged ε φ α'} {f : α → Logged ε φ β}
    {f' : α' → Logged ε φ β'} {Q : β → β' → Prop} (h : Agree R x x')
    (hf : ∀ a a', R a a' → Agree Q (f a) (f' a')) : Agree Q (x >>= f) (x' >>= f') := by
  obtain ⟨log, outcome⟩ := x
  obtain ⟨log', outcome'⟩ := x'
  obtain ⟨rfl, houtcome⟩ := h
  cases houtcome with
  | ok h =>
    obtain ⟨hlog, hend⟩ := hf _ _ h
    exact ⟨congrArg (log ++ ·) hlog, hend⟩
  | error e => exact ⟨rfl, .error e⟩

/-- One first part, and two second parts. -/
theorem Agree.bind_same (x : Logged ε φ α) {f : α → Logged ε φ β} {f' : α → Logged ε φ β'}
    {Q : β → β' → Prop} (hf : ∀ a, Agree Q (f a) (f' a)) : Agree Q (x >>= f) (x >>= f') :=
  (Agree.refl x fun _ => rfl).bind fun a _ h => h ▸ hf a

end Logged

end Gs101
