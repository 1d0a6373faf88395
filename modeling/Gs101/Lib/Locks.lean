import Mathlib.Logic.Function.Basic
import Mathlib.Logic.Relation
import Mathlib.Tactic.Common

/-!
# Locks, and threads that wait for one another

A resource is a mutex, or the end of a thread that another thread joins; the thread itself is the
owner of its end as long as it runs.

* `Waiting`: what each thread waits for and who owns it; `Edge`, `Cycle`;
* `not_cycle_of_order`: there is no cycle if, along every chain of two waiting threads, the
  resources come in a fixed order;
* `Guards`: the owners of the locks are what the program counters say, and how `acquire`, `release`
  and a step that touches no lock keep it so.
-/

namespace Gs101

namespace Locks

variable {T R : Type*}

/-- What each thread waits for, and who owns it. -/
structure Waiting (T R : Type*) where
  waits : T → Option R
  owner : R → Option T

namespace Waiting

variable (w : Waiting T R)

/-- One thread waits for what another owns. -/
def Edge (t t' : T) : Prop := ∃ r, w.waits t = some r ∧ w.owner r = some t'

/-- Some threads wait for one another in a circle. -/
def Cycle : Prop := ∃ t, Relation.TransGen w.Edge t t

variable {w}

theorem cycle_of_mutual {t t' : T} (h : w.Edge t t') (h' : w.Edge t' t) : w.Cycle :=
  ⟨t, Relation.TransGen.tail (Relation.TransGen.single h) h'⟩

/-- A thread that waits, and whose owner waits in turn, waits for the greater resource. -/
def Ordered (w : Waiting T R) (ρ : R → ℕ) : Prop :=
  ∀ t t' r r', w.waits t = some r → w.owner r = some t' → w.waits t' = some r' → ρ r' < ρ r

/-- Along a chain the resources descend. -/
theorem descends {ρ : R → ℕ} (h : w.Ordered ρ) {t t' : T} (hc : Relation.TransGen w.Edge t t')
    {r r' : R} (hr : w.waits t = some r) (hr' : w.waits t' = some r') : ρ r' < ρ r := by
  induction hc generalizing r' with
  | single he =>
    obtain ⟨q, hq, ho⟩ := he
    obtain rfl : q = r := Option.some.inj (hq.symm.trans hr)
    exact h _ _ _ _ hr ho hr'
  | tail _ he ih =>
    obtain ⟨q, hq, ho⟩ := he
    have hlast : ρ r' < ρ q := h _ _ _ _ hq ho hr'
    have hinit : ρ q < ρ r := ih hq
    omega

/-- The lock order excludes circles. -/
theorem not_cycle_of_order {ρ : R → ℕ} (h : w.Ordered ρ) : ¬ w.Cycle := by
  rintro ⟨t, hc⟩
  obtain ⟨u, ⟨r, hr, -⟩, -⟩ := (Relation.TransGen.head'_iff).1 hc
  have hself : ρ r < ρ r := descends h hc hr hr
  omega

end Waiting

/-! ### Owners and program counters -/

variable {L : Type*}

/-- A lock is owned by the thread whose program counter is in a stretch that the lock guards. -/
def Guards (owner : L → Option T) (holds : T → L → Prop) : Prop :=
  ∀ l t, owner l = some t ↔ holds t l

theorem Guards.exclusive {owner : L → Option T} {holds : T → L → Prop} (h : Guards owner holds)
    {l : L} {t t' : T} (ht : holds t l) (ht' : holds t' l) : t = t' :=
  Option.some.inj (((h l t).2 ht).symm.trans ((h l t').2 ht'))

/-- A step of `t` that touches no lock. -/
theorem Guards.move {owner : L → Option T} {holds holds' : T → L → Prop} (h : Guards owner holds)
    (hsame : ∀ t l, holds' t l ↔ holds t l) : Guards owner holds' := fun l t =>
  (h l t).trans (hsame t l).symm

variable [DecidableEq L]

/-- `t` takes a free lock. -/
theorem Guards.acquire {owner : L → Option T} {holds holds' : T → L → Prop}
    (h : Guards owner holds) {t : T} {l : L} (hfree : owner l = none)
    (ht : ∀ k, holds' t k ↔ holds t k ∨ k = l)
    (hne : ∀ u, u ≠ t → ∀ k, holds' u k ↔ holds u k) :
    Guards (Function.update owner l (some t)) holds' := by
  intro k u
  have hnot : ¬ holds u l := fun hu => by
    have := (h l u).2 hu
    rw [hfree] at this
    cases this
  by_cases hk : k = l
  · subst hk
    rw [Function.update_self]
    by_cases hu : u = t
    · subst hu
      simp [ht]
    · rw [hne u hu]
      exact iff_of_false (fun he => hu (Option.some.inj he).symm) hnot
  · rw [Function.update_of_ne hk, h k u]
    by_cases hu : u = t
    · subst hu
      simp [ht, hk]
    · exact (hne u hu k).symm

/-- `t` gives a lock up. -/
theorem Guards.release {owner : L → Option T} {holds holds' : T → L → Prop}
    (h : Guards owner holds) {t : T} {l : L} (hl : holds t l)
    (ht : ∀ k, holds' t k ↔ holds t k ∧ k ≠ l)
    (hne : ∀ u, u ≠ t → ∀ k, holds' u k ↔ holds u k) :
    Guards (Function.update owner l none) holds' := by
  intro k u
  by_cases hk : k = l
  · subst hk
    rw [Function.update_self]
    refine iff_of_false (fun he => by cases he) fun hu => ?_
    by_cases hut : u = t
    · subst hut
      exact ((ht k).1 hu).2 rfl
    · exact hut (h.exclusive ((hne u hut k).1 hu) hl)
  · rw [Function.update_of_ne hk, h k u]
    by_cases hu : u = t
    · subst hu
      simp [ht, hk]
    · exact (hne u hu k).symm

end Locks

end Gs101
