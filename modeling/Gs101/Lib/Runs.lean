import Mathlib.Data.List.Induction
import Mathlib.Tactic.Common

/-!
# Runs of an event-driven machine

A machine is a total step function `σ → ε → σ`; everything an environment may choose (answers of
the kernel, readings of a clock) is part of the event.  A run is the fold of the step over a list
of events.

* `run`, with its composition laws;
* `Meets C s es`: every step of the run from `s` along `es` is taken in a state, and with an
  event, that `C` allows;
* `Always P s es`: `P` holds in every state the run reaches, the first one included;
* `Leads e s Q`: `e` again and again leads from `s` to a state of which `Q` holds;
* `Can A s Q`: some events that `A` allows lead there;
* `run_related`: two machines in lockstep, a relation between their states kept by every step;
* `Projects`: a machine that is seen in another one, whose invariants it has;
* `exists_entry`: where a run entered the region in which it ends;
* `not_of_lost`: what is lost for a reason that stays does not come back;
* the rules: `run_invariant`, `invariant_of_meets`, and `always_iff_meets` and
  `meets_congr_of_kept`, which turn an exact description of one step into an exact description of
  the runs.
-/

namespace Gs101

namespace Runs

variable {σ ε : Type*} (step : σ → ε → σ)

/-- The state after a list of events. -/
def run (s : σ) (es : List ε) : σ := es.foldl step s

@[simp] theorem run_nil (s : σ) : run step s [] = s := rfl

@[simp] theorem run_cons (s : σ) (e : ε) (es : List ε) :
    run step s (e :: es) = run step (step s e) es := rfl

theorem run_append (s : σ) (es fs : List ε) :
    run step s (es ++ fs) = run step (run step s es) fs := List.foldl_append

/-- Every step along `es` is one that `C` allows. -/
def Meets (C : σ → ε → Prop) : σ → List ε → Prop
  | _, [] => True
  | s, e :: es => C s e ∧ Meets C (step s e) es

instance decidableMeets {C : σ → ε → Prop} [∀ s e, Decidable (C s e)] :
    ∀ (s : σ) (es : List ε), Decidable (Meets step C s es)
  | _, [] => isTrue trivial
  | s, e :: es =>
      match decidableMeets (step s e) es with
      | isTrue h => decidable_of_iff (C s e) (and_iff_left h).symm
      | isFalse h => isFalse fun hc => h hc.2

/-- `P` holds in every state along `es`. -/
def Always (P : σ → Prop) (s : σ) (es : List ε) : Prop :=
  ∀ pre, pre <+: es → P (run step s pre)

variable {step}

theorem meets_append {C : σ → ε → Prop} {s : σ} {es fs : List ε} :
    Meets step C s (es ++ fs) ↔ Meets step C s es ∧ Meets step C (run step s es) fs := by
  induction es generalizing s with
  | nil => simp [Meets]
  | cons e es ih => simp only [List.cons_append, Meets, run_cons, ih, and_assoc]

theorem meets_concat {C : σ → ε → Prop} {s : σ} {es : List ε} {e : ε} :
    Meets step C s (es ++ [e]) ↔ Meets step C s es ∧ C (run step s es) e := by
  rw [meets_append]; simp [Meets]

theorem meets_and {C D : σ → ε → Prop} {s : σ} {es : List ε} :
    Meets step (fun s e => C s e ∧ D s e) s es ↔ Meets step C s es ∧ Meets step D s es := by
  induction es generalizing s with
  | nil => exact (and_iff_left trivial).symm
  | cons e es ih => simp only [Meets, ih, and_and_and_comm]

/-- A step condition, spelled out: it holds wherever the run is cut. -/
theorem meets_iff {C : σ → ε → Prop} {s : σ} {es : List ε} :
    Meets step C s es ↔ ∀ pre e post, es = pre ++ e :: post → C (run step s pre) e := by
  constructor
  · rintro h pre e post rfl
    exact (meets_append.1 h).2.1
  · intro h
    induction es using List.reverseRecOn with
    | nil => trivial
    | append_singleton es e ih =>
      refine meets_concat.2 ⟨ih fun pre d post he => ?_, h es e [] rfl⟩
      exact h pre d (post ++ [e]) (by simp [he])

@[simp] theorem always_nil {P : σ → Prop} {s : σ} : Always step P s [] ↔ P s := by
  simp [Always]

theorem always_cons {P : σ → Prop} {s : σ} {e : ε} {es : List ε} :
    Always step P s (e :: es) ↔ P s ∧ Always step P (step s e) es := by
  constructor
  · intro h
    exact ⟨h [] List.nil_prefix, fun pre hp => h (e :: pre) (List.cons_prefix_cons.2 ⟨rfl, hp⟩)⟩
  · rintro ⟨h0, h⟩ pre hp
    rcases List.prefix_cons_iff.1 hp with rfl | ⟨pre, rfl, ht⟩
    · exact h0
    · exact h pre ht

/-- An inductive invariant holds after every run. -/
theorem run_invariant {I : σ → Prop} (hstep : ∀ s e, I s → I (step s e)) {s : σ} (h0 : I s)
    (es : List ε) : I (run step s es) := by
  induction es generalizing s with
  | nil => exact h0
  | cons e es ih => exact ih (hstep s e h0)

/-- What the allowed steps preserve holds after every run made of allowed steps. -/
theorem invariant_of_meets {C : σ → ε → Prop} {I : σ → Prop}
    (hstep : ∀ s e, I s → C s e → I (step s e)) {s : σ} (h0 : I s) {es : List ε}
    (h : Meets step C s es) : I (run step s es) := by
  induction es generalizing s with
  | nil => exact h0
  | cons e es ih => exact ih (hstep s e h0 h.1) h.2

/-- What the allowed steps preserve holds in every state of a run made of allowed steps. -/
theorem always_of_meets {C : σ → ε → Prop} {I : σ → Prop}
    (hstep : ∀ s e, I s → C s e → I (step s e)) {s : σ} (h0 : I s) {es : List ε}
    (h : Meets step C s es) : Always step I s es := by
  rintro pre ⟨post, rfl⟩
  exact invariant_of_meets hstep h0 (meets_append.1 h).1

/-- Two step conditions that agree under an invariant, which the steps that they allow keep, are met
by the same runs. -/
theorem meets_congr_of_kept {C D : σ → ε → Prop} {J : σ → Prop}
    (hJ : ∀ s e, J s → C s e → J (step s e)) (h : ∀ s e, J s → (C s e ↔ D s e)) {s : σ}
    (h0 : J s) (es : List ε) : Meets step C s es ↔ Meets step D s es := by
  induction es generalizing s with
  | nil => exact Iff.rfl
  | cons e es ih =>
    constructor
    · rintro ⟨hc, hes⟩
      exact ⟨(h s e h0).1 hc, (ih (hJ s e h0 hc)).1 hes⟩
    · rintro ⟨hd, hes⟩
      have hc : C s e := (h s e h0).2 hd
      exact ⟨hc, (ih (hJ s e h0 hc)).2 hes⟩

/-- Two step conditions that agree under an invariant are met by the same runs. -/
theorem meets_congr {C D : σ → ε → Prop} {J : σ → Prop} (hJ : ∀ s e, J s → J (step s e))
    (h : ∀ s e, J s → (C s e ↔ D s e)) {s : σ} (h0 : J s) (es : List ε) :
    Meets step C s es ↔ Meets step D s es :=
  meets_congr_of_kept (fun s e hs _ => hJ s e hs) h h0 es

/-- Two step conditions that agree at the steps that `B` allows are met by the same runs of such
steps. -/
theorem meets_congr_of_meets {B C D : σ → ε → Prop} (h : ∀ s e, B s e → (C s e ↔ D s e)) {s : σ}
    {es : List ε} (hb : Meets step B s es) : Meets step C s es ↔ Meets step D s es := by
  induction es generalizing s with
  | nil => exact Iff.rfl
  | cons e es ih => exact and_congr (h s e hb.1) (ih hb.2)

/-- If, from a good state, the next state is good exactly when the step is an allowed one, then a
run stays good exactly when all its steps are allowed. -/
theorem always_iff_meets {C : σ → ε → Prop} {P J : σ → Prop} (hJ : ∀ s e, J s → J (step s e))
    (h : ∀ s e, J s → P s → (P (step s e) ↔ C s e)) {s : σ} (j0 : J s) (p0 : P s)
    (es : List ε) : Always step P s es ↔ Meets step C s es := by
  induction es generalizing s with
  | nil => simpa [Meets] using p0
  | cons e es ih =>
    rw [always_cons]
    constructor
    · rintro ⟨-, ha⟩
      have p1 : P (step s e) := ha [] List.nil_prefix
      exact ⟨(h s e j0 p0).1 p1, (ih (hJ s e j0) p1).1 ha⟩
    · rintro ⟨hc, hm⟩
      have p1 : P (step s e) := (h s e j0 p0).2 hc
      exact ⟨p0, (ih (hJ s e j0) p1).2 hm⟩

/-- A run that ends in a region entered it at some step, and has stayed there since. -/
theorem exists_entry {W : σ → Prop} {s : σ} (h0 : ¬ W s) (es : List ε) (h : W (run step s es)) :
    ∃ pre e post, es = pre ++ e :: post ∧ ¬ W (run step s pre) ∧
      Always step W (step (run step s pre) e) post := by
  induction es using List.reverseRecOn with
  | nil => exact absurd h h0
  | append_singleton es e ih =>
    rw [run_append] at h
    by_cases hw : W (run step s es)
    · obtain ⟨pre, d, post, rfl, hpre, hpost⟩ := ih hw
      refine ⟨pre, d, post ++ [e], by simp, hpre, fun init hp => ?_⟩
      rcases List.prefix_concat_iff.1 hp with rfl | hp
      · rw [run_append] at h ⊢
        exact h
      · exact hpost init hp
    · exact ⟨es, e, [], rfl, hw, always_nil.2 h⟩

/-- What `A` loses in an allowed step it loses to `G`, which stays and excludes it: so where `A` has
come to fail it goes on failing. -/
theorem not_of_lost {C : σ → ε → Prop} {I A G : σ → Prop} (hI : ∀ s e, I s → I (step s e))
    (hlose : ∀ s e, I s → C s e → A s → A (step s e) ∨ G (step s e))
    (hstay : ∀ s e, C s e → G s → G (step s e)) (hG : ∀ s, G s → ¬ A s) {s : σ} (h0 : I s)
    (hA : A s) {es fs : List ε} (h : Meets step C s (es ++ fs)) (hlost : ¬ A (run step s es)) :
    ¬ A (run step s (es ++ fs)) := by
  obtain ⟨hes, hfs⟩ := meets_append.1 h
  have hkept : I (run step s es) ∧ (A (run step s es) ∨ G (run step s es)) := by
    refine invariant_of_meets (I := fun s => I s ∧ (A s ∨ G s)) ?_ ⟨h0, .inl hA⟩ hes
    rintro s e ⟨hi, ha | hg⟩ hc
    · exact ⟨hI s e hi, hlose s e hi hc ha⟩
    · exact ⟨hI s e hi, .inr (hstay s e hc hg)⟩
  have hgone : G (run step (run step s es) fs) :=
    invariant_of_meets (fun s e hg hc => hstay s e hc hg) (hkept.2.resolve_left hlost) hfs
  rw [run_append]
  exact hG _ hgone

/-! ### Two machines in lockstep -/

/-- A relation that corresponding steps keep holds after corresponding runs. -/
theorem run_related {τ δ : Type*} {step' : τ → δ → τ} {f : ε → δ} {R : σ → τ → Prop}
    (hstep : ∀ s t e, R s t → R (step s e) (step' t (f e))) {s : σ} {t : τ} (h : R s t)
    (es : List ε) : R (run step s es) (run step' t (es.map f)) := by
  induction es generalizing s t with
  | nil => exact h
  | cons e es ih => exact ih (hstep s t e h)

/-! ### One machine seen in another -/

/-- What `f` sees of a step that `C'` allows is a step that `C` allows, or nothing. -/
def Projects {τ δ : Type*} (step' : τ → δ → τ) (C' : τ → δ → Prop) (step : σ → ε → σ)
    (C : σ → ε → Prop) (f : τ → σ) : Prop :=
  ∀ t d, C' t d → f (step' t d) = f t ∨ ∃ e, C (f t) e ∧ f (step' t d) = step (f t) e

/-- What is invariant for the machine that is seen is so for the one it is seen in. -/
theorem Projects.always {τ δ : Type*} {step' : τ → δ → τ} {C' : τ → δ → Prop} {C : σ → ε → Prop}
    {f : τ → σ} (hf : Projects step' C' step C f) {I : σ → Prop}
    (hstep : ∀ s e, I s → C s e → I (step s e)) {t : τ} (h0 : I (f t)) {ds : List δ}
    (h : Meets step' C' t ds) : Always step' (fun t => I (f t)) t ds := by
  refine always_of_meets (I := fun t => I (f t)) (fun t d hI hd => ?_) h0 h
  obtain hsame | ⟨e, he, hseen⟩ := hf t d hd
  · rw [hsame]
    exact hI
  · rw [hseen]
    exact hstep _ e hI he

/-! ### The same event again and again -/

/-- Some number of events `e` leads from `s` to a state of which `Q` holds. -/
def Leads (step : σ → ε → σ) (e : ε) (s : σ) (Q : σ → Prop) : Prop :=
  ∃ n, Q (run step s (List.replicate n e))

theorem Leads.here {e : ε} {s : σ} {Q : σ → Prop} (h : Q s) : Leads step e s Q := ⟨0, h⟩

theorem Leads.next {e : ε} {s : σ} {Q : σ → Prop} (h : Leads step e (step s e) Q) :
    Leads step e s Q := by
  obtain ⟨n, hn⟩ := h
  exact ⟨n + 1, hn⟩

theorem Leads.trans {e : ε} {s : σ} {P Q : σ → Prop} (h : Leads step e s P)
    (hpq : ∀ s', P s' → Leads step e s' Q) : Leads step e s Q := by
  obtain ⟨n, hn⟩ := h
  obtain ⟨m, hm⟩ := hpq _ hn
  refine ⟨n + m, ?_⟩
  rw [← List.replicate_append_replicate, run_append]
  exact hm

/-! ### What some order of the events leads to -/

/-- Some events that `A` allows lead from `s` to a state of which `Q` holds. -/
def Can (step : σ → ε → σ) (A : ε → Prop) (s : σ) (Q : σ → Prop) : Prop :=
  ∃ es : List ε, (∀ e ∈ es, A e) ∧ Q (run step s es)

section Can

variable {A : ε → Prop} {s : σ} {Q R : σ → Prop}

theorem Can.here (h : Q s) : Can step A s Q := ⟨[], List.forall_mem_nil _, h⟩

theorem Can.next {e : ε} (he : A e) (h : Can step A (step s e) Q) : Can step A s Q := by
  obtain ⟨es, hes, hq⟩ := h
  exact ⟨e :: es, List.forall_mem_cons.2 ⟨he, hes⟩, hq⟩

theorem Can.trans (h : Can step A s Q) (hQ : ∀ s', Q s' → Can step A s' R) : Can step A s R := by
  obtain ⟨es, hes, hq⟩ := h
  obtain ⟨fs, hfs, hr⟩ := hQ _ hq
  refine ⟨es ++ fs, List.forall_mem_append.2 ⟨hes, hfs⟩, ?_⟩
  rw [run_append]
  exact hr

theorem Can.mono {B : ε → Prop} (hAB : ∀ e, A e → B e) (h : Can step A s Q) : Can step B s Q := by
  obtain ⟨es, hes, hq⟩ := h
  exact ⟨es, fun e he => hAB e (hes e he), hq⟩

theorem Can.of_leads {e : ε} (he : A e) (h : Leads step e s Q) : Can step A s Q := by
  obtain ⟨n, hn⟩ := h
  exact ⟨_, fun d hd => List.eq_of_mem_replicate hd ▸ he, hn⟩

/-- A measure that can be made smaller until `Q` holds. -/
theorem Can.of_descent (I : σ → Prop) (μ : σ → ℕ)
    (h : ∀ s, I s → Q s ∨ Can step A s fun s' => I s' ∧ μ s' < μ s) (hs : I s) :
    Can step A s Q := by
  induction hn : μ s using Nat.strongRecOn generalizing s with
  | _ n ih =>
    obtain hq | hless := h s hs
    · exact .here hq
    · exact hless.trans fun s' hs' => ih _ (hn ▸ hs'.2) hs'.1 rfl

/-- What the allowed events keep holds wherever they lead. -/
theorem kept_of_allowed {K : σ → Prop} (hstep : ∀ s e, K s → A e → K (step s e)) (h : K s)
    {es : List ε} (hes : ∀ e ∈ es, A e) : K (run step s es) := by
  induction es generalizing s with
  | nil => exact h
  | cons e es ih =>
    obtain ⟨he, hes⟩ := List.forall_mem_cons.1 hes
    exact ih (hstep s e h he) hes

end Can

end Runs

end Gs101
