import Gs101.Usb.Deadlock

/-!
# Usb: the partner that switchMode waits for

`switchMode` resets `mPartnerUp`, writes the mode and waits for the worker to set `mPartnerUp`, all
under `mPartnerLock`, which the timed wait gives up and takes again.

* `Switches`: the part of a run from the reset to the step that leaves the wait loop;
* `LosesNone`: whenever it leaves the loop, the role switch has succeeded if and only if the worker
  set `mPartnerUp` since the reset;
* `Punctual`: the steps that do not leave a wait that timed out while `mPartnerUp` is set;
* `losesNone_iff`: no partner is lost in a run if and only if its steps are punctual;
* `Scheduled`: the steps of a schedule in which no wait times out beside a partner;
* `meets_scheduled_iff`: those are the punctual runs that do not end between the time-out and the
  step that leaves the loop (`Late`).
-/

namespace Gs101

namespace Usb

/-- The binder thread is in the loop of `switchMode`: it waits, or it is about to take the lock
again, or it holds the lock and looks at what has happened. -/
def Binder.Waits : Binder → Prop
  | .partnerWait | .partnerRelock _ | .partnerWoken _ => True
  | _ => False

namespace Threads

/-- The worker sets `mPartnerUp` in this step. -/
def SetsPartner (s : Threads) : Event → Prop
  | .worker _ => ∃ l, s.worker = .partnerHeld l
  | _ => False

/-- The worker sets `mPartnerUp` in one of these steps. -/
def PartnerSet (s : Threads) (es : List Event) : Prop :=
  ∃ pre e post, es = pre ++ e :: post ∧ SetsPartner (Runs.run step s pre) e

/-- After `before`, the mode is written and `mPartnerUp` is reset; the binder thread is in the loop
during `loop`, and the step after that leaves the loop with this result. -/
structure Switches (before loop : List Event) (answer roleSwitch : Bool) : Prop where
  written : (Runs.run step initial before).binder = .partnerHeld
  waits : Runs.Always step (·.binder.Waits) (step (Runs.run step initial before) (.binder true))
    loop
  leaves : (Runs.run step initial (before ++ .binder true :: (loop ++ [.binder answer]))).binder =
    .partnerUnlock roleSwitch

/-- Wherever the loop is left, the result is true if and only if the worker has set `mPartnerUp`
since the reset, and it is not false while `mPartnerUp` is true. -/
def LosesNone (es : List Event) : Prop :=
  ∀ before loop answer roleSwitch rest,
    es = before ++ .binder true :: (loop ++ .binder answer :: rest) →
    Switches before loop answer roleSwitch →
    (roleSwitch = true ↔
      PartnerSet (step (Runs.run step initial before) (.binder true)) loop) ∧
    (roleSwitch = false →
      (Runs.run step initial
        (before ++ .binder true :: (loop ++ [.binder answer]))).mPartnerUp = false)

/-- The step does not leave a wait that timed out while `mPartnerUp` is set. -/
def Punctual (s : Threads) (e : Event) : Prop :=
  s.binder = .partnerWoken true → s.mPartnerUp = true → e.isBinder = false

/-! ### What a step does to mPartnerUp -/

theorem mPartnerUp_lock {s : Threads} {t : Thread} {l : Lock} {next : Threads → Threads}
    (hnext : ∀ s', (next s').mPartnerUp = s'.mPartnerUp) :
    (s.lock t l next).mPartnerUp = s.mPartnerUp := by
  unfold lock
  split_ifs
  · exact hnext _
  · rfl

/-- In the loop the binder thread leaves `mPartnerUp` alone. -/
theorem mPartnerUp_binderStep {s : Threads} (h : s.binder.Waits) (answer : Bool) :
    (s.binderStep answer).mPartnerUp = s.mPartnerUp := by
  cases hb : s.binder with
  | partnerWait => simp only [binderStep, hb]; rfl
  | partnerRelock timedOut =>
    simp only [binderStep, hb]
    exact mPartnerUp_lock fun _ => rfl
  | partnerWoken timedOut =>
    cases timedOut
    · simp only [binderStep, hb]
      split_ifs <;> rfl
    · simp only [binderStep, hb]
      rfl
  | _ =>
    rw [hb] at h
    exact h.elim

/-- The worker sets `mPartnerUp`, or leaves it alone. -/
theorem mPartnerUp_workerStep (s : Threads) (answer : Bool) :
    (s.workerStep answer).mPartnerUp = true ↔
      s.mPartnerUp = true ∨ SetsPartner s (.worker answer) := by
  have hkeeps : ∀ s' : Threads, s'.mPartnerUp = s.mPartnerUp →
      (∀ l, s.worker ≠ .partnerHeld l) →
      (s'.mPartnerUp = true ↔ s.mPartnerUp = true ∨ SetsPartner s (.worker answer)) := by
    intro s' hs' hno
    rw [hs']
    exact (or_iff_left fun ⟨l, hl⟩ => hno l hl).symm
  cases hw : s.worker with
  | partnerHeld l =>
    refine iff_of_true ?_ (.inr ⟨l, hw⟩)
    simp only [workerStep, hw]
    rfl
  | partnerLock l =>
    refine hkeeps _ ?_ (by simp [hw])
    simp only [workerStep, hw]
    exact mPartnerUp_lock fun _ => rfl
  | queryLock =>
    refine hkeeps _ ?_ (by simp [hw])
    simp only [workerStep, hw]
    exact mPartnerUp_lock fun _ => rfl
  | tryRole =>
    refine hkeeps _ ?_ (by simp [hw])
    simp only [workerStep, hw]
    split_ifs
    · exact mPartnerUp_lock fun _ => rfl
    · rfl
  | epollWait =>
    refine hkeeps _ ?_ (by simp [hw])
    simp only [workerStep, hw]
    split_ifs <;> rfl
  | fields l =>
    refine hkeeps _ ?_ (by simp [hw])
    rcases l with - | ⟨f, l⟩
    · simp only [workerStep, hw]
      rfl
    · cases f <;> simp only [workerStep, hw] <;> rfl
  | _ =>
    refine hkeeps _ ?_ (by simp [hw])
    simp only [workerStep, hw, setWorker, unlock]

/-- In the loop, `mPartnerUp` is set by the worker and by nobody else. -/
theorem mPartnerUp_step {s : Threads} (h : s.binder.Waits) (e : Event) :
    (s.step e).mPartnerUp = true ↔ s.mPartnerUp = true ∨ SetsPartner s e := by
  have hkeeps : (s.step e).mPartnerUp = s.mPartnerUp → ¬ SetsPartner s e →
      ((s.step e).mPartnerUp = true ↔ s.mPartnerUp = true ∨ SetsPartner s e) := by
    intro hup hno
    rw [hup]
    exact (or_iff_left hno).symm
  have hkept : e.Outside → s.Kept (s.step e) := kept_step s
  cases e with
  | binder answer => exact hkeeps (mPartnerUp_binderStep h answer) id
  | worker answer => exact mPartnerUp_workerStep s answer
  | call c =>
    refine hkeeps ?_ id
    simp only [step]
    split_ifs <;> rfl
  | _ => exact hkeeps (hkept trivial).mPartnerUp id

theorem partnerSet_nil (s : Threads) : ¬ PartnerSet s [] := by
  rintro ⟨pre, e, post, h, -⟩
  cases pre <;> cases h

theorem partnerSet_cons {s : Threads} {e : Event} {es : List Event} :
    PartnerSet s (e :: es) ↔ SetsPartner s e ∨ PartnerSet (s.step e) es := by
  constructor
  · rintro ⟨pre, d, post, h, hset⟩
    cases pre with
    | nil =>
      obtain ⟨rfl, rfl⟩ := List.cons.inj h
      exact .inl hset
    | cons c pre =>
      obtain ⟨rfl, rfl⟩ := List.cons.inj h
      exact .inr ⟨pre, d, post, rfl, hset⟩
  · rintro (hset | ⟨pre, d, post, rfl, hset⟩)
    · exact ⟨[], e, es, rfl, hset⟩
    · exact ⟨e :: pre, d, post, rfl, hset⟩

/-- After some steps in the loop, `mPartnerUp` is set if and only if it was, or the worker has set
it. -/
theorem mPartnerUp_run {s : Threads} {es : List Event}
    (h : Runs.Always step (·.binder.Waits) s es) :
    (Runs.run step s es).mPartnerUp = true ↔ s.mPartnerUp = true ∨ PartnerSet s es := by
  induction es generalizing s with
  | nil => exact (or_iff_left (partnerSet_nil s)).symm
  | cons e es ih =>
    obtain ⟨hs, hes⟩ := Runs.always_cons.1 h
    rw [Runs.run_cons, ih hes, mPartnerUp_step hs, partnerSet_cons, or_assoc]

/-! ### How the loop is entered and left -/

/-- The step of the binder thread that writes the mode resets `mPartnerUp`. -/
theorem binderStep_written {s : Threads} (h : s.binder = .partnerHeld) :
    (s.step (.binder true)).binder = .partnerWait ∧ (s.step (.binder true)).mPartnerUp = false := by
  simp only [step, binderStep, h, if_true]
  exact ⟨rfl, rfl⟩

/-- Only a step of the binder thread leads into the loop, with the mode written. -/
theorem enters_of_step {s : Threads} {e : Event} (h : ¬ s.binder.Waits)
    (h' : (s.step e).binder.Waits) : s.binder = .partnerHeld ∧ e = .binder true := by
  have hkept : e.Outside → s.Kept (s.step e) := kept_step s
  cases e with
  | binder answer =>
    replace h' : (s.binderStep answer).binder.Waits := h'
    cases hb : s.binder with
    | partnerHeld =>
      cases answer
      · simp only [binderStep, hb, Bool.false_eq_true, if_false] at h'
        exact h'.elim
      · exact ⟨rfl, rfl⟩
    | partnerWait => exact absurd (hb ▸ trivial) h
    | partnerRelock timedOut => exact absurd (hb ▸ trivial) h
    | partnerWoken timedOut => exact absurd (hb ▸ trivial) h
    | idle => exact absurd (by simpa only [binderStep, hb] using h') h
    | roleHeld mode =>
      cases mode <;> cases answer <;> simp only [binderStep, hb] at h' <;> exact h'.elim
    | notifyHeld q => cases q <;> simp only [binderStep, hb] at h' <;> exact h'.elim
    | queryHeld n => cases n <;> simp only [binderStep, hb] at h' <;> exact h'.elim
    | _ =>
      simp only [binderStep, hb, lock] at h'
      try split_ifs at h'
      all_goals first
        | exact h'.elim
        | exact absurd h' h
  | call c =>
    simp only [step] at h'
    split_ifs at h'
    · cases c <;> exact h'.elim
    · exact absurd h' h
  | worker answer => exact absurd ((workerStep_keeps s answer).2.1 ▸ h') h
  | _ => exact absurd ((hkept trivial).binder ▸ h') h

/-- A step of the binder thread leaves the loop after a wait that timed out, or with
`mPartnerUp`. -/
theorem leaves_iff {s : Threads} (h : s.binder.Waits) (answer roleSwitch : Bool) :
    (s.step (.binder answer)).binder = .partnerUnlock roleSwitch ↔
      (s.binder = .partnerWoken true ∧ roleSwitch = false) ∨
        (s.binder = .partnerWoken false ∧ s.mPartnerUp = true ∧ roleSwitch = true) := by
  show (s.binderStep answer).binder = _ ↔ _
  cases hb : s.binder with
  | partnerWait => simp [binderStep, hb, setBinder]
  | partnerRelock timedOut =>
    simp only [binderStep, hb, lock]
    split_ifs <;> simp [setBinder, hb]
  | partnerWoken timedOut =>
    cases timedOut <;> cases roleSwitch
    · simp only [binderStep, hb]
      split_ifs with hup <;> simp [setBinder]
    · simp only [binderStep, hb]
      split_ifs with hup <;> simp [setBinder, hup]
    · simp [binderStep, hb, setBinder]
    · simp [binderStep, hb, setBinder]
  | _ =>
    rw [hb] at h
    exact h.elim

/-- Wherever the binder thread is in the loop, it has come there from the reset. -/
theorem exists_written {es : List Event} (h : (Runs.run step initial es).binder.Waits) :
    ∃ before loop, es = before ++ .binder true :: loop ∧
      (Runs.run step initial before).binder = .partnerHeld ∧
      Runs.Always step (·.binder.Waits) (step (Runs.run step initial before) (.binder true))
        loop := by
  obtain ⟨before, e, loop, rfl, hout, hloop⟩ :=
    Runs.exists_entry (W := fun s : Threads => s.binder.Waits) id es h
  obtain ⟨hwritten, rfl⟩ := enters_of_step hout (hloop [] List.nil_prefix)
  exact ⟨before, loop, rfl, hwritten, hloop⟩

/-- The state in which the loop is left. -/
theorem run_leaves (before loop : List Event) (answer : Bool) :
    Runs.run step initial (before ++ .binder true :: (loop ++ [.binder answer])) =
      (Runs.run step initial (before ++ .binder true :: loop)).step (.binder answer) := by
  rw [← List.cons_append, ← List.append_assoc, Runs.run_append, Runs.run_cons, Runs.run_nil]

/-- **No partner is lost** in a run if and only if its steps are punctual. -/
theorem losesNone_iff (es : List Event) :
    LosesNone es ↔ Runs.Meets step Punctual initial es := by
  rw [Runs.meets_iff]
  constructor
  · rintro h pre e rest rfl hwoken hup
    cases e with
    | binder answer =>
      -- the step loses the partner
      have hwaits : (Runs.run step initial pre).binder.Waits := hwoken ▸ trivial
      obtain ⟨before, loop, rfl, hwritten, hloop⟩ := exists_written hwaits
      have hleaves := (leaves_iff hwaits answer false).2 (.inl ⟨hwoken, rfl⟩)
      rw [← run_leaves] at hleaves
      have hlost := (h before loop answer false rest (by simp) ⟨hwritten, hloop, hleaves⟩).2 rfl
      rw [run_leaves] at hlost
      have hkept : ((Runs.run step initial (before ++ .binder true :: loop)).step
          (.binder answer)).mPartnerUp = _ := mPartnerUp_binderStep hwaits answer
      rw [hkept, hup] at hlost
      cases hlost
    | _ => rfl
  · rintro h before loop answer roleSwitch rest rfl ⟨hwritten, hwaits, hleaves⟩
    have hloop : Runs.run step (step (Runs.run step initial before) (.binder true)) loop =
        Runs.run step initial (before ++ .binder true :: loop) := by
      rw [Runs.run_append, Runs.run_cons]
    have hset := mPartnerUp_run hwaits
    have hin := hwaits loop List.prefix_rfl
    rw [(binderStep_written hwritten).2, hloop] at hset
    simp only [Bool.false_eq_true, false_or] at hset
    simp only [hloop] at hin
    rw [run_leaves] at hleaves ⊢
    have hkept : ((Runs.run step initial (before ++ .binder true :: loop)).step
        (.binder answer)).mPartnerUp = _ := mPartnerUp_binderStep hin answer
    rw [hkept, ← hset]
    rcases (leaves_iff hin answer roleSwitch).1 hleaves with ⟨hwoken, rfl⟩ | ⟨-, hup, rfl⟩
    · -- the wait timed out: the step is punctual, so that nothing was set
      have hdown : (Runs.run step initial (before ++ .binder true :: loop)).mPartnerUp = false := by
        have hpunctual := h (before ++ .binder true :: loop) (.binder answer) rest (by simp) hwoken
        cases hup : (Runs.run step initial (before ++ .binder true :: loop)).mPartnerUp with
        | false => rfl
        | true => exact absurd (hpunctual hup) nofun
      rw [hdown]
      exact ⟨iff_of_false nofun nofun, fun _ => rfl⟩
    · exact ⟨iff_of_true rfl hup, nofun⟩

/-- A mode is about to be written. -/
def modeSwitch : List Event :=
  registered ++ [.call (.switchRole true), .binder true, .binder true, .binder true]

/-- The wait times out, and before the lock is taken again the partner comes up. -/
def lateRelock : List Event :=
  [.binder true, .uevent [.partnerAdded], .worker true, .worker true, .worker true, .binder true]

/-- The partner is there, and the role switch has failed. -/
theorem lateRelock_loses :
    ¬ LosesNone (modeSwitch ++ .binder true :: (lateRelock ++ [.binder true])) := by
  intro h
  have hwaits : Runs.Always step (·.binder.Waits)
      (step (Runs.run step initial modeSwitch) (.binder true)) lateRelock := by
    simp only [lateRelock, Runs.always_cons, Runs.always_nil]
    exact ⟨trivial, trivial, trivial, trivial, trivial, trivial, trivial⟩
  have hlost := (h modeSwitch lateRelock true false [] (by simp) ⟨rfl, hwaits, rfl⟩).2 rfl
  exact absurd hlost (by decide)

/-! ### The schedule -/

/-- The wait has timed out, and the loop is not left yet. -/
def TimedOut (s : Threads) : Prop := s.binder = .partnerRelock true ∨ s.binder = .partnerWoken true

/-- The wait has timed out, and the partner is there. -/
def Late (s : Threads) : Prop := s.TimedOut ∧ s.mPartnerUp = true

/-- The wait does not time out while `mPartnerUp` is set, and the worker does not set `mPartnerUp`
between the time-out and the lock. -/
structure Scheduled (s : Threads) (e : Event) : Prop where
  timeOut : s.binder = .partnerWait → e = .binder true → s.mPartnerUp = false
  relock : s.binder = .partnerRelock true → ¬ SetsPartner s e

theorem TimedOut.waits {s : Threads} (h : s.TimedOut) : s.binder.Waits := by
  rcases h with h | h <;> exact h ▸ trivial

/-- Only its own steps move the binder thread in the loop. -/
theorem binder_step_of_waits {s : Threads} (h : s.binder.Waits) {e : Event}
    (he : e.isBinder = false) : (s.step e).binder = s.binder := by
  have hkept : e.Outside → s.Kept (s.step e) := kept_step s
  cases e with
  | binder answer => cases he
  | worker answer => exact (workerStep_keeps s answer).2.1
  | call c =>
    have hidle : s.binder ≠ .idle := fun hidle => by
      rw [hidle] at h
      exact h
    simp only [step, if_neg hidle]
  | _ => exact (hkept trivial).binder

theorem timedOut_binderStep {s : Threads} (h : s.binder.Waits) (answer : Bool) :
    (s.binderStep answer).TimedOut ↔
      (s.binder = .partnerWait ∧ answer = true) ∨ s.binder = .partnerRelock true := by
  unfold TimedOut
  cases hb : s.binder with
  | partnerWait => simp [binderStep, hb, setBinder]
  | partnerRelock timedOut =>
    simp only [binderStep, hb, lock]
    split_ifs <;> simp [setBinder, hb]
  | partnerWoken timedOut =>
    cases timedOut
    · simp only [binderStep, hb]
      split_ifs <;> simp [setBinder]
    · simp [binderStep, hb, setBinder]
  | _ =>
    rw [hb] at h
    exact h.elim

/-- A wait times out, or has timed out before. -/
theorem timedOut_step (s : Threads) (e : Event) :
    (s.step e).TimedOut ↔ (s.binder = .partnerWait ∧ e = .binder true) ∨
      (s.TimedOut ∧ (s.binder = .partnerWoken true → e.isBinder = false)) := by
  by_cases hwaits : s.binder.Waits
  · cases he : e.isBinder with
    | false =>
      have hne : e ≠ .binder true := fun h => by
        rw [h] at he
        cases he
      unfold TimedOut
      rw [binder_step_of_waits hwaits he]
      simp [hne]
    | true =>
      cases e with
      | binder answer =>
        rw [show s.step (.binder answer) = s.binderStep answer from rfl,
          timedOut_binderStep hwaits answer, Event.binder.injEq]
        refine or_congr Iff.rfl ⟨fun h => ⟨.inl h, fun hwoken => ?_⟩, fun ⟨h, hno⟩ => ?_⟩
        · rw [h] at hwoken
          cases hwoken
        · exact h.resolve_right fun hwoken => nomatch hno hwoken
      | _ => cases he
  · refine iff_of_false (fun h => ?_) ?_
    · obtain ⟨hheld, rfl⟩ := enters_of_step hwaits h.waits
      have hwait := (binderStep_written hheld).1
      rcases h with h | h <;> rw [hwait] at h <;> cases h
    · rintro (⟨h, -⟩ | ⟨h, -⟩)
      · exact hwaits (h ▸ trivial)
      · exact hwaits h.waits

/-- The partner and the time-out come together in a step that is not scheduled, and in no other. -/
theorem late_step_iff {s : Threads} (h : s.Sound) (hn : ¬ s.Late) (e : Event) :
    (s.step e).Late ↔ ¬ Scheduled s e := by
  constructor
  · rintro ⟨htimedOut, hup⟩ hscheduled
    rcases (timedOut_step s e).1 htimedOut with ⟨hwait, rfl⟩ | ⟨htimedOut, -⟩
    · rcases (mPartnerUp_step (hwait ▸ trivial) _).1 hup with hup | hset
      · rw [hscheduled.timeOut hwait rfl] at hup
        cases hup
      · exact hset
    · rcases (mPartnerUp_step htimedOut.waits e).1 hup with hup | hset
      · exact hn ⟨htimedOut, hup⟩
      · rcases htimedOut with hrelock | hwoken
        · exact hscheduled.relock hrelock hset
        · -- the binder thread has the lock under which the worker sets `mPartnerUp`
          cases e with
          | worker answer =>
            obtain ⟨l, hl⟩ := hset
            have hbinder : s.Holds .binder .mPartnerLock := by
              show s.binder.Holds .mPartnerLock
              rw [hwoken]
              exact .inr rfl
            have hworker : s.Holds .worker .mPartnerLock := by
              show s.worker.Holds .mPartnerLock
              rw [hl]
              exact rfl
            exact nomatch h.guarded.exclusive hbinder hworker
          | _ => exact hset
  · intro hnot
    by_contra hlate
    refine hnot ⟨fun hwait he => Bool.eq_false_iff.2 fun hup => hlate ⟨?_, ?_⟩,
      fun hrelock hset => hlate ⟨?_, ?_⟩⟩
    · exact (timedOut_step s e).2 (.inl ⟨hwait, he⟩)
    · exact (mPartnerUp_step (hwait ▸ trivial) e).2 (.inl hup)
    · exact (timedOut_step s e).2 (.inr ⟨.inl hrelock, fun hwoken => by
        rw [hrelock] at hwoken
        cases hwoken⟩)
    · exact (mPartnerUp_step (hrelock ▸ trivial) e).2 (.inr hset)

theorem always_not_late_iff (es : List Event) :
    Runs.Always step (fun s => ¬ s.Late) initial es ↔ Runs.Meets step Scheduled initial es := by
  refine Runs.always_iff_meets (J := Sound) sound_step (fun s e h hn => ?_) sound_initial ?_ es
  · rw [late_step_iff h hn, not_not]
  · exact fun hlate => nomatch hlate.1

/-- A punctual step does not leave the loop with the partner there. -/
theorem Late.step {s : Threads} (h : s.Late) {e : Event} (he : Punctual s e) : (s.step e).Late :=
  ⟨(timedOut_step s e).2 (.inr ⟨h.1, fun hwoken => he hwoken h.2⟩),
    (mPartnerUp_step h.1.waits e).2 (.inl h.2)⟩

/-- **The schedules that lose no partner.**  A run keeps to the schedule if and only if its steps
are punctual, and it does not end with a partner that the next step in the loop would lose. -/
theorem meets_scheduled_iff (es : List Event) :
    Runs.Meets step Scheduled initial es ↔
      Runs.Meets step Punctual initial es ∧ ¬ (Runs.run step initial es).Late := by
  rw [← always_not_late_iff]
  constructor
  · intro h
    refine ⟨Runs.meets_iff.2 fun pre e post he hwoken hup => ?_, h es List.prefix_rfl⟩
    exact absurd ⟨.inr hwoken, hup⟩ (h pre ⟨_, he.symm⟩)
  · rintro ⟨hpunctual, hend⟩ pre ⟨post, rfl⟩ hlate
    rw [Runs.run_append] at hend
    exact hend (Runs.invariant_of_meets (I := Late) (fun s e h he => h.step he) hlate
      (Runs.meets_append.1 hpunctual).2)

end Threads

end Usb

end Gs101
