import Gs101.Usb.Unregister

/-!
# Usb: every call can come to its end

The binder thread waits for a mutex, for a partner, or, in `setCallback(NULL)`, for the end of the
worker.  The wait for a partner ends by itself, and a mutex is given up by the next step of the
thread that holds it; the worker need not end.

* `Event.Proceeds`: a thread makes its next step, and nothing arrives from outside;
* `Finishes`: some order of such steps brings the call of the binder thread to its end;
* `Stuck`: `setCallback(NULL)` is ending a worker that asks for `mLock`, or that has got the signal
  between the test of `destroyThread` and `epoll_wait`;
* `finishes_iff`: in every state of every run a call can come to its end if it is not stuck so, and
  only then.

A call that ends no worker gets nearer to its end with each step of the binder thread, by
`Binder.toIdle`.  `setCallback(NULL)` can let the worker ask as long as it has not locked `mLock`,
and then lets it get the signal in time.
-/

namespace Gs101

namespace Usb

open Runs (Can)

/-- A thread makes its next step, or the signal is delivered; the calls to the kernel succeed, and
the wait for a partner ends by the time-out. -/
def Event.Proceeds : Event → Prop
  | .binder answer | .worker answer => answer = true
  | .monitor | .signal => True
  | .call _ | .uevent _ | .updatePortStatus => False

theorem Event.Goes.proceeds {e : Event} (h : e.Goes) : e.Proceeds := by
  cases e with
  | signal => trivial
  | worker answer => exact h
  | _ => exact h.elim

theorem Worker.Asks.alive {w : Worker} (h : w.Asks) : w.Alive := by
  cases w <;> first | exact h.elim | simp [Worker.Alive]

/-- The steps that the binder thread makes at most to the end of its call, if each mutex is free and
the calls to the kernel succeed. -/
def Binder.toIdle : Binder → ℕ
  | .idle => 0
  | .notifyHeld false | .queryHeld false | .roleUnlock | .callbackUnlock => 1
  | .notifyLock false | .queryLock false | .roleNotifyHeld _ | .callbackCreate | .callbackJoin => 2
  | .notifyHeld true | .queryHeld true | .roleNotifyLock _ | .callbackKill => 3
  | .notifyLock true | .queryLock true | .partnerUnlock _ | .callbackHeld _ => 4
  | .partnerWoken true | .callbackLock _ => 5
  | .partnerRelock true => 6
  | .partnerWait => 7
  | .partnerWoken false | .partnerHeld => 8
  | .partnerRelock false | .partnerLock => 9
  | .roleHeld _ => 10
  | .roleLock _ => 11

namespace Threads

/-- The threads alone can bring the call of the binder thread to its end. -/
def Finishes (s : Threads) : Prop := Can step Event.Proceeds s fun s' => s'.binder = .idle

/-- The worker got the signal past the test, and waits in `epoll_wait`, or is about to. -/
def Missed (s : Threads) : Prop :=
  s.binder = .callbackJoin ∧ s.pending = false ∧ (s.worker = .enter ∨ s.worker = .epollWait)

/-- `setCallback(NULL)` is ending a worker that does not end. -/
def Stuck (s : Threads) : Prop := s.Ending ∧ s.worker.Alive ∧ (s.worker.Asks ∨ s.Missed)

variable {s : Threads}

/-! ### A call that is stuck -/

theorem Ending.owner (h : s.Ending) (hs : s.Sound) : s.owner .mLock = some .binder := by
  refine (hs.guarded .mLock .binder).2 ?_
  show s.binder.Holds .mLock
  obtain hb | hb | ⟨hb, -⟩ := h <;> rw [hb] <;> rfl

/-- The binder thread holds `mLock`, so the worker does not. -/
theorem Ending.not_queryHeld (h : s.Ending) (hs : s.Sound) : s.worker ≠ .queryHeld := by
  intro hw
  have hholds : s.Holds .worker .mLock := by
    show s.worker.Holds .mLock
    rw [hw]
    rfl
  have howner := (hs.guarded .mLock .worker).2 hholds
  rw [h.owner hs] at howner
  cases howner

/-- A worker that asks goes on asking as long as `mLock` is held by the binder thread. -/
theorem asks_workerStep (h : s.worker.Asks) (hlock : s.owner .mLock = some .binder)
    (hne : s.worker ≠ .queryHeld) : (s.workerStep true).worker.Asks := by
  cases hw : s.worker <;> rw [hw] at h
  case fields l =>
    rcases l with - | ⟨f, l⟩
    · cases h
    · cases f with
      | port =>
        simp only [workerStep, hw, setWorker]
        trivial
      | partnerAdded =>
        simp only [workerStep, hw, setWorker]
        exact (List.mem_cons.1 h).resolve_left (by simp)
      | other =>
        simp only [workerStep, hw, setWorker]
        exact (List.mem_cons.1 h).resolve_left (by simp)
  case partnerLock l =>
    simp only [workerStep, hw, lock]
    split_ifs
    · exact h
    · rw [hw]
      exact h
  case partnerHeld l =>
    simp only [workerStep, hw, setWorker]
    exact h
  case queryLock =>
    simp only [workerStep, hw, lock, hlock, reduceCtorEq, if_false]
    trivial
  case queryHeld => exact absurd hw hne
  all_goals exact h.elim

/-- The binder thread leaves the worker alone until it has ended. -/
theorem worker_of_ending (h : s.Ending) (halive : s.worker.Alive) (answer : Bool) :
    (s.binderStep answer).worker = s.worker := by
  obtain hb | hb | ⟨hb, hcb⟩ := h
  · simp only [binderStep, hb, if_pos halive, setBinder]
  · simp only [binderStep, hb, if_pos halive]
  · simp [binderStep, hb, hcb, setBinder]

/-- Nothing that the threads do helps a call that is stuck. -/
theorem stuck_step (s : Threads) (e : Event) (h : s.Sound ∧ s.Stuck) (he : e.Proceeds) :
    (s.step e).Sound ∧ (s.step e).Stuck := by
  obtain ⟨hs, hend, halive, hw⟩ := h
  refine ⟨sound_step s e hs, ?_⟩
  cases e with
  | call c => exact he.elim
  | uevent fields => exact he.elim
  | updatePortStatus => exact he.elim
  | binder answer =>
    have hworker : (s.step (.binder answer)).worker = s.worker :=
      worker_of_ending hend halive answer
    refine ⟨ending_binderStep_of_ending hend halive answer, hworker ▸ halive, ?_⟩
    obtain hasks | hmissed := hw
    · exact .inl (hworker ▸ hasks)
    · have hstay : s.step (.binder answer) = s := by
        simp only [step, binderStep, hmissed.1, if_pos halive]
      rw [hstay]
      exact .inr hmissed
  | worker answer =>
    obtain rfl : answer = true := he
    have haside := aside_workerStep s true
    have hend' : (s.workerStep true).Ending :=
      (ending_of_binder_eq haside.binder haside.mCallback).2 hend
    obtain hasks | ⟨hj, hp, hwait⟩ := hw
    · have hasks' := asks_workerStep hasks (hend.owner hs) (hend.not_queryHeld hs)
      exact ⟨hend', hasks'.alive, .inl hasks'⟩
    · have hwait' : (s.workerStep true).worker = .epollWait := by
        obtain hw | hw := hwait
        · simp only [workerStep, hw, setWorker]
        · simp only [workerStep, hw, if_true]
      refine ⟨hend', ?_, .inr ⟨haside.binder.trans hj, haside.pending.trans hp, .inr hwait'⟩⟩
      show (s.workerStep true).worker.Alive
      rw [hwait']
      simp [Worker.Alive]
  | monitor =>
    obtain ⟨haside, hworker⟩ := aside_monitorStep s
    show s.monitorStep.Stuck
    refine ⟨(ending_of_binder_eq haside.binder haside.mCallback).2 hend, hworker ▸ halive, ?_⟩
    unfold Missed
    rw [haside.binder, hworker, haside.pending]
    exact hw
  | signal =>
    have hkept := kept_step s (e := .signal) trivial
    have hend' : s.signalStep.Ending :=
      (ending_of_binder_eq hkept.binder hkept.mCallback).2 hend
    show s.signalStep.Stuck
    by_cases hp : s.pending = true
    · have hasks : s.worker.Asks :=
        hw.resolve_right fun hm => absurd (hp.symm.trans hm.2.1) Bool.noConfusion
      have hne : s.worker ≠ .epollWait := fun he => by rw [he] at hasks; exact hasks
      have hworker : s.signalStep.worker = s.worker := by
        rw [signalStep, if_pos ⟨hp, halive⟩, if_neg hne]
        rfl
      exact ⟨hend', hworker ▸ halive, .inl (hworker ▸ hasks)⟩
    · have hstay : s.signalStep = s := if_neg fun ha => hp ha.1
      rw [hstay]
      exact ⟨hend, halive, hw⟩

theorem not_finishes_of_stuck (hs : s.Sound) (h : s.Stuck) : ¬ s.Finishes := by
  rintro ⟨es, hes, hidle⟩
  obtain ⟨-, hend, -⟩ := Runs.kept_of_allowed stuck_step ⟨hs, h⟩ hes
  obtain hb | hb | ⟨hb, -⟩ := hend <;> rw [hb] at hidle <;> cases hidle

/-! ### Locks are given up -/

theorem not_holds_of_waits {b : Binder} {l : Lock} (h : b.waits = some (.lock l)) :
    ¬ b.Holds l := by
  cases b <;> simp only [Binder.waits, reduceCtorEq, Option.some.injEq, Resource.lock.injEq] at h
  all_goals
    subst h
    simp [Binder.Holds]

/-- Who holds a lock gives it up in the next step. -/
theorem can_free (hs : s.Sound) {l : Lock} (hl : ¬ s.binder.Holds l) :
    Can step Event.Proceeds s fun s' => s'.Sound ∧ s'.owner l = none ∧ s'.binder = s.binder ∧
      s'.mCallback = s.mCallback ∧ (¬ s.worker.Holds l → s'.worker = s.worker) := by
  cases ho : s.owner l with
  | none => exact .here ⟨hs, ho, rfl, rfl, fun _ => rfl⟩
  | some t =>
    have hholds : s.Holds t l := (hs.guarded l t).1 ho
    cases t with
    | binder => exact absurd hholds hl
    | worker =>
      have hw : s.worker.Holds l := hholds
      have haside := aside_workerStep s true
      refine .next (e := .worker true) rfl (.here ⟨sound_step s _ hs, ?_, haside.binder,
        haside.mCallback, fun hn => absurd hw hn⟩)
      show (s.workerStep true).owner l = none
      cases hworker : s.worker <;> rw [hworker] at hw
      case partnerHeld fields =>
        obtain rfl : l = .mPartnerLock := hw
        simp [workerStep, hworker, unlock, setWorker]
      case queryHeld =>
        obtain rfl : l = .mLock := hw
        simp [workerStep, hworker, unlock, setWorker]
      case roleHeld =>
        obtain rfl : l = .mRoleSwitchLock := hw
        simp [workerStep, hworker, unlock, setWorker]
      all_goals exact hw.elim
    | monitor =>
      have hm : s.monitor.Holds l := hholds
      have hkept := kept_step s (e := .monitor) trivial
      cases hmonitor : s.monitor <;> rw [hmonitor] at hm
      case queryHeld =>
        obtain rfl : l = .mLock := hm
        have hstep : s.step .monitor = (s.unlock .mLock).setMonitor .idle := by
          simp only [step, monitorStep, hmonitor]
        refine .next (e := .monitor) trivial (.here ⟨sound_step s _ hs, ?_, hkept.binder,
          hkept.mCallback, fun _ => ?_⟩)
        · rw [hstep]
          simp [unlock, setMonitor]
        · rw [hstep]
          rfl
      all_goals exact hm.elim

/-! ### A call that does not take its callback back -/

/-- `setCallback(NULL)` is to end the worker. -/
def TakesBack (s : Threads) : Prop :=
  s.Ending ∨ (s.binder = .callbackLock false ∧ s.mCallback = true)

theorem takesBack_of_binder_eq {s' : Threads} (hb : s'.binder = s.binder)
    (hcb : s'.mCallback = s.mCallback) : s'.TakesBack ↔ s.TakesBack := by
  unfold TakesBack
  rw [ending_of_binder_eq hb hcb, hb, hcb]

/-- Where the binder thread need not wait, its step brings it nearer to the end of its call. -/
theorem descends (hn : ¬ s.Ending) (hidle : s.binder ≠ .idle)
    (hfree : ∀ l, s.binder.waits = some (.lock l) → s.owner l = none) :
    (s.binderStep true).binder.toIdle < s.binder.toIdle ∧
      (s.binderStep true).binder ≠ .callbackLock false := by
  have hto : ∀ b, (s.binderStep true).binder = b → b.toIdle < s.binder.toIdle →
      b ≠ .callbackLock false → (s.binderStep true).binder.toIdle < s.binder.toIdle ∧
        (s.binderStep true).binder ≠ .callbackLock false :=
    fun b hstep hlt hne => ⟨hstep ▸ hlt, hstep ▸ hne⟩
  cases hb : s.binder <;> rw [hb] at hto hfree
  case idle => exact absurd hb hidle
  case callbackKill => exact absurd (.inl hb) hn
  case callbackJoin => exact absurd (.inr (.inl hb)) hn
  case notifyLock q =>
    exact hto (.notifyHeld q) (by simp [binderStep, hb, lock, hfree _ rfl, setBinder])
      (by cases q <;> decide) (by simp)
  case queryLock n =>
    exact hto (.queryHeld n) (by simp [binderStep, hb, lock, hfree _ rfl, setBinder])
      (by cases n <;> decide) (by simp)
  case roleLock mode =>
    exact hto (.roleHeld mode) (by simp [binderStep, hb, lock, hfree _ rfl, setBinder])
      (by cases mode <;> decide) (by simp)
  case partnerLock =>
    exact hto .partnerHeld (by simp [binderStep, hb, lock, hfree _ rfl, setBinder])
      (by decide) (by simp)
  case partnerRelock timedOut =>
    exact hto (.partnerWoken timedOut) (by simp [binderStep, hb, lock, hfree _ rfl, setBinder])
      (by cases timedOut <;> decide) (by simp)
  case roleNotifyLock r =>
    exact hto (.roleNotifyHeld r) (by simp [binderStep, hb, lock, hfree _ rfl, setBinder])
      (by cases r <;> decide) (by simp)
  case callbackLock cb =>
    exact hto (.callbackHeld cb) (by simp [binderStep, hb, lock, hfree _ rfl, setBinder])
      (by cases cb <;> decide) (by simp)
  case notifyHeld q =>
    cases q
    · exact hto .idle (by simp [binderStep, hb, setBinder]) (by decide) (by simp)
    · exact hto (.queryLock false) (by simp [binderStep, hb, setBinder]) (by decide) (by simp)
  case queryHeld n =>
    cases n
    · exact hto .idle (by simp [binderStep, hb, setBinder]) (by decide) (by simp)
    · exact hto (.notifyLock false) (by simp [binderStep, hb, setBinder]) (by decide) (by simp)
  case roleHeld mode =>
    cases mode
    · exact hto (.roleNotifyLock true) (by simp [binderStep, hb, setBinder]) (by decide) (by simp)
    · exact hto .partnerLock (by simp [binderStep, hb, setBinder]) (by decide) (by simp)
  case partnerHeld =>
    exact hto .partnerWait (by simp [binderStep, hb, setBinder]) (by decide) (by simp)
  case partnerWait =>
    exact hto (.partnerRelock true) (by simp [binderStep, hb, setBinder]) (by decide) (by simp)
  case partnerWoken timedOut =>
    cases timedOut
    · by_cases hup : s.mPartnerUp = true
      · exact hto (.partnerUnlock true) (by simp [binderStep, hb, hup, setBinder]) (by decide)
          (by simp)
      · exact hto .partnerWait (by simp [binderStep, hb, hup, setBinder]) (by decide) (by simp)
    · exact hto (.partnerUnlock false) (by simp [binderStep, hb, setBinder]) (by decide) (by simp)
  case callbackHeld cb =>
    by_cases hsame : cb = s.mCallback
    · exact hto .callbackUnlock (by simp [binderStep, hb, hsame, setBinder])
        (by cases cb <;> decide) (by simp)
    cases cb
    · exact hto .callbackKill (by simp [binderStep, hb, hsame, setBinder]) (by decide) (by simp)
    · exact hto .callbackCreate (by simp [binderStep, hb, hsame, setBinder]) (by decide) (by simp)
  case callbackCreate =>
    exact hto .callbackUnlock (by simp [binderStep, hb, setBinder]) (by decide) (by simp)
  case partnerUnlock r =>
    exact hto (.roleNotifyLock r) (by simp [binderStep, hb, setBinder])
      (by cases r <;> decide) (by simp)
  case roleNotifyHeld r =>
    exact hto .roleUnlock (by simp [binderStep, hb, setBinder]) (by cases r <;> decide) (by simp)
  case roleUnlock => exact hto .idle (by simp [binderStep, hb, setBinder]) (by decide) (by simp)
  case callbackUnlock => exact hto .idle (by simp [binderStep, hb, setBinder]) (by decide) (by simp)

/-- A call that takes no callback back can come to its end. -/
theorem finishes_of_not_takesBack (hs : s.Sound) (h : ¬ s.TakesBack) : s.Finishes := by
  refine Can.of_descent (fun s => s.Sound ∧ ¬ s.TakesBack) (fun s => s.binder.toIdle) ?_ ⟨hs, h⟩
  rintro s ⟨hs, h⟩
  by_cases hidle : s.binder = .idle
  · exact .inl hidle
  refine .inr ?_
  -- first the lock that the binder thread waits for is given up
  have hready : Can step Event.Proceeds s fun s' => s'.Sound ∧ s'.binder = s.binder ∧
      s'.mCallback = s.mCallback ∧ ∀ l, s.binder.waits = some (.lock l) → s'.owner l = none := by
    by_cases hw : ∃ l, s.binder.waits = some (.lock l)
    · obtain ⟨l, hl⟩ := hw
      refine (can_free hs (not_holds_of_waits hl)).trans fun s' hs' => .here ?_
      obtain ⟨hs', hfree, hb, hcb, -⟩ := hs'
      refine ⟨hs', hb, hcb, fun k hk => ?_⟩
      obtain rfl : l = k := by simpa using hl.symm.trans hk
      exact hfree
    · exact .here ⟨hs, rfl, rfl, fun l hl => absurd ⟨l, hl⟩ hw⟩
  refine hready.trans fun s' hs' => ?_
  obtain ⟨hs', hb, hcb, hfree⟩ := hs'
  have h' : ¬ s'.TakesBack := mt (takesBack_of_binder_eq hb hcb).1 h
  obtain ⟨hend, hlock⟩ := not_or.1 h'
  obtain ⟨hless, hne⟩ :=
    descends hend (fun he => hidle (hb ▸ he)) fun l hl => hfree l (hb ▸ hl)
  refine .next (e := .binder true) rfl (.here ⟨⟨sound_step s' _ hs', ?_⟩, hb ▸ hless⟩)
  rintro (hend' | ⟨hlock', -⟩)
  · obtain ⟨hlb, hcb', -⟩ := (ending_binderStep hend true).1 hend'
    exact hlock ⟨hlb, hcb'⟩
  · exact hne hlock'

/-! ### The worker is ended -/

theorem not_takesBack_of_unlock (hb : s.binder = .callbackUnlock) : ¬ s.TakesBack := by
  rintro ((h | h | ⟨h, -⟩) | ⟨h, -⟩) <;> rw [hb] at h <;> cases h

/-- With the worker gone, `setCallback(NULL)` goes on. -/
theorem finishes_of_not_alive (hs : s.Sound) (h : s.Ending) (hdead : ¬ s.worker.Alive) :
    s.Finishes := by
  have hjoin : ∀ s : Threads, s.Sound → s.binder = .callbackJoin → ¬ s.worker.Alive →
      s.Finishes := by
    intro s hs hb hdead
    refine .next (e := .binder true) rfl
      (finishes_of_not_takesBack (sound_step s _ hs) (not_takesBack_of_unlock ?_))
    simp [step, binderStep, hb, hdead, setBinder]
  have hkill : ∀ s : Threads, s.Sound → s.binder = .callbackKill → ¬ s.worker.Alive →
      s.Finishes := by
    intro s hs hb hdead
    have hstep : s.step (.binder true) = s.setBinder .callbackJoin := by
      simp [step, binderStep, hb, hdead]
    refine .next (e := .binder true) rfl (hjoin _ (sound_step s _ hs) ?_ ?_) <;> rw [hstep]
    · rfl
    · exact hdead
  obtain hb | hb | ⟨hb, hcb⟩ := h
  · exact hkill s hs hb hdead
  · exact hjoin s hs hb hdead
  · have hstep :
        s.step (.binder true) = { s with mCallback := false }.setBinder .callbackKill := by
      simp [step, binderStep, hb, hcb]
    refine .next (e := .binder true) rfl (hkill _ (sound_step s _ hs) ?_ ?_) <;> rw [hstep]
    · rfl
    · exact hdead

theorem Leaves.finishes (h : s.Leaves) : s.Finishes := by
  obtain ⟨es, hes, hdead⟩ := h.can_end
  have hj := (Runs.kept_of_allowed leaves_step h hes).joining
  have hend : Can step Event.Goes s fun s' => s'.Joining ∧ ¬ s'.worker.Alive := ⟨es, hes, hj, hdead⟩
  exact (hend.mono fun _ => Event.Goes.proceeds).trans fun s' hs' =>
    finishes_of_not_alive hs'.1.sound (.inr (.inl hs'.1.binder)) hs'.2

/-- A worker that is joined has been told to stop, or will be. -/
def Signalled (s : Threads) : Prop :=
  s.binder = .callbackJoin → s.worker.Alive → s.pending = true ∨ s.destroyThread = true

/-- A worker that is joined, does not ask and has not missed the signal leaves. -/
theorem finishes_of_joining (hj : s.Joining) (hsig : s.Signalled) (halive : s.worker.Alive)
    (hasks : ¬ s.worker.Asks) (hmissed : ¬ s.Missed) : s.Finishes := by
  by_cases hp : s.pending = true
  · by_cases hepoll : s.worker = .epollWait
    · exact Leaves.finishes ⟨hj, fun _ => ⟨hasks, (heard_epollWait hepoll).2 hp⟩⟩
    by_cases henter : s.worker = .enter
    · -- the signal comes in `epoll_wait`
      have hstep : s.step (.worker true) = s.setWorker .epollWait := by
        simp only [step, workerStep, henter]
      have hleaves : (s.step (.worker true)).Leaves := by
        refine ⟨hj.worker, fun _ => ⟨?_, ?_⟩⟩
        · rw [hstep]
          exact id
        · rw [hstep]
          exact (heard_epollWait rfl).2 hp
      exact .next (e := .worker true) rfl hleaves.finishes
    · -- it comes at once
      have hstep : s.step .signal = { s with pending := false, destroyThread := true } := by
        simp only [step, signalStep, if_pos (show _ ∧ _ from ⟨hp, halive⟩), if_neg hepoll]
        rfl
      have hleaves : (s.step .signal).Leaves := by
        refine .of_told (hj.step (e := .signal) trivial) ?_ ?_ ?_ <;> rw [hstep]
        · exact hasks
        · exact ⟨henter, hepoll⟩
      exact .next (e := .signal) trivial hleaves.finishes
  · have hflag : s.destroyThread = true := (hsig hj.binder halive).resolve_left hp
    have hwait : s.worker ≠ .enter ∧ s.worker ≠ .epollWait := by
      refine not_or.1 fun hw => hmissed ⟨hj.binder, Bool.eq_false_iff.2 hp, hw⟩
    exact (Leaves.of_told hj hflag hasks hwait).finishes

/-- `setCallback(NULL)` comes to the join with the signal sent. -/
theorem finishes_of_ending (hs : s.Sound) (hsig : s.Signalled) (h : s.Ending)
    (hstuck : ¬ s.Stuck) : s.Finishes := by
  by_cases halive : s.worker.Alive
  swap
  · exact finishes_of_not_alive hs h halive
  obtain ⟨hasks, hmissed⟩ := not_or.1 fun hw => hstuck ⟨h, halive, hw⟩
  have hkill : ∀ s : Threads, s.Sound → s.binder = .callbackKill → s.worker.Alive →
      ¬ s.worker.Asks → s.Finishes := by
    intro s hs hb halive hasks
    have hstep : s.step (.binder true) = { s with pending := true }.setBinder .callbackJoin := by
      simp [step, binderStep, hb, halive]
    have hj : (s.step (.binder true)).Joining := ⟨sound_step s _ hs, by rw [hstep]; rfl⟩
    refine .next (e := .binder true) rfl (finishes_of_joining hj ?_ ?_ ?_ ?_) <;> rw [hstep]
    · exact fun _ _ => .inl rfl
    · exact halive
    · exact hasks
    · exact fun hm => absurd hm.2.1 Bool.noConfusion
  obtain hb | hb | ⟨hb, hcb⟩ := id h
  · exact hkill s hs hb halive hasks
  · exact finishes_of_joining ⟨hs, hb⟩ hsig halive hasks hmissed
  · have hstep : s.step (.binder true) = { s with mCallback := false }.setBinder .callbackKill := by
      simp [step, binderStep, hb, hcb]
    refine .next (e := .binder true) rfl (hkill _ (sound_step s _ hs) ?_ ?_ ?_) <;> rw [hstep]
    · rfl
    · exact halive
    · exact hasks

/-! ### Before the worker is ended -/

/-- The worker asks for nothing, and `mLock` is free. -/
structure Quieted (s s' : Threads) : Prop where
  sound : s'.Sound
  asks : ¬ s'.worker.Asks
  free : s'.owner .mLock = none
  binder : s'.binder = s.binder
  mCallback : s'.mCallback = s.mCallback

/-- With `mLock` in its hands the worker is two steps from that. -/
theorem can_quiet_of_queryHeld (hs : s.Sound) (hw : s.worker = .queryHeld) :
    Can step Event.Proceeds s (Quieted s) := by
  have haside := aside_workerStep s true
  refine .next (e := .worker true) rfl
    (.here ⟨sound_step s _ hs, ?_, ?_, haside.binder, haside.mCallback⟩)
  · simp only [step, workerStep, hw, setWorker]
    exact id
  · simp [step, workerStep, hw, unlock, setWorker]

/-- As long as the binder thread does not hold `mLock`, the worker can make its query. -/
theorem can_quiet (ha : s.Apart) (hlock : ¬ s.binder.Holds .mLock) :
    Can step Event.Proceeds s (Quieted s) := by
  have hfreed : ∀ s : Threads, s.Sound → ¬ s.binder.Holds .mLock → s.worker ≠ .queryHeld →
      Can step Event.Proceeds s fun s' => s'.Sound ∧ s'.owner .mLock = none ∧
        s'.binder = s.binder ∧ s'.mCallback = s.mCallback ∧ s'.worker = s.worker := by
    intro s hs hlock hne
    refine (can_free hs hlock).trans fun s' hs' => .here ?_
    obtain ⟨hs', hfree, hb, hcb, hworker⟩ := hs'
    refine ⟨hs', hfree, hb, hcb, hworker fun hw => ?_⟩
    cases hk : s.worker <;> rw [hk] at hw
    case queryHeld => exact hne hk
    case partnerHeld l => cases hw
    case roleHeld => cases hw
    all_goals exact hw
  by_cases hheld : s.worker = .queryHeld
  · exact can_quiet_of_queryHeld ha.sound hheld
  by_cases hasks : s.worker.Asks
  swap
  · refine (hfreed s ha.sound hlock hheld).trans fun s' hs' => .here ?_
    obtain ⟨hs', hfree, hb, hcb, hworker⟩ := hs'
    exact ⟨hs', hworker ▸ hasks, hfree, hb, hcb⟩
  -- the worker comes to the query, gets `mLock` and gives it up
  have hquery := can_of_leads (leads_keeps ha.sound (leads_query ha hasks hheld))
  refine (hquery.mono fun _ => Event.Goes.proceeds).trans fun s₁ hs₁ => ?_
  obtain ⟨hw₁, hs₁, haside⟩ := hs₁
  refine (hfreed s₁ hs₁ (haside.binder ▸ hlock) (by simp [hw₁])).trans fun s₂ hs₂ => ?_
  obtain ⟨hs₂, hfree, hb, hcb, hworker⟩ := hs₂
  have hw₂ : (s₂.step (.worker true)).worker = .queryHeld := by
    simp [step, workerStep, hworker, hw₁, lock, hfree, setWorker]
  have hheld₂ := aside_workerStep s₂ true
  refine .next (e := .worker true) rfl
    ((can_quiet_of_queryHeld (sound_step s₂ _ hs₂) hw₂).trans fun s₃ hs₃ => .here ?_)
  exact ⟨hs₃.sound, hs₃.asks, hs₃.free,
    hs₃.binder.trans (hheld₂.binder.trans (hb.trans haside.binder)),
    hs₃.mCallback.trans (hheld₂.mCallback.trans (hcb.trans haside.mCallback))⟩

/-- Before it has locked `mLock`, `setCallback(NULL)` can let the worker ask. -/
theorem finishes_of_callbackLock (hs : s.Sound) (hb : s.binder = .callbackLock false)
    (hcb : s.mCallback = true) : s.Finishes := by
  have hholds : ∀ l, ¬ s.binder.Holds l := fun l => by rw [hb]; exact id
  refine (can_quiet ⟨hs, hholds _⟩ (hholds _)).trans fun s' hs' => ?_
  have hb' : s'.binder = .callbackLock false := hs'.binder.trans hb
  have hstep : (s'.step (.binder true)).binder = .callbackHeld false ∧
      (s'.step (.binder true)).worker = s'.worker ∧
      (s'.step (.binder true)).mCallback = s'.mCallback := by
    simp [step, binderStep, hb', lock, hs'.free, setBinder]
  obtain ⟨hheld, hworker, hcb'⟩ := hstep
  refine .next (e := .binder true) rfl (finishes_of_ending (sound_step s' _ hs'.sound) ?_ ?_ ?_)
  · intro hj
    rw [hheld] at hj
    cases hj
  · exact .inr (.inr ⟨hheld, hcb'.trans (hs'.mCallback.trans hcb)⟩)
  · rintro ⟨-, -, hasks | hmissed⟩
    · exact hs'.asks (hworker ▸ hasks)
    · have hj := hmissed.1
      rw [hheld] at hj
      cases hj

/-! ### The signal -/

/-- Only `pthread_kill` comes before `pthread_join`. -/
theorem binder_of_join {answer : Bool} (h : (s.binderStep answer).binder = .callbackJoin) :
    s.binder = .callbackKill ∨ s.binder = .callbackJoin := by
  by_cases hend : s.Ending
  · obtain hb | hb | ⟨hb, hcb⟩ := hend
    · exact .inl hb
    · exact .inr hb
    · simp [binderStep, hb, hcb, setBinder] at h
  · obtain ⟨hb, -, hfree⟩ := (ending_binderStep hend answer).1 (.inr (.inl h))
    simp [binderStep, hb, lock, hfree, setBinder] at h

theorem signalled_step (s : Threads) (e : Event) (h : s.Signalled) : (s.step e).Signalled := by
  cases e with
  | call c =>
    simp only [step]
    split_ifs
    · intro hj
      cases c <;> cases hj
    · exact h
  | binder answer =>
    intro hj
    obtain hb | hb := binder_of_join hj
    · by_cases halive : s.worker.Alive
      · intro _
        simp [step, binderStep, hb, halive, setBinder]
      · intro ha
        have hworker : (s.binderStep answer).worker = s.worker := by
          simp only [binderStep, hb, if_neg halive, setBinder]
        exact absurd (hworker ▸ ha) halive
    · by_cases halive : s.worker.Alive
      · simpa [step, binderStep, hb, halive] using h hb
      · simp [step, binderStep, hb, halive, setBinder] at hj
  | worker answer =>
    have haside := aside_workerStep s answer
    intro hj ha
    show (s.workerStep answer).pending = true ∨ (s.workerStep answer).destroyThread = true
    rw [haside.pending, haside.destroyThread]
    exact h (haside.binder.symm.trans hj) ((workerStep_keeps s answer).2.2 ha)
  | uevent fields =>
    simp only [step]
    split_ifs with hw
    · exact fun hj _ => h hj (by simp [hw, Worker.Alive])
    · exact h
  | signal =>
    simp only [step, signalStep]
    split_ifs
    · exact fun _ _ => .inr rfl
    · exact fun _ _ => .inr rfl
    · exact h
  | updatePortStatus =>
    simp only [step]
    split_ifs
    · exact h
    · exact h
  | monitor =>
    obtain ⟨haside, hworker⟩ := aside_monitorStep s
    intro hj ha
    show s.monitorStep.pending = true ∨ s.monitorStep.destroyThread = true
    rw [haside.pending, haside.destroyThread]
    exact h (haside.binder.symm.trans hj) (hworker ▸ ha)

theorem signalled_run (es : List Event) : (Runs.run step initial es).Signalled :=
  Runs.run_invariant signalled_step (fun hj => by cases hj) es

/-- **Every call can come to its end**, in every state of every run, but a `setCallback(NULL)` that
is ending a worker which asks for `mLock` or has missed the signal; and that one cannot. -/
theorem finishes_iff (es : List Event) :
    (Runs.run step initial es).Finishes ↔ ¬ (Runs.run step initial es).Stuck := by
  have hs := sound_run es
  constructor
  · exact fun hf hstuck => not_finishes_of_stuck hs hstuck hf
  · intro hstuck
    by_cases h : (Runs.run step initial es).TakesBack
    · obtain hend | ⟨hb, hcb⟩ := h
      · exact finishes_of_ending hs (signalled_run es) hend hstuck
      · exact finishes_of_callbackLock hs hb hcb
    · exact finishes_of_not_takesBack hs h

end Threads

end Usb

end Gs101
