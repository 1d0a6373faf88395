import Gs101.Usb.Threads

/-!
# Usb: freedom from deadlock

A thread waits for a mutex, or, in `pthread_join`, for the end of the worker.  `Threads.waiting` is
the graph of these waits; the timed wait of `switchMode` ends by itself and is no edge.

The locks are taken in an order, with the end of the worker between `mPartnerLock` and `mLock`
(`Resource.rank`).  One chain breaks it: `setCallback(NULL)` joins the worker under `mLock`, and the
worker may be waiting for `mLock` in `queryVersionHelper` (`Trapped`).

* `cycle_iff_joined`: a cycle of waiting threads is this one;
* `Undisturbed`: the steps that lead to it are left out;
* `undisturbed_no_cycle`: a run of undisturbed steps reaches no cycle, and after any other run the
  binder thread is two steps away from one, whatever the other threads do.
-/

namespace Gs101

namespace Usb

/-- The locks that the binder thread holds. -/
def Binder.Holds : Binder → Lock → Prop
  | .notifyHeld _, l | .queryHeld _, l | .callbackHeld _, l | .callbackKill, l
  | .callbackJoin, l | .callbackCreate, l | .callbackUnlock, l => l = .mLock
  | .roleHeld _, l | .partnerLock, l | .partnerWait, l | .partnerRelock _, l
  | .roleNotifyLock _, l | .roleUnlock, l => l = .mRoleSwitchLock
  | .partnerHeld, l | .partnerWoken _, l | .partnerUnlock _, l =>
      l = .mRoleSwitchLock ∨ l = .mPartnerLock
  | .roleNotifyHeld _, l => l = .mRoleSwitchLock ∨ l = .mLock
  | .idle, _ | .notifyLock _, _ | .queryLock _, _ | .roleLock _, _ | .callbackLock _, _ => False

/-- The locks that the worker holds. -/
def Worker.Holds : Worker → Lock → Prop
  | .partnerHeld _, l => l = .mPartnerLock
  | .queryHeld, l => l = .mLock
  | .roleHeld, l => l = .mRoleSwitchLock
  | _, _ => False

/-- The locks that the monitor's thread holds. -/
def MonitorThread.Holds : MonitorThread → Lock → Prop
  | .queryHeld, l => l = .mLock
  | _, _ => False

/-- What a thread may wait for. -/
inductive Resource
  | lock (l : Lock)
  /-- The end of the worker. -/
  | exit
  deriving DecidableEq

/-- What the binder thread waits for. -/
def Binder.waits : Binder → Option Resource
  | .notifyLock _ | .queryLock _ | .roleNotifyLock _ | .callbackLock _ => some (.lock .mLock)
  | .roleLock _ => some (.lock .mRoleSwitchLock)
  | .partnerLock | .partnerRelock _ => some (.lock .mPartnerLock)
  | .callbackJoin => some .exit
  | _ => none

def Worker.waits : Worker → Option Resource
  | .partnerLock _ => some (.lock .mPartnerLock)
  | .queryLock => some (.lock .mLock)
  | _ => none

def MonitorThread.waits : MonitorThread → Option Resource
  | .queryLock => some (.lock .mLock)
  | _ => none

/-- The order in which the resources are taken, the innermost one lowest. -/
def Resource.rank : Resource → ℕ
  | .lock .mPartnerLock => 0
  | .exit => 1
  | .lock .mLock => 2
  | .lock .mRoleSwitchLock => 3

/-- The worker is about to find a field that makes it query. -/
def Worker.FindsPort : Worker → Prop
  | .fields (.port :: _) => True
  | _ => False

instance : DecidablePred Worker.FindsPort
  | .fields (.port :: _) => isTrue trivial
  | .fields [] | .fields (.partnerAdded :: _) | .fields (.other :: _) => isFalse id
  | .absent | .start | .check | .enter | .epollWait | .partnerLock _ | .partnerHeld _ | .queryLock
  | .queryHeld | .tryRole | .roleHeld | .exited => isFalse id

/-- A step of the binder thread. -/
def Event.isBinder : Event → Bool
  | .binder _ => true
  | _ => false

/-- An arrival of a uevent or a signal, or a step of the monitor. -/
def Event.Outside : Event → Prop
  | .call _ | .binder _ | .worker _ => False
  | .uevent _ | .signal | .updatePortStatus | .monitor => True

namespace Threads

def Holds (s : Threads) : Thread → Lock → Prop
  | .binder => s.binder.Holds
  | .worker => s.worker.Holds
  | .monitor => s.monitor.Holds

/-- The owners are what the program counters say. -/
def Guarded (s : Threads) : Prop := Locks.Guards s.owner s.Holds

/-- The worker runs only while a callback is set, or while `setCallback` ends it. -/
structure Attended (s : Threads) : Prop where
  create : s.binder = .callbackCreate → ¬ s.worker.Alive ∧ s.mCallback = true
  rest : s.mCallback = false → s.binder ≠ .callbackKill → s.binder ≠ .callbackJoin →
    ¬ s.worker.Alive

/-- Who waits for what, and who owns it. -/
def waiting (s : Threads) : Locks.Waiting Thread Resource where
  waits
    | .binder => s.binder.waits
    | .worker => s.worker.waits
    | .monitor => s.monitor.waits
  owner
    | .lock l => s.owner l
    | .exit => if s.worker.Alive then some .worker else none

/-! ### The worker and the callback -/

/-- The binder thread neither creates nor ends the worker. -/
theorem Attended.setBinder {s : Threads} (h : s.Attended) {b : Binder}
    (hrest : s.binder ≠ .callbackKill ∧ s.binder ≠ .callbackJoin) (hb : b ≠ .callbackCreate) :
    (s.setBinder b).Attended :=
  ⟨fun he => absurd he hb, fun hcb _ _ => h.rest hcb hrest.1 hrest.2⟩

/-- `mCallback`, the worker and the binder thread are where they were. -/
theorem Attended.congr {s s' : Threads} (h : s.Attended) (hcb : s'.mCallback = s.mCallback)
    (hw : s'.worker.Alive → s.worker.Alive) (hb : s'.binder = s.binder) : s'.Attended :=
  ⟨fun he => ⟨fun ha => (h.create (hb ▸ he)).1 (hw ha), hcb.trans (h.create (hb ▸ he)).2⟩,
    fun hn hk hj ha => h.rest (hcb ▸ hn) (hb ▸ hk) (hb ▸ hj) (hw ha)⟩

theorem Attended.lock {s : Threads} (h : s.Attended) {b : Binder} (l : Lock)
    (hrest : s.binder ≠ .callbackKill ∧ s.binder ≠ .callbackJoin) (hb : b ≠ .callbackCreate) :
    (s.lock .binder l (·.setBinder b)).Attended := by
  unfold Threads.lock
  split_ifs
  · have hs : { s with owner := Function.update s.owner l (some .binder) }.Attended :=
      h.congr rfl id rfl
    exact hs.setBinder hrest hb
  · exact h

theorem attended_binderStep {s : Threads} (h : s.Attended) (answer : Bool) :
    (s.binderStep answer).Attended := by
  cases hb : s.binder <;> simp only [binderStep, hb]
  case callbackHeld cb =>
    have hrest : s.binder ≠ .callbackKill ∧ s.binder ≠ .callbackJoin := by simp [hb]
    split_ifs with hsame hcb
    · have hs : { s with mCallback := cb }.Attended := h.congr hsame id rfl
      exact hs.setBinder hrest nofun
    · refine ⟨fun _ => ⟨h.rest ?_ hrest.1 hrest.2, hcb⟩, fun hn => ?_⟩
      · cases hm : s.mCallback with
        | false => rfl
        | true => exact absurd (hcb.trans hm.symm) hsame
      · exact absurd (hn.symm.trans hcb) nofun
    · exact ⟨nofun, fun _ hk => absurd rfl hk⟩
  case callbackKill =>
    split_ifs with halive
    · exact ⟨nofun, fun _ _ hj => absurd rfl hj⟩
    · exact ⟨nofun, fun _ _ hj => absurd rfl hj⟩
    · exact ⟨nofun, fun _ _ _ => halive⟩
  case callbackJoin =>
    split_ifs with halive
    · exact h
    · exact ⟨nofun, fun _ _ _ ha => ha.1 rfl⟩
  case callbackCreate =>
    obtain ⟨hdead, hcb⟩ := h.create hb
    split_ifs
    · exact ⟨nofun, fun hn => absurd (hcb.symm.trans hn) nofun⟩
    · exact ⟨nofun, fun _ _ _ => hdead⟩
  all_goals
    have hrest : s.binder ≠ .callbackKill ∧ s.binder ≠ .callbackJoin := by simp [hb]
    have hset : ∀ (s' : Threads) (b : Binder), s'.binder = s.binder → s'.worker = s.worker →
        s'.mCallback = s.mCallback → b ≠ .callbackCreate → (s'.setBinder b).Attended :=
      fun s' b hb' hw hcb hne =>
        Attended.setBinder (h.congr hcb (fun ha => hw ▸ ha) hb') (hb' ▸ hrest) hne
  case idle => exact h
  case notifyLock q => exact h.lock _ hrest nofun
  case queryLock q => exact h.lock _ hrest nofun
  case roleLock q => exact h.lock _ hrest nofun
  case partnerLock => exact h.lock _ hrest nofun
  case partnerRelock t => exact h.lock _ hrest nofun
  case roleNotifyLock r => exact h.lock _ hrest nofun
  case callbackLock cb => exact h.lock _ hrest nofun
  case notifyHeld q => exact hset (s.unlock _) _ rfl rfl rfl (by cases q <;> nofun)
  case queryHeld n => exact hset (s.unlock _) _ rfl rfl rfl (by cases n <;> nofun)
  case roleHeld mode =>
    cases mode
    · exact hset s _ rfl rfl rfl nofun
    · exact hset s _ rfl rfl rfl (by cases answer <;> nofun)
  case partnerHeld =>
    split_ifs
    · exact hset ({ s with mPartnerUp := false }.unlock .mPartnerLock) .partnerWait
        rfl rfl rfl nofun
    · exact hset { s with mPartnerUp := false } (.partnerUnlock false) rfl rfl rfl nofun
  case partnerWait => exact hset s _ rfl rfl rfl nofun
  case partnerWoken timedOut =>
    cases timedOut <;> simp only
    · split_ifs
      · exact hset s _ rfl rfl rfl nofun
      · exact hset (s.unlock _) _ rfl rfl rfl nofun
    · exact hset s _ rfl rfl rfl nofun
  case partnerUnlock r => exact hset (s.unlock _) _ rfl rfl rfl nofun
  case roleNotifyHeld r => exact hset (s.unlock _) _ rfl rfl rfl nofun
  case roleUnlock => exact hset (s.unlock _) _ rfl rfl rfl nofun
  case callbackUnlock => exact hset (s.unlock _) _ rfl rfl rfl nofun

/-! ### The owners follow the program counters -/

/-- A worker that does not run holds nothing. -/
theorem not_holds_of_not_alive {w : Worker} (h : ¬ w.Alive) (l : Lock) : ¬ w.Holds l := by
  cases w with
  | absent => exact id
  | exited => exact id
  | _ => exact absurd ⟨nofun, nofun⟩ h

/-- The step concerns the thread `t` only. -/
def Only (t : Thread) (next : Threads → Threads) : Prop :=
  ∀ s, (next s).owner = s.owner ∧ ∀ u, u ≠ t → (next s).Holds u = s.Holds u

theorem only_setBinder (b : Binder) : Only .binder (·.setBinder b) := by
  intro s
  refine ⟨rfl, fun u hu => ?_⟩
  cases u with
  | binder => exact absurd rfl hu
  | worker => rfl
  | monitor => rfl

theorem only_setWorker (w : Worker) : Only .worker (·.setWorker w) := by
  intro s
  refine ⟨rfl, fun u hu => ?_⟩
  cases u with
  | binder => rfl
  | worker => exact absurd rfl hu
  | monitor => rfl

theorem only_setMonitor (m : MonitorThread) : Only .monitor (·.setMonitor m) := by
  intro s
  refine ⟨rfl, fun u hu => ?_⟩
  cases u with
  | binder => rfl
  | worker => rfl
  | monitor => exact absurd rfl hu

/-- The locks held do not depend on the owners recorded. -/
theorem holds_owner (s : Threads) (o : Lock → Option Thread) :
    { s with owner := o }.Holds = s.Holds := by
  funext t
  cases t <;> rfl

/-- A thread waits for a lock, or takes it. -/
theorem Guarded.lock {s : Threads} (h : s.Guarded) {t : Thread} {l : Lock}
    {next : Threads → Threads} (hnext : Only t next)
    (ht : ∀ o k, (next { s with owner := o }).Holds t k ↔ s.Holds t k ∨ k = l) :
    (s.lock t l next).Guarded := by
  unfold Threads.lock
  split_ifs with hfree
  · obtain ⟨howner, hoff⟩ := hnext { s with owner := Function.update s.owner l (some t) }
    unfold Guarded
    rw [howner]
    refine Locks.Guards.acquire h hfree (ht _) fun u hu k => ?_
    rw [hoff u hu, holds_owner]
  · exact h

/-- A thread gives a lock up. -/
theorem Guarded.unlock {s : Threads} (h : s.Guarded) {t : Thread} {l : Lock}
    {next : Threads → Threads} (hnext : Only t next) (hl : s.Holds t l)
    (ht : ∀ k, (next (s.unlock l)).Holds t k ↔ s.Holds t k ∧ k ≠ l) :
    (next (s.unlock l)).Guarded := by
  obtain ⟨howner, hoff⟩ := hnext (s.unlock l)
  unfold Guarded
  rw [howner]
  refine Locks.Guards.release h hl ht fun u hu k => ?_
  rw [hoff u hu, Threads.unlock, holds_owner]

/-- A thread moves on under the same locks. -/
theorem Guarded.move {s : Threads} (h : s.Guarded) {t : Thread} {next : Threads → Threads}
    (hnext : Only t next) (ht : ∀ k, (next s).Holds t k ↔ s.Holds t k) : (next s).Guarded := by
  obtain ⟨howner, hoff⟩ := hnext s
  unfold Guarded
  rw [howner]
  refine Locks.Guards.move h fun u k => ?_
  by_cases hu : u = t
  · rw [hu]; exact ht k
  · rw [hoff u hu]

/-- The flags guard nothing. -/
theorem Guarded.flags {s s' : Threads} (h : s.Guarded) (howner : s'.owner = s.owner)
    (hholds : s'.Holds = s.Holds) : s'.Guarded := by
  unfold Guarded
  rw [howner, hholds]
  exact h

theorem guarded_binderStep {s : Threads} (h : s.Guarded) (ha : s.Attended) (answer : Bool) :
    (s.binderStep answer).Guarded := by
  have hlock : ∀ l b, (∀ k, b.Holds k ↔ s.binder.Holds k ∨ k = l) →
      (s.lock .binder l (·.setBinder b)).Guarded := fun l b hk =>
    h.lock (only_setBinder b) fun _ => hk
  have hunlock : ∀ l b, s.binder.Holds l → (∀ k, b.Holds k ↔ s.binder.Holds k ∧ k ≠ l) →
      ((s.unlock l).setBinder b).Guarded := fun l b hl hk => h.unlock (only_setBinder b) hl hk
  have hmove : ∀ b, (∀ k, b.Holds k ↔ s.binder.Holds k) → (s.setBinder b).Guarded := fun b hk =>
    h.move (only_setBinder b) hk
  cases hb : s.binder <;> rw [hb] at hlock hunlock hmove <;> simp only [binderStep, hb]
  case idle => exact h
  case notifyLock q => exact hlock _ _ fun k => by simp [Binder.Holds]
  case notifyHeld q =>
    exact hunlock _ _ rfl fun k => by cases q <;> simp [Binder.Holds]
  case queryLock n => exact hlock _ _ fun k => by simp [Binder.Holds]
  case queryHeld n =>
    exact hunlock _ _ rfl fun k => by cases n <;> simp [Binder.Holds]
  case roleLock mode => exact hlock _ _ fun k => by simp [Binder.Holds]
  case roleHeld mode =>
    cases mode <;> simp only <;> exact hmove _ fun k => by cases answer <;> simp [Binder.Holds]
  case partnerLock => exact hlock _ _ fun k => by simp [Binder.Holds]
  case partnerHeld =>
    split_ifs
    · exact (hunlock .mPartnerLock .partnerWait (.inr rfl) fun k => by
        cases k <;> simp [Binder.Holds]).flags rfl rfl
    · exact (hmove (.partnerUnlock false) fun k => Iff.rfl).flags rfl rfl
  case partnerWait => exact hmove _ fun k => Iff.rfl
  case partnerRelock timedOut => exact hlock _ _ fun k => by simp [Binder.Holds]
  case partnerWoken timedOut =>
    cases timedOut <;> simp only
    · split_ifs
      · exact hmove _ fun k => Iff.rfl
      · exact hunlock _ _ (.inr rfl) fun k => by cases k <;> simp [Binder.Holds]
    · exact hmove _ fun k => Iff.rfl
  case partnerUnlock r =>
    exact hunlock _ _ (.inr rfl) fun k => by cases k <;> simp [Binder.Holds]
  case roleNotifyLock r => exact hlock _ _ fun k => by simp [Binder.Holds]
  case roleNotifyHeld r =>
    exact hunlock _ _ (.inr rfl) fun k => by cases k <;> simp [Binder.Holds]
  case roleUnlock => exact hunlock _ _ rfl fun k => by simp [Binder.Holds]
  case callbackLock cb => exact hlock _ _ fun k => by simp [Binder.Holds]
  case callbackHeld cb =>
    split_ifs
    · exact (hmove .callbackUnlock fun k => Iff.rfl).flags rfl rfl
    · exact (hmove .callbackCreate fun k => Iff.rfl).flags rfl rfl
    · exact (hmove .callbackKill fun k => Iff.rfl).flags rfl rfl
  case callbackKill =>
    split_ifs
    · exact (hmove .callbackJoin fun k => Iff.rfl).flags rfl rfl
    · exact hmove _ fun k => by cases answer <;> simp [Binder.Holds]
    · exact hmove _ fun k => by cases answer <;> simp [Binder.Holds]
  case callbackJoin =>
    split_ifs with halive
    · exact h
    · have hjoined : (s.setWorker .absent).Guarded :=
        h.move (only_setWorker .absent) fun k =>
          iff_of_false id (not_holds_of_not_alive halive k)
      exact hjoined.move (only_setBinder .callbackUnlock) fun k => by
        simp [Holds, setBinder, setWorker, hb, Binder.Holds]
  case callbackCreate =>
    have hdead : ¬ s.worker.Alive := (ha.create hb).1
    split_ifs
    · have hpending : { s with pending := false }.Guarded := h.flags rfl rfl
      have hcreated : ({ s with pending := false }.setWorker .start).Guarded :=
        hpending.move (only_setWorker .start) fun k =>
          iff_of_false id (not_holds_of_not_alive hdead k)
      exact hcreated.move (only_setBinder .callbackUnlock) fun k => by
        simp [Holds, setBinder, setWorker, hb, Binder.Holds]
    · exact (hmove .callbackUnlock fun k => Iff.rfl).flags rfl rfl
  case callbackUnlock => exact hunlock _ _ rfl fun k => by simp [Binder.Holds]

theorem guarded_workerStep {s : Threads} (h : s.Guarded) (answer : Bool) :
    (s.workerStep answer).Guarded := by
  have hlock : ∀ l w, (∀ k, w.Holds k ↔ s.worker.Holds k ∨ k = l) →
      (s.lock .worker l (·.setWorker w)).Guarded := fun l w hk =>
    h.lock (only_setWorker w) fun _ => hk
  have hunlock : ∀ l w, s.worker.Holds l → (∀ k, w.Holds k ↔ s.worker.Holds k ∧ k ≠ l) →
      ((s.unlock l).setWorker w).Guarded := fun l w hl hk => h.unlock (only_setWorker w) hl hk
  have hmove : ∀ w, (∀ k, w.Holds k ↔ s.worker.Holds k) → (s.setWorker w).Guarded := fun w hk =>
    h.move (only_setWorker w) hk
  cases hw : s.worker <;> rw [hw] at hlock hunlock hmove <;> simp only [workerStep, hw]
  case absent => exact h
  case exited => exact h
  case start => exact hmove _ fun k => by cases answer <;> exact Iff.rfl
  case check => exact hmove _ fun k => by split_ifs <;> exact Iff.rfl
  case enter => exact hmove _ fun k => Iff.rfl
  case epollWait =>
    split_ifs
    · exact h
    · exact hmove _ fun k => Iff.rfl
  case fields l =>
    rcases l with - | ⟨f, l⟩
    · exact hmove _ fun k => Iff.rfl
    · cases f <;> exact hmove _ fun k => Iff.rfl
  case partnerLock l => exact hlock _ _ fun k => by simp [Worker.Holds]
  case partnerHeld l =>
    exact (hunlock .mPartnerLock (.fields l) rfl fun k => by simp [Worker.Holds]).flags rfl rfl
  case queryLock => exact hlock _ _ fun k => by simp [Worker.Holds]
  case queryHeld => exact hunlock _ _ rfl fun k => by simp [Worker.Holds]
  case tryRole =>
    split_ifs
    · exact hlock _ _ fun k => by simp [Worker.Holds]
    · exact hmove _ fun k => Iff.rfl
  case roleHeld => exact hunlock _ _ rfl fun k => by simp [Worker.Holds]

theorem guarded_monitorStep {s : Threads} (h : s.Guarded) : s.monitorStep.Guarded := by
  cases hm : s.monitor <;> simp only [monitorStep, hm]
  case idle => exact h
  case queryLock =>
    exact h.lock (only_setMonitor _) fun o k => by
      simp [Holds, setMonitor, hm, MonitorThread.Holds]
  case queryHeld =>
    exact h.unlock (only_setMonitor _) (by rw [Holds, hm]; rfl) fun k => by
      simp [Holds, setMonitor, hm, MonitorThread.Holds]

theorem guarded_signalStep {s : Threads} (h : s.Guarded) : s.signalStep.Guarded := by
  unfold signalStep
  split_ifs with hp hw
  · have hmoved : (s.setWorker .check).Guarded :=
      h.move (only_setWorker .check) fun k => by simp [Holds, setWorker, hw, Worker.Holds]
    exact hmoved.flags rfl rfl
  · exact h.flags rfl rfl
  · exact h

/-! ### The invariant -/

/-- The worker's own steps leave `mCallback` and the binder thread, and never revive it. -/
theorem workerStep_keeps (s : Threads) (answer : Bool) :
    (s.workerStep answer).mCallback = s.mCallback ∧ (s.workerStep answer).binder = s.binder ∧
      ((s.workerStep answer).worker.Alive → s.worker.Alive) := by
  cases hw : s.worker with
  | absent => exact ⟨by simp [workerStep, hw], by simp [workerStep, hw], by simp [workerStep, hw]⟩
  | exited => exact ⟨by simp [workerStep, hw], by simp [workerStep, hw], by simp [workerStep, hw]⟩
  | fields l =>
    rcases l with - | ⟨f, l⟩
    · exact ⟨by simp [workerStep, hw, setWorker], by simp [workerStep, hw, setWorker],
        fun _ => ⟨nofun, nofun⟩⟩
    · cases f <;> exact ⟨by simp [workerStep, hw, setWorker], by simp [workerStep, hw, setWorker],
        fun _ => ⟨nofun, nofun⟩⟩
  | _ =>
    refine ⟨?_, ?_, fun _ => ⟨nofun, nofun⟩⟩ <;>
      simp only [workerStep, hw, lock, unlock, setWorker] <;> split_ifs <;> rfl

/-- What is left alone outside the binder thread and the worker: a worker that is not in
`epoll_wait` stays where it is. -/
structure Kept (s s' : Threads) : Prop where
  binder : s'.binder = s.binder
  mCallback : s'.mCallback = s.mCallback
  mPartnerUp : s'.mPartnerUp = s.mPartnerUp
  alive : s'.worker.Alive → s.worker.Alive
  queryLock : s'.worker = .queryLock ↔ s.worker = .queryLock

theorem Kept.refl (s : Threads) : s.Kept s := ⟨rfl, rfl, rfl, id, Iff.rfl⟩

theorem kept_lock (s : Threads) (t : Thread) (l : Lock) {next : Threads → Threads}
    (hnext : ∀ o, Kept s (next { s with owner := o })) : s.Kept (s.lock t l next) := by
  unfold lock
  split_ifs
  · exact hnext _
  · exact .refl s

/-- The worker leaves `epoll_wait`. -/
theorem kept_epollWait {s : Threads} (hw : s.worker = .epollWait) {w : Worker}
    (hne : w ≠ .queryLock) : s.Kept (s.setWorker w) := by
  refine ⟨rfl, rfl, rfl, fun _ => ?_, iff_of_false hne ?_⟩ <;> rw [hw]
  · exact ⟨nofun, nofun⟩
  · nofun

theorem kept_step (s : Threads) {e : Event} (he : e.Outside) : s.Kept (s.step e) := by
  cases e with
  | call c => exact he.elim
  | binder answer => exact he.elim
  | worker answer => exact he.elim
  | uevent fields =>
    simp only [step]
    split_ifs with hw
    · exact kept_epollWait hw nofun
    · exact .refl s
  | signal =>
    simp only [step, signalStep]
    split_ifs with hp hw
    · have hcheck := kept_epollWait hw (w := .check) nofun
      exact ⟨rfl, rfl, rfl, hcheck.alive, hcheck.queryLock⟩
    · exact ⟨rfl, rfl, rfl, id, Iff.rfl⟩
    · exact .refl s
  | updatePortStatus =>
    simp only [step]
    split_ifs
    · exact ⟨rfl, rfl, rfl, id, Iff.rfl⟩
    · exact .refl s
  | monitor =>
    simp only [step, monitorStep]
    cases s.monitor with
    | idle => exact .refl s
    | queryLock => exact kept_lock s _ _ fun _ => ⟨rfl, rfl, rfl, id, Iff.rfl⟩
    | queryHeld => exact ⟨rfl, rfl, rfl, id, Iff.rfl⟩

/-- What every reachable state satisfies. -/
structure Sound (s : Threads) : Prop where
  guarded : s.Guarded
  attended : s.Attended

theorem sound_initial : initial.Sound := by
  refine ⟨fun l t => iff_of_false nofun fun hh => ?_, nofun, fun _ _ _ ha => ha.1 rfl⟩
  cases t <;> exact hh

theorem entry_plain (c : Call) : (∀ l, ¬ c.entry.Holds l) ∧ c.entry ≠ .callbackCreate := by
  cases c <;> exact ⟨fun _ => id, nofun⟩

theorem sound_step (s : Threads) (e : Event) (h : s.Sound) : (s.step e).Sound := by
  obtain ⟨hg, ha⟩ := h
  have houtside : e.Outside → (s.step e).Attended := fun he =>
    have hkept := kept_step s he
    ha.congr hkept.mCallback hkept.alive hkept.binder
  cases e with
  | call c =>
    simp only [step]
    split_ifs with hidle
    · obtain ⟨hplain, hne⟩ := entry_plain c
      refine ⟨hg.move (only_setBinder c.entry) fun k => iff_of_false (hplain k) ?_,
        ha.setBinder (by simp [hidle]) hne⟩
      rw [Holds, hidle]
      exact id
    · exact ⟨hg, ha⟩
  | binder answer => exact ⟨guarded_binderStep hg ha answer, attended_binderStep ha answer⟩
  | worker answer =>
    obtain ⟨hcb, hb, halive⟩ := workerStep_keeps s answer
    exact ⟨guarded_workerStep hg answer, ha.congr hcb halive hb⟩
  | uevent fields =>
    refine ⟨?_, houtside trivial⟩
    simp only [step]
    split_ifs with hw
    · refine hg.move (only_setWorker (.fields fields)) fun k => ?_
      simp [Holds, setWorker, hw, Worker.Holds]
    · exact hg
  | signal => exact ⟨guarded_signalStep hg, houtside trivial⟩
  | updatePortStatus =>
    refine ⟨?_, houtside trivial⟩
    simp only [step]
    split_ifs with hm
    · refine hg.move (only_setMonitor .queryLock) fun k => ?_
      simp [Holds, setMonitor, hm, MonitorThread.Holds]
    · exact hg
  | monitor => exact ⟨guarded_monitorStep hg, houtside trivial⟩

theorem sound_run (es : List Event) : (Runs.run step initial es).Sound :=
  Runs.run_invariant sound_step sound_initial es

/-! ### The one cycle -/

/-- The binder thread joins the worker, which waits for `mLock`. -/
def Joined (s : Threads) : Prop := s.binder = .callbackJoin ∧ s.worker = .queryLock

/-- Elsewhere the resources are taken in order. -/
theorem ordered_of_not_joined {s : Threads} (h : s.Guarded) (hn : ¬ s.Joined) :
    s.waiting.Ordered Resource.rank := by
  intro t t' r r' hw ho hw'
  cases r with
  | lock l =>
    have hl : s.Holds t' l := (h l t').1 ho
    cases t' with
    | binder =>
      -- only `roleNotifyLock`, `partnerLock`, `partnerRelock` and `callbackJoin` hold and wait
      have hl : s.binder.Holds l := hl
      have hw' : s.binder.waits = some r' := hw'
      cases hb : s.binder <;> rw [hb] at hl hw' <;>
        simp only [Binder.Holds, Binder.waits, reduceCtorEq, Option.some.injEq] at hl hw'
      all_goals
        subst hl hw'
        decide
    | worker =>
      have hl : s.worker.Holds l := hl
      have hw' : s.worker.waits = some r' := hw'
      cases hb : s.worker <;> rw [hb] at hl hw' <;>
        simp [Worker.Holds, Worker.waits] at hl hw'
    | monitor =>
      have hl : s.monitor.Holds l := hl
      have hw' : s.monitor.waits = some r' := hw'
      cases hb : s.monitor <;> rw [hb] at hl hw' <;>
        simp [MonitorThread.Holds, MonitorThread.waits] at hl hw'
  | exit =>
    have hjoin : s.binder = .callbackJoin := by
      cases t with
      | binder =>
        have hw : s.binder.waits = some .exit := hw
        cases hb : s.binder <;> rw [hb] at hw <;> simp [Binder.waits] at hw
      | worker =>
        have hw : s.worker.waits = some .exit := hw
        cases hb : s.worker <;> rw [hb] at hw <;> simp [Worker.waits] at hw
      | monitor =>
        have hw : s.monitor.waits = some .exit := hw
        cases hb : s.monitor <;> rw [hb] at hw <;> simp [MonitorThread.waits] at hw
    have hworker : t' = .worker := by
      have ho : (if s.worker.Alive then some Thread.worker else none) = some t' := ho
      split_ifs at ho
      exact (Option.some.inj ho).symm
    subst hworker
    have hw' : s.worker.waits = some r' := hw'
    cases hb : s.worker <;> rw [hb] at hw' <;>
      simp only [Worker.waits, reduceCtorEq, Option.some.injEq] at hw'
    · subst hw'
      decide
    · exact absurd ⟨hjoin, hb⟩ hn

/-- A cycle of waiting threads is a join of the worker that waits for `mLock`. -/
theorem cycle_iff_joined {s : Threads} (h : s.Guarded) : s.waiting.Cycle ↔ s.Joined := by
  constructor
  · intro hc
    by_contra hn
    exact Locks.Waiting.not_cycle_of_order (ordered_of_not_joined h hn) hc
  · rintro ⟨hb, hw⟩
    have hjoin : s.waiting.Edge .binder .worker := by
      refine ⟨.exit, ?_, ?_⟩
      · show s.binder.waits = _
        rw [hb]; rfl
      · show (if s.worker.Alive then some Thread.worker else none) = _
        rw [hw]; rfl
    have hlock : s.waiting.Edge .worker .binder := by
      refine ⟨.lock .mLock, ?_, ?_⟩
      · show s.worker.waits = _
        rw [hw]; rfl
      · show s.owner .mLock = _
        rw [h .mLock .binder]
        show s.binder.Holds .mLock
        rw [hb]
        rfl
    exact Locks.Waiting.cycle_of_mutual hjoin hlock

/-- `setCallback(NULL)` has locked `mLock` and is to end the worker. -/
def Ending (s : Threads) : Prop :=
  s.binder = .callbackKill ∨ s.binder = .callbackJoin ∨
    (s.binder = .callbackHeld false ∧ s.mCallback = true)

instance (s : Threads) : Decidable s.Ending := inferInstanceAs (Decidable (_ ∨ _))

/-- The worker waits for `mLock`, which `setCallback(NULL)` holds until the worker has ended. -/
def Trapped (s : Threads) : Prop := s.Ending ∧ s.worker = .queryLock

/-- The step does not begin the deadlock: the worker finds no port field while `setCallback(NULL)`
is about to end it, and `setCallback(NULL)` does not lock `mLock` ahead of a worker that waits for
it. -/
def Undisturbed (s : Threads) : Event → Prop
  | .worker _ => s.worker.FindsPort → ¬ s.Ending
  | .binder _ => s.binder = .callbackLock false → s.mCallback = true → s.owner .mLock = none →
      s.worker ≠ .queryLock
  | _ => True

instance (s : Threads) (e : Event) : Decidable (s.Undisturbed e) := by
  cases e <;> unfold Undisturbed <;> infer_instance

/-! ### Into the trap, and no way out -/

theorem ending_of_binder_eq {s s' : Threads} (hb : s'.binder = s.binder)
    (hcb : s'.mCallback = s.mCallback) : s'.Ending ↔ s.Ending := by
  unfold Ending
  rw [hb, hcb]

theorem Kept.trapped_iff {s s' : Threads} (h : s.Kept s') : s'.Trapped ↔ s.Trapped :=
  and_congr (ending_of_binder_eq h.binder h.mCallback) h.queryLock

/-- The binder thread leaves a worker that waits for `mLock` alone. -/
theorem worker_binderStep {s : Threads} (h : s.Sound) (answer : Bool) :
    (s.binderStep answer).worker = .queryLock ↔ s.worker = .queryLock := by
  cases hb : s.binder <;> simp only [binderStep, hb]
  case callbackJoin =>
    split_ifs with halive
    · exact Iff.rfl
    · refine iff_of_false nofun fun hw => halive ?_
      rw [hw]
      exact ⟨nofun, nofun⟩
  case callbackCreate =>
    have hdead := (h.attended.create hb).1
    have hne : s.worker ≠ .queryLock := fun hw => hdead (by rw [hw]; exact ⟨nofun, nofun⟩)
    split_ifs
    · exact iff_of_false nofun hne
    · exact Iff.rfl
  case roleHeld mode => cases mode <;> exact Iff.rfl
  case partnerWoken timedOut =>
    cases timedOut <;> simp only
    · split_ifs <;> exact Iff.rfl
    · exact Iff.rfl
  case partnerHeld => split_ifs <;> exact Iff.rfl
  case callbackHeld cb => split_ifs <;> exact Iff.rfl
  case callbackKill => split_ifs <;> exact Iff.rfl
  all_goals first
    | exact Iff.rfl
    | (unfold lock; split_ifs <;> exact Iff.rfl)

/-- `setCallback(NULL)` begins to end the worker when it locks `mLock`. -/
theorem ending_binderStep {s : Threads} (hn : ¬ s.Ending) (answer : Bool) :
    (s.binderStep answer).Ending ↔
      s.binder = .callbackLock false ∧ s.mCallback = true ∧ s.owner .mLock = none := by
  have hno : ∀ s' : Threads, s'.binder ≠ .callbackKill → s'.binder ≠ .callbackJoin →
      s'.binder ≠ .callbackHeld false → ¬ s'.Ending := by
    rintro s' hk hj hh (hb | hb | ⟨hb, -⟩)
    · exact hk hb
    · exact hj hb
    · exact hh hb
  have hkill : s.binder ≠ .callbackKill := fun hb => hn (.inl hb)
  have hjoin : s.binder ≠ .callbackJoin := fun hb => hn (.inr (.inl hb))
  cases hb : s.binder with
  | callbackKill => exact absurd hb hkill
  | callbackJoin => exact absurd hb hjoin
  | callbackLock cb =>
    by_cases hfree : s.owner .mLock = none
    · cases cb <;> simp [binderStep, hb, lock, hfree, Ending, setBinder]
    · simp [binderStep, hb, lock, hfree, Ending]
  | callbackHeld cb =>
    refine iff_of_false ?_ nofun
    simp only [binderStep, hb]
    split_ifs with hsame hcb
    · exact hno _ nofun nofun nofun
    · exact hno _ nofun nofun nofun
    · have hset : s.mCallback = true := by
        cases cb <;> cases hm : s.mCallback <;> simp_all
      cases cb
      · exact absurd (.inr (.inr ⟨hb, hset⟩)) hn
      · exact absurd rfl hcb
  | roleHeld mode =>
    refine iff_of_false ?_ nofun
    cases mode <;> cases answer <;> simp only [binderStep, hb] <;> exact hno _ nofun nofun nofun
  | notifyHeld q =>
    refine iff_of_false ?_ nofun
    cases q <;> simp only [binderStep, hb] <;> exact hno _ nofun nofun nofun
  | queryHeld n =>
    refine iff_of_false ?_ nofun
    cases n <;> simp only [binderStep, hb] <;> exact hno _ nofun nofun nofun
  | partnerWoken timedOut =>
    refine iff_of_false ?_ nofun
    cases timedOut <;> simp only [binderStep, hb] <;> (try split_ifs) <;>
      exact hno _ nofun nofun nofun
  | _ =>
    refine iff_of_false ?_ nofun
    simp only [binderStep, hb, lock]
    try split_ifs
    all_goals refine hno _ ?_ ?_ ?_ <;> simp [setBinder, hb]

/-- Once it has begun, it goes on, as long as the worker runs. -/
theorem ending_binderStep_of_ending {s : Threads} (h : s.Ending) (hw : s.worker.Alive)
    (answer : Bool) : (s.binderStep answer).Ending := by
  rcases h with hb | hb | ⟨hb, hcb⟩
  · exact .inr (.inl (by simp [binderStep, hb, hw, setBinder]))
  · exact .inr (.inl (by simp [binderStep, hb, hw]))
  · exact .inl (by simp [binderStep, hb, hcb, setBinder])

/-- The worker comes to wait for `mLock` when it finds a port field. -/
theorem worker_workerStep {s : Threads} (answer : Bool) :
    (s.workerStep answer).worker = .queryLock ↔
      s.worker.FindsPort ∨ (s.worker = .queryLock ∧ s.owner .mLock ≠ none) := by
  cases hw : s.worker with
  | fields l =>
    rcases l with - | ⟨f, l⟩
    · simp [workerStep, hw, Worker.FindsPort, setWorker]
    · cases f <;> simp [workerStep, hw, Worker.FindsPort, setWorker]
  | queryLock =>
    by_cases hfree : s.owner .mLock = none <;>
      simp [workerStep, hw, Worker.FindsPort, lock, hfree, setWorker]
  | _ =>
    simp only [workerStep, hw, Worker.FindsPort, lock]
    try split_ifs
    all_goals simp [setWorker, hw]

/-- From outside the trap, only a disturbed step leads into it. -/
theorem trapped_step_iff {s : Threads} (h : s.Sound) (hn : ¬ s.Trapped) (e : Event) :
    (s.step e).Trapped ↔ ¬ s.Undisturbed e := by
  have hkept : e.Outside → s.Kept (s.step e) := kept_step s
  cases e with
  | binder answer =>
    show (s.binderStep answer).Trapped ↔ _
    by_cases hend : s.Ending
    · have hw : s.worker ≠ .queryLock := fun hw => hn ⟨hend, hw⟩
      refine iff_of_false (fun ht => hw ((worker_binderStep h answer).1 ht.2)) ?_
      exact not_not_intro fun _ _ _ => hw
    · rw [Trapped, ending_binderStep hend, worker_binderStep h]
      simp only [Undisturbed, and_assoc, not_forall, not_not, exists_prop]
  | worker answer =>
    show (s.workerStep answer).Trapped ↔ ¬ (s.worker.FindsPort → ¬ s.Ending)
    obtain ⟨hcb, hb, -⟩ := workerStep_keeps s answer
    rw [Trapped, ending_of_binder_eq hb hcb, worker_workerStep, Classical.not_imp, not_not]
    constructor
    · rintro ⟨he, hf | ⟨hw, -⟩⟩
      · exact ⟨hf, he⟩
      · exact absurd ⟨he, hw⟩ hn
    · exact fun ⟨hf, he⟩ => ⟨he, .inl hf⟩
  | call c =>
    refine iff_of_false ?_ (not_not_intro trivial)
    simp only [step]
    split_ifs with hidle
    · rintro ⟨hb | hb | ⟨hb, -⟩, -⟩ <;> cases c <;> cases hb
    · exact hn
  | _ => exact iff_of_false (mt (hkept trivial).trapped_iff.1 hn) (not_not_intro trivial)

/-- How many steps of its own the binder thread is away from `pthread_join`. -/
def toJoin (s : Threads) : ℕ :=
  match s.binder with
  | .callbackHeld _ => 2
  | .callbackKill => 1
  | _ => 0

/-- No step leads out of the trap, and each step of the binder thread leads deeper into it. -/
theorem trapped_step {s : Threads} (h : s.Sound) (ht : s.Trapped) (e : Event) :
    (s.step e).Trapped ∧ (s.step e).toJoin ≤ s.toJoin - [e].countP Event.isBinder := by
  have hkeep : ∀ s' : Threads, s'.binder = s.binder → s'.Trapped →
      s'.Trapped ∧ s'.toJoin ≤ s.toJoin - 0 := by
    intro s' hb ht'
    refine ⟨ht', ?_⟩
    unfold toJoin
    rw [hb]
    omega
  have hkept : e.Outside → s.Kept (s.step e) := kept_step s
  obtain ⟨he, hw⟩ := id ht
  cases e with
  | binder answer =>
    have halive : s.worker.Alive := by rw [hw]; exact ⟨nofun, nofun⟩
    refine ⟨⟨ending_binderStep_of_ending he halive answer, (worker_binderStep h answer).2 hw⟩, ?_⟩
    show (s.binderStep answer).toJoin ≤ s.toJoin - 1
    rcases he with hb | hb | ⟨hb, hcb⟩
    · simp [binderStep, hb, halive, toJoin, setBinder]
    · simp [binderStep, hb, halive, toJoin]
    · simp [binderStep, hb, hcb, toJoin, setBinder]
  | worker answer =>
    have howned : s.owner .mLock = some .binder := by
      refine (h.guarded .mLock .binder).2 ?_
      show s.binder.Holds .mLock
      rcases he with hb | hb | ⟨hb, -⟩ <;> rw [hb] <;> rfl
    obtain ⟨hcb, hb, -⟩ := workerStep_keeps s answer
    refine hkeep _ hb ⟨(ending_of_binder_eq hb hcb).2 he, ?_⟩
    refine (worker_workerStep answer).2 (.inr ⟨hw, ?_⟩)
    rw [howned]
    nofun
  | call c =>
    have hidle : s.binder ≠ .idle := by
      rcases he with hb | hb | ⟨hb, -⟩ <;> rw [hb] <;> nofun
    have hstep : s.step (.call c) = s := if_neg hidle
    rw [hstep]
    exact hkeep s rfl ht
  | _ => exact hkeep _ (hkept trivial).binder ((hkept trivial).trapped_iff.2 ht)

/-- After two steps of the binder thread the trap has become a cycle, whatever else happens. -/
theorem trapped_run {s : Threads} (h : s.Sound) (ht : s.Trapped) (es : List Event) :
    (Runs.run step s es).Trapped ∧
      (Runs.run step s es).toJoin ≤ s.toJoin - es.countP Event.isBinder := by
  induction es generalizing s with
  | nil => exact ⟨ht, by simp⟩
  | cons e es ih =>
    obtain ⟨ht', hd⟩ := trapped_step h ht e
    obtain ⟨ht'', hd'⟩ := ih (sound_step s e h) ht'
    refine ⟨ht'', ?_⟩
    have hcount : (e :: es).countP Event.isBinder =
        [e].countP Event.isBinder + es.countP Event.isBinder := by
      rw [← List.countP_append]; rfl
    rw [Runs.run_cons, hcount]
    omega

theorem joined_of_trapped {s : Threads} (ht : s.Trapped) (hd : s.toJoin = 0) : s.Joined := by
  obtain ⟨hb | hb | ⟨hb, -⟩, hw⟩ := ht
  · simp [toJoin, hb] at hd
  · exact ⟨hb, hw⟩
  · simp [toJoin, hb] at hd

theorem toJoin_le (s : Threads) : s.toJoin ≤ 2 := by
  unfold toJoin
  split <;> omega

/-- A run stays out of the trap exactly when its steps are undisturbed. -/
theorem always_not_trapped_iff (es : List Event) :
    Runs.Always step (fun s => ¬ s.Trapped) initial es ↔
      Runs.Meets step Undisturbed initial es := by
  refine Runs.always_iff_meets (J := Sound) sound_step (fun s e h hn => ?_) sound_initial ?_ es
  · rw [trapped_step_iff h hn, not_not]
  · exact fun ht => nomatch ht.2

/-- **No deadlock around `setCallback`.**  A run of undisturbed steps reaches no cycle of waiting
threads; after any other run there is one as soon as the binder thread has made two more steps,
whatever the other threads do. -/
theorem undisturbed_no_cycle (es : List Event) :
    (Runs.Meets step Undisturbed initial es →
      Runs.Always step (fun s => ¬ s.waiting.Cycle) initial es) ∧
    (¬ Runs.Meets step Undisturbed initial es → ∀ fs, 2 ≤ fs.countP Event.isBinder →
      (Runs.run step initial (es ++ fs)).waiting.Cycle) := by
  constructor
  · intro h pre hp hc
    have hout := (always_not_trapped_iff es).2 h pre hp
    obtain ⟨hb, hw⟩ := (cycle_iff_joined (sound_run pre).guarded).1 hc
    exact hout ⟨.inr (.inl hb), hw⟩
  · intro h fs hfs
    rw [← always_not_trapped_iff] at h
    unfold Runs.Always at h
    push Not at h
    obtain ⟨pre, ⟨post, rfl⟩, ht⟩ := h
    have hrun := trapped_run (sound_run pre) ht (post ++ fs)
    rw [← Runs.run_append, ← List.append_assoc, List.countP_append] at hrun
    obtain ⟨ht', hd⟩ := hrun
    have hle := toJoin_le (Runs.run step initial pre)
    rw [cycle_iff_joined (sound_run _).guarded]
    exact joined_of_trapped ht' (by omega)

/-- A client sets its callback, and the worker goes to sleep in `epoll_wait`. -/
def registered : List Event :=
  [.call (.setCallback true), .binder true, .binder true, .binder true, .binder true,
    .worker true, .worker true, .worker true]

/-- The client goes away while nothing happens on the ports. -/
theorem quiet_unregister_no_cycle :
    Runs.Always step (fun s => ¬ s.waiting.Cycle) initial
      (registered ++ [.call (.setCallback false), .binder true, .binder true, .binder true, .signal,
        .worker true, .binder true, .binder true]) :=
  (undisturbed_no_cycle _).1 (by decide)

/-- The client goes away, and a uevent of a port arrives. -/
def unregisterMeetsUevent : List Event :=
  registered ++ [.uevent [.port], .call (.setCallback false), .binder true, .worker true,
    .binder true, .binder true]

/-- `setCallback(NULL)` joins the worker, which waits for `mLock`. -/
theorem unregister_deadlock :
    ¬ Runs.Always step (fun s => ¬ s.waiting.Cycle) initial unregisterMeetsUevent := by
  intro h
  refine h _ List.prefix_rfl ((cycle_iff_joined (sound_run _).guarded).2 ?_)
  exact ⟨rfl, rfl⟩

end Threads

end Usb

end Gs101
