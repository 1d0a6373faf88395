import Gs101.Monitor.Notifications
import Gs101.Usb.Deadlock

/-!
# Usb: the warnings that reach the framework

The data-session monitor changes its warnings in its own thread, and invokes `mUpdatePortStatusCb`.
Every thread that runs `queryVersionHelper` reads the warnings and notifies them under `mLock`; the
monitor does not hold `mLock` when it changes them, so a thread may notify what is outdated by then.
`Delivery` puts the monitor's `System` beside the `Threads`, with what was read and what was
notified last.  A handler's assignments count as one step, at the end of which the callback, if it
is invoked, begins.

* `step`: one step of a thread, or an event that the monitor handles;
* `Fresh`: what was notified is what the monitor would answer now;
* `fresh_always`: whenever the monitor is not in its callback, what the framework was told last is
  fresh, in a run in which no session opens over a warning.
-/

namespace Gs101

namespace Usb

open Monitor (getComplianceWarnings newActions OpensSession)

/-- What `notifyPortStatusChange` says of the data session: the role of the first port, and the
monitor's warnings for this role. -/
structure Told where
  currentDataRole : PortDataRole
  complianceWarnings : List ComplianceWarning
  deriving DecidableEq

structure Delivery where
  threads : Threads
  system : System
  /-- What the thread in `queryVersionHelper` has read. -/
  taken : Option Told
  /-- What the callback was told last, since it was registered. -/
  told : Option Told

/-- Calls, uevents and signals. -/
def Event.Arrives : Event → Prop
  | .call _ | .uevent _ | .signal => True
  | .binder _ | .worker _ | .updatePortStatus | .monitor => False

namespace Delivery

inductive Event
  /-- The binder thread makes its next step; a query finds this role at the first port. -/
  | binder (answer : Bool) (role : PortDataRole)
  | worker (answer : Bool) (role : PortDataRole)
  /-- The monitor goes on in its callback. -/
  | monitor (role : PortDataRole)
  /-- The monitor handles an event. -/
  | handle (e : Monitor.Event)
  | arrives (e : {e : Usb.Event // e.Arrives})

variable (P : Monitor.Platform)

/-- A step of the thread that holds `mLock` in `queryVersionHelper`: it reads, or it notifies and
goes on. -/
def query (s : Delivery) (role : PortDataRole) (next : Threads) : Delivery :=
  match s.taken with
  | none => { s with taken := some ⟨role, s.system.monitor.getComplianceWarnings P role⟩ }
  | some t =>
      { s with
        threads := next
        taken := none
        told := if s.threads.mCallback then some t else s.told }

def binderStep (s : Delivery) (answer : Bool) (role : PortDataRole) : Delivery :=
  match s.threads.binder with
  | .queryHeld _ => s.query P role (s.threads.binderStep answer)
  -- another callback was told nothing yet
  | .callbackHeld _ => { s with threads := s.threads.binderStep answer, told := none }
  | .callbackCreate =>
      { s with threads := s.threads.binderStep answer, told := if answer then s.told else none }
  | _ => { s with threads := s.threads.binderStep answer }

def workerStep (s : Delivery) (answer : Bool) (role : PortDataRole) : Delivery :=
  match s.threads.worker with
  | .queryHeld => s.query P role (s.threads.workerStep answer)
  | _ => { s with threads := s.threads.workerStep answer }

def monitorStep (s : Delivery) (role : PortDataRole) : Delivery :=
  match s.threads.monitor with
  | .queryHeld => s.query P role s.threads.monitorStep
  | _ => { s with threads := s.threads.monitorStep }

/-- An invocation of `mUpdatePortStatusCb`. -/
def isCallback : Monitor.Action → Bool
  | .updatePortStatus _ => true
  | _ => false

/-- The handler invokes `mUpdatePortStatusCb`. -/
def CallsBack (m m' : Monitor) : Prop := (newActions m m').any isCallback = true

instance (m m' : Monitor) : Decidable (CallsBack m m') := inferInstanceAs (Decidable (_ = _))

/-- The monitor handles an event, unless it is in its callback. -/
def handle (s : Delivery) (e : Monitor.Event) : Delivery :=
  if s.threads.monitor = .idle then
    { s with
      system := s.system.step P e
      threads := if CallsBack s.system.monitor (s.system.step P e).monitor then
        s.threads.step .updatePortStatus else s.threads }
  else s

def step (s : Delivery) : Event → Delivery
  | .binder answer role => s.binderStep P answer role
  | .worker answer role => s.workerStep P answer role
  | .monitor role => s.monitorStep P role
  | .handle e => s.handle P e
  | .arrives e => { s with threads := s.threads.step e.val }

/-- Before the first call, once the monitor is constructed. -/
def initial (system : System) : Delivery where
  threads := .initial
  system := system
  taken := none
  told := none

/-- What the monitor answers now. -/
def Fresh (s : Delivery) (t : Told) : Prop :=
  t.complianceWarnings = s.system.monitor.getComplianceWarnings P t.currentDataRole

/-- Outside its callback, what was told last is what the monitor answers. -/
def UpToDate (s : Delivery) : Prop :=
  s.threads.monitor = .idle → ∀ t ∈ s.told, s.Fresh P t

/-- The monitor opens no session while it has a warning. -/
def OpensQuietly (s : Delivery) : Event → Prop
  | .handle e => s.system.OpensQuietly e
  | _ => True

/-! ### What the monitor answers -/

variable {P}

/-- Without warnings, no role is answered with one. -/
theorem getComplianceWarnings_empty {m : Monitor} (h : m.mWarningSet = ∅) (role : PortDataRole) :
    m.getComplianceWarnings P role = [] := by
  unfold getComplianceWarnings
  split_ifs
  · rfl
  · rfl
  · simp [h]

theorem getComplianceWarnings_congr {m m' : Monitor} (hrole : m'.mDataRole = m.mDataRole)
    (hset : m'.mWarningSet = m.mWarningSet) (role : PortDataRole) :
    m'.getComplianceWarnings P role = m.getComplianceWarnings P role := by
  simp only [getComplianceWarnings, hrole, hset]

/-- Only an event that opens a session changes the role. -/
theorem mDataRole_step (s : System) (e : Monitor.Event) (h : ¬ OpensSession s.monitor e) :
    (s.step P e).monitor.mDataRole = s.monitor.mDataRole := by
  cases e with
  | dataRole r =>
    have hsame : Monitor.newDataRole r = s.monitor.mDataRole := not_not.1 h
    rcases Monitor.handleDataRoleEvent_cases P r s.monitor with ⟨-, he⟩ | ⟨hr, -⟩ | ⟨hr, -⟩
    · simp only [System.step, he]
      rfl
    · exact absurd hsame hr
    · exact absurd hsame hr
  | deviceState p r =>
    simp only [System.step, Monitor.handleDeviceStateEvent]
    split_ifs
    · rw [Monitor.evaluateComplianceWarning_eq]
      cases p <;> rfl
    · rfl
  | timer =>
    simp only [System.step, Monitor.handleTimerEvent]
    rw [Monitor.evaluateComplianceWarning_eq]
  | udcChange function =>
    simp only [System.step]
    rcases Monitor.updateUdcBindStatus_cases P function s.monitor with ⟨-, he⟩ | ⟨-, -, -, he⟩ |
      ⟨hf, hb, hd, -⟩ | ⟨b, -, -, he⟩
    · rw [he]
    · rw [he, Monitor.evaluateComplianceWarning_eq, Monitor.reportUsbDataSessionMetrics_eq]
      rfl
    · exact absurd ⟨hf, hb, hd⟩ h
    · rw [he]
      rfl
  | bind p openFile epollCtl => rfl
  | unbind p epollCtl => rfl

/-- An invocation after the last write is an invocation. -/
theorem callsBack_of_notified {m m' : Monitor}
    (h : Monitor.notified (newActions m m') = true) : CallsBack m m' := by
  have hfold : ∀ (l : List Monitor.Action) (b : Bool),
      l.foldl Monitor.notifiedStep b = true → b = true ∨ l.any isCallback = true := by
    intro l
    induction l with
    | nil => exact fun b hb => .inl hb
    | cons a l ih =>
      intro b hb
      rw [List.any_cons, Bool.or_eq_true]
      rcases ih _ hb with h' | h'
      · cases a <;> first | exact .inr (.inl rfl) | exact .inl h' | cases h'
      · exact .inr (.inr h')
  exact (hfold _ false h).resolve_left Bool.false_ne_true

/-- A handled event is followed by the callback, or leaves every answer as it was. -/
theorem callsBack_or_kept (s : System) (e : Monitor.Event) (hq : s.OpensQuietly e) :
    CallsBack s.monitor (s.step P.reporting e).monitor ∨
      ∀ role, (s.step P.reporting e).monitor.getComplianceWarnings P.reporting role =
        s.monitor.getComplianceWarnings P.reporting role := by
  by_cases hset : (s.step P.reporting e).monitor.mWarningSet = s.monitor.mWarningSet
  · refine .inr fun role => ?_
    by_cases ho : OpensSession s.monitor e
    · have hempty := hq ho
      rw [getComplianceWarnings_empty (hset.trans hempty), getComplianceWarnings_empty hempty]
    · exact getComplianceWarnings_congr (mDataRole_step s e ho) hset role
  · exact .inl (callsBack_of_notified ((System.announced_iff P s e).2 hq hset))

end Delivery

/-! ### The threads' part -/

namespace Threads

/-- Some thread is in `queryVersionHelper`, and has `mLock`. -/
def Querying (t : Threads) : Prop :=
  (∃ n, t.binder = .queryHeld n) ∨ t.worker = .queryHeld ∨ t.monitor = .queryHeld

theorem Querying.owner {t : Threads} (hg : t.Guarded) (h : t.Querying) :
    t.owner .mLock ≠ none := by
  rcases h with ⟨n, h⟩ | h | h
  · rw [(hg .mLock .binder).2 (by rw [Holds, h]; rfl)]
    exact Option.some_ne_none _
  · rw [(hg .mLock .worker).2 (by rw [Holds, h]; rfl)]
    exact Option.some_ne_none _
  · rw [(hg .mLock .monitor).2 (by rw [Holds, h]; rfl)]
    exact Option.some_ne_none _

/-- What the binder thread leaves alone: a worker that queries, and the monitor's thread. -/
theorem binderStep_leaves {t : Threads} (ha : t.Attended) (answer : Bool) :
    (t.binderStep answer).monitor = t.monitor ∧
      (t.worker = .queryHeld → (t.binderStep answer).worker = .queryHeld) := by
  cases hb : t.binder
  case idle =>
    have hstep : t.binderStep answer = t := by simp only [binderStep, hb]
    rw [hstep]
    exact ⟨rfl, id⟩
  case callbackJoin =>
    simp only [binderStep, hb]
    split_ifs with halive
    · exact ⟨rfl, id⟩
    · refine ⟨rfl, fun hw => absurd ?_ halive⟩
      simp [hw, Worker.Alive]
  case callbackCreate =>
    have hdead := (ha.create hb).1
    simp only [binderStep, hb]
    split_ifs
    · refine ⟨rfl, fun hw => absurd ?_ hdead⟩
      simp [hw, Worker.Alive]
    · exact ⟨rfl, id⟩
  case roleHeld mode => cases mode <;> simp only [binderStep, hb] <;> exact ⟨rfl, id⟩
  case partnerWoken timedOut =>
    cases timedOut <;> simp only [binderStep, hb]
    · split_ifs <;> exact ⟨rfl, id⟩
    · exact ⟨rfl, id⟩
  all_goals
    simp only [binderStep, hb, lock]
    first | exact ⟨rfl, id⟩ | (split_ifs <;> exact ⟨rfl, id⟩)

/-- `mCallback` is assigned in `setCallback` only. -/
theorem mCallback_binderStep {t : Threads} (hheld : ∀ cb, t.binder ≠ .callbackHeld cb)
    (hcreate : t.binder ≠ .callbackCreate) (answer : Bool) :
    (t.binderStep answer).mCallback = t.mCallback := by
  cases hb : t.binder
  case idle => simp only [binderStep, hb]
  case callbackJoin =>
    simp only [binderStep, hb]
    split_ifs <;> rfl
  case callbackHeld cb => exact absurd hb (hheld cb)
  case callbackCreate => exact absurd hb hcreate
  case roleHeld mode => cases mode <;> simp only [binderStep, hb] <;> rfl
  case partnerWoken timedOut =>
    cases timedOut <;> simp only [binderStep, hb]
    · split_ifs <;> rfl
    · rfl
  all_goals
    simp only [binderStep, hb, lock]
    first | rfl | (split_ifs <;> rfl)

theorem monitor_workerStep (t : Threads) (answer : Bool) :
    (t.workerStep answer).monitor = t.monitor := by
  cases hw : t.worker
  case absent => simp only [workerStep, hw]
  case exited => simp only [workerStep, hw]
  case fields l =>
    rcases l with - | ⟨f, l⟩
    · simp only [workerStep, hw]
      rfl
    · cases f <;> simp only [workerStep, hw] <;> rfl
  all_goals
    simp only [workerStep, hw, lock]
    first | rfl | (split_ifs <;> rfl)

/-- What arrives leaves the monitor's thread, `mCallback` and every query as they are. -/
theorem step_arrives (t : Threads) {e : Usb.Event} (he : e.Arrives) :
    (t.step e).monitor = t.monitor ∧ (t.step e).mCallback = t.mCallback ∧
      (t.Querying → (t.step e).Querying) := by
  cases e with
  | binder answer => exact he.elim
  | worker answer => exact he.elim
  | updatePortStatus => exact he.elim
  | monitor => exact he.elim
  | call c =>
    simp only [step]
    split_ifs with hidle
    · refine ⟨rfl, rfl, fun hq => hq.elim ?_ .inr⟩
      rintro ⟨n, hn⟩
      rw [hidle] at hn
      cases hn
    · exact ⟨rfl, rfl, id⟩
  | uevent fields =>
    simp only [step]
    split_ifs with hwait
    · refine ⟨rfl, rfl, fun hq => hq.imp_right (Or.imp_left fun hw => ?_)⟩
      rw [hwait] at hw
      cases hw
    · exact ⟨rfl, rfl, id⟩
  | signal =>
    simp only [step, signalStep]
    split_ifs with hp hwait
    · refine ⟨rfl, rfl, fun hq => hq.imp_right (Or.imp_left fun hw => ?_)⟩
      rw [hwait] at hw
      cases hw
    · exact ⟨rfl, rfl, id⟩
    · exact ⟨rfl, rfl, id⟩

end Threads

namespace Delivery

/-! ### The invariant -/

/-- What every reachable state satisfies. -/
structure Inv (P : Monitor.Platform) (s : Delivery) : Prop where
  sound : s.threads.Sound
  querying : s.taken ≠ none → s.threads.Querying
  listening : s.told ≠ none → s.threads.mCallback = true
  /-- What was read goes out of date only while the monitor waits to notify it. -/
  taken : ∀ t ∈ s.taken, s.Fresh P t ∨ s.threads.monitor = .queryLock
  told : ∀ t ∈ s.told, s.Fresh P t ∨ s.threads.monitor ≠ .idle

variable {P : Monitor.Platform} {s : Delivery}

theorem Inv.upToDate (h : Inv P s) : s.UpToDate P := fun hidle t ht =>
  (h.told t ht).resolve_right (not_not.2 hidle)

theorem inv_initial (system : System) : Inv P (initial system) :=
  ⟨Threads.sound_initial, absurd rfl, absurd rfl, nofun, nofun⟩

/-- The threads go on, and nobody reads or notifies. -/
theorem Inv.move (h : Inv P s) {t : Threads} (ht : t.Sound)
    (hmonitor : t.monitor = s.threads.monitor)
    (hquerying : s.threads.Querying → t.Querying)
    (hcallback : t.mCallback = s.threads.mCallback) : Inv P { s with threads := t } := by
  refine ⟨ht, fun hn => hquerying (h.querying hn), fun hn => hcallback.trans (h.listening hn),
    fun v hv => ?_, fun v hv => ?_⟩
  · show _ ∨ t.monitor = .queryLock
    rw [hmonitor]
    exact h.taken v hv
  · show _ ∨ t.monitor ≠ .idle
    rw [hmonitor]
    exact h.told v hv

/-- The callback is replaced or given up, and was told nothing. -/
theorem Inv.forget (h : Inv P s) : Inv P { s with told := none } :=
  ⟨h.sound, h.querying, absurd rfl, h.taken, nofun⟩

/-- The thread in `queryVersionHelper` reads, or notifies and goes on. -/
theorem inv_query (h : Inv P s) (hquerying : s.threads.Querying) (role : PortDataRole)
    {next : Threads} (hnext : next.Sound) (hcallback : next.mCallback = s.threads.mCallback)
    (hmonitor : next.monitor = s.threads.monitor ∨ s.threads.monitor = .queryHeld) :
    Inv P (s.query P role next) := by
  cases htaken : s.taken with
  | none =>
    simp only [query, htaken]
    refine ⟨h.sound, fun _ => hquerying, h.listening, fun v hv => ?_, h.told⟩
    cases hv
    exact .inl rfl
  | some v =>
    have hfresh := h.taken v htaken
    simp only [query, htaken]
    refine ⟨hnext, absurd rfl, fun hn => hcallback.trans ?_, nofun, fun w hw => ?_⟩
    · cases hcb : s.threads.mCallback with
      | true => rfl
      | false =>
        rw [hcb] at hn
        exact hcb.symm.trans (h.listening hn)
    · have hlistens : s.threads.mCallback = true := by
        by_contra hcb
        rw [if_neg hcb] at hw
        exact hcb (h.listening (Option.ne_none_iff_exists'.2 ⟨w, hw⟩))
      rw [if_pos hlistens] at hw
      cases hw
      show s.Fresh P v ∨ next.monitor ≠ .idle
      rcases hmonitor with hsame | hheld
      · rw [hsame]
        exact hfresh.imp_right fun hlock => by simp [hlock]
      · exact .inl (hfresh.resolve_right fun hlock =>
          absurd (hheld.symm.trans hlock) (by simp))

theorem inv_binderStep (h : Inv P s) (answer : Bool) (role : PortDataRole) :
    Inv P (s.binderStep P answer role) := by
  have hsound : (s.threads.binderStep answer).Sound :=
    Threads.sound_step s.threads (.binder answer) h.sound
  obtain ⟨hmonitor, hworker⟩ := Threads.binderStep_leaves h.sound.attended answer
  -- a query of another thread goes on
  have hquerying : (∀ n, s.threads.binder ≠ .queryHeld n) → s.threads.Querying →
      (s.threads.binderStep answer).Querying := by
    rintro hb (⟨n, hn⟩ | hw | hm)
    · exact absurd hn (hb n)
    · exact .inr (.inl (hworker hw))
    · exact .inr (.inr (hmonitor.trans hm))
  unfold binderStep
  split
  · rename_i n hb
    refine inv_query h (.inl ⟨n, hb⟩) role hsound ?_ (.inl hmonitor)
    exact Threads.mCallback_binderStep (by simp [hb]) (by simp [hb]) answer
  · rename_i cb hb
    have hforgot : Inv P { s with told := none } := h.forget
    refine ⟨hsound, fun hn => hquerying (by simp [hb]) (h.querying hn), absurd rfl, ?_, nofun⟩
    show ∀ v ∈ s.taken, s.Fresh P v ∨ (s.threads.binderStep answer).monitor = .queryLock
    rw [hmonitor]
    exact hforgot.taken
  · rename_i hb
    cases answer with
    | false =>
      refine ⟨hsound, fun hn => hquerying (by simp [hb]) (h.querying hn), absurd rfl, ?_, nofun⟩
      show ∀ v ∈ s.taken, s.Fresh P v ∨ (s.threads.binderStep false).monitor = .queryLock
      rw [hmonitor]
      exact h.taken
    | true =>
      refine h.move hsound hmonitor (hquerying (by simp [hb])) ?_
      simp only [Threads.binderStep, hb]
      rfl
  · rename_i hquery hheld hcreate
    exact h.move hsound hmonitor (hquerying hquery)
      (Threads.mCallback_binderStep hheld hcreate answer)

theorem inv_workerStep (h : Inv P s) (answer : Bool) (role : PortDataRole) :
    Inv P (s.workerStep P answer role) := by
  have hsound : (s.threads.workerStep answer).Sound :=
    Threads.sound_step s.threads (.worker answer) h.sound
  have hmonitor := Threads.monitor_workerStep s.threads answer
  obtain ⟨hcallback, hbinder, -⟩ := Threads.workerStep_keeps s.threads answer
  unfold workerStep
  split
  · rename_i hw
    exact inv_query h (.inr (.inl hw)) role hsound hcallback (.inl hmonitor)
  · rename_i hw
    refine h.move hsound hmonitor ?_ hcallback
    rintro (⟨n, hn⟩ | hw' | hm)
    · exact .inl ⟨n, hbinder.trans hn⟩
    · exact absurd hw' hw
    · exact .inr (.inr (hmonitor.trans hm))

/-- The monitor takes `mLock`: nobody else has read anything. -/
theorem inv_monitorLocks (h : Inv P s) (hm : s.threads.monitor = .queryLock) :
    Inv P { s with threads := s.threads.lock .monitor .mLock (·.setMonitor .queryHeld) } := by
  have hsound : (s.threads.lock .monitor .mLock (·.setMonitor .queryHeld)).Sound := by
    have := Threads.sound_step s.threads .monitor h.sound
    rwa [Threads.step, Threads.monitorStep, hm] at this
  unfold Threads.lock at hsound ⊢
  split_ifs at hsound ⊢ with hfree
  · have hnone : s.taken = none := by
      by_contra hne
      exact (h.querying hne).owner h.sound.guarded hfree
    refine ⟨hsound, absurd hnone, h.listening, ?_, fun v _ => .inr (by simp [Threads.setMonitor])⟩
    exact fun v hv => absurd (hnone.symm.trans hv) (Option.not_mem_none v)
  · exact h

theorem inv_monitorStep (h : Inv P s) (role : PortDataRole) : Inv P (s.monitorStep P role) := by
  unfold monitorStep
  split
  · rename_i hm
    refine inv_query h (.inr (.inr hm)) role (Threads.sound_step s.threads .monitor h.sound) ?_
      (.inr hm)
    simp only [Threads.monitorStep, hm]
    rfl
  · rename_i hm
    cases hmonitor : s.threads.monitor with
    | idle =>
      simp only [Threads.monitorStep, hmonitor]
      exact h
    | queryLock =>
      simp only [Threads.monitorStep, hmonitor]
      exact inv_monitorLocks h hmonitor
    | queryHeld => exact absurd hmonitor hm

/-- The monitor handles an event: what has changed is about to be notified. -/
theorem inv_handle (h : Inv P.reporting s) {e : Monitor.Event} (hq : s.system.OpensQuietly e) :
    Inv P.reporting (s.handle P.reporting e) := by
  unfold handle
  split_ifs with hidle hcalls
  · have hstep : s.threads.step .updatePortStatus = s.threads.setMonitor .queryLock :=
      if_pos hidle
    have hsound := Threads.sound_step s.threads .updatePortStatus h.sound
    rw [hstep] at hsound ⊢
    refine ⟨hsound, fun hn => ?_, h.listening, fun _ _ => .inr rfl,
      fun _ _ => .inr (by simp [Threads.setMonitor])⟩
    rcases h.querying hn with hb | hw | hm
    · exact .inl hb
    · exact .inr (.inl hw)
    · exact absurd (hidle.symm.trans hm) (by simp)
  · have hkept := (callsBack_or_kept s.system e hq).resolve_left hcalls
    have hfresh : ∀ v, s.Fresh P.reporting v → v.complianceWarnings =
        (s.system.step P.reporting e).monitor.getComplianceWarnings P.reporting
          v.currentDataRole := fun v hv => hv.trans (hkept _).symm
    exact ⟨h.sound, h.querying, h.listening, fun v hv => (h.taken v hv).imp_left (hfresh v),
      fun v hv => (h.told v hv).imp_left (hfresh v)⟩
  · exact h

theorem inv_step (s : Delivery) (e : Event) (h : Inv P.reporting s) (hq : s.OpensQuietly e) :
    Inv P.reporting (step P.reporting s e) := by
  cases e with
  | binder answer role => exact inv_binderStep h answer role
  | worker answer role => exact inv_workerStep h answer role
  | monitor role => exact inv_monitorStep h role
  | handle e => exact inv_handle h hq
  | arrives e =>
    obtain ⟨hmonitor, hcallback, hquerying⟩ := s.threads.step_arrives e.property
    exact h.move (Threads.sound_step s.threads e.val h.sound) hmonitor hquerying hcallback

/-- **No warning is lost between the threads.**  In every order of the threads' steps and the
monitor's events, if no session opens over a warning, then whenever the monitor is not in its
callback, what the framework was told last about the data session is what the monitor answers. -/
theorem fresh_always (P : Monitor.Platform) (system : System) (es : List Event)
    (h : Runs.Meets (step P.reporting) OpensQuietly (initial system) es) :
    Runs.Always (step P.reporting) (UpToDate P.reporting) (initial system) es :=
  fun _ hp => (Runs.always_of_meets inv_step (inv_initial system) h _ hp).upToDate

/-- A callback is registered, and a host session in which neither port sees a device surfaces
`MISSING_DATA_LINES`. -/
def unseenDevice : List Event :=
  .arrives ⟨.call (.setCallback true), trivial⟩ :: List.replicate 4 (.binder true .none) ++
    System.emptyHostSession.map .handle ++ List.replicate 3 (.monitor .host)

/-- The monitor's fields after the constructor, without a state file. -/
def constructed : System :=
  .construct .none none (fun _ _ => none) fun _ => true

theorem unseenDevice_fresh :
    Runs.Always (step .secondHand) (UpToDate .secondHand) (initial constructed) unseenDevice :=
  fresh_always .secondHand constructed unseenDevice
    ⟨trivial, trivial, trivial, trivial, trivial, fun _ => rfl, False.elim, False.elim, False.elim,
      False.elim, trivial, trivial, trivial, trivial⟩

example : (Runs.run (step .secondHand) (initial constructed) unseenDevice).told =
    some ⟨.host, [.missingDataLines]⟩ := by
  decide

end Delivery

end Usb

end Gs101
