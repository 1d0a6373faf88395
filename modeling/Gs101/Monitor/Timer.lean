import Gs101.Monitor.Withdrawn

/-!
# UsbDataSessionMonitor: the timer of a session

`setupNewSession` arms a one-shot timer of the boot clock.  Once the delay of the session is over
no other event need come, so that the timer alone may have to bring up what the histories have
raised before.  `handleTimerEvent` evaluates whatever `read` returned, so that a timer that is
ready too early, or is ready still when its session is over, is read in vain.

* `Timer`, `Timed`: the system with its timer; an event says whether `read` returned an expiration
  and when the timer was armed;
* `Kernel`: the timer goes off once, not before its time, and the clock does not go back;
* `UpToDate`: the warnings are those of the current fields, or the gadget is pulled down;
* `surfaced_always`: they are so whenever the timer of the session has gone off.

The start of the session is read before the timer is armed: an expiration is past the delay as
`elapsedTimeSec` counts it, in whole seconds.
-/

namespace Gs101

namespace Monitor

/-- The warnings are those of the current fields.  Of a gadget that is pulled down the set keeps
those of the session that ended. -/
def UpToDate (m : Monitor) : Prop :=
  (m.mDataRole = .device ∧ m.mUdcBind = false) ∨ m.mWarningSet = m.currentWarnings

/-- One evaluation past the delay is enough. -/
def Settles (m : Monitor) : Prop := evaluated m.log = true → UpToDate m

theorem InStep.settles {m : Monitor} (h : InStep m) : Settles m := fun he => .inr (h he)

theorem Settles.logged {m : Monitor} (h : Settles m) {a : Action}
    (ha : ∀ b, evaluatedStep b a = b) : Settles (m.logged a) := fun he =>
  h (evaluated_logged ha ▸ he)

/-! ### The handlers -/

theorem handleDeviceStateEvent_settles {P : Platform} {m : Monitor} (h : Ripe P m)
    (hs : Settles m) (p : Port) (r : FileRead) : Settles (handleDeviceStateEvent P p r m) := by
  simp only [handleDeviceStateEvent]
  split_ifs
  · exact (inStep_evaluate ((h.logged fun _ => rfl).recordState p _)).settles
  · exact hs.logged fun _ => rfl

theorem handleDataRoleEvent_settles {P : Platform} {m : Monitor} (hs : Settles m) (r : FileRead) :
    Settles (handleDataRoleEvent P r m) := by
  rcases handleDataRoleEvent_cases P r m with ⟨-, he⟩ | ⟨-, -, he⟩ | ⟨-, -, he⟩ <;> rw [he]
  · exact hs.logged fun _ => rfl
  · exact (inStep_setup P _).settles
  · exact (inStep_setup P _).settles

theorem updateUdcBindStatus_settles {P : Platform} {m : Monitor} (hs : Settles m)
    (function : Option String) : Settles (updateUdcBindStatus P function m) := by
  rcases updateUdcBindStatus_cases P function m with ⟨-, he⟩ | ⟨-, -, hd, he⟩ | ⟨-, -, -, he⟩ |
    ⟨b, -, hd, he⟩ <;> rw [he]
  · exact hs
  · -- the set may be stale, but the gadget is pulled down
    refine fun _ => .inl ⟨?_, rfl⟩
    rw [evaluateComplianceWarning_eq, reportUsbDataSessionMetrics_eq]
    exact hd
  · intro hev
    rw [evaluated_setUdcBind, evaluated_setup] at hev
    cases hev
  · intro hev
    rw [evaluated_setUdcBind] at hev
    obtain ⟨hd', -⟩ | hset := hs hev
    · exact absurd hd' hd
    · exact .inr (hset.trans (currentWarnings_of_not_device hd b).symm)

/-! ### An evaluation in the session is not forgotten -/

theorem evaluated_of_evaluated {P : Platform} {m : Monitor} (h : evaluated m.log = true) :
    evaluated (evaluateComplianceWarning P m).log = true := by
  rw [evaluated_evaluate, h, Bool.true_or]

theorem evaluated_recordState {P : Platform} {p : Port} {state : String} {m : Monitor} :
    evaluated (recordState P p state m).log = evaluated m.log := by
  cases p <;> rfl

theorem evaluated_deviceState {P : Platform} {m : Monitor} (p : Port) (r : FileRead)
    (h : evaluated m.log = true) : evaluated (handleDeviceStateEvent P p r m).log = true := by
  simp only [handleDeviceStateEvent]
  split_ifs
  · refine evaluated_of_evaluated ?_
    rw [evaluated_recordState, evaluated_logged fun _ => rfl]
    exact h
  · rw [evaluated_logged fun _ => rfl]
    exact h

theorem evaluated_dataRole {P : Platform} {m : Monitor} {r : FileRead}
    (hr : newDataRole r = m.mDataRole) (h : evaluated m.log = true) :
    evaluated (handleDataRoleEvent P r m).log = true := by
  obtain ⟨-, he⟩ | ⟨hne, -⟩ | ⟨hne, -⟩ := handleDataRoleEvent_cases P r m
  · rw [he, evaluated_logged fun _ => rfl]
    exact h
  · exact absurd hr hne
  · exact absurd hr hne

theorem evaluated_udcChange {P : Platform} {m : Monitor} {function : Option String}
    (hn : ¬ OpensSession m (.udcChange function)) (h : evaluated m.log = true) :
    evaluated (updateUdcBindStatus P function m).log = true := by
  obtain ⟨-, he⟩ | ⟨-, -, -, he⟩ | ⟨hf, hb, hd, -⟩ | ⟨b, -, -, he⟩ :=
    updateUdcBindStatus_cases P function m
  · rw [he]
    exact h
  · rw [he, evaluated_setUdcBind]
    exact evaluated_of_evaluated ((evaluated_report P m).trans h)
  · exact absurd ⟨hf, hb, hd⟩ hn
  · rw [he, evaluated_setUdcBind]
    exact h

/-- The delay is over as `evaluateComplianceWarning` counts it. -/
theorem delay_le_elapsedTimeSec {P : Platform} {m : Monitor}
    (h : m.mDataSessionStart + warningSurfaceDelaySec * 1000000000 ≤ P.bootClock m.reads) :
    warningSurfaceDelaySec ≤ elapsedTimeSec P m := by
  have hd : warningSurfaceDelaySec * 1000000000 ≤ P.bootClock m.reads - m.mDataSessionStart :=
    le_sub_iff_add_le'.2 h
  calc warningSurfaceDelaySec
      = (warningSurfaceDelaySec * 1000000000).tdiv 1000000000 := by decide
    _ ≤ elapsedTimeSec P m := Int.tdiv_le_tdiv (by decide) hd

/-- A session in a role other than NONE is set up with the timer armed. -/
theorem armTimer_mem_setup {P : Platform} {m m₁ : Monitor} (pre post : List Action)
    (hlog : m₁.log = m.log ++ pre) (hr : (setupNewSession P m₁).mDataRole ≠ .none)
    {m' : Monitor} (hm' : m'.log = (setupNewSession P m₁).log ++ post) :
    .armTimer ∈ newActions m m' := by
  have hr₁ : m₁.mDataRole ≠ .none := by
    rw [setupNewSession_eq] at hr
    exact hr
  have hall : m'.log = m.log ++ (pre ++ setupLog P m₁ ++ post) := by
    rw [hm', setupNewSession_eq, hlog]
    simp only [List.append_assoc]
  rw [newActions_eq hall]
  refine List.mem_append_left _ (List.mem_append_right _ ?_)
  simp [setupLog, hr₁]

end Monitor

namespace System

open Monitor

variable {P : Platform}

theorem settles_step (s : System) (e : Event) (h : Ripe P s.monitor) (hs : Settles s.monitor) :
    Settles (step P s e).monitor := by
  cases e with
  | dataRole r => exact handleDataRoleEvent_settles hs r
  | deviceState p r => exact handleDeviceStateEvent_settles h hs p r
  | timer => exact (inStep_evaluate h).settles
  | udcChange function => exact updateUdcBindStatus_settles hs function
  | bind p openFile epollCtl => exact hs
  | unbind p epollCtl => exact hs

theorem evaluated_step {s : System} {e : Event} (h : s.SameSession e)
    (he : evaluated s.monitor.log = true) : evaluated (step P s e).monitor.log = true := by
  cases e with
  | dataRole r => exact evaluated_dataRole (not_not.1 h) he
  | deviceState p r => exact evaluated_deviceState p r he
  | timer => exact evaluated_of_evaluated he
  | udcChange function => exact evaluated_udcChange h he
  | bind p openFile epollCtl => exact he
  | unbind p epollCtl => exact he

/-- `timerfd_settime` is called while the event is handled. -/
def Arms (P : Platform) (s : System) (e : Event) : Prop :=
  .armTimer ∈ newActions s.monitor (step P s e).monitor

instance (P : Platform) (s : System) (e : Event) : Decidable (s.Arms P e) :=
  inferInstanceAs (Decidable (_ ∈ newActions _ _))

/-- A session in a role other than NONE begins with the timer armed. -/
theorem arms_of_opensSession {s : System} {e : Event} (h : ¬ s.SameSession e)
    (hr : (step P s e).monitor.mDataRole ≠ .none) : s.Arms P e := by
  have ho : OpensSession s.monitor e := not_not.1 h
  unfold Arms
  cases e with
  | dataRole r =>
    simp only [step] at hr ⊢
    obtain ⟨heq, -⟩ | ⟨-, -, he⟩ | ⟨-, -, he⟩ := handleDataRoleEvent_cases P r s.monitor
    · exact absurd heq ho
    · rw [he] at hr ⊢
      refine armTimer_mem_setup (.roleRead (newDataRole r) ::
        reportLog P (s.monitor.logged (.roleRead (newDataRole r)))) [] ?_ hr (List.append_nil _).symm
      rw [reportUsbDataSessionMetrics_eq]
      simp [setDataRole, logged]
    · rw [he] at hr ⊢
      exact armTimer_mem_setup [.roleRead (newDataRole r)] [] rfl hr (List.append_nil _).symm
  | udcChange function =>
    simp only [step] at hr ⊢
    obtain ⟨hf, -⟩ | ⟨-, hb, -⟩ | ⟨-, -, -, he⟩ | ⟨b, -, hd, -⟩ :=
      updateUdcBindStatus_cases P function s.monitor
    · obtain ⟨⟨f, rfl, hne⟩, hb, -⟩ := ho
      exact absurd (hb.symm.trans (hf f rfl)) (by simp [hne])
    · exact absurd (hb.symm.trans ho.2.1) Bool.noConfusion
    · rw [he] at hr ⊢
      exact armTimer_mem_setup [] [.udcBind true] (List.append_nil _).symm hr rfl
    · exact absurd ho.2.2 hd
  | deviceState | timer | bind | unbind => exact ho.elim

/-! ### The timer -/

/-- The timer of the boot clock that `mTimerFd` stands for. -/
inductive Timer
  /-- Not armed since it was created. -/
  | unset
  | armed (deadline : Time)
  /-- The expiration was read. -/
  | wentOff
  deriving DecidableEq

/-- An event, with what the kernel answers about the timer in it. -/
structure TimedEvent where
  event : Event
  /-- `read` of `mTimerFd` returns an expiration. -/
  expired : Bool
  /-- The boot clock when `timerfd_settime` arms the timer, `none` if it fails. -/
  settime : Option Time

/-- An expiration is read in the event. -/
def TimedEvent.expires (e : TimedEvent) : Bool :=
  match e.event with
  | .timer => e.expired
  | _ => false

structure Timed where
  system : System
  timer : Timer

namespace Timed

def construct (mDataRole : PortDataRole) (udc : Option String) (openFile : Port → Open)
    (epollCtl : Port → Bool) : Timed :=
  ⟨System.construct mDataRole udc openFile epollCtl, .unset⟩

/-- An expiration that was not read is gone when the timer is armed again. -/
def step (P : Platform) (s : Timed) (e : TimedEvent) : Timed where
  system := System.step P s.system e.event
  timer :=
    if s.system.Arms P e.event then
      match e.settime with
      | some now => .armed (now + warningSurfaceDelaySec * 1000000000)
      | none => s.timer
    else if e.expires then .wentOff
    else s.timer

/-- What the kernel keeps: a timer goes off once, and not before its time; a valid timer can be
armed, and the clock does not go back between the start of a session and that. -/
structure Kernel (P : Platform) (s : Timed) (e : TimedEvent) : Prop where
  punctual : e.expires = true →
    ∃ deadline, s.timer = .armed deadline ∧ deadline ≤ P.bootClock s.system.monitor.reads
  arms : s.system.Arms P e.event →
    ∃ now, e.settime = some now ∧
      (System.step P s.system e.event).monitor.mDataSessionStart ≤ now

/-- The timer goes off after the delay of the session, and has the warnings evaluated. -/
structure Inv (P : Platform) (s : Timed) : Prop where
  backed : Backed P s.system.monitor
  ripe : Ripe P s.system.monitor
  settles : Settles s.system.monitor
  due : ∀ deadline, s.timer = .armed deadline → s.system.monitor.mDataRole ≠ .none →
    s.system.monitor.mDataSessionStart + warningSurfaceDelaySec * 1000000000 ≤ deadline
  evaluated : s.timer = .wentOff → s.system.monitor.mDataRole ≠ .none →
    Monitor.evaluated s.system.monitor.log = true

/-- Without a role there is nothing to warn of. -/
theorem upToDate_of_none {m : Monitor} (h : Backed P m) (hr : m.mDataRole = .none) :
    UpToDate m := by
  have hset : m.mWarningSet = ∅ := by
    refine Finset.eq_empty_of_forall_notMem fun w hw => ?_
    have hraised : Raised w m := (h w hw).1
    simp [Raised, hr] at hraised
  have hcurrent : m.currentWarnings = ∅ := by
    simp [currentWarnings, warningsAfterDelay, hr]
  exact .inr (hset.trans hcurrent.symm)

theorem Inv.upToDate {s : Timed} (h : Inv P s) (ht : s.timer = .wentOff) :
    UpToDate s.system.monitor := by
  by_cases hr : s.system.monitor.mDataRole = .none
  · exact upToDate_of_none h.backed hr
  · exact h.settles (h.evaluated ht hr)

/-! ### One event -/

theorem timer_of_arms {s : Timed} {e : TimedEvent} {now : Time} (h : s.system.Arms P e.event)
    (hn : e.settime = some now) :
    (step P s e).timer = .armed (now + warningSurfaceDelaySec * 1000000000) := by
  simp only [step, if_pos h, hn]

theorem timer_of_expires {s : Timed} {e : TimedEvent} (h : ¬ s.system.Arms P e.event)
    (he : e.expires = true) : (step P s e).timer = .wentOff := by
  simp only [step, if_neg h, he, if_true]

theorem timer_of_neither {s : Timed} {e : TimedEvent} (h : ¬ s.system.Arms P e.event)
    (he : ¬ e.expires = true) : (step P s e).timer = s.timer := by
  simp only [step, if_neg h, if_neg he]

/-- An expiration is read past the delay. -/
theorem evaluated_of_expires {s : Timed} {e : TimedEvent} (h : Inv P s) (hk : Kernel P s e)
    (he : e.expires = true) (hr : s.system.monitor.mDataRole ≠ .none) :
    Monitor.evaluated (step P s e).system.monitor.log = true := by
  obtain ⟨deadline, ht, hle⟩ := hk.punctual he
  have hdelay : warningSurfaceDelaySec ≤ elapsedTimeSec P s.system.monitor :=
    delay_le_elapsedTimeSec ((h.due deadline ht hr).trans hle)
  obtain ⟨event, expired, settime⟩ := e
  cases event with
  | timer =>
    show Monitor.evaluated (evaluateComplianceWarning P s.system.monitor).log = true
    rw [evaluated_evaluate, decide_eq_true hdelay, Bool.or_true]
  | dataRole | deviceState | udcChange | bind | unbind => cases he

theorem inv_step (s : Timed) (e : TimedEvent) (h : Inv P s) (hk : Kernel P s e) :
    Inv P (step P s e) := by
  have hbacked := backed_step s.system e.event h.backed
  have hripe := ripe_step s.system e.event h.ripe
  have hsettles := settles_step s.system e.event h.ripe h.settles
  by_cases ha : s.system.Arms P e.event
  · -- armed after the start of the session was read
    obtain ⟨now, hnow, hstart⟩ := hk.arms ha
    have ht := timer_of_arms ha hnow
    refine ⟨hbacked, hripe, hsettles, fun deadline hd _ => ?_, fun hw => ?_⟩
    · rw [ht] at hd
      rw [← Timer.armed.inj hd]
      exact Int.add_le_add_right hstart _
    · rw [ht] at hw
      cases hw
  by_cases hs : s.system.SameSession e.event
  · -- the session goes on
    have hlater := (goes_step (P := P) hs).later
    by_cases he : e.expires = true
    · have ht := timer_of_expires ha he
      refine ⟨hbacked, hripe, hsettles, fun deadline hd => ?_, fun _ hr => ?_⟩
      · rw [ht] at hd
        cases hd
      · exact evaluated_of_expires h hk he (hlater.role ▸ hr)
    · have ht := timer_of_neither ha he
      refine ⟨hbacked, hripe, hsettles, fun deadline hd hr => ?_, fun hw hr => ?_⟩
      · exact hlater.start ▸ h.due deadline (ht ▸ hd) (hlater.role ▸ hr)
      · exact evaluated_step hs (h.evaluated (ht ▸ hw) (hlater.role ▸ hr))
  · -- a session that does not arm the timer is without a role
    have hnone : (step P s e).system.monitor.mDataRole = .none :=
      not_not.1 fun hr => ha (arms_of_opensSession hs hr)
    exact ⟨hbacked, hripe, hsettles, fun _ _ hr => absurd hnone hr, fun _ hr => absurd hnone hr⟩

/-- After the constructor no session has begun. -/
theorem inv_construct (mDataRole : PortDataRole) (udc : Option String) (openFile : Port → Open)
    (epollCtl : Port → Bool) : Inv P (construct mDataRole udc openFile epollCtl) := by
  refine ⟨fun w hw => ?_, fun he => ?_, fun he => ?_, fun _ hd => ?_, fun hw => ?_⟩
  · exact absurd hw (Finset.notMem_empty w)
  · cases he
  · cases he
  · cases hd
  · cases hw

/-! ### Runs -/

/-- What the timer was to bring up is shown. -/
def Surfaced (s : Timed) : Prop := s.timer = .wentOff → UpToDate s.system.monitor

/-- **The timer brings up every warning**: once it has gone off for a session, the warnings are
those of the current fields at every moment, unless the gadget is pulled down. -/
theorem surfaced_always (P : Platform) (mDataRole : PortDataRole) (udc : Option String)
    (openFile : Port → Open) (epollCtl : Port → Bool) (es : List TimedEvent)
    (h : Runs.Meets (step P) (Kernel P) (construct mDataRole udc openFile epollCtl) es) :
    Runs.Always (step P) Surfaced (construct mDataRole udc openFile epollCtl) es := by
  intro pre hpre
  have hinv := Runs.always_of_meets inv_step (inv_construct mDataRole udc openFile epollCtl) h
  exact (hinv pre hpre).upToDate

/-- A host session in which neither port sees a device, and no event comes but the timer. -/
def quietHostSession : List TimedEvent :=
  [⟨.dataRole (.of "host"), false, some 0⟩,
    ⟨.deviceState .host1 (.of "not attached\n"), false, none⟩,
    ⟨.deviceState .host2 (.of "not attached\n"), false, none⟩, ⟨.timer, true, none⟩]

/-- `MISSING_DATA_LINES` was raised before the delay was over, and the timer brings it up. -/
theorem quietHostSession_surfaced :
    Runs.Always (step .secondHand) Surfaced
      (construct .none none (fun _ _ => none) (fun _ => true)) quietHostSession := by
  refine surfaced_always .secondHand .none none (fun _ _ => none) (fun _ => true) quietHostSession
    ⟨⟨Bool.noConfusion, fun _ => ⟨0, rfl, by decide⟩⟩,
      ⟨Bool.noConfusion, fun h => absurd h (by decide)⟩,
      ⟨Bool.noConfusion, fun h => absurd h (by decide)⟩,
      ⟨fun _ => ⟨5000000000, by decide, by decide⟩, fun h => absurd h (by decide)⟩, trivial⟩

example : (Runs.run (step .secondHand)
    (construct .none none (fun _ _ => none) (fun _ => true))
    quietHostSession).system.monitor.mWarningSet = {.missingDataLines} := by
  decide

end Timed

end System

end Gs101
