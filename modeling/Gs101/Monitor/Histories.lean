import Gs101.Monitor.Sessions

/-!
# UsbDataSessionMonitor: the recorded histories

* `UsbDeviceState.WellFormed`: as many timestamps as states, valid states, timestamps in order;
* `Fresh`: the ports of the current role hold nothing older than the session, and what they hold
  is what was read since it began;
* `histories_always`: so it is in every state of every run.

A timestamp is a reading of the boot clock, so it lies between the start of the session and the
next reading; `Kept` is this invariant.
-/

namespace Gs101

namespace Monitor

/-- The two vectors of a `usbDeviceState` fit together. -/
structure UsbDeviceState.WellFormed (d : UsbDeviceState) : Prop where
  length : d.states.length = d.timestamps.length
  valid : ∀ state ∈ d.states, state ∈ kValidStates
  sorted : d.timestamps.Pairwise (· ≤ ·)

theorem wellFormed_empty : UsbDeviceState.WellFormed ⟨[], []⟩ where
  length := rfl
  valid := nofun
  sorted := .nil

/-- A valid state and a later time may be added at the end. -/
theorem UsbDeviceState.WellFormed.concat {d : UsbDeviceState} (h : d.WellFormed) {state : String}
    (hstate : state ∈ kValidStates) {time : Time} (htime : ∀ t ∈ d.timestamps, t ≤ time) :
    UsbDeviceState.WellFormed ⟨d.states ++ [state], d.timestamps ++ [time]⟩ where
  length := by simp [h.length]
  valid s hs := by
    rcases List.mem_append.1 hs with hs | hs
    · exact h.valid s hs
    · exact List.mem_singleton.1 hs ▸ hstate
  sorted := by
    refine List.pairwise_append.2 ⟨h.sorted, List.pairwise_singleton _ _, fun t ht u hu => ?_⟩
    exact List.mem_singleton.1 hu ▸ htime t ht

/-- What the ports of the current role hold belongs to the current session. -/
structure Fresh (m : Monitor) : Prop where
  timestamps : ∀ p : Port, p.role = m.mDataRole →
    ∀ t ∈ (m.portState p).timestamps, m.mDataSessionStart ≤ t
  own : ∀ s ∈ (sessions m.log).head?, ∀ p : Port, p.role = m.mDataRole →
    m.portState p = history p s.body

/-- Every history is well formed, and the next reading of the clock is later than all of them and
than the start of the session. -/
structure Kept (P : Platform) (m : Monitor) : Prop where
  wellFormed : ∀ p, (m.portState p).WellFormed
  past : ∀ p, ∀ t ∈ (m.portState p).timestamps, t ≤ P.bootClock m.reads

/-- `Kept`, and the ports of the current role are not older than the session. -/
structure KeptFresh (P : Platform) (m : Monitor) : Prop extends Kept P m where
  started : m.mDataSessionStart ≤ P.bootClock m.reads
  fresh : ∀ p : Port, p.role = m.mDataRole →
    ∀ t ∈ (m.portState p).timestamps, m.mDataSessionStart ≤ t

/-! ### One lemma for each part of a handler -/

theorem Kept.later {P : Platform} {m m' : Monitor} (h : Kept P m)
    (hports : m'.portState = m.portState) (hreads : m.reads ≤ m'.reads) : Kept P m' where
  wellFormed p := hports ▸ h.wellFormed p
  past p t ht := (h.past p t (hports ▸ ht)).trans (P.mono _ _ hreads)

theorem Kept.setDataRole {P : Platform} {m : Monitor} (h : Kept P m) (role : PortDataRole) :
    Kept P (m.setDataRole role) := h.later rfl le_rfl

theorem KeptFresh.later {P : Platform} {m m' : Monitor} (h : KeptFresh P m)
    (hports : m'.portState = m.portState) (hrole : m'.mDataRole = m.mDataRole)
    (hstart : m'.mDataSessionStart = m.mDataSessionStart) (hreads : m.reads ≤ m'.reads) :
    KeptFresh P m' where
  toKept := h.toKept.later hports hreads
  started := hstart ▸ h.started.trans (P.mono _ _ hreads)
  fresh p hp t ht := by
    rw [hports] at ht
    rw [hstart]
    exact h.fresh p (hp.trans hrole) t ht

theorem KeptFresh.logged {P : Platform} {m : Monitor} (h : KeptFresh P m) (a : Action) :
    KeptFresh P (m.logged a) := h.later rfl rfl rfl le_rfl

theorem KeptFresh.setUdcBind {P : Platform} {m : Monitor} (h : KeptFresh P m) (b : Bool) :
    KeptFresh P (m.setUdcBind b) := h.later rfl rfl rfl le_rfl

theorem KeptFresh.recordState {P : Platform} {m : Monitor} (h : KeptFresh P m) (p : Port)
    {state : String} (hstate : state ∈ kValidStates) : KeptFresh P (recordState P p state m) := by
  have hrole : (Monitor.recordState P p state m).mDataRole = m.mDataRole := by cases p <;> rfl
  have hstart : (Monitor.recordState P p state m).mDataSessionStart = m.mDataSessionStart := by
    cases p <;> rfl
  have hreads : (Monitor.recordState P p state m).reads = m.reads + 1 := by cases p <;> rfl
  have hnext : P.bootClock m.reads ≤ P.bootClock (m.reads + 1) := P.mono _ _ (Nat.le_succ _)
  -- a timestamp of the new state is an old one of that port, or the clock's answer
  have hmem : ∀ q, ∀ t ∈ ((Monitor.recordState P p state m).portState q).timestamps,
      t ∈ (m.portState q).timestamps ∨ t = P.bootClock m.reads := by
    intro q t ht
    rw [portState_recordState] at ht
    split_ifs at ht with hqp
    · subst hqp
      exact (List.mem_append.1 ht).imp id List.mem_singleton.1
    · exact .inl ht
  refine ⟨⟨fun q => ?_, fun q t ht => ?_⟩, ?_, fun q hq t ht => ?_⟩
  · rw [portState_recordState]
    split_ifs
    · exact (h.wellFormed p).concat hstate (h.past p)
    · exact h.wellFormed q
  · rw [hreads]
    rcases hmem q t ht with ht | rfl
    · exact (h.past q t ht).trans hnext
    · exact hnext
  · rw [hstart, hreads]
    exact h.started.trans hnext
  · rw [hstart]
    rcases hmem q t ht with ht | rfl
    · exact h.fresh q (hq.trans hrole) t ht
    · exact h.started

/-- A new session clears the ports of its role. -/
theorem Kept.setup {P : Platform} {m : Monitor} (h : Kept P m) :
    KeptFresh P (setupNewSession P m) := by
  have hnext : P.bootClock m.reads ≤ P.bootClock (m.reads + 1) := P.mono _ _ (Nat.le_succ _)
  have hport : ∀ p : Port, (setupNewSession P m).portState p =
      if p.role = m.mDataRole then ⟨[], []⟩ else m.portState p := by
    intro p
    rw [setupNewSession_eq]
    by_cases hp : p.role = m.mDataRole
    · rw [if_pos hp]
      cases p <;> simp [portState, ← hp, Port.role]
    · rw [if_neg hp]
      cases p <;> exact if_neg fun h => hp h.symm
  have hrole : (setupNewSession P m).mDataRole = m.mDataRole := by rw [setupNewSession_eq]
  have hstart : (setupNewSession P m).mDataSessionStart = P.bootClock m.reads := by
    rw [setupNewSession_eq]
  have hreads : (setupNewSession P m).reads = m.reads + 1 := by rw [setupNewSession_eq]
  refine ⟨⟨fun p => ?_, fun p t ht => ?_⟩, ?_, fun p hp t ht => ?_⟩
  · rw [hport]
    split_ifs
    · exact wellFormed_empty
    · exact h.wellFormed p
  · rw [hport] at ht
    rw [hreads]
    split_ifs at ht
    · cases ht
    · exact (h.past p t ht).trans hnext
  · rw [hstart, hreads]
    exact hnext
  · rw [hport, if_pos (hp.trans hrole)] at ht
    cases ht

theorem KeptFresh.evaluate {P : Platform} {m : Monitor} (h : KeptFresh P m) :
    KeptFresh P (evaluateComplianceWarning P m) := by
  rw [evaluateComplianceWarning_eq]
  exact h.later rfl rfl rfl (Nat.le_succ _)

theorem KeptFresh.report {P : Platform} {m : Monitor} (h : KeptFresh P m) :
    KeptFresh P (reportUsbDataSessionMetrics P m) := by
  rw [reportUsbDataSessionMetrics_eq]
  exact h.later rfl rfl rfl (Nat.le_add_right _ _)

/-! ### The handlers -/

theorem handleDeviceStateEvent_kept {P : Platform} {m : Monitor} (h : KeptFresh P m) (p : Port)
    (r : FileRead) : KeptFresh P (handleDeviceStateEvent P p r m) := by
  simp only [handleDeviceStateEvent]
  split_ifs with hv
  · exact ((h.logged _).recordState p hv).evaluate
  · exact h.logged _

theorem handleDataRoleEvent_kept {P : Platform} {m : Monitor} (h : KeptFresh P m)
    (r : FileRead) : KeptFresh P (handleDataRoleEvent P r m) := by
  have hread : KeptFresh P (m.logged (.roleRead (newDataRole r))) := h.logged _
  rcases handleDataRoleEvent_cases P r m with ⟨-, he⟩ | ⟨-, -, he⟩ | ⟨-, -, he⟩ <;> rw [he]
  · exact hread
  · exact (hread.report.toKept.setDataRole _).setup
  · exact (hread.toKept.setDataRole _).setup

theorem updateUdcBindStatus_kept {P : Platform} {m : Monitor} (h : KeptFresh P m)
    (function : Option String) : KeptFresh P (updateUdcBindStatus P function m) := by
  rcases updateUdcBindStatus_cases P function m with ⟨-, he⟩ | ⟨-, -, -, he⟩ | ⟨-, -, -, he⟩ |
    ⟨b, -, -, he⟩ <;> rw [he]
  · exact h
  · exact h.report.evaluate.setUdcBind false
  · exact h.toKept.setup.setUdcBind true
  · exact h.setUdcBind b

end Monitor

namespace System

open Monitor

theorem kept_step {P : Platform} (s : System) (e : Event) (h : KeptFresh P s.monitor) :
    KeptFresh P (step P s e).monitor :=
  step_monitor (I := KeptFresh P) (fun r _ h => handleDataRoleEvent_kept h r)
    (fun p r _ h => handleDeviceStateEvent_kept h p r) (fun _ h => h.evaluate)
    (fun f _ h => updateUdcBindStatus_kept h f) s e h

/-- **The recorded histories are well formed and fresh**, in every state of every run.  The boot
clock counts from the boot; `mDataSessionStart` is zero until the first session begins. -/
theorem histories_always (P : Platform) (hboot : 0 ≤ P.bootClock 0) (mDataRole : PortDataRole)
    (udc : Option String) (openFile : Port → Open) (epollCtl : Port → Bool) (es : List Event) :
    Runs.Always (step P)
      (fun s => (∀ p, (s.monitor.portState p).WellFormed) ∧ Fresh s.monitor)
      (construct mDataRole udc openFile epollCtl) es := by
  intro pre _
  have h0 : KeptFresh P (construct mDataRole udc openFile epollCtl).monitor := by
    refine ⟨⟨fun p => ?_, fun p t ht => ?_⟩, hboot, fun p _ t ht => ?_⟩
    · cases p <;> exact wellFormed_empty
    · cases p <;> cases ht
    · cases p <;> cases ht
  have hkept := Runs.run_invariant (I := fun s : System => KeptFresh P s.monitor) kept_step h0 pre
  have haccounts := accounts_run P mDataRole udc openFile epollCtl pre
  exact ⟨hkept.wellFormed, hkept.fresh, fun s hs => (haccounts.current s hs).histories⟩

/-- A host session with a state on either port, and a device session after it. -/
theorem histories_twoSessions :
    Runs.Always (step .secondHand)
      (fun s => (∀ p, (s.monitor.portState p).WellFormed) ∧ Fresh s.monitor)
      (construct .none (some "11110000.dwc3\n") (fun _ _ => none) (fun _ => true))
      [.dataRole (.of "host"), .deviceState .host1 (.of "not attached\n"),
        .deviceState .host2 (.of "default\n"), .dataRole (.of "device"),
        .deviceState .device (.of "configured\n")] :=
  histories_always .secondHand (by decide) _ _ _ _ _

end System

end Gs101
