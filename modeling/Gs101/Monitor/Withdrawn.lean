import Gs101.Monitor.Warnings
import Gs101.Monitor.Notifications
import Gs101.Monitor.Sessions

/-!
# UsbDataSessionMonitor: a warning that was withdrawn

`evaluateComplianceWarning` computes the warnings anew each time, so that nothing in it keeps a
warning from coming and going.  Within a session it does not: what raises a warning, and what
refutes it, is counted in histories that only grow, and a gadget that is pulled down is pulled up
in a new session.

* `Raised`, `Refuted`: what raises and what refutes a warning, in the role of the session;
* `Later`: another state of the same session, with nothing forgotten;
* `Goes`: what an event that opens no session does;
* `withdrawn_for_good`: a warning that is withdrawn in a session does not come back in it.
-/

namespace Gs101

namespace Monitor

/-- The history that raises the warning. -/
def Raised (w : ComplianceWarning) (m : Monitor) : Prop :=
  match m.mDataRole, w with
  | .device, .enumerationFail =>
      enumFailDefaultCountThreshold < m.mDeviceState.states.count kDefaultState
  | .device, .flakyConnection =>
      deviceFlakyConnectionConfiguredCountThreshold < m.mDeviceState.states.count kConfiguredState
  | .host, .enumerationFail =>
      enumFailDefaultCountThreshold < m.mHost1State.states.count kDefaultState ∨
        enumFailDefaultCountThreshold < m.mHost2State.states.count kDefaultState
  | .host, .missingDataLines =>
      m.mHost1State.states.head? = some kNotAttachedState ∧
        m.mHost2State.states.head? = some kNotAttachedState
  | _, _ => False

/-- The history that refutes the warning, or a gadget that is pulled down. -/
def Refuted (w : ComplianceWarning) (m : Monitor) : Prop :=
  match m.mDataRole, w with
  | .device, .enumerationFail =>
      m.mUdcBind = false ∨ kConfiguredState ∈ m.mDeviceState.states
  | .device, .flakyConnection => m.mUdcBind = false
  | .host, .enumerationFail =>
      kConfiguredState ∈ m.mHost1State.states ∨ kConfiguredState ∈ m.mHost2State.states
  | .host, .missingDataLines => 1 < m.mHost1State.states.length ∨ 1 < m.mHost2State.states.length
  | _, _ => False

/-! ### What is shown, once the delay is over -/

theorem length_head?_iff {l : List String} {a : String} :
    l.length = 1 ∧ l.head? = some a ↔ l.head? = some a ∧ ¬ 1 < l.length := by
  cases l with
  | nil => simp
  | cons b l =>
    rw [and_comm, List.length_cons]
    exact and_congr_right fun _ => by omega

theorem mem_ite_singleton {w a : ComplianceWarning} {p : Prop} [Decidable p] :
    w ∈ (if p then {a} else ∅ : Finset ComplianceWarning) ↔ w = a ∧ p := by
  by_cases hp : p <;> simp [hp]

theorem mem_currentWarnings_device {w : ComplianceWarning} {m : Monitor}
    (hr : m.mDataRole = .device) : w ∈ m.currentWarnings ↔ Raised w m ∧ ¬ Refuted w m := by
  unfold currentWarnings warningsAfterDelay Raised Refuted
  rw [hr]
  cases hb : m.mUdcBind with
  | false => cases w <;> simp
  | true =>
    simp only [true_and, if_true, Finset.mem_union, mem_ite_singleton, List.count_eq_zero]
    cases w <;> simp [and_comm]

theorem mem_currentWarnings_host {w : ComplianceWarning} {m : Monitor}
    (hr : m.mDataRole = .host) : w ∈ m.currentWarnings ↔ Raised w m ∧ ¬ Refuted w m := by
  unfold currentWarnings warningsAfterDelay Raised Refuted
  rw [hr]
  simp only [reduceCtorEq, false_and, if_false, if_true, Finset.mem_union, mem_ite_singleton,
    List.count_eq_zero]
  cases w
  case enumerationFail =>
    simp only [reduceCtorEq, true_and, false_and, or_false, not_or, gt_iff_lt]
    rw [← and_assoc, and_comm]
  case missingDataLines =>
    simp only [reduceCtorEq, true_and, false_and, false_or, not_or]
    rw [← and_assoc, length_head?_iff, length_head?_iff, and_and_and_comm]
  all_goals simp

/-- A warning is one of the current ones if it is raised and not refuted. -/
theorem mem_currentWarnings {w : ComplianceWarning} {m : Monitor} :
    w ∈ m.currentWarnings ↔ Raised w m ∧ ¬ Refuted w m := by
  cases hr : m.mDataRole
  case device => exact mem_currentWarnings_device hr
  case host => exact mem_currentWarnings_host hr
  all_goals simp [currentWarnings, warningsAfterDelay, Raised, hr]

/-! ### One session -/

/-- Another state of the same session, with nothing forgotten. -/
structure Later (m m' : Monitor) : Prop where
  role : m'.mDataRole = m.mDataRole
  start : m'.mDataSessionStart = m.mDataSessionStart
  reads : m.reads ≤ m'.reads
  states : ∀ p, (m.portState p).states <+: (m'.portState p).states
  bind : m.mDataRole = .device → m.mUdcBind = false → m'.mUdcBind = false

theorem Later.refl (m : Monitor) : Later m m :=
  ⟨rfl, rfl, le_rfl, fun _ => List.prefix_rfl, fun _ => id⟩

theorem Later.trans {m₁ m₂ m₃ : Monitor} (h : Later m₁ m₂) (h' : Later m₂ m₃) : Later m₁ m₃ :=
  ⟨h'.role.trans h.role, h'.start.trans h.start, h.reads.trans h'.reads,
    fun p => (h.states p).trans (h'.states p), fun hd hb => h'.bind (h.role.trans hd) (h.bind hd hb)⟩

theorem head?_mono {l l' : List String} {a : String} (h : l <+: l') (ha : l.head? = some a) :
    l'.head? = some a := by
  obtain ⟨t, rfl⟩ := h
  cases l with
  | nil => cases ha
  | cons b l => exact ha

/-- What has raised a warning goes on raising it. -/
theorem Raised.later {w : ComplianceWarning} {m m' : Monitor} (hl : Later m m') (h : Raised w m) :
    Raised w m' := by
  have hcount : ∀ p a, (m.portState p).states.count a ≤ (m'.portState p).states.count a :=
    fun p a => (hl.states p).sublist.count_le a
  unfold Raised at h ⊢
  rw [hl.role]
  split at h
  · exact h.trans_le (hcount .device _)
  · exact h.trans_le (hcount .device _)
  · exact h.imp (fun h => h.trans_le (hcount .host1 _)) fun h => h.trans_le (hcount .host2 _)
  · exact ⟨head?_mono (hl.states .host1) h.1, head?_mono (hl.states .host2) h.2⟩
  · exact h.elim

/-- What has refuted a warning goes on refuting it. -/
theorem Refuted.later {w : ComplianceWarning} {m m' : Monitor} (hl : Later m m')
    (h : Refuted w m) : Refuted w m' := by
  have hmem : ∀ p a, a ∈ (m.portState p).states → a ∈ (m'.portState p).states :=
    fun p a ha => (hl.states p).subset ha
  have hlength : ∀ p, (m.portState p).states.length ≤ (m'.portState p).states.length :=
    fun p => (hl.states p).length_le
  unfold Refuted at h ⊢
  rw [hl.role]
  split at h
  · case h_1 hr => exact h.imp (hl.bind hr) (hmem .device _)
  · case h_2 hr => exact hl.bind hr h
  · exact h.imp (hmem .host1 _) (hmem .host2 _)
  · exact h.imp (fun h => h.trans_le (hlength .host1)) fun h => h.trans_le (hlength .host2)
  · exact h.elim

/-! ### One event of a session -/

/-- The session goes on, and the warnings are kept, or evaluated once on the way. -/
structure Goes (P : Platform) (m m' : Monitor) : Prop where
  later : Later m m'
  warnings : m'.mWarningSet = m.mWarningSet ∨
    ∃ mid, Later m mid ∧ Later mid m' ∧ m'.mWarningSet = evaluatedWarnings P mid

theorem later_evaluate (P : Platform) (m : Monitor) :
    Later m (evaluateComplianceWarning P m) := by
  rw [evaluateComplianceWarning_eq]
  refine ⟨rfl, rfl, Nat.le_succ _, fun p => ?_, fun _ => id⟩
  cases p <;> exact List.prefix_rfl

theorem later_report (P : Platform) (m : Monitor) :
    Later m (reportUsbDataSessionMetrics P m) := by
  rw [reportUsbDataSessionMetrics_eq]
  refine ⟨rfl, rfl, Nat.le_add_right _ _, fun p => ?_, fun _ => id⟩
  cases p <;> exact List.prefix_rfl

theorem later_logged (m : Monitor) (a : Action) : Later m (m.logged a) := by
  refine ⟨rfl, rfl, le_rfl, fun p => ?_, fun _ => id⟩
  cases p <;> exact List.prefix_rfl

/-- The flag may only be set outside a device session. -/
theorem later_setUdcBind {m : Monitor} {b : Bool} (h : m.mDataRole = .device → b = false) :
    Later m (m.setUdcBind b) := by
  refine ⟨rfl, rfl, le_rfl, fun p => ?_, fun hd _ => h hd⟩
  cases p <;> exact List.prefix_rfl

theorem later_recordState (P : Platform) (p : Port) (state : String) (m : Monitor) :
    Later m (recordState P p state m) := by
  refine ⟨?_, ?_, ?_, fun q => ?_, ?_⟩
  · cases p <;> rfl
  · cases p <;> rfl
  · cases p <;> exact Nat.le_succ _
  · rw [portState_recordState]
    split_ifs with hq
    · subst hq
      exact List.prefix_append _ _
    · exact List.prefix_rfl
  · cases p <;> exact fun _ => id

/-- An evaluation in the session. -/
theorem goes_evaluate {P : Platform} {m mid m' : Monitor} (h : Later m mid)
    (h' : Later (evaluateComplianceWarning P mid) m')
    (hset : m'.mWarningSet = (evaluateComplianceWarning P mid).mWarningSet) : Goes P m m' := by
  refine ⟨(h.trans (later_evaluate P mid)).trans h', .inr ⟨mid, h, ?_, ?_⟩⟩
  · exact (later_evaluate P mid).trans h'
  · rw [hset, evaluateComplianceWarning_eq]

theorem goes_deviceState (P : Platform) (p : Port) (r : FileRead) (m : Monitor) :
    Goes P m (handleDeviceStateEvent P p r m) := by
  unfold handleDeviceStateEvent
  dsimp only
  split_ifs
  · exact goes_evaluate ((later_logged m _).trans (later_recordState P p _ _)) (.refl _) rfl
  · exact ⟨later_logged m _, .inl rfl⟩

theorem goes_dataRole {P : Platform} {r : FileRead} {m : Monitor}
    (h : newDataRole r = m.mDataRole) : Goes P m (handleDataRoleEvent P r m) := by
  obtain ⟨-, he⟩ | ⟨hne, -⟩ | ⟨hne, -⟩ := handleDataRoleEvent_cases P r m
  · rw [he]
    exact ⟨later_logged m _, .inl rfl⟩
  · exact absurd h hne
  · exact absurd h hne

theorem goes_udcChange {P : Platform} {function : Option String} {m : Monitor}
    (h : ¬ OpensSession m (.udcChange function)) :
    Goes P m (updateUdcBindStatus P function m) := by
  obtain ⟨-, he⟩ | ⟨-, -, -, he⟩ | ⟨hf, hb, hd, -⟩ | ⟨b, -, hd, he⟩ :=
    updateUdcBindStatus_cases P function m
  · rw [he]
    exact ⟨.refl m, .inl rfl⟩
  · rw [he]
    exact goes_evaluate (later_report P m) (later_setUdcBind fun _ => rfl) rfl
  · exact absurd ⟨hf, hb, hd⟩ h
  · rw [he]
    exact ⟨later_setUdcBind fun h => absurd h hd, .inl rfl⟩

/-! ### What a warning has behind it -/

/-- The warnings that are shown were raised, and the delay is over. -/
def Backed (P : Platform) (m : Monitor) : Prop :=
  ∀ w ∈ m.mWarningSet, Raised w m ∧ warningSurfaceDelaySec ≤ elapsedTimeSec P m

/-- The warning is gone, and refuted. -/
def Gone (w : ComplianceWarning) (m : Monitor) : Prop := w ∉ m.mWarningSet ∧ Refuted w m

theorem Later.elapsed {P : Platform} {m m' : Monitor} (h : Later m m') :
    elapsedTimeSec P m ≤ elapsedTimeSec P m' := elapsedTimeSec_mono h.start h.reads

theorem mem_evaluatedWarnings {P : Platform} {w : ComplianceWarning} {m : Monitor} :
    w ∈ evaluatedWarnings P m ↔
      warningSurfaceDelaySec ≤ elapsedTimeSec P m ∧ Raised w m ∧ ¬ Refuted w m := by
  unfold evaluatedWarnings
  split_ifs with h
  · rw [mem_currentWarnings, and_iff_right h]
  · exact iff_of_false (Finset.notMem_empty w) fun hs => h hs.1

theorem Goes.backed {P : Platform} {m m' : Monitor} (h : Goes P m m') (hb : Backed P m) :
    Backed P m' := by
  intro w hw
  obtain hset | ⟨mid, -, hmid, hset⟩ := h.warnings
  · rw [hset] at hw
    exact ⟨(hb w hw).1.later h.later, (hb w hw).2.trans h.later.elapsed⟩
  · rw [hset] at hw
    obtain ⟨hdelay, hraised, -⟩ := mem_evaluatedWarnings.1 hw
    exact ⟨hraised.later hmid, hdelay.trans hmid.elapsed⟩

/-- A warning that an event of the session withdraws was refuted. -/
theorem Goes.mem_or_gone {P : Platform} {w : ComplianceWarning} {m m' : Monitor}
    (h : Goes P m m') (hb : Backed P m) (hw : w ∈ m.mWarningSet) :
    w ∈ m'.mWarningSet ∨ Gone w m' := by
  obtain hset | ⟨mid, hpre, hmid, hset⟩ := h.warnings
  · exact .inl (hset ▸ hw)
  · by_cases hr : Refuted w mid
    · refine .inr ⟨?_, hr.later hmid⟩
      rw [hset]
      exact fun hmem => (mem_evaluatedWarnings.1 hmem).2.2 hr
    · refine .inl ?_
      rw [hset]
      obtain ⟨hraised, hdelay⟩ := hb w hw
      exact mem_evaluatedWarnings.2 ⟨hdelay.trans hpre.elapsed, hraised.later hpre, hr⟩

/-- A warning that was refuted is not raised again. -/
theorem Goes.gone {P : Platform} {w : ComplianceWarning} {m m' : Monitor} (h : Goes P m m')
    (hg : Gone w m) : Gone w m' := by
  refine ⟨?_, hg.2.later h.later⟩
  obtain hset | ⟨mid, hpre, -, hset⟩ := h.warnings
  · rw [hset]
    exact hg.1
  · rw [hset]
    exact fun hmem => (mem_evaluatedWarnings.1 hmem).2.2 (hg.2.later hpre)

end Monitor

namespace System

open Monitor

/-! ### Runs -/

variable {P : Platform}

/-- The event opens no session. -/
def SameSession (s : System) (e : Event) : Prop := ¬ OpensSession s.monitor e

theorem goes_step {s : System} {e : Event} (h : s.SameSession e) :
    Goes P s.monitor (step P s e).monitor := by
  cases e with
  | dataRole r => exact goes_dataRole (not_not.1 h)
  | deviceState p r => exact goes_deviceState P p r s.monitor
  | timer => exact goes_evaluate (.refl _) (.refl _) rfl
  | udcChange function => exact goes_udcChange h
  | bind p openFile epollCtl => exact ⟨.refl _, .inl rfl⟩
  | unbind p epollCtl => exact ⟨.refl _, .inl rfl⟩

/-- A session begins without a warning. -/
theorem backed_step (s : System) (e : Event) (h : Backed P s.monitor) :
    Backed P (step P s e).monitor := by
  obtain ⟨hn, -⟩ | ⟨-, hopens⟩ := step_effect P s e
  · exact (goes_step hn).backed h
  · obtain ⟨-, -, -, hset, -⟩ := hopens.parts
    intro w hw
    rw [hset] at hw
    exact absurd hw (Finset.notMem_empty w)

/-- **A warning that is withdrawn in a session does not come back in it**: not in any order of
events, stale ones included. -/
theorem withdrawn_for_good (P : Platform) (mDataRole : PortDataRole) (udc : Option String)
    (openFile : Port → Open) (epollCtl : Port → Bool) (before shown hidden : List Event)
    (w : ComplianceWarning)
    (hsession : Runs.Meets (step P) SameSession
      (Runs.run (step P) (construct mDataRole udc openFile epollCtl) before) (shown ++ hidden))
    (hshown : w ∈ (Runs.run (step P) (construct mDataRole udc openFile epollCtl)
      before).monitor.mWarningSet)
    (hwithdrawn : w ∉ (Runs.run (step P) (construct mDataRole udc openFile epollCtl)
      (before ++ shown)).monitor.mWarningSet) :
    w ∉ (Runs.run (step P) (construct mDataRole udc openFile epollCtl)
      (before ++ (shown ++ hidden))).monitor.mWarningSet := by
  have hbacked : Backed P
      (Runs.run (step P) (construct mDataRole udc openFile epollCtl) before).monitor := by
    refine Runs.run_invariant (I := fun s : System => Backed P s.monitor) backed_step ?_ before
    exact fun w hw => absurd hw (Finset.notMem_empty w)
  rw [Runs.run_append] at hwithdrawn ⊢
  exact Runs.not_of_lost (A := fun s : System => w ∈ s.monitor.mWarningSet)
    (I := fun s : System => Backed P s.monitor) (G := fun s : System => Gone w s.monitor)
    backed_step (fun s e hi hc => (goes_step hc).mem_or_gone hi)
    (fun s e hc => (goes_step hc).gone) (fun s hg => hg.1) hbacked hshown hsession hwithdrawn

/-- The gadget is plugged in, and four enumerations fail. -/
def fourDefaults : List Event :=
  [.dataRole (.of "device"), .deviceState .device (.of "default\n"),
    .deviceState .device (.of "default\n"), .deviceState .device (.of "default\n"),
    .deviceState .device (.of "default\n")]

/-- The host configures the gadget in the end, and `ENUMERATION_FAIL` does not come back. -/
theorem configured_withdrawn_for_good :
    .enumerationFail ∉ (Runs.run (step .secondHand)
      (construct .none (some "11110000.dwc3\n") (fun _ _ => none) (fun _ => true))
      (fourDefaults ++ ([.deviceState .device (.of "configured\n")] ++
        [.deviceState .device (.of "default\n"), .timer]))).monitor.mWarningSet :=
  withdrawn_for_good .secondHand .none (some "11110000.dwc3\n") (fun _ _ => none) (fun _ => true)
    fourDefaults [.deviceState .device (.of "configured\n")]
    [.deviceState .device (.of "default\n"), .timer] .enumerationFail
    ⟨id, id, id, trivial⟩ (by decide) (by decide)

end System

end Gs101
