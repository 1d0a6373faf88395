import Gs101.Monitor.System

/-!
# UsbDataSessionMonitor: the bind status of the gadget

The constructor takes the bind status from the `UDC` file of configfs, and every `change@` uevent of
the udc from its `function` file; both hold a name, which is empty while no gadget is bound.

* `statusTexts`: what is read from these files in a run, oldest first;
* `Follows`: `mUdcBind` is the last status that was read, without the white space around it;
* `mUdcBind_run`: it is the last status with its white space;
* `follows_iff`: `mUdcBind` follows the status throughout a run if and only if no text that is read
  is made of white space.
-/

namespace Gs101

namespace System

open Monitor

namespace BindStatus

/-- The status that is read with an event. -/
def statusOf : Event → Option String
  | .udcChange function => function
  | _ => none

/-- The bind statuses that are read, oldest first; `udc` is what the constructor read. -/
def statusTexts (udc : Option String) (es : List Event) : List String :=
  udc.toList ++ es.filterMap statusOf

/-- After these events the flag tells whether the last status names a gadget. -/
def Follows (udc : Option String) (es : List Event) (s : System) : Prop :=
  s.monitor.mUdcBind = true ↔
    ∃ text, (statusTexts udc es).getLast? = some text ∧ CText.trim text ≠ ""

/-- The text is empty, or holds a character that is no white space. -/
def Plain (text : String) : Prop := text = "" ∨ CText.trim text ≠ ""

instance (text : String) : Decidable (Plain text) := inferInstanceAs (Decidable (_ ∨ _))

/-! ### One handler -/

variable {P : Platform}

theorem mUdcBind_evaluate (m : Monitor) :
    (evaluateComplianceWarning P m).mUdcBind = m.mUdcBind := by
  rw [evaluateComplianceWarning_eq]

theorem mUdcBind_report (m : Monitor) :
    (reportUsbDataSessionMetrics P m).mUdcBind = m.mUdcBind := by
  rw [reportUsbDataSessionMetrics_eq]

theorem mUdcBind_setup (m : Monitor) : (setupNewSession P m).mUdcBind = m.mUdcBind := by
  rw [setupNewSession_eq]

theorem mUdcBind_setPortState (m : Monitor) (p : Port) (d : UsbDeviceState) :
    (m.setPortState p d).mUdcBind = m.mUdcBind := by
  cases p <;> rfl

theorem mUdcBind_deviceState (p : Port) (r : FileRead) (m : Monitor) :
    (handleDeviceStateEvent P p r m).mUdcBind = m.mUdcBind := by
  simp only [handleDeviceStateEvent]
  split_ifs
  · rw [mUdcBind_evaluate]
    exact mUdcBind_setPortState _ p _
  · rfl

theorem mUdcBind_setDataRole (m : Monitor) (role : PortDataRole) :
    (m.setDataRole role).mUdcBind = m.mUdcBind := rfl

theorem mUdcBind_logged (m : Monitor) (a : Action) : (m.logged a).mUdcBind = m.mUdcBind := rfl

theorem mUdcBind_dataRole (r : FileRead) (m : Monitor) :
    (handleDataRoleEvent P r m).mUdcBind = m.mUdcBind := by
  rcases handleDataRoleEvent_cases P r m with ⟨-, h⟩ | ⟨-, -, h⟩ | ⟨-, -, h⟩
  · rw [h, mUdcBind_logged]
  · rw [h, mUdcBind_setup, mUdcBind_setDataRole, mUdcBind_report, mUdcBind_logged]
  · rw [h, mUdcBind_setup, mUdcBind_setDataRole, mUdcBind_logged]

theorem mUdcBind_update (m : Monitor) (text : String) :
    (updateUdcBindStatus P (some text) m).mUdcBind = decide (text ≠ "") := by
  simp only [updateUdcBindStatus]
  by_cases h : decide (text ≠ "") = m.mUdcBind
  · rw [if_pos h, h]
  · rw [if_neg h]
    rfl

theorem mUdcBind_step (s : System) (e : Event) :
    (step P s e).monitor.mUdcBind = match statusOf e with
      | some text => decide (text ≠ "")
      | none => s.monitor.mUdcBind := by
  cases e with
  | dataRole r => simp only [step, statusOf, mUdcBind_dataRole]
  | deviceState p r => simp only [step, statusOf, mUdcBind_deviceState]
  | timer => simp only [step, statusOf, handleTimerEvent, mUdcBind_evaluate]
  | udcChange function =>
    cases function with
    | none => simp only [step, statusOf, updateUdcBindStatus]
    | some text => simp only [step, statusOf, mUdcBind_update]
  | bind p openFile epollCtl => rfl
  | unbind p epollCtl => rfl

/-! ### Runs -/

variable (P) (mDataRole : PortDataRole) (udc : Option String) (openFile : Port → Open)
  (epollCtl : Port → Bool)

/-- The flag is the last status that was read, whatever the text. -/
theorem mUdcBind_run (es : List Event) :
    (Runs.run (step P) (construct mDataRole udc openFile epollCtl) es).monitor.mUdcBind = true ↔
      ∃ text, (statusTexts udc es).getLast? = some text ∧ text ≠ "" := by
  -- the last event alone may bring a new status
  induction es using List.reverseRecOn with
  | nil => cases udc <;> simp [construct, Monitor.construct, statusTexts]
  | append_singleton es e ih =>
    rw [Runs.run_append, Runs.run_cons, Runs.run_nil, mUdcBind_step]
    cases h : statusOf e with
    | none => simpa [statusTexts, h] using ih
    | some text => simp [statusTexts, h]

theorem follows_run (es : List Event) :
    Follows udc es (Runs.run (step P) (construct mDataRole udc openFile epollCtl) es) ↔
      ∀ text, (statusTexts udc es).getLast? = some text → Plain text := by
  rw [Follows, mUdcBind_run]
  cases h : (statusTexts udc es).getLast? with
  | none => simp
  | some text =>
    by_cases hempty : text = ""
    · subst hempty
      have htrim : CText.trim "" = "" := rfl
      simp [Plain, htrim]
    · simp [Plain, hempty]

theorem statusTexts_subset {pre es : List Event} (h : pre <+: es) :
    statusTexts udc pre ⊆ statusTexts udc es := by
  obtain ⟨post, rfl⟩ := h
  intro text htext
  rw [statusTexts, List.filterMap_append, ← List.append_assoc]
  exact List.mem_append_left _ htext

/-- Every text that is read was at some time the last one. -/
theorem exists_prefix_of_mem {es : List Event} {text : String} (h : text ∈ statusTexts udc es) :
    ∃ pre, pre <+: es ∧ (statusTexts udc pre).getLast? = some text := by
  rcases List.mem_append.1 h with h | h
  · refine ⟨[], List.nil_prefix, ?_⟩
    rw [Option.mem_toList] at h
    subst h
    rfl
  · obtain ⟨e, he, hstatus⟩ := List.mem_filterMap.1 h
    obtain ⟨before, after, rfl⟩ := List.append_of_mem he
    refine ⟨before ++ [e], ⟨after, by simp⟩, ?_⟩
    simp [statusTexts, hstatus]

/-- **The flag follows the bind status** throughout a run if and only if no text that is read is
made of white space. -/
theorem follows_iff (es : List Event) :
    (∀ pre, pre <+: es →
      Follows udc pre (Runs.run (step P) (construct mDataRole udc openFile epollCtl) pre)) ↔
      ∀ text ∈ statusTexts udc es, Plain text := by
  simp only [follows_run]
  constructor
  · intro h text htext
    obtain ⟨pre, hpre, hlast⟩ := exists_prefix_of_mem udc htext
    exact h pre hpre text hlast
  · intro h pre hpre text hlast
    exact h text (statusTexts_subset udc hpre (List.mem_of_getLast? hlast))

/-- The `UDC` file of a gadget that is not bound is an empty line. -/
theorem unbound_not_follows :
    ¬ ∀ pre, pre <+: [] → Follows (some "\n") pre
      (Runs.run (step .secondHand)
        (construct .none (some "\n") (fun _ _ => none) fun _ => false) pre) := by
  intro h
  have hplain := (follows_run _ _ _ _ _ _).1 (h [] List.nil_prefix) "\n" rfl
  exact absurd hplain (by decide)

end BindStatus

end System

end Gs101
