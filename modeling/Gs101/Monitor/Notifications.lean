import Gs101.Monitor.System

/-!
# UsbDataSessionMonitor: telling the framework

The framework pulls the warnings when `mUpdatePortStatusCb` is invoked.  `Announced` says of one
event that a change of `mWarningSet` is followed, within the handler, by such an invocation;
`pulled` is the set that the last invocation showed.

`evaluateComplianceWarning` announces what it writes.  `setupNewSession` empties the set and tells
nobody, so a run announces its changes exactly when no session opens over a warning
(`announces_iff`).
-/

namespace Gs101

namespace Monitor

/-- One action's effect on the answer to: was the callback invoked after the last write? -/
def notifiedStep (b : Bool) : Action → Bool
  | .assign _ => false
  | .updatePortStatus _ => true
  | _ => b

/-- In these actions the callback is invoked after the last write of `mWarningSet`. -/
def notified (actions : List Action) : Bool := actions.foldl notifiedStep false

/-- The set that `mWarningSet` held when the callback was last invoked, `ws` if never. -/
def pulledFrom (ws : Finset ComplianceWarning) (actions : List Action) :
    Finset ComplianceWarning :=
  actions.foldl (fun ws a => match a with
    | .updatePortStatus ws' => ws'
    | _ => ws) ws

/-- What the framework pulled last. -/
def pulled (m : Monitor) : Finset ComplianceWarning := pulledFrom ∅ m.log

theorem pulledFrom_append (ws : Finset ComplianceWarning) (l l' : List Action) :
    pulledFrom ws (l ++ l') = pulledFrom (pulledFrom ws l) l' := List.foldl_append

/-- What a handler did: the actions it added to the log. -/
def newActions (m m' : Monitor) : List Action := m'.log.drop m.log.length

theorem newActions_eq {m m' : Monitor} {l : List Action} (h : m'.log = m.log ++ l) :
    newActions m m' = l := by
  rw [newActions, h, List.drop_left]

/-- A change of the warnings between two states is announced after it was made. -/
def AnnouncedBetween (m m' : Monitor) : Prop :=
  m'.mWarningSet ≠ m.mWarningSet → notified (newActions m m') = true

/-! ### The parts of a handler -/

/-- Neither a write of `mWarningSet` nor an invocation of the callback. -/
def Action.Silent : Action → Prop
  | .assign _ | .updatePortStatus _ => False
  | _ => True

theorem notified_silent {l : List Action} (h : ∀ a ∈ l, a.Silent) (b : Bool) :
    l.foldl notifiedStep b = b := by
  induction l generalizing b with
  | nil => rfl
  | cons a l ih =>
    have ha := h a List.mem_cons_self
    rw [List.foldl_cons, ih fun c hc => h c (List.mem_cons_of_mem a hc)]
    cases a <;> first | rfl | exact ha.elim

theorem pulledFrom_silent {l : List Action} (h : ∀ a ∈ l, a.Silent)
    (ws : Finset ComplianceWarning) : pulledFrom ws l = ws := by
  induction l generalizing ws with
  | nil => rfl
  | cons a l ih =>
    have ha := h a List.mem_cons_self
    have hl := ih fun c hc => h c (List.mem_cons_of_mem a hc)
    cases a <;> first | exact hl ws | exact ha.elim

theorem reportLog_silent (P : Platform) (m : Monitor) : ∀ a ∈ reportLog P m, a.Silent := by
  unfold reportLog
  split_ifs <;> simp [Action.Silent]

/-- `P` with the feature flag on and a callback set. -/
def Platform.reporting (P : Platform) : Platform :=
  { P with enableReportUsbDataComplianceWarning := true, mUpdatePortStatusCb := true }

@[simp] theorem Platform.reporting_flag (P : Platform) :
    P.reporting.enableReportUsbDataComplianceWarning = true := rfl

@[simp] theorem Platform.reporting_callback (P : Platform) :
    P.reporting.mUpdatePortStatusCb = true := rfl

/-- A handler whose only write is that of an evaluation. -/
structure Evaluates (P : Platform) (m m' : Monitor) : Prop where
  parts : ∃ m₁ pre post, m₁.mWarningSet = m.mWarningSet ∧
    m'.mWarningSet = evaluatedWarnings P m₁ ∧ m'.log = m.log ++ (pre ++ evaluateLog P m₁ ++ post) ∧
    (∀ a ∈ pre, a.Silent) ∧ ∀ a ∈ post, a.Silent

/-- A handler whose only write is that of a new session. -/
structure Opens (P : Platform) (m m' : Monitor) : Prop where
  parts : ∃ m₁ pre post, m'.mWarningSet = ∅ ∧ m'.log = m.log ++ (pre ++ setupLog P m₁ ++ post) ∧
    (∀ a ∈ pre, a.Silent) ∧ ∀ a ∈ post, a.Silent

/-- A handler that does not touch the warnings. -/
structure Idles (m m' : Monitor) : Prop where
  parts : ∃ l, m'.mWarningSet = m.mWarningSet ∧ m'.log = m.log ++ l ∧ ∀ a ∈ l, a.Silent

theorem notified_evaluateLog (P : Platform) (m : Monitor) (b : Bool)
    (h : evaluatedWarnings P.reporting m ≠ m.mWarningSet) :
    (evaluateLog P.reporting m).foldl notifiedStep b = true := by
  simp [evaluateLog, h, notifiedStep]

theorem pulledFrom_evaluateLog (P : Platform) (m : Monitor) :
    pulledFrom m.mWarningSet (evaluateLog P.reporting m) = evaluatedWarnings P.reporting m := by
  by_cases h : evaluatedWarnings P.reporting m = m.mWarningSet <;>
    simp [evaluateLog, h, pulledFrom]

/-- An evaluation announces what it changes. -/
theorem Evaluates.announced {P : Platform} {m m' : Monitor} (h : Evaluates P.reporting m m') :
    AnnouncedBetween m m' := by
  obtain ⟨m₁, pre, post, hw, hw', hlog, -, hpost⟩ := h.parts
  intro hne
  rw [newActions_eq hlog, notified, List.foldl_append, List.foldl_append, notified_silent hpost]
  exact notified_evaluateLog P m₁ _ (by rwa [← hw', hw])

theorem Evaluates.pulled {P : Platform} {m m' : Monitor} (h : Evaluates P.reporting m m')
    (hm : m.pulled = m.mWarningSet) : m'.pulled = m'.mWarningSet := by
  obtain ⟨m₁, pre, post, hw, hw', hlog, hpre, hpost⟩ := h.parts
  rw [Monitor.pulled, hlog, pulledFrom_append, pulledFrom_append, pulledFrom_append,
    pulledFrom_silent hpost, pulledFrom_silent hpre]
  show pulledFrom m.pulled _ = _
  rw [hm, ← hw, pulledFrom_evaluateLog, hw']

/-- A new session empties the set and announces nothing. -/
theorem Opens.announced_iff {P : Platform} {m m' : Monitor} (h : Opens P m m') :
    AnnouncedBetween m m' ↔ m.mWarningSet = ∅ := by
  obtain ⟨m₁, pre, post, hw', hlog, -, hpost⟩ := h.parts
  have hsetup : ∀ b, (setupLog P m₁).foldl notifiedStep b = false := by
    intro b
    unfold setupLog
    split_ifs <;> rfl
  rw [AnnouncedBetween, newActions_eq hlog, notified, List.foldl_append, List.foldl_append,
    notified_silent hpost, hsetup, hw']
  constructor
  · intro hn
    by_contra hne
    exact absurd (hn (Ne.symm hne)) (by decide)
  · exact fun he hne => absurd he.symm hne

theorem Opens.pulled {P : Platform} {m m' : Monitor} (h : Opens P m m')
    (hm : m.pulled = m.mWarningSet) (he : m.mWarningSet = ∅) : m'.pulled = m'.mWarningSet := by
  obtain ⟨m₁, pre, post, hw', hlog, hpre, hpost⟩ := h.parts
  have hsetup : ∀ ws, pulledFrom ws (setupLog P m₁) = ws := by
    intro ws
    unfold setupLog
    split_ifs <;> rfl
  rw [Monitor.pulled, hlog, pulledFrom_append, pulledFrom_append, pulledFrom_append,
    pulledFrom_silent hpost, hsetup, pulledFrom_silent hpre, hw']
  exact hm.trans he

theorem Idles.announced {m m' : Monitor} (h : Idles m m') : AnnouncedBetween m m' := by
  obtain ⟨l, hw, -, -⟩ := h.parts
  exact fun hne => absurd hw hne

theorem Idles.pulled {m m' : Monitor} (h : Idles m m') (hm : m.pulled = m.mWarningSet) :
    m'.pulled = m'.mWarningSet := by
  obtain ⟨l, hw, hlog, hl⟩ := h.parts
  rw [Monitor.pulled, hlog, pulledFrom_append, pulledFrom_silent hl, hw]
  exact hm

/-! ### The handlers -/

/-- An event that makes `setupNewSession` run: a role other than the current one, or a soft pullup
of the gadget. -/
def OpensSession (m : Monitor) : Event → Prop
  | .dataRole r => newDataRole r ≠ m.mDataRole
  | .udcChange function =>
      (∃ f, function = some f ∧ f ≠ "") ∧ m.mUdcBind = false ∧ m.mDataRole = .device
  | _ => False

theorem handleDeviceStateEvent_idles_or_evaluates (P : Platform) (p : Port) (r : FileRead)
    (m : Monitor) : Idles m (handleDeviceStateEvent P p r m) ∨
      Evaluates P m (handleDeviceStateEvent P p r m) := by
  set a := Action.stateRead p (r.text usbStateMaxLen) (P.bootClock m.reads) with ha
  have hsilent : ∀ b ∈ [a], b.Silent := by simp [ha, Action.Silent]
  simp only [handleDeviceStateEvent, ← ha]
  split_ifs
  · refine .inr ⟨recordState P p (r.text usbStateMaxLen) (m.logged a), [a], [], ?_, ?_, ?_,
      hsilent, by simp⟩
    · cases p <;> rfl
    · rw [evaluateComplianceWarning_eq]
    · rw [evaluateComplianceWarning_eq]
      cases p <;> simp [recordState, setPortState, ticked, logged]
  · exact .inl ⟨[a], rfl, rfl, hsilent⟩

/-- A handler that ends in `setupNewSession`, after silent actions. -/
theorem opens_setup {P : Platform} {m m₁ : Monitor} (pre : List Action)
    (hlog : m₁.log = m.log ++ pre) (hpre : ∀ a ∈ pre, a.Silent) :
    Opens P m (setupNewSession P m₁) :=
  ⟨m₁, pre, [], by rw [setupNewSession_eq], by rw [setupNewSession_eq, hlog]; simp, hpre, by simp⟩

theorem handleDataRoleEvent_idles_or_opens (P : Platform) (r : FileRead) (m : Monitor) :
    (newDataRole r = m.mDataRole ∧ Idles m (handleDataRoleEvent P r m)) ∨
      (newDataRole r ≠ m.mDataRole ∧ Opens P m (handleDataRoleEvent P r m)) := by
  set a := Action.roleRead (newDataRole r) with ha
  have hsilent : a.Silent := trivial
  rcases handleDataRoleEvent_cases P r m with ⟨hr, he⟩ | ⟨hr, -, he⟩ | ⟨hr, -, he⟩ <;>
    rw [he, ← ha]
  · exact .inl ⟨hr, [a], rfl, rfl, by simp [hsilent]⟩
  · refine .inr ⟨hr, opens_setup (a :: reportLog P (m.logged a)) ?_ ?_⟩
    · rw [reportUsbDataSessionMetrics_eq]
      simp [setDataRole, logged]
    · exact List.forall_mem_cons.2 ⟨hsilent, reportLog_silent P _⟩
  · exact .inr ⟨hr, opens_setup [a] rfl (by simp [hsilent])⟩

/-- `mUdcBind` is assigned after everything else. -/
theorem Evaluates.setUdcBind {P : Platform} {m m' : Monitor} (h : Evaluates P m m') (b : Bool) :
    Evaluates P m (m'.setUdcBind b) := by
  obtain ⟨m₁, pre, post, hw, hw', hlog, hpre, hpost⟩ := h.parts
  refine ⟨m₁, pre, post ++ [.udcBind b], hw, hw', ?_, hpre, ?_⟩
  · simp [Monitor.setUdcBind, hlog]
  · exact List.forall_mem_append.2 ⟨hpost, by simp [Action.Silent]⟩

theorem Opens.setUdcBind {P : Platform} {m m' : Monitor} (h : Opens P m m') (b : Bool) :
    Opens P m (m'.setUdcBind b) := by
  obtain ⟨m₁, pre, post, hw', hlog, hpre, hpost⟩ := h.parts
  refine ⟨m₁, pre, post ++ [.udcBind b], hw', ?_, hpre, ?_⟩
  · simp [Monitor.setUdcBind, hlog]
  · exact List.forall_mem_append.2 ⟨hpost, by simp [Action.Silent]⟩

theorem updateUdcBindStatus_effect (P : Platform) (function : Option String) (m : Monitor) :
    (¬ OpensSession m (.udcChange function) ∧
      (Idles m (updateUdcBindStatus P function m) ∨
        Evaluates P m (updateUdcBindStatus P function m))) ∨
    (OpensSession m (.udcChange function) ∧ Opens P m (updateUdcBindStatus P function m)) := by
  rcases updateUdcBindStatus_cases P function m with ⟨hf, he⟩ | ⟨hf, hb, hd, he⟩ |
    ⟨hf, hb, hd, he⟩ | ⟨b, -, hd, he⟩ <;> rw [he]
  · refine .inl ⟨?_, .inl ⟨[], rfl, by simp, by simp⟩⟩
    rintro ⟨⟨f, hf', hne⟩, hb, -⟩
    simpa [hb, hne] using hf f hf'
  · refine .inl ⟨?_, .inr (Evaluates.setUdcBind ⟨reportUsbDataSessionMetrics P m, reportLog P m, [],
      ?_, ?_, ?_, reportLog_silent P m, by simp⟩ false)⟩
    · rintro ⟨-, hb', -⟩
      simp [hb] at hb'
    · rw [reportUsbDataSessionMetrics_eq]
    · rw [evaluateComplianceWarning_eq]
    · rw [evaluateComplianceWarning_eq]
      simp [reportUsbDataSessionMetrics_eq]
  · exact .inr ⟨⟨hf, hb, hd⟩, (opens_setup [] (by simp) (by simp)).setUdcBind true⟩
  · refine .inl ⟨?_, .inl ⟨[.udcBind b], rfl, rfl, by simp [Action.Silent]⟩⟩
    rintro ⟨-, -, hd'⟩
    exact hd hd'

end Monitor

namespace System

open Monitor

/-- A change of the warnings by this event is announced after it was made. -/
def Announced (P : Platform) (s : System) (e : Event) : Prop :=
  AnnouncedBetween s.monitor (step P s e).monitor

/-- The event opens no session while a warning is shown. -/
def OpensQuietly (s : System) (e : Event) : Prop :=
  OpensSession s.monitor e → s.monitor.mWarningSet = ∅

/-- Each event idles, evaluates, or opens a session. -/
theorem step_effect (P : Platform) (s : System) (e : Event) :
    (¬ OpensSession s.monitor e ∧
      (Idles s.monitor (step P s e).monitor ∨ Evaluates P s.monitor (step P s e).monitor)) ∨
    (OpensSession s.monitor e ∧ Opens P s.monitor (step P s e).monitor) := by
  have idle : Idles s.monitor s.monitor := ⟨[], rfl, by simp, by simp⟩
  cases e with
  | dataRole r =>
    simp only [step]
    rcases handleDataRoleEvent_idles_or_opens P r s.monitor with ⟨hr, h⟩ | ⟨hr, h⟩
    · exact .inl ⟨fun h => h hr, .inl h⟩
    · exact .inr ⟨hr, h⟩
  | deviceState p r =>
    simp only [step]
    exact .inl ⟨id, handleDeviceStateEvent_idles_or_evaluates P p r s.monitor⟩
  | timer =>
    simp only [step]
    exact .inl ⟨id, .inr ⟨s.monitor, [], [], rfl,
      by rw [handleTimerEvent, evaluateComplianceWarning_eq],
      by rw [handleTimerEvent, evaluateComplianceWarning_eq]; simp, by simp, by simp⟩⟩
  | udcChange function =>
    simp only [step]
    exact updateUdcBindStatus_effect P function s.monitor
  | bind p openFile epollCtl => exact .inl ⟨id, .inl idle⟩
  | unbind p epollCtl => exact .inl ⟨id, .inl idle⟩

/-- An event announces its change exactly when it opens no session over a warning. -/
theorem announced_iff (P : Platform) (s : System) (e : Event) :
    s.Announced P.reporting e ↔ s.OpensQuietly e := by
  rcases step_effect P.reporting s e with ⟨hn, h | h⟩ | ⟨ho, h⟩
  · exact iff_of_true h.announced fun ho => absurd ho hn
  · exact iff_of_true h.announced fun ho => absurd ho hn
  · exact h.announced_iff.trans ⟨fun he _ => he, fun hq => hq ho⟩

/-- Such an event leaves what was pulled last up to date. -/
theorem pulled_step {P : Platform} (s : System) (e : Event)
    (h : s.monitor.pulled = s.monitor.mWarningSet) (hq : s.OpensQuietly e) :
    (step P.reporting s e).monitor.pulled = (step P.reporting s e).monitor.mWarningSet := by
  rcases step_effect P.reporting s e with ⟨-, hi | he⟩ | ⟨ho, hs⟩
  · exact hi.pulled h
  · exact he.pulled h
  · exact hs.pulled h (hq ho)

/-- **No silent change of the warnings.**  With the flag on and a callback set, the events of a
run announce every change, and the warnings pulled last are at every moment the current ones, if
and only if no event of the run opens a session while a warning is shown. -/
theorem announces_iff (P : Platform) (mDataRole : PortDataRole) (udc : Option String)
    (openFile : Port → Open) (epollCtl : Port → Bool) (es : List Event) :
    (Runs.Meets (step P.reporting) (Announced P.reporting)
        (construct mDataRole udc openFile epollCtl) es ∧
      Runs.Always (step P.reporting) (fun s => s.monitor.pulled = s.monitor.mWarningSet)
        (construct mDataRole udc openFile epollCtl) es) ↔
      Runs.Meets (step P.reporting) OpensQuietly (construct mDataRole udc openFile epollCtl) es := by
  rw [Runs.meets_congr (J := fun _ => True) (fun _ _ _ => trivial)
    (fun s e _ => announced_iff P s e) trivial]
  exact ⟨And.left, fun h => ⟨h, Runs.always_of_meets pulled_step rfl h⟩⟩

/-- A host session in which neither port sees a device. -/
def emptyHostSession : List Event :=
  [.dataRole (.of "host"), .deviceState .host1 (.of "not attached\n"),
    .deviceState .host2 (.of "not attached\n"), .timer, .timer]

/-- When the role changes after such a session, `MISSING_DATA_LINES` goes without notice. -/
theorem emptyHostSession_silent :
    ¬ (Runs.Meets (step .secondHand) (Announced .secondHand)
        (construct .none none (fun _ _ => none) (fun _ => true))
        (emptyHostSession ++ [.dataRole (.of "none")]) ∧
      Runs.Always (step .secondHand) (fun s => s.monitor.pulled = s.monitor.mWarningSet)
        (construct .none none (fun _ _ => none) (fun _ => true))
        (emptyHostSession ++ [.dataRole (.of "none")])) := by
  rintro ⟨h, -⟩
  have hlast := (Runs.meets_concat.1 h).2
  revert hlast
  unfold Announced AnnouncedBetween
  decide

end System

end Gs101
