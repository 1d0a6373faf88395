import Gs101.Monitor.Sessions

/-!
# UsbDataSessionMonitor: before the first session

The constructor leaves `mDataRole` as the memory was.  As long as no session has begun, a handler
may take that value for the role of one:

* `NoPhantom`: no report is made before a session has begun;
* `Begun`: a role read as HOST or DEVICE has an open session, with its start time and its timer.

`started_iff` says which initial values keep both in every run, and for any initial value which runs
do.
-/

namespace Gs101

namespace Monitor

def Action.role : Action → Option PortDataRole
  | .roleRead role => some role
  | _ => none

/-- The role that `handleDataRoleEvent` read last. -/
def lastRole (log : List Action) : Option PortDataRole := (log.filterMap Action.role).getLast?

/-- No report is made before a session has begun. -/
def NoPhantom (log : List Action) : Prop :=
  ∀ before events, before ++ [.report events] <+: log → sessions before ≠ []

/-- HOST or DEVICE. -/
def Named (role : PortDataRole) : Prop := role = .host ∨ role = .device

/-- The open session is one for the role that was read last: its start was taken and its timer
armed. -/
def Begun (m : Monitor) : Prop :=
  ∀ role, lastRole m.log = some role → Named role →
    ∃ s ∈ (sessions m.log).head?,
      s.opening.role = role ∧ s.opening.start = m.mDataSessionStart ∧ .armTimer ∈ s.body

/-- There is no session without a start. -/
structure Started (m : Monitor) : Prop where
  noPhantom : NoPhantom m.log
  begun : Begun m

/-- With no session open, this event takes the value of `mDataRole` for the role of one: it
confirms HOST or DEVICE, or it ends what never began. -/
def TrustsInitialRole (m : Monitor) : Event → Prop
  | .dataRole r =>
      if newDataRole r = m.mDataRole then Named m.mDataRole else m.ReportsOnRoleChange
  | .udcChange function => function = some "" ∧ m.mUdcBind = true ∧ m.mDataRole = .device
  | _ => False

/-! ### The log grows -/

theorem lastRole_append {l l' : List Action} (h : ∀ a ∈ l', a.role = none) :
    lastRole (l ++ l') = lastRole l := by
  have hnil : l'.filterMap Action.role = [] := List.filterMap_eq_nil_iff.2 h
  simp only [lastRole, List.filterMap_append, hnil, List.append_nil]

theorem lastRole_append_cases {l l' : List Action} {role : PortDataRole}
    (h : lastRole (l ++ l') = some role) :
    lastRole l = some role ∨ ∃ a ∈ l', a.role = some role := by
  rw [lastRole, List.filterMap_append, List.getLast?_append, Option.or_eq_some_iff] at h
  rcases h with h | ⟨-, h⟩
  · exact .inr (List.mem_filterMap.1 (List.mem_of_getLast? h))
  · exact .inl h

theorem lastRole_roleRead {l l' : List Action} {role : PortDataRole}
    (h : ∀ a ∈ l', a.role = none) : lastRole (l ++ .roleRead role :: l') = some role := by
  have hsplit : l ++ .roleRead role :: l' = l ++ [.roleRead role] ++ l' := by simp
  rw [hsplit, lastRole_append h]
  simp [lastRole, Action.role]

theorem NoPhantom.append {l l' : List Action} (h : NoPhantom l)
    (hl : ∀ a ∈ l', a.reported = none) : NoPhantom (l ++ l') := by
  induction l' using List.reverseRecOn with
  | nil => simpa using h
  | append_singleton l' a ih =>
    rw [← List.append_assoc]
    intro before events hp
    rcases List.prefix_concat_iff.1 hp with heq | hp
    · obtain ⟨rfl, hlast⟩ := List.append_inj' heq rfl
      have ha : a.reported = none := hl a (by simp)
      rw [← (List.cons.inj hlast).1] at ha
      cases ha
    · exact ih (fun b hb => hl b (List.mem_append_left _ hb)) before events hp

/-- Once a session has begun, nothing that follows is a phantom. -/
theorem NoPhantom.append_of_session {l : List Action} (h : NoPhantom l) (hs : sessions l ≠ [])
    (l' : List Action) : NoPhantom (l ++ l') := by
  intro before events hp
  rcases List.prefix_or_prefix_of_prefix hp (List.prefix_append l l') with hp | hp
  · exact h before events hp
  · rcases List.prefix_concat_iff.1 hp with rfl | hp
    · exact h before events List.prefix_rfl
    · exact Segment.segments_ne_nil_of_prefix hp hs

/-! ### What an event does before the first session -/

/-- An action that neither opens a session, nor reports one, nor names a role. -/
structure Action.Early (a : Action) : Prop where
  opening : a.opening = none
  reported : a.reported = none
  role : ∀ role, a.role = some role → ¬ Named role

/-- An action that reads no role. -/
theorem Action.Early.of_role_none {a : Action} (hopening : a.opening = none)
    (hreported : a.reported = none) (hrole : a.role = none) : a.Early := by
  refine ⟨hopening, hreported, fun role hr => ?_⟩
  rw [hrole] at hr
  cases hr

/-- Nothing is reported, no session opens, and neither HOST nor DEVICE is read. -/
structure Waits (m m' : Monitor) : Prop where
  parts : ∃ l, m'.log = m.log ++ l ∧ ∀ a ∈ l, a.Early

/-- A session opens, and nothing is reported. -/
structure Starts (m m' : Monitor) : Prop where
  parts : ∃ l, m'.log = m.log ++ l ∧ (∃ a ∈ l, a.opening ≠ none) ∧ ∀ a ∈ l, a.reported = none

/-- HOST or DEVICE is read, and it is the role already. -/
structure Confirms (m m' : Monitor) : Prop where
  parts : ∃ role, m'.log = m.log ++ [.roleRead role] ∧ Named role

/-- A report comes before any session. -/
structure Reports (m m' : Monitor) : Prop where
  parts : ∃ l events post, m'.log = m.log ++ l ++ .report events :: post ∧
    ∀ a ∈ l, a.opening = none

theorem Waits.noPhantom {m m' : Monitor} (h : Waits m m') (hp : NoPhantom m.log) :
    NoPhantom m'.log := by
  obtain ⟨l, hlog, hl⟩ := h.parts
  rw [hlog]
  exact hp.append fun a ha => (hl a ha).reported

theorem Waits.sessions {m m' : Monitor} (h : Waits m m') (hs : sessions m.log = []) :
    Monitor.sessions m'.log = [] := by
  obtain ⟨l, hlog, hl⟩ := h.parts
  rw [Monitor.sessions, Segment.segments_eq_nil_iff] at hs ⊢
  rw [hlog]
  exact List.forall_mem_append.2 ⟨hs, fun a ha => (hl a ha).opening⟩

theorem Waits.lastRole {m m' : Monitor} (h : Waits m m')
    (hr : ∀ role, lastRole m.log = some role → ¬ Named role) :
    ∀ role, lastRole m'.log = some role → ¬ Named role := by
  obtain ⟨l, hlog, hl⟩ := h.parts
  intro role hrole
  rw [hlog] at hrole
  rcases lastRole_append_cases hrole with hrole | ⟨a, ha, hrole⟩
  · exact hr role hrole
  · exact (hl a ha).role role hrole

theorem Starts.noPhantom {m m' : Monitor} (h : Starts m m') (hp : NoPhantom m.log) :
    NoPhantom m'.log := by
  obtain ⟨l, hlog, -, hl⟩ := h.parts
  rw [hlog]
  exact hp.append hl

theorem Starts.sessions {m m' : Monitor} (h : Starts m m') : Monitor.sessions m'.log ≠ [] := by
  obtain ⟨l, hlog, ⟨a, ha, hopen⟩, -⟩ := h.parts
  rw [Ne, Monitor.sessions, Segment.segments_eq_nil_iff, hlog]
  exact fun hn => hopen (hn a (List.mem_append_right _ ha))

theorem Confirms.not_begun {m m' : Monitor} (h : Confirms m m') (hs : Monitor.sessions m.log = []) :
    ¬ Begun m' := by
  obtain ⟨role, hlog, hn⟩ := h.parts
  intro hb
  obtain ⟨s, hmem, -⟩ := hb role (by rw [hlog]; exact lastRole_roleRead (by simp)) hn
  have hs' : Monitor.sessions m'.log = [] := by
    rw [Monitor.sessions, Segment.segments_eq_nil_iff] at hs ⊢
    rw [hlog]
    exact List.forall_mem_append.2 ⟨hs, fun a ha => by rw [List.mem_singleton.1 ha]; rfl⟩
  rw [hs'] at hmem
  cases hmem

theorem Reports.phantom {m m' : Monitor} (h : Reports m m') (hs : Monitor.sessions m.log = []) :
    ¬ NoPhantom m'.log := by
  obtain ⟨l, events, post, hlog, hl⟩ := h.parts
  intro hp
  refine hp (m.log ++ l) events ?_ ?_
  · rw [hlog]
    exact ⟨post, by simp⟩
  · rw [Monitor.sessions, Segment.segments_eq_nil_iff] at hs ⊢
    exact List.forall_mem_append.2 ⟨hs, hl⟩

theorem evaluate_waits (P : Platform) (m : Monitor) : Waits m (evaluateComplianceWarning P m) := by
  rw [evaluateComplianceWarning_eq]
  refine ⟨evaluateLog P m, rfl, fun a ha => ?_⟩
  rcases mem_evaluateLog ha with ⟨t, rfl⟩ | ⟨ws, rfl⟩ | ⟨ws, rfl⟩ <;>
    exact .of_role_none rfl rfl rfl

theorem Waits.trans {m m' m'' : Monitor} (h : Waits m m') (h' : Waits m' m'') : Waits m m'' := by
  obtain ⟨l, hlog, hl⟩ := h.parts
  obtain ⟨l', hlog', hl'⟩ := h'.parts
  exact ⟨l ++ l', by rw [hlog', hlog, List.append_assoc], List.forall_mem_append.2 ⟨hl, hl'⟩⟩

theorem handleDeviceStateEvent_waits (P : Platform) (p : Port) (r : FileRead) (m : Monitor) :
    Waits m (handleDeviceStateEvent P p r m) := by
  simp only [handleDeviceStateEvent]
  set a := Action.stateRead p (r.text usbStateMaxLen) (P.bootClock m.reads) with ha
  have hl : ∀ b ∈ [a], b.Early := fun b hb => by
    rw [List.mem_singleton.1 hb]; exact .of_role_none rfl rfl rfl
  split_ifs
  · refine Waits.trans ⟨[a], ?_, hl⟩ (evaluate_waits P _)
    cases p <;> rfl
  · exact ⟨[a], rfl, hl⟩

theorem setup_starts {P : Platform} {m m₁ : Monitor} {l : List Action} (hlog : m₁.log = m.log ++ l)
    (hl : ∀ a ∈ l, a.reported = none) : Starts m (setupNewSession P m₁) := by
  rw [setupNewSession_eq]
  refine ⟨l ++ setupLog P m₁, by rw [hlog, List.append_assoc],
    ⟨.sessionStart m₁.mDataRole (P.bootClock m₁.reads) m₁.mUdcBind, by simp [setupLog], nofun⟩, ?_⟩
  refine List.forall_mem_append.2 ⟨hl, fun a ha => ?_⟩
  rw [setupLog_eq] at ha
  rcases List.mem_cons.1 ha with rfl | ha
  · rfl
  · rcases List.mem_cons.1 ha with rfl | ha
    · rfl
    · rw [armLog_plain ha]; rfl

/-- The first role read is of no interest, or opens the first session, unless `mDataRole` is taken
for the role of one. -/
theorem handleDataRoleEvent_first (P : Platform) (r : FileRead) (m : Monitor) :
    (¬ TrustsInitialRole m (.dataRole r) ∧
      (Waits m (handleDataRoleEvent P r m) ∨ Starts m (handleDataRoleEvent P r m))) ∨
    (TrustsInitialRole m (.dataRole r) ∧
      (Confirms m (handleDataRoleEvent P r m) ∨ Reports m (handleDataRoleEvent P r m))) := by
  rcases handleDataRoleEvent_cases P r m with ⟨hr, he⟩ | ⟨hr, hg, he⟩ | ⟨hr, hg, he⟩ <;>
    rw [he] <;> simp only [TrustsInitialRole, hr, if_true, if_false]
  · by_cases hn : Named m.mDataRole
    · exact .inr ⟨hn, .inl ⟨m.mDataRole, rfl, hn⟩⟩
    · refine .inl ⟨hn, .inl ⟨[.roleRead m.mDataRole], rfl, fun a ha => ?_⟩⟩
      rw [List.mem_singleton.1 ha]
      refine ⟨rfl, rfl, ?_⟩
      rintro _ ⟨⟩
      exact hn
  · set m₁ := m.logged (.roleRead (newDataRole r)) with hm₁
    refine .inr ⟨hg, .inr ⟨[.roleRead (newDataRole r)], sessionEvents P m₁,
      setupLog P ((reportUsbDataSessionMetrics P m₁).setDataRole (newDataRole r)), ?_,
      fun a ha => (roleRead_inert _ a ha).opening⟩⟩
    have hlog : ((reportUsbDataSessionMetrics P m₁).setDataRole (newDataRole r)).log =
        m.log ++ [.roleRead (newDataRole r)] ++ [.report (sessionEvents P m₁)] := by
      rw [← reportLog_of_guard (m := m₁) hg, reportUsbDataSessionMetrics_eq]; rfl
    rw [setupNewSession_eq, hlog]
    simp
  · exact .inl ⟨hg, .inr (setup_starts rfl fun a ha => (roleRead_inert _ a ha).reported)⟩

/-- The same of a change of the udc. -/
theorem updateUdcBindStatus_first (P : Platform) (function : Option String) (m : Monitor) :
    (¬ TrustsInitialRole m (.udcChange function) ∧
      (Waits m (updateUdcBindStatus P function m) ∨
        Starts m (updateUdcBindStatus P function m))) ∨
    (TrustsInitialRole m (.udcChange function) ∧
      Reports m (updateUdcBindStatus P function m)) := by
  rcases updateUdcBindStatus_cases P function m with ⟨hf, he⟩ | ⟨hf, hb, hd, he⟩ |
    ⟨-, hb, -, he⟩ | ⟨b, -, hd, he⟩ <;> rw [he]
  · refine .inl ⟨?_, .inl ⟨[], by simp, by simp⟩⟩
    rintro ⟨hf', hb, -⟩
    simpa [hb] using hf "" hf'
  · refine .inr ⟨⟨hf, hb, hd⟩, [], sessionEvents P m,
      evaluateLog P (reportUsbDataSessionMetrics P m) ++ [.udcBind false], ?_, by simp⟩
    have hlog : (reportUsbDataSessionMetrics P m).log = m.log ++ [.report (sessionEvents P m)] := by
      rw [reportUsbDataSessionMetrics_eq, reportLog_of_guard (Or.inr ⟨hd, hb⟩)]
    rw [setUdcBind, evaluateComplianceWarning_eq, hlog]
    simp
  · refine .inl ⟨fun ht => ?_, .inr ?_⟩
    · rw [ht.2.1] at hb; cases hb
    · have hstarts : Starts m (setupNewSession P m) := setup_starts (l := []) (by simp) (by simp)
      obtain ⟨l, hlog, ⟨a, ha, hne⟩, hl⟩ := hstarts.parts
      refine ⟨l ++ [.udcBind true], by rw [setUdcBind, hlog, List.append_assoc],
        ⟨a, List.mem_append_left _ ha, hne⟩, List.forall_mem_append.2 ⟨hl, fun b hb => ?_⟩⟩
      rw [List.mem_singleton.1 hb]; rfl
  · refine .inl ⟨fun ht => hd ht.2.2, .inl ⟨[.udcBind b], rfl, fun a ha => ?_⟩⟩
    rw [List.mem_singleton.1 ha]
    exact .of_role_none rfl rfl rfl

/-! ### The role read last is the current one -/

def RoleKept (m : Monitor) : Prop := ∀ role, lastRole m.log = some role → role = m.mDataRole

theorem RoleKept.append {m m' : Monitor} (h : RoleKept m) {l : List Action}
    (hlog : m'.log = m.log ++ l) (hl : ∀ a ∈ l, a.role = none)
    (hrole : m'.mDataRole = m.mDataRole) : RoleKept m' := by
  unfold RoleKept
  rw [hlog, lastRole_append hl, hrole]
  exact h

theorem setupLog_role (P : Platform) (m : Monitor) : ∀ a ∈ setupLog P m, a.role = none := by
  intro a ha
  rw [setupLog_eq] at ha
  rcases List.mem_cons.1 ha with rfl | ha
  · rfl
  · rcases List.mem_cons.1 ha with rfl | ha
    · rfl
    · rw [armLog_plain ha]; rfl

theorem RoleKept.evaluate {P : Platform} {m : Monitor} (h : RoleKept m) :
    RoleKept (evaluateComplianceWarning P m) := by
  rw [evaluateComplianceWarning_eq]
  refine h.append rfl (fun a ha => ?_) rfl
  rcases mem_evaluateLog ha with ⟨t, rfl⟩ | ⟨ws, rfl⟩ | ⟨ws, rfl⟩ <;> rfl

theorem RoleKept.report {P : Platform} {m : Monitor} (h : RoleKept m) :
    RoleKept (reportUsbDataSessionMetrics P m) := by
  rw [reportUsbDataSessionMetrics_eq]
  exact h.append rfl (fun a ha => by rw [mem_reportLog ha]; rfl) rfl

theorem RoleKept.setup {P : Platform} {m : Monitor} (h : RoleKept m) :
    RoleKept (setupNewSession P m) := by
  rw [setupNewSession_eq]
  exact h.append rfl (setupLog_role P m) rfl

theorem RoleKept.setUdcBind {m : Monitor} (h : RoleKept m) (b : Bool) :
    RoleKept (m.setUdcBind b) :=
  h.append rfl (fun a ha => by rw [List.mem_singleton.1 ha]; rfl) rfl

theorem roleKept_roleRead {m m' : Monitor} {l : List Action} {role : PortDataRole}
    (hlog : m'.log = m.log ++ .roleRead role :: l) (hl : ∀ a ∈ l, a.role = none)
    (hrole : m'.mDataRole = role) : RoleKept m' := by
  intro role' h
  rw [hlog, lastRole_roleRead hl] at h
  rw [hrole, ← Option.some.inj h]

theorem handleDataRoleEvent_roleKept (P : Platform) (r : FileRead) (m : Monitor) :
    RoleKept (handleDataRoleEvent P r m) := by
  have hread : ∀ role, RoleKept ((m.logged (.roleRead role)).setDataRole role) :=
    fun role => roleKept_roleRead (l := []) rfl (by simp) rfl
  rcases handleDataRoleEvent_cases P r m with ⟨hr, he⟩ | ⟨-, -, he⟩ | ⟨-, -, he⟩ <;> rw [he]
  · exact roleKept_roleRead (l := []) rfl (by simp) hr.symm
  · refine RoleKept.setup (roleKept_roleRead (m := m)
      (l := reportLog P (m.logged (.roleRead (newDataRole r)))) ?_
      (fun a ha => by rw [mem_reportLog ha]; rfl) rfl)
    rw [reportUsbDataSessionMetrics_eq]
    simp [setDataRole, logged]
  · exact (hread _).setup

theorem handleDeviceStateEvent_roleKept {P : Platform} {m : Monitor} (h : RoleKept m) (p : Port)
    (r : FileRead) : RoleKept (handleDeviceStateEvent P p r m) := by
  simp only [handleDeviceStateEvent]
  have hl : RoleKept (m.logged (.stateRead p (r.text usbStateMaxLen) (P.bootClock m.reads))) :=
    h.append rfl (fun a ha => by rw [List.mem_singleton.1 ha]; rfl) rfl
  split_ifs
  · refine RoleKept.evaluate (hl.append (l := []) ?_ (by simp) ?_) <;>
      cases p <;> simp [recordState, setPortState, ticked]
  · exact hl

theorem updateUdcBindStatus_roleKept {P : Platform} {m : Monitor} (h : RoleKept m)
    (function : Option String) : RoleKept (updateUdcBindStatus P function m) := by
  rcases updateUdcBindStatus_cases P function m with ⟨-, he⟩ | ⟨-, -, -, he⟩ | ⟨-, -, -, he⟩ |
    ⟨b, -, -, he⟩ <;> rw [he]
  · exact h
  · exact h.report.evaluate.setUdcBind false
  · exact h.setup.setUdcBind true
  · exact h.setUdcBind b

/-- With the fields and the log in agreement, an open session is the one that the role read last
has begun; without one, no role may have been read. -/
theorem begun_iff {m : Monitor} (ha : Accounts m) (hk : RoleKept m) :
    Begun m ↔ (sessions m.log = [] → ∀ role, lastRole m.log = some role → ¬ Named role) := by
  constructor
  · intro h hs role hrole hn
    obtain ⟨s, hmem, -⟩ := h role hrole hn
    rw [hs] at hmem
    cases hmem
  · intro h role hrole hn
    cases hs : (sessions m.log).head? with
    | none => exact absurd hn (h (List.head?_eq_none_iff.1 hs) role hrole)
    | some s =>
      have ht : Tracks m s := ha.current s hs
      have hm : role = m.mDataRole := hk role hrole
      refine ⟨s, rfl, ht.role.trans hm.symm, ht.start, ht.armed ?_⟩
      rw [← hm]
      rintro rfl
      rcases hn with hn | hn <;> cases hn

end Monitor

namespace System

open Monitor

/-- With no session open, the event does not take `mDataRole` for the role of one. -/
def BeginsAfresh (s : System) (e : Event) : Prop :=
  sessions s.monitor.log = [] → ¬ TrustsInitialRole s.monitor e

/-- What an event does as long as no session is open. -/
theorem step_first (P : Platform) (s : System) (e : Event) :
    (¬ TrustsInitialRole s.monitor e ∧
      (Waits s.monitor (step P s e).monitor ∨ Starts s.monitor (step P s e).monitor)) ∨
    (TrustsInitialRole s.monitor e ∧
      (Confirms s.monitor (step P s e).monitor ∨ Reports s.monitor (step P s e).monitor)) := by
  have hidle : Waits s.monitor s.monitor := ⟨[], by simp, by simp⟩
  cases e with
  | dataRole r => simp only [step]; exact handleDataRoleEvent_first P r s.monitor
  | deviceState p r =>
    simp only [step]; exact .inl ⟨id, .inl (handleDeviceStateEvent_waits P p r s.monitor)⟩
  | timer => simp only [step]; exact .inl ⟨id, .inl (evaluate_waits P s.monitor)⟩
  | udcChange function =>
    simp only [step]
    exact (updateUdcBindStatus_first P function s.monitor).imp id fun h => ⟨h.1, .inr h.2⟩
  | bind p openFile epollCtl => exact .inl ⟨id, .inl hidle⟩
  | unbind p epollCtl => exact .inl ⟨id, .inl hidle⟩

theorem log_step (P : Platform) (s : System) (e : Event) :
    ∃ l, (step P s e).monitor.log = s.monitor.log ++ l := by
  rcases step_first P s e with ⟨-, h | h⟩ | ⟨-, h | h⟩
  · obtain ⟨l, hlog, -⟩ := h.parts
    exact ⟨l, hlog⟩
  · obtain ⟨l, hlog, -⟩ := h.parts
    exact ⟨l, hlog⟩
  · obtain ⟨role, hlog, -⟩ := h.parts
    exact ⟨[.roleRead role], hlog⟩
  · obtain ⟨l, events, post, hlog, -⟩ := h.parts
    exact ⟨l ++ .report events :: post, by rw [hlog, List.append_assoc]⟩

/-- The fields and the log agree. -/
structure Agrees (s : System) : Prop where
  accounts : Accounts s.monitor
  roleKept : RoleKept s.monitor

theorem agrees_step {P : Platform} (s : System) (e : Event) (h : Agrees s) :
    Agrees (step P s e) :=
  ⟨accounts_step s e h.accounts,
    step_monitor (I := RoleKept) (fun r m _ => handleDataRoleEvent_roleKept P r m)
      (fun p r _ h => handleDeviceStateEvent_roleKept h p r) (fun _ h => h.evaluate)
      (fun f _ h => updateUdcBindStatus_roleKept h f) s e h.roleKept⟩

/-- From a state without a phantom the next one is without, exactly when the event does not take
the initial `mDataRole` for the role of a session. -/
theorem started_step_iff {P : Platform} (s : System) (e : Event) (ha : Agrees s)
    (h : Started s.monitor) : Started (step P s e).monitor ↔ s.BeginsAfresh e := by
  have ha' : Agrees (step P s e) := agrees_step s e ha
  have hbegun := begun_iff ha'.accounts ha'.roleKept
  by_cases hs : sessions s.monitor.log = []
  · have hold := (begun_iff ha.accounts ha.roleKept).1 h.begun hs
    simp only [BeginsAfresh, hs, true_implies]
    rcases step_first P s e with ⟨ht, hw | hst⟩ | ⟨ht, hc | hr⟩
    · exact iff_of_true ⟨hw.noPhantom h.noPhantom, hbegun.2 fun _ => hw.lastRole hold⟩ ht
    · exact iff_of_true
        ⟨hst.noPhantom h.noPhantom, hbegun.2 fun hn => absurd hn hst.sessions⟩ ht
    · exact iff_of_false (fun hst => hc.not_begun hs hst.begun) (not_not_intro ht)
    · exact iff_of_false (fun hst => hr.phantom hs hst.noPhantom) (not_not_intro ht)
  · obtain ⟨l, hlog⟩ := log_step P s e
    refine iff_of_true ⟨?_, hbegun.2 fun hn => ?_⟩ fun hn => absurd hn hs
    · rw [hlog]
      exact h.noPhantom.append_of_session hs l
    · have hprefix : s.monitor.log <+: (step P s e).monitor.log := ⟨l, hlog.symm⟩
      exact absurd hn (Segment.segments_ne_nil_of_prefix hprefix hs)

end System

namespace Monitor

/-! ### A role that is nobody's -/

/-- As long as no session is open, the role is neither HOST nor DEVICE. -/
def Unnamed (m : Monitor) : Prop := sessions m.log = [] → ¬ Named m.mDataRole

theorem Unnamed.later {m m' : Monitor} (h : Unnamed m) (hp : m.log <+: m'.log)
    (hrole : m'.mDataRole = m.mDataRole) : Unnamed m' := by
  intro hs
  rw [hrole]
  apply h
  by_contra hn
  exact Segment.segments_ne_nil_of_prefix hp hn hs

theorem unnamed_setup (P : Platform) (m : Monitor) : Unnamed (setupNewSession P m) := by
  have hstarts : Starts m (setupNewSession P m) := setup_starts (l := []) (by simp) (by simp)
  exact fun hs => absurd hs hstarts.sessions

theorem Unnamed.evaluate {P : Platform} {m : Monitor} (h : Unnamed m) :
    Unnamed (evaluateComplianceWarning P m) := by
  rw [evaluateComplianceWarning_eq]
  exact h.later (List.prefix_append _ _) rfl

theorem handleDataRoleEvent_unnamed {P : Platform} {m : Monitor} (h : Unnamed m) (r : FileRead) :
    Unnamed (handleDataRoleEvent P r m) := by
  rcases handleDataRoleEvent_cases P r m with ⟨-, he⟩ | ⟨-, -, he⟩ | ⟨-, -, he⟩ <;> rw [he]
  · exact h.later (List.prefix_append _ _) rfl
  · exact unnamed_setup P _
  · exact unnamed_setup P _

theorem handleDeviceStateEvent_unnamed {P : Platform} {m : Monitor} (h : Unnamed m) (p : Port)
    (r : FileRead) : Unnamed (handleDeviceStateEvent P p r m) := by
  simp only [handleDeviceStateEvent]
  split_ifs
  · refine Unnamed.evaluate (h.later ?_ ?_) <;>
      cases p <;> simp [recordState, setPortState, ticked, logged]
  · exact h.later (List.prefix_append _ _) rfl

theorem updateUdcBindStatus_unnamed {P : Platform} {m : Monitor} (h : Unnamed m)
    (function : Option String) : Unnamed (updateUdcBindStatus P function m) := by
  rcases updateUdcBindStatus_cases P function m with ⟨-, he⟩ | ⟨-, -, -, he⟩ | ⟨-, -, -, he⟩ |
    ⟨b, -, -, he⟩ <;> rw [he]
  · exact h
  · have hreport : Unnamed (reportUsbDataSessionMetrics P m) := by
      rw [reportUsbDataSessionMetrics_eq]
      exact h.later (List.prefix_append _ _) rfl
    exact hreport.evaluate.later (List.prefix_append _ _) rfl
  · exact (unnamed_setup P m).later (List.prefix_append _ _) rfl
  · exact h.later (List.prefix_append _ _) rfl

/-- Such a role is not taken for one. -/
theorem Unnamed.not_trusts {m : Monitor} (h : Unnamed m) (hs : sessions m.log = []) (e : Event) :
    ¬ TrustsInitialRole m e := by
  have hn : ¬ Named m.mDataRole := h hs
  cases e with
  | dataRole r =>
    simp only [TrustsInitialRole]
    split_ifs
    · exact hn
    · exact fun hg => hn (hg.imp id And.left)
  | udcChange function => exact fun ht => hn (Or.inr ht.2.2)
  | deviceState p r => exact id
  | timer => exact id
  | bind p openFile epollCtl => exact id
  | unbind p epollCtl => exact id

end Monitor

namespace System

open Monitor

theorem unnamed_step {P : Platform} (s : System) (e : Event) (h : Unnamed s.monitor) :
    Unnamed (step P s e).monitor :=
  step_monitor (I := Unnamed) (fun r _ h => handleDataRoleEvent_unnamed h r)
    (fun p r _ h => handleDeviceStateEvent_unnamed h p r) (fun _ h => h.evaluate)
    (fun f _ h => updateUdcBindStatus_unnamed h f) s e h

theorem started_construct (mDataRole : PortDataRole) (udc : Option String) :
    Started (Monitor.construct mDataRole udc) := by
  refine ⟨fun before events hp => ?_, fun role hrole => ?_⟩
  · exact absurd (List.prefix_nil.1 hp) (by simp)
  · cases hrole

theorem agrees_construct (mDataRole : PortDataRole) (udc : Option String)
    (openFile : Port → Open) (epollCtl : Port → Bool) :
    Agrees (construct mDataRole udc openFile epollCtl) := by
  refine ⟨?_, fun role hrole => by cases hrole⟩
  exact ⟨fun s hs => (by cases hs), fun s hs => (by cases hs)⟩

/-- The role file confirms the initial value. -/
def roleText : PortDataRole → String
  | .host => "host"
  | .device => "device"
  | _ => "none"

theorem newDataRole_roleText {role : PortDataRole} (h : Named role) :
    newDataRole (.of (roleText role)) = role := by
  rcases h with rfl | rfl <;> decide

/-- **No session without a start.**  Every run is free of phantom sessions if and only if the value
of `mDataRole` after construction is neither HOST nor DEVICE; and whatever that value is, a run is
free of them if and only if none of its events takes the value for the role of a session. -/
theorem started_iff (P : Platform) (mDataRole : PortDataRole) (udc : Option String)
    (openFile : Port → Open) (epollCtl : Port → Bool) :
    ((∀ es, Runs.Always (step P) (fun s => Started s.monitor)
        (construct mDataRole udc openFile epollCtl) es) ↔ ¬ Named mDataRole) ∧
      ∀ es, Runs.Always (step P) (fun s => Started s.monitor)
          (construct mDataRole udc openFile epollCtl) es ↔
        Runs.Meets (step P) BeginsAfresh (construct mDataRole udc openFile epollCtl) es := by
  set s₀ := construct mDataRole udc openFile epollCtl with hs₀
  have hagree : Agrees s₀ := agrees_construct mDataRole udc openFile epollCtl
  have hstart : Started s₀.monitor := started_construct mDataRole udc
  have hmeets : ∀ es, Runs.Always (step P) (fun s => Started s.monitor) s₀ es ↔
      Runs.Meets (step P) BeginsAfresh s₀ es := fun es =>
    Runs.always_iff_meets (J := Agrees) agrees_step started_step_iff hagree hstart es
  refine ⟨⟨fun h hn => ?_, fun hn es => ?_⟩, hmeets⟩
  · have hfirst := ((hmeets [.dataRole (.of (roleText mDataRole))]).1 (h _)).1 rfl
    have hrole : s₀.monitor.mDataRole = mDataRole := rfl
    refine hfirst ?_
    rw [TrustsInitialRole, hrole, if_pos (newDataRole_roleText hn)]
    exact hn
  · have hunnamed : Unnamed s₀.monitor := fun _ => hn
    rw [hmeets es, Runs.meets_iff]
    intro pre e post _ hs
    have hrun : Unnamed (Runs.run (step P) s₀ pre).monitor :=
      Runs.run_invariant (I := fun s : System => Unnamed s.monitor) unnamed_step hunnamed pre
    exact hrun.not_trusts hs e

/-- The memory held HOST, and the role file says so until the port is unplugged. -/
def initialHost : List Event := [.dataRole (.of "host"), .dataRole (.of "none")]

/-- A session that never began is reported at the end. -/
theorem initialHost_phantom :
    ¬ Runs.Always (step .secondHand) (fun s => Started s.monitor)
      (construct .host none (fun _ _ => none) fun _ => true) initialHost := by
  intro h
  have hlast := h _ List.prefix_rfl
  refine hlast.noPhantom [.roleRead .host, .roleRead .none] [⟨true, 0, 0, [], []⟩] ?_ rfl
  decide

end System

end Gs101
