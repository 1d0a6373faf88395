import Gs101.Lib.Segments
import Gs101.Monitor.System

/-!
# UsbDataSessionMonitor: sessions and their reports

A session is what the log holds between two runs of `setupNewSession`.

* `Session.Reported`: a HOST session, and a DEVICE session in which the gadget was bound, has made
  one report, any other session none, and each report shows the session's own history
  (`OwnHistory`);
* `Session.Reporting`: the same of a session that is still open, whose report may be to come;
* `sessions_reported`: every session of every run is reported so;
* `outline_run`: the reads, the sessions and the changes of `mUdcBind` in the log are those that the
  events call for, told by the contents of the files alone (`Outline`).

The invariant is `Tracks`: the guard of `handleDataRoleEvent` (`ReportsOnRoleChange`) holds exactly
as long as the report of the open session is due and was not made, and the monitor's histories of
the ports of the current role are those of the open session.
-/

namespace Gs101

namespace Monitor

/-! ### What a session shows -/

/-- The fields with which `setupNewSession` opens a session. -/
structure SessionStart where
  role : PortDataRole
  start : Time
  udcBind : Bool
  deriving DecidableEq

/-- Whether an action opens a session. -/
def Action.opening : Action → Option SessionStart
  | .sessionStart role start bound => some ⟨role, start, bound⟩
  | _ => none

abbrev Session := Segment Action SessionStart

/-- The sessions of a log, the latest one first. -/
def sessions (log : List Action) : List Session := Segment.segments Action.opening log

/-- A valid state that was read for a port, with its timestamp. -/
def Action.portRead (p : Port) : Action → Option (String × Time)
  | .stateRead q text time => if q = p ∧ text ∈ kValidStates then some (text, time) else none
  | _ => none

/-- The valid states read for a port in a stretch of the log, with their timestamps. -/
def history (p : Port) (l : List Action) : UsbDeviceState :=
  ⟨(l.filterMap (Action.portRead p)).map Prod.fst, (l.filterMap (Action.portRead p)).map Prod.snd⟩

def Action.reported : Action → Option (List SessionEvent)
  | .report events => some events
  | _ => none

/-- The reports made in a stretch of the log. -/
def reports (l : List Action) : List (List SessionEvent) := l.filterMap Action.reported

/-- The role in which a port is monitored. -/
def Port.role : Port → PortDataRole
  | .device => .device
  | .host1 | .host2 => .host

/-- The ports that a report in this role is about, given their histories: the device port, or each
host port with more than one state, or `host1` alone when neither has. -/
def reportPorts (role : PortDataRole) (h : Port → UsbDeviceState) : List Port :=
  match role with
  | .device => [.device]
  | .host =>
      if 1 < (h .host1).states.length ∨ 1 < (h .host2).states.length then
        [.host1, .host2].filter fun p => 1 < (h p).states.length
      else [.host1]
  | _ => []

/-- What a metrics event says, but for the time at which it was built. -/
def SessionEvent.shows (e : SessionEvent) : Bool × Time × UsbDeviceState :=
  (e.isHost, e.start, ⟨e.states, e.timestamps⟩)

/-- What the events of a report are to say. -/
def toShow (role : PortDataRole) (start : Time) (h : Port → UsbDeviceState) :
    List (Bool × Time × UsbDeviceState) :=
  (reportPorts role h).map fun p => (p.role = .host, start, h p)

/-- Each report of the session shows what was read since the session started. -/
def Session.OwnHistory (s : Session) : Prop :=
  ∀ before events, before ++ [.report events] <+: s.body →
    events.map SessionEvent.shows =
      toShow s.opening.role s.opening.start fun p => history p before

/-- The session is to be reported: a HOST session, or a DEVICE session with the gadget bound at
some time. -/
def Session.Due (s : Session) : Prop :=
  s.opening.role = .host ∨
    (s.opening.role = .device ∧ (s.opening.udcBind = true ∨ .udcBind true ∈ s.body))

/-- A session that may still be going on: its report is to come, or was made. -/
structure Session.Reporting (s : Session) : Prop where
  ownHistory : s.OwnHistory
  atMostOnce : (reports s.body).length ≤ 1
  onlyIfDue : ¬ s.Due → reports s.body = []

/-- A session that has been reported as it is to be. -/
structure Session.Reported (s : Session) : Prop extends Session.Reporting s where
  once : s.Due → (reports s.body).length = 1

/-- Every session that has ended is reported, and the open one may still be. -/
structure SessionsReported (log : List Action) : Prop where
  ended : ∀ s ∈ (sessions log).tail, Session.Reported s
  current : ∀ s ∈ (sessions log).head?, Session.Reporting s

/-! ### The events of a report -/

theorem toShow_congr {role : PortDataRole} {start : Time} {h h' : Port → UsbDeviceState}
    (hh : ∀ p : Port, p.role = role → h p = h' p) : toShow role start h = toShow role start h' := by
  cases role with
  | device => simp [toShow, reportPorts, hh .device rfl]
  | host =>
    have h₁ : h .host1 = h' .host1 := hh .host1 rfl
    have h₂ : h .host2 = h' .host2 := hh .host2 rfl
    have hp : reportPorts .host h = reportPorts .host h' := by
      simp only [reportPorts, h₁, h₂, List.filter_cons, List.filter_nil]
    unfold toShow
    rw [hp]
    refine List.map_congr_left fun p hm => ?_
    have hpr : p.role = .host := by
      cases p with
      | device => simp only [reportPorts] at hm; split_ifs at hm <;> simp at hm
      | host1 => rfl
      | host2 => rfl
    rw [hh p hpr]
  | none => rfl
  | unnamed byte => rfl

/-- The events built say what the monitor's fields say. -/
theorem sessionEvents_shows (P : Platform) (m : Monitor) :
    (sessionEvents P m).map SessionEvent.shows =
      toShow m.mDataRole m.mDataSessionStart m.portState := by
  cases hr : m.mDataRole with
  | device =>
    simp [sessionEvents, hr, toShow, reportPorts, SessionEvent.shows, portState, Port.role]
  | host =>
    by_cases h₁ : 1 < m.mHost1State.states.length <;>
      by_cases h₂ : 1 < m.mHost2State.states.length <;>
      simp [sessionEvents, hr, toShow, reportPorts, hostEvents, h₁, h₂, SessionEvent.shows,
        portState, Port.role]
  | none => simp [sessionEvents, hr, toShow, reportPorts]
  | unnamed byte => simp [sessionEvents, hr, toShow, reportPorts]

/-! ### Stretches of a log -/

theorem history_append {l l' : List Action} {p : Port} (h : ∀ a ∈ l', a.portRead p = none) :
    history p (l ++ l') = history p l := by
  have hnil : l'.filterMap (Action.portRead p) = [] := List.filterMap_eq_nil_iff.2 h
  simp only [history, List.filterMap_append, hnil, List.append_nil]

/-- A valid state goes to the end of the history of its port. -/
theorem history_stateRead {l : List Action} {p : Port} {text : String} {time : Time}
    (h : text ∈ kValidStates) :
    history p (l ++ [.stateRead p text time]) =
      ⟨(history p l).states ++ [text], (history p l).timestamps ++ [time]⟩ := by
  simp [history, Action.portRead, h]

theorem reports_append {l l' : List Action} (h : ∀ a ∈ l', a.reported = none) :
    reports (l ++ l') = reports l := by
  have hnil : l'.filterMap Action.reported = [] := List.filterMap_eq_nil_iff.2 h
  simp only [reports, List.filterMap_append, hnil, List.append_nil]

/-- Only a pullup of the gadget makes a session due, and only in the DEVICE role. -/
theorem due_append {s : Session} {l : List Action}
    (h : s.opening.role = .device → .udcBind true ∉ l) :
    Session.Due ⟨s.opening, s.body ++ l⟩ ↔ s.Due := by
  unfold Session.Due
  refine or_congr Iff.rfl (and_congr_right fun hd => or_congr Iff.rfl ?_)
  exact ⟨fun hm => (List.mem_append.1 hm).resolve_right (h hd), List.mem_append_left l⟩

/-- One more action in the session: if it is a report, it must show the session's history. -/
theorem ownHistory_concat {s : Session} {a : Action} :
    Session.OwnHistory ⟨s.opening, s.body ++ [a]⟩ ↔
      s.OwnHistory ∧ ∀ events, a = .report events →
        events.map SessionEvent.shows =
          toShow s.opening.role s.opening.start fun p => history p s.body := by
  constructor
  · intro h
    refine ⟨fun before events hp => h before events (hp.trans (List.prefix_append _ _)), ?_⟩
    rintro events rfl
    exact h s.body events List.prefix_rfl
  · rintro ⟨h, ha⟩ before events hp
    rcases List.prefix_concat_iff.1 hp with heq | hp
    · obtain ⟨rfl, hlast⟩ := List.append_inj' heq rfl
      exact ha events (List.cons.inj hlast).1.symm
    · exact h before events hp

theorem ownHistory_append {s : Session} {l : List Action} (h : ∀ a ∈ l, a.reported = none) :
    Session.OwnHistory ⟨s.opening, s.body ++ l⟩ ↔ s.OwnHistory := by
  induction l using List.reverseRecOn with
  | nil => simp
  | append_singleton l a ih =>
    have hl : ∀ b ∈ l, b.reported = none := fun b hb => h b (List.mem_append_left _ hb)
    have ha : a.reported = none := h a (by simp)
    rw [← List.append_assoc]
    refine (ownHistory_concat (s := ⟨s.opening, s.body ++ l⟩)).trans ?_
    rw [ih hl]
    refine and_iff_left ?_
    rintro events rfl
    cases ha

/-! ### The open session and the fields of the monitor -/

/-- The monitor's fields are those of its open session `s`. -/
structure Tracks (m : Monitor) (s : Session) : Prop where
  role : s.opening.role = m.mDataRole
  start : s.opening.start = m.mDataSessionStart
  armed : m.mDataRole ≠ .none → .armTimer ∈ s.body
  histories : ∀ p : Port, p.role = m.mDataRole → m.portState p = history p s.body
  ownHistory : s.OwnHistory
  pending : m.ReportsOnRoleChange → s.Due ∧ reports s.body = []
  settled : ¬ m.ReportsOnRoleChange → s.Reported

/-- The open session is tracked, the earlier ones are reported. -/
structure Accounts (m : Monitor) : Prop where
  ended : ∀ s ∈ (sessions m.log).tail, Session.Reported s
  current : ∀ s ∈ (sessions m.log).head?, Tracks m s

theorem Tracks.reporting {m : Monitor} {s : Session} (h : Tracks m s) : s.Reporting := by
  by_cases hg : m.ReportsOnRoleChange
  · obtain ⟨hdue, hnil⟩ := h.pending hg
    exact ⟨h.ownHistory, by rw [hnil]; exact Nat.zero_le 1, fun hn => absurd hdue hn⟩
  · exact (h.settled hg).toReporting

theorem Accounts.reported {m : Monitor} (h : Accounts m) : SessionsReported m.log :=
  ⟨h.ended, fun s hs => (h.current s hs).reporting⟩

/-- A handler that opens no session: it is enough to follow the open one. -/
theorem Accounts.extend {m m' : Monitor} {l : List Action} (hlog : m'.log = m.log ++ l)
    (hl : ∀ a ∈ l, a.opening = none)
    (hs : ∀ s, Tracks m s → Tracks m' ⟨s.opening, s.body ++ l⟩) (h : Accounts m) :
    Accounts m' := by
  obtain ⟨hended, hcurrent⟩ := h
  have hses : sessions m'.log = Segment.extend l (sessions m.log) := by
    rw [hlog, sessions, Segment.segments_append hl]; rfl
  cases hm : sessions m.log with
  | nil =>
    rw [hm] at hses
    exact ⟨by simp [hses, Segment.extend], by simp [hses, Segment.extend]⟩
  | cons s earlier =>
    rw [hm] at hended hcurrent hses
    refine ⟨?_, ?_⟩ <;> rw [hses]
    · exact hended
    · rintro _ ⟨⟩
      exact hs s (hcurrent s rfl)

/-- A handler that opens a session: the open one must be reported by then. -/
theorem Accounts.opens {m m' : Monitor} {l body : List Action} {a : Action} {o : SessionStart}
    (hlog : m'.log = m.log ++ l ++ a :: body) (hl : ∀ a ∈ l, a.opening = none)
    (ha : a.opening = some o) (hbody : ∀ a ∈ body, a.opening = none)
    (hs : ∀ s, Tracks m s → Session.Reported ⟨s.opening, s.body ++ l⟩)
    (hnew : Tracks m' ⟨o, body⟩) (h : Accounts m) : Accounts m' := by
  obtain ⟨hended, hcurrent⟩ := h
  have hses : sessions m'.log = ⟨o, body⟩ :: Segment.extend l (sessions m.log) := by
    rw [hlog, sessions, Segment.segments_open ha hbody, Segment.segments_append hl]; rfl
  refine ⟨?_, ?_⟩ <;> rw [hses]
  · cases hm : sessions m.log with
    | nil => simp [Segment.extend]
    | cons s earlier =>
      rw [hm] at hended hcurrent
      intro t ht
      rcases List.mem_cons.1 ht with rfl | ht
      · exact hs s (hcurrent s rfl)
      · exact hended t ht
  · rintro _ ⟨⟩
    exact hnew

/-! ### One lemma for each part of a handler -/

/-- Actions that neither report nor make the session due leave it reported. -/
theorem Session.Reported.append {s : Session} (h : s.Reported) {l : List Action}
    (hr : ∀ a ∈ l, a.reported = none) (hb : s.opening.role = .device → .udcBind true ∉ l) :
    Session.Reported ⟨s.opening, s.body ++ l⟩ := by
  have hrep : reports (s.body ++ l) = reports s.body := reports_append hr
  have hdue := due_append hb
  refine ⟨⟨(ownHistory_append hr).2 h.ownHistory, ?_, ?_⟩, ?_⟩
  · rw [hrep]; exact h.atMostOnce
  · rw [hrep, hdue]; exact h.onlyIfDue
  · rw [hrep, hdue]; exact h.once

/-- A handler that neither reports, nor opens a session, nor makes it due. -/
theorem Tracks.append {m m' : Monitor} {s : Session} (h : Tracks m s) {l : List Action}
    (hrole : m'.mDataRole = m.mDataRole) (hstart : m'.mDataSessionStart = m.mDataSessionStart)
    (hguard : m'.ReportsOnRoleChange ↔ m.ReportsOnRoleChange)
    (hports : ∀ p : Port, p.role = m.mDataRole → m'.portState p = history p (s.body ++ l))
    (hr : ∀ a ∈ l, a.reported = none) (hb : m.mDataRole = .device → .udcBind true ∉ l) :
    Tracks m' ⟨s.opening, s.body ++ l⟩ where
  role := h.role.trans hrole.symm
  start := h.start.trans hstart.symm
  armed hne := List.mem_append_left l (h.armed (hrole ▸ hne))
  histories p hp := hports p (hp.trans hrole)
  ownHistory := (ownHistory_append hr).2 h.ownHistory
  pending hg := by
    rw [due_append (h.role ▸ hb)]
    exact ⟨(h.pending (hguard.1 hg)).1, (reports_append hr).trans (h.pending (hguard.1 hg)).2⟩
  settled hg := (h.settled fun hm => hg (hguard.2 hm)).append hr (h.role ▸ hb)

/-- The report that is due, once made, settles the session. -/
theorem Tracks.reported {P : Platform} {m : Monitor} {s : Session} (h : Tracks m s)
    (hg : m.ReportsOnRoleChange) :
    Session.Reported ⟨s.opening, s.body ++ [.report (sessionEvents P m)]⟩ := by
  obtain ⟨hdue, hnil⟩ := h.pending hg
  have hrep : reports (s.body ++ [.report (sessionEvents P m)]) = [sessionEvents P m] := by
    rw [reports, List.filterMap_append, ← reports, hnil]; rfl
  have hdue' : Session.Due ⟨s.opening, s.body ++ [.report (sessionEvents P m)]⟩ :=
    (due_append fun _ => by simp).2 hdue
  refine ⟨⟨ownHistory_concat.2 ⟨h.ownHistory, ?_⟩, ?_, fun hn => absurd hdue' hn⟩, fun _ => ?_⟩
  · rintro events heq
    rw [← Action.report.inj heq, sessionEvents_shows, h.role, h.start]
    exact toShow_congr h.histories
  · rw [hrep]; exact le_rfl
  · rw [hrep]; rfl

theorem reportLog_of_guard {P : Platform} {m : Monitor} (h : m.ReportsOnRoleChange) :
    reportLog P m = [.report (sessionEvents P m)] :=
  if_pos (h.elim Or.inr fun hd => Or.inl hd.1)

/-- What `setupNewSession` arms. -/
def armLog (role : PortDataRole) : List Action := if role ≠ .none then [.armTimer] else []

theorem armLog_plain {role : PortDataRole} {a : Action} (h : a ∈ armLog role) : a = .armTimer := by
  unfold armLog at h
  split_ifs at h
  · exact List.mem_singleton.1 h
  · cases h

/-- The session that `setupNewSession` opens. -/
theorem tracks_setup (P : Platform) (m : Monitor) :
    Tracks (setupNewSession P m)
      ⟨⟨m.mDataRole, P.bootClock m.reads, m.mUdcBind⟩, armLog m.mDataRole⟩ := by
  have hrep : reports (armLog m.mDataRole) = [] :=
    List.filterMap_eq_nil_iff.2 fun a ha => by rw [armLog_plain ha]; rfl
  have hown : Session.OwnHistory
      ⟨⟨m.mDataRole, P.bootClock m.reads, m.mUdcBind⟩, armLog m.mDataRole⟩ := by
    intro before events hp
    have hm : Action.report events ∈ armLog m.mDataRole := hp.subset (by simp)
    cases armLog_plain hm
  have hbind : Action.udcBind true ∉ armLog m.mDataRole := fun hm => by cases armLog_plain hm
  rw [setupNewSession_eq]
  refine ⟨rfl, rfl, fun hne => ?_, fun p hp => ?_, hown, fun hg => ⟨?_, hrep⟩, fun hg => ?_⟩
  · show _ ∈ armLog m.mDataRole
    rw [armLog, if_pos hne]
    exact List.mem_singleton.2 rfl
  · have hnil : history p (armLog m.mDataRole) = ⟨[], []⟩ :=
      history_append (l := []) fun a ha => by rw [armLog_plain ha]; rfl
    have hp' : p.role = m.mDataRole := hp
    show _ = history p (armLog m.mDataRole)
    rw [hnil]
    cases p <;> simp [portState, ← hp', Port.role]
  · exact hg.imp id fun h => ⟨h.1, Or.inl h.2⟩
  · have hnot : ¬ Session.Due
        ⟨⟨m.mDataRole, P.bootClock m.reads, m.mUdcBind⟩, armLog m.mDataRole⟩ := by
      rintro (hh | ⟨hd, hb | hb⟩)
      · exact hg (Or.inl hh)
      · exact hg (Or.inr ⟨hd, hb⟩)
      · exact hbind hb
    exact ⟨⟨hown, by rw [hrep]; exact Nat.zero_le 1, fun _ => hrep⟩, fun hdue => absurd hdue hnot⟩

/-- An action that says nothing about the sessions. -/
structure Action.Inert (a : Action) : Prop where
  opening : a.opening = none
  portRead : ∀ p, a.portRead p = none
  reported : a.reported = none
  bind : a ≠ .udcBind true

theorem mem_evaluateLog {P : Platform} {m : Monitor} {a : Action} (h : a ∈ evaluateLog P m) :
    (∃ t, a = .evaluate t) ∨ (∃ ws, a = .assign ws) ∨ ∃ ws, a = .updatePortStatus ws := by
  unfold evaluateLog at h
  split_ifs at h <;> simp at h <;> grind

theorem evaluateLog_inert (P : Platform) (m : Monitor) : ∀ a ∈ evaluateLog P m, a.Inert := by
  intro a ha
  rcases mem_evaluateLog ha with ⟨t, rfl⟩ | ⟨ws, rfl⟩ | ⟨ws, rfl⟩ <;>
    exact ⟨rfl, fun _ => rfl, rfl, nofun⟩

theorem roleRead_inert (role : PortDataRole) : ∀ a ∈ [Action.roleRead role], a.Inert := by
  intro a ha
  rw [List.mem_singleton.1 ha]
  exact ⟨rfl, fun _ => rfl, rfl, nofun⟩

/-- Inert actions, in a handler that keeps the fields of the session. -/
theorem Tracks.inert {m m' : Monitor} {s : Session} (h : Tracks m s) {l : List Action}
    (hrole : m'.mDataRole = m.mDataRole) (hstart : m'.mDataSessionStart = m.mDataSessionStart)
    (hbind : m'.mUdcBind = m.mUdcBind) (hports : m'.portState = m.portState)
    (hl : ∀ a ∈ l, a.Inert) : Tracks m' ⟨s.opening, s.body ++ l⟩ := by
  refine h.append hrole hstart ?_ (fun p hp => ?_) (fun a ha => (hl a ha).reported)
    fun _ hm => (hl _ hm).bind rfl
  · unfold ReportsOnRoleChange
    rw [hrole, hbind]
  · rw [hports, h.histories p hp, history_append fun a ha => (hl a ha).portRead p]

/-! ### The handlers -/

theorem evaluateComplianceWarning_accounts {P : Platform} {m : Monitor} (h : Accounts m) :
    Accounts (evaluateComplianceWarning P m) := by
  rw [evaluateComplianceWarning_eq]
  exact h.extend rfl (fun a ha => (evaluateLog_inert P m a ha).opening)
    fun s hs => hs.inert rfl rfl rfl rfl (evaluateLog_inert P m)

theorem portState_recordState (P : Platform) (p q : Port) (state : String) (m : Monitor) :
    (recordState P p state m).portState q =
      if q = p then
        ⟨(m.portState p).states ++ [state], (m.portState p).timestamps ++ [P.bootClock m.reads]⟩
      else m.portState q := by
  cases p <;> cases q <;> rfl

/-- Reading a state adds it to the open session's history, if it is a valid one. -/
theorem handleDeviceStateEvent_accounts {P : Platform} {m : Monitor} (h : Accounts m) (p : Port)
    (r : FileRead) : Accounts (handleDeviceStateEvent P p r m) := by
  simp only [handleDeviceStateEvent]
  set state := r.text usbStateMaxLen
  set a := Action.stateRead p state (P.bootClock m.reads) with ha
  have hopen : ∀ b ∈ [a], b.opening = none := fun b hb => by rw [List.mem_singleton.1 hb]; rfl
  have hrep : ∀ b ∈ [a], b.reported = none := fun b hb => by rw [List.mem_singleton.1 hb]; rfl
  have hbind : Action.udcBind true ∉ [a] := by simp [ha]
  split_ifs with hv
  · refine evaluateComplianceWarning_accounts (h.extend (l := [a]) ?_ hopen fun s hs => ?_)
    · cases p <;> rfl
    · refine hs.append ?_ ?_ ?_ (fun q hq => ?_) hrep fun _ => hbind
      · cases p <;> rfl
      · cases p <;> rfl
      · cases p <;> exact Iff.rfl
      · rw [portState_recordState]
        by_cases hqp : q = p
        · subst hqp
          rw [if_pos rfl, ha, history_stateRead hv, ← hs.histories q hq]
          rfl
        · rw [if_neg hqp, history_append fun b hb => ?_]
          · exact hs.histories q hq
          · rw [List.mem_singleton.1 hb]
            exact if_neg fun hp => hqp hp.1.symm
  · refine h.extend rfl hopen fun s hs => hs.inert rfl rfl rfl rfl fun b hb => ?_
    rw [List.mem_singleton.1 hb]
    exact ⟨rfl, fun q => if_neg fun hp => hv hp.2, rfl, nofun⟩

theorem setupLog_eq (P : Platform) (m : Monitor) :
    setupLog P m = .assign ∅ ::
      .sessionStart m.mDataRole (P.bootClock m.reads) m.mUdcBind :: armLog m.mDataRole := rfl

theorem armLog_opening (role : PortDataRole) : ∀ a ∈ armLog role, a.opening = none := by
  intro a ha
  rw [armLog_plain ha]
  rfl

theorem mem_reportLog {P : Platform} {m : Monitor} {a : Action} (h : a ∈ reportLog P m) :
    a = .report (sessionEvents P m) := by
  unfold reportLog at h
  split_ifs at h
  · exact List.mem_singleton.1 h
  · cases h

/-- A new role: the open session is reported if its report is pending, and a new one opens. -/
theorem handleDataRoleEvent_accounts {P : Platform} {m : Monitor} (h : Accounts m)
    (r : FileRead) : Accounts (handleDataRoleEvent P r m) := by
  set m₁ := m.logged (.roleRead (newDataRole r)) with hm₁
  have hread : ∀ s, Tracks m s → Tracks m₁ ⟨s.opening, s.body ++ [.roleRead (newDataRole r)]⟩ :=
    fun s hs => hs.inert rfl rfl rfl rfl (roleRead_inert _)
  have hassign : ∀ a ∈ [Action.assign ∅], a.reported = none := fun a ha => by
    rw [List.mem_singleton.1 ha]; rfl
  have hassign' : Action.udcBind true ∉ [Action.assign ∅] := by simp
  rcases handleDataRoleEvent_cases P r m with ⟨-, he⟩ | ⟨-, hg, he⟩ | ⟨-, hg, he⟩ <;> rw [he]
  · exact h.extend rfl (fun a ha => (roleRead_inert _ a ha).opening) hread
  · set m₂ := (reportUsbDataSessionMetrics P m₁).setDataRole (newDataRole r) with hm₂
    have hlog : (setupNewSession P m₂).log =
        m.log ++ ([.roleRead (newDataRole r)] ++ reportLog P m₁ ++ [.assign ∅]) ++
          .sessionStart m₂.mDataRole (P.bootClock m₂.reads) m₂.mUdcBind ::
            armLog m₂.mDataRole := by
      have hlog₂ : m₂.log = m.log ++ [.roleRead (newDataRole r)] ++ reportLog P m₁ := by
        rw [hm₂, reportUsbDataSessionMetrics_eq]; rfl
      rw [setupNewSession_eq, setupLog_eq]
      simp only [hlog₂, List.append_assoc, List.cons_append, List.nil_append]
    refine h.opens hlog (fun a ha => ?_) rfl (armLog_opening _) (fun s hs => ?_)
      (tracks_setup P m₂)
    · rcases List.mem_append.1 ha with ha | ha
      · rcases List.mem_append.1 ha with ha | ha
        · exact (roleRead_inert _ a ha).opening
        · rw [mem_reportLog ha]; rfl
      · rw [List.mem_singleton.1 ha]; rfl
    · have hrep := ((hread s hs).reported (P := P) hg).append hassign fun _ => hassign'
      rw [reportLog_of_guard (m := m₁) hg]
      simpa only [List.append_assoc] using hrep
  · set m₂ := m₁.setDataRole (newDataRole r) with hm₂
    have hlog : (setupNewSession P m₂).log =
        m.log ++ ([.roleRead (newDataRole r)] ++ [.assign ∅]) ++
          .sessionStart m₂.mDataRole (P.bootClock m₂.reads) m₂.mUdcBind ::
            armLog m₂.mDataRole := by
      have hlog₂ : m₂.log = m.log ++ [.roleRead (newDataRole r)] := rfl
      rw [setupNewSession_eq, setupLog_eq]
      simp only [hlog₂, List.append_assoc, List.cons_append, List.nil_append]
    refine h.opens hlog (fun a ha => ?_) rfl (armLog_opening _) (fun s hs => ?_)
      (tracks_setup P m₂)
    · rcases List.mem_append.1 ha with ha | ha <;> rw [List.mem_singleton.1 ha] <;> rfl
    · have hrep := ((hread s hs).settled hg).append hassign fun _ => hassign'
      simpa only [List.append_assoc] using hrep

/-- A soft pulldown: the report is made, and from then on nothing is pending. -/
theorem pulldown_accounts {P : Platform} {m : Monitor} (h : Accounts m) (hb : m.mUdcBind = true)
    (hd : m.mDataRole = .device) :
    Accounts
      ((evaluateComplianceWarning P (reportUsbDataSessionMetrics P m)).setUdcBind false) := by
  have hg : m.ReportsOnRoleChange := Or.inr ⟨hd, hb⟩
  set m₁ := reportUsbDataSessionMetrics P m with hm₁
  set tail := evaluateLog P m₁ ++ [.udcBind false] with htail
  have hinert : ∀ a ∈ tail, a.Inert := by
    intro a ha
    rcases List.mem_append.1 ha with ha | ha
    · exact evaluateLog_inert P m₁ a ha
    · rw [List.mem_singleton.1 ha]
      exact ⟨rfl, fun _ => rfl, rfl, nofun⟩
  have heq : (evaluateComplianceWarning P m₁).setUdcBind false =
      { m with
        mWarningSet := evaluatedWarnings P m₁
        reads := m₁.reads + 1
        mUdcBind := false
        log := m.log ++ ([.report (sessionEvents P m)] ++ tail) } := by
    have hlog : m₁.log = m.log ++ [.report (sessionEvents P m)] := by
      rw [hm₁, reportUsbDataSessionMetrics_eq, reportLog_of_guard hg]
    rw [evaluateComplianceWarning_eq, setUdcBind, hlog, htail]
    simp only [List.append_assoc]
    rw [hm₁, reportUsbDataSessionMetrics_eq]
  rw [heq]
  refine h.extend (l := [.report (sessionEvents P m)] ++ tail) rfl (fun a ha => ?_) fun s hs => ?_
  · rcases List.mem_append.1 ha with ha | ha
    · rw [List.mem_singleton.1 ha]; rfl
    · exact (hinert a ha).opening
  · have hsettled := ((hs.reported (P := P) hg).append (fun a ha => (hinert a ha).reported)
      fun _ hm => (hinert _ hm).bind rfl)
    rw [List.append_assoc] at hsettled
    have hguard : ∀ m' : Monitor, m'.mDataRole = .device → m'.mUdcBind = false →
        ¬ m'.ReportsOnRoleChange := by
      rintro m' hd' hb' (hh | ⟨-, ht⟩)
      · rw [hd'] at hh; cases hh
      · rw [hb'] at ht; cases ht
    refine ⟨hs.role, hs.start, fun hne => List.mem_append_left _ (hs.armed hne), fun p hp => ?_,
      hsettled.ownHistory, fun hg' => absurd hg' (hguard _ hd rfl), fun _ => hsettled⟩
    have hport : ∀ a ∈ [Action.report (sessionEvents P m)] ++ tail, a.portRead p = none := by
      intro a ha
      rcases List.mem_append.1 ha with ha | ha
      · rw [List.mem_singleton.1 ha]; rfl
      · exact (hinert a ha).portRead p
    rw [history_append hport, ← hs.histories p hp]
    cases p <;> rfl

/-- A soft pullup: the open session is settled, and the new one becomes due. -/
theorem pullup_accounts {P : Platform} {m : Monitor} (h : Accounts m) (hb : m.mUdcBind = false)
    (hd : m.mDataRole = .device) : Accounts ((setupNewSession P m).setUdcBind true) := by
  have hlog : ((setupNewSession P m).setUdcBind true).log =
      m.log ++ [.assign ∅] ++ .sessionStart m.mDataRole (P.bootClock m.reads) m.mUdcBind ::
        (armLog m.mDataRole ++ [.udcBind true]) := by
    rw [setUdcBind, setupNewSession_eq, setupLog_eq]
    simp only [List.append_assoc, List.cons_append, List.nil_append]
  have hguard : ¬ m.ReportsOnRoleChange := by
    rintro (hh | ⟨-, ht⟩)
    · rw [hd] at hh; cases hh
    · rw [hb] at ht; cases ht
  refine h.opens hlog (fun a ha => ?_) rfl (fun a ha => ?_) (fun s hs => ?_) ?_
  · rw [List.mem_singleton.1 ha]; rfl
  · rcases List.mem_append.1 ha with ha | ha
    · exact armLog_opening _ a ha
    · rw [List.mem_singleton.1 ha]; rfl
  · refine (hs.settled hguard).append (fun a ha => ?_) fun _ => by simp
    rw [List.mem_singleton.1 ha]; rfl
  · have hnew := tracks_setup P m
    have hrep : ∀ a ∈ [Action.udcBind true], a.reported = none := fun a ha => by
      rw [List.mem_singleton.1 ha]; rfl
    have hnil : reports (armLog m.mDataRole) = [] :=
      List.filterMap_eq_nil_iff.2 fun a ha => by rw [armLog_plain ha]; rfl
    refine ⟨hnew.role, hnew.start, fun hne => List.mem_append_left _ (hnew.armed hne),
      fun p hp => ?_, (ownHistory_append hrep).2 hnew.ownHistory,
      fun _ => ⟨Or.inr ⟨hd, Or.inr (by simp)⟩, (reports_append hrep).trans hnil⟩, fun hg => ?_⟩
    · rw [history_append fun a ha => by rw [List.mem_singleton.1 ha]; rfl]
      exact (by cases p <;> rfl : _ = (setupNewSession P m).portState p).trans (hnew.histories p hp)
    · have hdev : ((setupNewSession P m).setUdcBind true).mDataRole = .device := by
        rw [setUdcBind, setupNewSession_eq]; exact hd
      exact absurd (Or.inr ⟨hdev, rfl⟩) hg

theorem updateUdcBindStatus_accounts {P : Platform} {m : Monitor} (h : Accounts m)
    (function : Option String) : Accounts (updateUdcBindStatus P function m) := by
  rcases updateUdcBindStatus_cases P function m with ⟨-, he⟩ | ⟨-, hb, hd, he⟩ | ⟨-, hb, hd, he⟩ |
    ⟨b, -, hd, he⟩ <;> rw [he]
  · exact h
  · exact pulldown_accounts h hb hd
  · exact pullup_accounts h hb hd
  · have hrep : ∀ a ∈ [Action.udcBind b], a.reported = none := fun a ha => by
      rw [List.mem_singleton.1 ha]; rfl
    refine h.extend rfl (fun a ha => by rw [List.mem_singleton.1 ha]; rfl) fun s hs => ?_
    refine hs.append rfl rfl ?_ (fun p hp => ?_) hrep fun hd' => absurd hd' hd
    · exact or_congr Iff.rfl (iff_of_false (fun hg => hd hg.1) fun hg => hd hg.1)
    · rw [history_append fun a ha => by rw [List.mem_singleton.1 ha]; rfl, ← hs.histories p hp]
      cases p <;> rfl

/-! ### The log and the events -/

/-- What a log holds about the sessions, but for the readings of the clock. -/
inductive Happening
  | read (p : Port) (text : String)
  | started (role : PortDataRole) (udcBind : Bool)
  | bound (udcBind : Bool)
  deriving DecidableEq

def Action.happening : Action → Option Happening
  | .stateRead p text _ => some (.read p text)
  | .sessionStart role _ bound => some (.started role bound)
  | .udcBind bound => some (.bound bound)
  | _ => none

/-- The last role and bind status that were read, and what has happened. -/
structure Outline where
  role : PortDataRole
  bound : Bool
  happenings : List Happening

def Outline.append (o : Outline) (hs : List Happening) : Outline :=
  { o with happenings := o.happenings ++ hs }

/-- What an event calls for: a session starts with each change of the role, and with each pullup of
the gadget in the DEVICE role. -/
def Outline.step (o : Outline) : Event → Outline
  | .deviceState p r => o.append [.read p (r.text usbStateMaxLen)]
  | .dataRole r =>
      if newDataRole r = o.role then o
      else { o with role := newDataRole r }.append [.started (newDataRole r) o.bound]
  | .udcChange (some function) =>
      let bound : Bool := function ≠ ""
      if bound = o.bound then o
      else if o.role = .device ∧ bound then
        { o with bound := bound }.append [.started .device false, .bound bound]
      else { o with bound := bound }.append [.bound bound]
  | _ => o

/-- The outline of the monitor's fields and log. -/
def outline (m : Monitor) : Outline :=
  ⟨m.mDataRole, m.mUdcBind, m.log.filterMap Action.happening⟩

theorem outline_evaluate (P : Platform) (m : Monitor) :
    (evaluateComplianceWarning P m).outline = m.outline := by
  have hnil : (evaluateLog P m).filterMap Action.happening = [] :=
    List.filterMap_eq_nil_iff.2 fun a ha => by
      rcases mem_evaluateLog ha with ⟨t, rfl⟩ | ⟨ws, rfl⟩ | ⟨ws, rfl⟩ <;> rfl
  simp only [evaluateComplianceWarning_eq, outline, List.filterMap_append, hnil, List.append_nil]

theorem outline_report (P : Platform) (m : Monitor) :
    (reportUsbDataSessionMetrics P m).outline = m.outline := by
  have hnil : (reportLog P m).filterMap Action.happening = [] :=
    List.filterMap_eq_nil_iff.2 fun a ha => by rw [mem_reportLog ha]; rfl
  simp only [reportUsbDataSessionMetrics_eq, outline, List.filterMap_append, hnil,
    List.append_nil]

theorem outline_setup (P : Platform) (m : Monitor) :
    (setupNewSession P m).outline = m.outline.append [.started m.mDataRole m.mUdcBind] := by
  have hnil : (armLog m.mDataRole).filterMap Action.happening = [] :=
    List.filterMap_eq_nil_iff.2 fun a ha => by rw [armLog_plain ha]; rfl
  have hlog : (setupLog P m).filterMap Action.happening = [.started m.mDataRole m.mUdcBind] := by
    rw [setupLog_eq]
    simp only [List.filterMap_cons, Action.happening, hnil]
  simp only [setupNewSession_eq, outline, Outline.append, List.filterMap_append, hlog]

theorem outline_logged (m : Monitor) (a : Action) :
    (m.logged a).outline = m.outline.append a.happening.toList := by
  cases h : a.happening <;> simp [outline, Outline.append, logged, h]

/-- A session starts in a new role. -/
theorem outline_opened (P : Platform) (m : Monitor) (role : PortDataRole) :
    (setupNewSession P (m.setDataRole role)).outline =
      { m.outline with role := role }.append [.started role m.outline.bound] := by
  rw [outline_setup]
  rfl

theorem outline_setUdcBind (m : Monitor) (bound : Bool) :
    (m.setUdcBind bound).outline = { m.outline with bound := bound }.append [.bound bound] := by
  simp [outline, Outline.append, setUdcBind, Action.happening]

theorem outline_recordState (P : Platform) (p : Port) (state : String) (m : Monitor) :
    (recordState P p state m).outline = m.outline := by
  cases p <;> rfl

theorem outline_deviceState (P : Platform) (p : Port) (r : FileRead) (m : Monitor) :
    (handleDeviceStateEvent P p r m).outline = m.outline.step (.deviceState p r) := by
  simp only [handleDeviceStateEvent]
  split_ifs
  · rw [outline_evaluate, outline_recordState, outline_logged]
    rfl
  · rw [outline_logged]
    rfl

theorem Outline.step_of_ne {o : Outline} {r : FileRead} (hr : newDataRole r ≠ o.role) :
    o.step (.dataRole r) =
      { o with role := newDataRole r }.append [.started (newDataRole r) o.bound] := if_neg hr

theorem outline_dataRole (P : Platform) (r : FileRead) (m : Monitor) :
    (handleDataRoleEvent P r m).outline = m.outline.step (.dataRole r) := by
  have hread : (m.logged (.roleRead (newDataRole r))).outline = m.outline := by
    rw [outline_logged]
    exact congrArg (Outline.mk _ _) (List.append_nil _)
  rcases handleDataRoleEvent_cases P r m with ⟨hr, h⟩ | ⟨hr, -, h⟩ | ⟨hr, -, h⟩ <;> rw [h]
  · rw [hread]
    exact (if_pos hr).symm
  · rw [outline_opened, outline_report, hread, Outline.step_of_ne (o := m.outline) hr]
  · rw [outline_opened, hread, Outline.step_of_ne (o := m.outline) hr]

theorem outline_udcChange (P : Platform) (function : Option String) (m : Monitor) :
    (updateUdcBindStatus P function m).outline = m.outline.step (.udcChange function) := by
  cases function with
  | none => rfl
  | some f =>
    have hrole : m.outline.role = m.mDataRole := rfl
    have hbound : m.outline.bound = m.mUdcBind := rfl
    simp only [updateUdcBindStatus, Outline.step, hrole, hbound]
    by_cases hsame : decide (f ≠ "") = m.mUdcBind
    · rw [if_pos hsame, if_pos hsame]
    rw [if_neg hsame, if_neg hsame, outline_setUdcBind]
    by_cases hdevice : m.mDataRole = .device
    · rw [if_pos hdevice]
      by_cases hf : f = ""
      · have hbind : m.mUdcBind = true := by simpa [hf] using hsame
        have hdown : m.mUdcBind = true ∧ (!decide (f ≠ "")) = true := by simp [hbind, hf]
        rw [if_pos hdown, outline_evaluate, outline_report, if_neg (by simp [hf])]
        rfl
      · have hbind : m.mUdcBind = false := by simpa [hf] using hsame
        have hup : (!m.mUdcBind) = true ∧ decide (f ≠ "") = true := by simp [hbind, hf]
        rw [if_neg (by simp [hbind]), if_pos hup, outline_setup, if_pos ⟨hdevice, hup.2⟩, hdevice,
          hbind]
        simp [Outline.append, hrole, hdevice]
    · rw [if_neg hdevice, if_neg fun h => hdevice h.1]
      rfl

end Monitor

namespace System

open Monitor

theorem accounts_step {P : Platform} (s : System) (e : Event) (h : Accounts s.monitor) :
    Accounts (step P s e).monitor :=
  step_monitor (I := Accounts) (fun r _ h => handleDataRoleEvent_accounts h r)
    (fun p r _ h => handleDeviceStateEvent_accounts h p r)
    (fun _ h => evaluateComplianceWarning_accounts h)
    (fun f _ h => updateUdcBindStatus_accounts h f) s e h

theorem accounts_run (P : Platform) (mDataRole : PortDataRole) (udc : Option String)
    (openFile : Port → Open) (epollCtl : Port → Bool) (es : List Event) :
    Accounts (Runs.run (step P) (construct mDataRole udc openFile epollCtl) es).monitor := by
  have h0 : Accounts (construct mDataRole udc openFile epollCtl).monitor :=
    ⟨by simp [construct, Monitor.construct, sessions, Segment.segments],
      by simp [construct, Monitor.construct, sessions, Segment.segments]⟩
  exact Runs.run_invariant (I := fun s : System => Accounts s.monitor) accounts_step h0 es

/-- **Every session is reported exactly once, and with its own history**, in every run of the
monitor, whatever value `mDataRole` has after construction. -/
theorem sessions_reported (P : Platform) (mDataRole : PortDataRole) (udc : Option String)
    (openFile : Port → Open) (epollCtl : Port → Bool) (es : List Event) :
    SessionsReported
      (Runs.run (step P) (construct mDataRole udc openFile epollCtl) es).monitor.log :=
  (accounts_run P mDataRole udc openFile epollCtl es).reported

theorem outline_step (P : Platform) (s : System) (e : Event) :
    (step P s e).monitor.outline = s.monitor.outline.step e := by
  cases e with
  | dataRole r => simp only [step, outline_dataRole]
  | deviceState p r => simp only [step, outline_deviceState]
  | timer => exact outline_evaluate P s.monitor
  | udcChange function => simp only [step, outline_udcChange]
  | bind p openFile epollCtl => rfl
  | unbind p epollCtl => rfl

/-- **The log holds what the events call for**, in their order and nothing else: a state for each
event of a state file, a session for each change of the role and for each pullup. -/
theorem outline_run (P : Platform) (s : System) (es : List Event) :
    (Runs.run (step P) s es).monitor.outline = Runs.run Outline.step s.monitor.outline es := by
  have hsame : (Runs.run (step P) s es).monitor.outline =
      Runs.run Outline.step s.monitor.outline (es.map id) :=
    Runs.run_related (R := fun (s : System) o => s.monitor.outline = o)
      (fun s o e ho => by rw [outline_step, ho]; rfl) rfl es
  rwa [List.map_id] at hsame

end System

end Gs101
