import Gs101.Monitor.Sessions
import Gs101.Monitor.Uevents
import Mathlib.Data.List.Perm.Basic

/-!
# UsbDataSessionMonitor: the order of the descriptors in a batch

`epoll_wait` returns a batch of ready descriptors in an order of its own.  When the host controller
comes up, the data role and the state files of the host ports may well be ready together.

* `hostBatch`: a change of the data role to HOST, and states of the host ports;
* `verdict`: the warnings once the batch and then the timer have been handled;
* `Decided`: no port has more than three "default" in the batch, and not both have a
  "not attached";
* `orderFree_iff`: the verdict is the same for every order of the batch if and only if the batch is
  decided.

A state that is handled before the data role belongs to the session before, and is cleared; so a
later order may count any part of the states.
-/

namespace Gs101

namespace Monitor

theorem host1_ne_device : Port.host1 ≠ .device := nofun

theorem host2_ne_device : Port.host2 ≠ .device := nofun

/-- A host port whose state file is ready, with what is read from it. -/
structure StateReady where
  port : HostPort
  r : FileRead
  deriving DecidableEq

namespace StateReady

def ready (e : StateReady) : Ready := .deviceState e.port e.r

def text (e : StateReady) : String := e.r.text usbStateMaxLen

/-- What the event adds to the history of a port. -/
def recorded (p : Port) (e : StateReady) : Option String :=
  if e.port = p ∧ e.text ∈ kValidStates then some e.text else none

end StateReady

/-- The states that these events add to the history of a port. -/
def statesOf (p : Port) (states : List StateReady) : List String :=
  states.filterMap (StateReady.recorded p)

/-- A batch with the data-role file, which reads `r`, and state files of host ports. -/
def hostBatch (r : FileRead) (states : List StateReady) : List Ready :=
  .dataRole r :: states.map StateReady.ready

/-- Whatever part of the states is counted, there is nothing to warn of. -/
structure Decided (states : List StateReady) : Prop where
  enumeration : ∀ p : HostPort,
    (statesOf p states).count kDefaultState ≤ enumFailDefaultCountThreshold
  dataLines : ¬ (kNotAttachedState ∈ statesOf .host1 states ∧
    kNotAttachedState ∈ statesOf .host2 states)

/-- A platform whose clock advances by ten seconds at each reading. -/
def Platform.slowHand : Platform where
  bootClock n := (n : ℤ) * 10000000000
  mono a b h := by
    show (a : ℤ) * 10000000000 ≤ (b : ℤ) * 10000000000
    omega
  enableReportUsbDataComplianceWarning := true
  mUpdatePortStatusCb := true

theorem Platform.slowHand_pace (a b : ℕ) (h : a < b) :
    warningSurfaceDelaySec * 1000000000 ≤
      Platform.slowHand.bootClock b - Platform.slowHand.bootClock a := by
  show (5 : ℤ) * 1000000000 ≤ (b : ℤ) * 10000000000 - (a : ℤ) * 10000000000
  omega

/-! ### What the events of a batch do -/

theorem statesOf_append (p : Port) (l l' : List StateReady) :
    statesOf p (l ++ l') = statesOf p l ++ statesOf p l' := List.filterMap_append

theorem statesOf_perm (p : Port) {l l' : List StateReady} (h : l.Perm l') :
    (statesOf p l).Perm (statesOf p l') := h.filterMap _

/-- `m'` is `m` with states added to its histories, in the same session. -/
structure Adds (m m' : Monitor) (added : Port → List String) : Prop where
  mDataRole : m'.mDataRole = m.mDataRole
  mDataSessionStart : m'.mDataSessionStart = m.mDataSessionStart
  reads : m.reads ≤ m'.reads
  states : ∀ p, (m'.portState p).states = (m.portState p).states ++ added p

theorem Adds.trans {m₁ m₂ m₃ : Monitor} {f g : Port → List String} (h : Adds m₁ m₂ f)
    (h' : Adds m₂ m₃ g) : Adds m₁ m₃ fun p => f p ++ g p where
  mDataRole := h'.mDataRole.trans h.mDataRole
  mDataSessionStart := h'.mDataSessionStart.trans h.mDataSessionStart
  reads := h.reads.trans h'.reads
  states p := by rw [h'.states, h.states, List.append_assoc]

/-- A HOST session is open, with these states of its ports. -/
structure HostSession (P : Platform) (m : Monitor) (host1 host2 : List String) : Prop where
  mDataRole : m.mDataRole = .host
  host1 : m.mHost1State.states = host1
  host2 : m.mHost2State.states = host2
  started : ∃ n < m.reads, m.mDataSessionStart = P.bootClock n

theorem HostSession.adds {P : Platform} {m m' : Monitor} {host1 host2 : List String}
    {f : Port → List String} (h : HostSession P m host1 host2) (ha : Adds m m' f) :
    HostSession P m' (host1 ++ f .host1) (host2 ++ f .host2) where
  mDataRole := ha.mDataRole.trans h.mDataRole
  host1 := (ha.states .host1).trans (congrArg (· ++ f .host1) h.host1)
  host2 := (ha.states .host2).trans (congrArg (· ++ f .host2) h.host2)
  started := by
    obtain ⟨n, hn, hstart⟩ := h.started
    exact ⟨n, hn.trans_le ha.reads, ha.mDataSessionStart.trans hstart⟩

theorem handleDeviceStateEvent_adds (P : Platform) (e : StateReady) (m : Monitor) :
    Adds m (handleDeviceStateEvent P e.port e.r m) fun p => statesOf p [e] := by
  have hof : ∀ p, statesOf p [e] =
      if e.port = p ∧ e.text ∈ kValidStates then [e.text] else [] := by
    intro p
    by_cases h : e.port = p ∧ e.text ∈ kValidStates <;> simp [statesOf, StateReady.recorded, h]
  simp only [handleDeviceStateEvent, hof]
  change Adds m (if e.text ∈ kValidStates then evaluateComplianceWarning P
    (recordState P e.port e.text (m.logged (.stateRead e.port e.text (P.bootClock m.reads))))
    else m.logged (.stateRead e.port e.text (P.bootClock m.reads))) _
  by_cases hv : e.text ∈ kValidStates
  · rw [if_pos hv, evaluateComplianceWarning_eq]
    obtain ⟨⟨p, hp⟩, r⟩ := e
    cases p with
    | device => exact absurd rfl hp
    | host1 =>
      refine ⟨rfl, rfl, Nat.le_add_right _ 2, fun q => ?_⟩
      cases q <;> simp [hv, portState, recordState, setPortState, ticked, logged]
    | host2 =>
      refine ⟨rfl, rfl, Nat.le_add_right _ 2, fun q => ?_⟩
      cases q <;> simp [hv, portState, recordState, setPortState, ticked, logged]
  · rw [if_neg hv]
    refine ⟨rfl, rfl, le_rfl, fun p => ?_⟩
    rw [if_neg fun h => hv h.2, List.append_nil]
    rfl

/-- A change of the role to HOST opens a session with empty host histories. -/
theorem handleDataRoleEvent_toHost (P : Platform) {r : FileRead} {m : Monitor}
    (hr : newDataRole r = .host) (hm : m.mDataRole ≠ .host) :
    HostSession P (handleDataRoleEvent P r m) [] [] := by
  have hopen : ∀ m₁ : Monitor,
      HostSession P (setupNewSession P (m₁.setDataRole .host)) [] [] := by
    intro m₁
    have hm₁ : (m₁.setDataRole .host).mDataRole = .host := rfl
    rw [setupNewSession_eq]
    exact ⟨hm₁, by simp [hm₁], by simp [hm₁], _, Nat.lt_succ_self _, rfl⟩
  rcases handleDataRoleEvent_cases P r m with ⟨he, -⟩ | ⟨-, -, he⟩ | ⟨-, -, he⟩
  · exact absurd (he.symm.trans hr) hm
  · rw [he, hr]
    exact hopen _
  · rw [he, hr]
    exact hopen _

/-- The warnings that these states of the host ports call for. -/
def hostWarnings (host1 host2 : List String) : Finset ComplianceWarning :=
  warningsAfterDelay .host false [] host1 host2

theorem HostSession.currentWarnings {P : Platform} {m : Monitor} {host1 host2 : List String}
    (h : HostSession P m host1 host2) : m.currentWarnings = hostWarnings host1 host2 := by
  unfold Monitor.currentWarnings hostWarnings
  rw [h.mDataRole, h.host1, h.host2]
  simp only [warningsAfterDelay, reduceCtorEq, false_and, if_false]

/-! ### Which part of the states is counted -/

theorem hostWarnings_nil : hostWarnings [] [] = ∅ := by decide

/-- The states that read the word `w`. -/
def reading (w : String) (states : List StateReady) : List StateReady :=
  states.filter fun e => e.text = w

theorem statesOf_cons (p : Port) (e : StateReady) (states : List StateReady) :
    statesOf p (e :: states) =
      if e.port = p ∧ e.text ∈ kValidStates then e.text :: statesOf p states
      else statesOf p states := by
  unfold statesOf
  rw [List.filterMap_cons, StateReady.recorded]
  split_ifs <;> rfl

theorem statesOf_reading (p : Port) (w : String) (states : List StateReady) :
    statesOf p (reading w states) = (statesOf p states).filter fun text => text = w := by
  induction states with
  | nil => rfl
  | cons e states ih =>
    unfold reading at ih ⊢
    by_cases hw : e.text = w
    · rw [List.filter_cons_of_pos (by simpa using hw), statesOf_cons, statesOf_cons, ih]
      split_ifs with hp
      · rw [List.filter_cons_of_pos (by simpa using hw)]
      · rfl
    · rw [List.filter_cons_of_neg (by simpa using hw), statesOf_cons, ih]
      split_ifs with hp
      · rw [List.filter_cons_of_neg (by simpa using hw)]
      · rfl

/-- Of a decided batch no part calls for a warning. -/
theorem Decided.hostWarnings {states pre post : List StateReady} (h : Decided states)
    (hp : (pre ++ post).Perm states) :
    hostWarnings (statesOf .host1 post) (statesOf .host2 post) = ∅ := by
  have hsub : ∀ p, (statesOf p post).Subperm (statesOf p states) := by
    intro p
    have hperm := statesOf_perm p hp
    rw [statesOf_append] at hperm
    exact (List.sublist_append_right _ _).subperm.trans hperm.subperm
  have hcount : ∀ p : HostPort,
      (statesOf p post).count kDefaultState ≤ enumFailDefaultCountThreshold := fun p =>
    ((hsub p).count_le _).trans (h.enumeration p)
  have hhead : ∀ p, (statesOf p post).head? = some kNotAttachedState →
      kNotAttachedState ∈ statesOf p states := fun p hh =>
    (hsub p).subset (List.mem_of_mem_head? hh)
  unfold Monitor.hostWarnings warningsAfterDelay
  simp only [reduceCtorEq, false_and, if_false, if_true]
  rw [if_neg, if_neg, Finset.union_self]
  · rintro ⟨-, h₁, -, h₂⟩
    exact h.dataLines ⟨hhead _ h₁, hhead _ h₂⟩
  · rintro ⟨-, -, h₁ | h₂⟩
    · exact absurd (hcount ⟨.host1, by decide⟩) (Nat.not_le.2 h₁)
    · exact absurd (hcount ⟨.host2, by decide⟩) (Nat.not_le.2 h₂)

/-- More than three "default" states of one port, counted without the others, are a failed
enumeration. -/
theorem hostWarnings_reading_default {states : List StateReady} {p : HostPort}
    (h : enumFailDefaultCountThreshold < (statesOf p states).count kDefaultState) :
    hostWarnings (statesOf .host1 (reading kDefaultState states))
      (statesOf .host2 (reading kDefaultState states)) ≠ ∅ := by
  have hconfigured : ∀ q,
      (statesOf q (reading kDefaultState states)).count kConfiguredState = 0 := by
    intro q
    rw [statesOf_reading, List.count_eq_zero]
    intro hm
    exact absurd (of_decide_eq_true (List.mem_filter.1 hm).2) (by decide)
  have hdefault : ∀ q, (statesOf q (reading kDefaultState states)).count kDefaultState =
      (statesOf q states).count kDefaultState := by
    intro q
    rw [statesOf_reading]
    exact List.count_filter (by decide)
  have hmany : enumFailDefaultCountThreshold < (statesOf .host1 states).count kDefaultState ∨
      enumFailDefaultCountThreshold < (statesOf .host2 states).count kDefaultState := by
    obtain ⟨p, hp⟩ := p
    cases p with
    | device => exact absurd rfl hp
    | host1 => exact .inl h
    | host2 => exact .inr h
  have hmem : ComplianceWarning.enumerationFail ∈
      hostWarnings (statesOf .host1 (reading kDefaultState states))
        (statesOf .host2 (reading kDefaultState states)) := by
    unfold hostWarnings warningsAfterDelay
    simp [hconfigured, hdefault, hmany]
  exact Finset.ne_empty_of_mem hmem

/-- An event behind a recorded state. -/
theorem exists_of_mem_statesOf {p : Port} {w : String} {states : List StateReady}
    (h : w ∈ statesOf p states) : ∃ e ∈ states, e.port = p ∧ e.text = w ∧ w ∈ kValidStates := by
  obtain ⟨e, he, hw⟩ := List.mem_filterMap.1 h
  unfold StateReady.recorded at hw
  split_ifs at hw with hp
  obtain rfl := Option.some.inj hw
  exact ⟨e, he, hp.1, rfl, hp.2⟩

/-- One "not attached" state of each port, counted without the others, is a missing data line. -/
theorem exists_notAttached {states : List StateReady}
    (h₁ : kNotAttachedState ∈ statesOf .host1 states)
    (h₂ : kNotAttachedState ∈ statesOf .host2 states) :
    ∃ pre post : List StateReady, (pre ++ post).Perm states ∧
      statesOf .host1 post = [kNotAttachedState] ∧ statesOf .host2 post = [kNotAttachedState] := by
  obtain ⟨e₁, he₁, hp₁, hw₁, hv⟩ := exists_of_mem_statesOf h₁
  obtain ⟨e₂, he₂, hp₂, hw₂, -⟩ := exists_of_mem_statesOf h₂
  have hne : e₂ ≠ e₁ := by
    rintro rfl
    rw [hp₁] at hp₂
    cases hp₂
  have hrest : ((e₁ :: e₂ :: (states.erase e₁).erase e₂)).Perm states :=
    ((List.perm_cons_erase ((List.mem_erase_of_ne hne).2 he₂)).symm.cons e₁).trans
      (List.perm_cons_erase he₁).symm
  refine ⟨(states.erase e₁).erase e₂, [e₁, e₂], List.perm_append_comm.trans hrest, ?_, ?_⟩
  · simp only [statesOf_cons, hp₁, hp₂, hw₁, hw₂, hv, and_self, if_true, reduceCtorEq, false_and,
      if_false]
    rfl
  · simp only [statesOf_cons, hp₁, hp₂, hw₁, hw₂, hv, and_self, if_true, reduceCtorEq, false_and,
      if_false]
    rfl

/-- A batch that is not decided has a part that calls for a warning. -/
theorem exists_hostWarnings {states : List StateReady} (h : ¬ Decided states) :
    ∃ pre post : List StateReady, (pre ++ post).Perm states ∧
      hostWarnings (statesOf .host1 post) (statesOf .host2 post) ≠ ∅ := by
  by_cases hcount : ∀ p : HostPort,
      (statesOf p states).count kDefaultState ≤ enumFailDefaultCountThreshold
  · have hboth : kNotAttachedState ∈ statesOf .host1 states ∧
        kNotAttachedState ∈ statesOf .host2 states := by
      by_contra hn
      exact h ⟨hcount, hn⟩
    obtain ⟨pre, post, hp, hw₁, hw₂⟩ := exists_notAttached hboth.1 hboth.2
    refine ⟨pre, post, hp, ?_⟩
    rw [hw₁, hw₂]
    decide
  · push Not at hcount
    obtain ⟨p, hp⟩ := hcount
    refine ⟨states.filter fun e => ¬ e.text = kDefaultState, reading kDefaultState states, ?_,
      hostWarnings_reading_default hp⟩
    have hperm := List.filter_append_perm (fun e : StateReady => e.text = kDefaultState) states
    exact List.perm_append_comm.trans (by simpa [reading] using hperm)

end Monitor

namespace System

open Monitor

variable (P : Platform) (regexSearch : String → String → Bool) (c : Config) (s : System)

/-- The warnings after a batch and the timer. -/
def verdict (batch : List Ready) : Finset ComplianceWarning :=
  (handle P regexSearch c (monitorThread P regexSearch c s batch) .timer).monitor.mWarningSet

/-- The timer that is handled after the batch is the session's: its delay has passed. -/
def TimerDue (batch : List Ready) : Prop :=
  warningSurfaceDelaySec ≤ elapsedTimeSec P (monitorThread P regexSearch c s batch).monitor

/-- The verdict does not depend on the order of the batch. -/
def OrderFree (batch : List Ready) : Prop :=
  ∀ b b' : List Ready, b.Perm batch → b'.Perm batch →
    verdict P regexSearch c s b = verdict P regexSearch c s b'

variable {P regexSearch c s}

theorem monitorThread_adds (states : List StateReady) :
    Adds s.monitor (monitorThread P regexSearch c s (states.map StateReady.ready)).monitor
      fun p => statesOf p states := by
  induction states generalizing s with
  | nil => exact ⟨rfl, rfl, le_rfl, fun q => (List.append_nil _).symm⟩
  | cons e states ih =>
    have hhandle : (handle P regexSearch c s e.ready).monitor =
        handleDeviceStateEvent P e.port e.r s.monitor := monitor_handle_deviceState s _ _
    have hfirst := handleDeviceStateEvent_adds P e s.monitor
    rw [← hhandle] at hfirst
    have hadds := hfirst.trans (ih (s := handle P regexSearch c s e.ready))
    simp only [← statesOf_append, List.singleton_append] at hadds
    rw [List.map_cons, monitorThread_cons]
    exact hadds

/-- What comes before the data role is forgotten. -/
theorem monitorThread_batch (hrole : s.monitor.mDataRole ≠ .host) {r : FileRead}
    (hr : newDataRole r = .host) (pre post : List StateReady) :
    HostSession P (monitorThread P regexSearch c s
        (pre.map StateReady.ready ++ .dataRole r :: post.map StateReady.ready)).monitor
      (statesOf .host1 post) (statesOf .host2 post) := by
  set s₁ := monitorThread P regexSearch c s (pre.map StateReady.ready) with hs₁
  have hpre : Adds s.monitor s₁.monitor _ := monitorThread_adds pre
  have hopen : HostSession P (handle P regexSearch c s₁ (.dataRole r)).monitor [] [] := by
    rw [monitor_handle_dataRole]
    exact handleDataRoleEvent_toHost P hr (hpre.mDataRole ▸ hrole)
  have hpost : Adds (handle P regexSearch c s₁ (.dataRole r)).monitor
      (monitorThread P regexSearch c (handle P regexSearch c s₁ (.dataRole r))
        (post.map StateReady.ready)).monitor fun p => statesOf p post := monitorThread_adds post
  rw [monitorThread, Runs.run_append, Runs.run_cons]
  exact hopen.adds hpost

/-- An order of the batch is a choice of the states that come before the data role. -/
theorem perm_hostBatch {b : List Ready} {r : FileRead} {states : List StateReady}
    (h : b.Perm (hostBatch r states)) :
    ∃ pre post : List StateReady, (pre ++ post).Perm states ∧
      b = pre.map StateReady.ready ++ .dataRole r :: post.map StateReady.ready := by
  have hmem : .dataRole r ∈ b := h.mem_iff.2 List.mem_cons_self
  obtain ⟨l, l', rfl⟩ := List.append_of_mem hmem
  have hl : (l ++ l').Perm (states.map StateReady.ready) :=
    List.Perm.cons_inv (List.perm_middle.symm.trans h)
  obtain ⟨order, heq, horder⟩ : ∃ order : List StateReady,
      l ++ l' = order.map StateReady.ready ∧ order.Perm states :=
    (congrFun (congrFun (List.eq_map_comp_perm StateReady.ready) (l ++ l')) states).mpr hl
  obtain ⟨pre, post, rfl, rfl, rfl⟩ := List.append_eq_map_iff.1 heq
  exact ⟨pre, post, horder, rfl⟩

theorem verdict_eq {b : List Ready} {host1 host2 : List String}
    (h : HostSession P (monitorThread P regexSearch c s b).monitor host1 host2)
    (hdue : TimerDue P regexSearch c s b) :
    verdict P regexSearch c s b = hostWarnings host1 host2 := by
  rw [verdict, monitor_handle_timer, handleTimerEvent, evaluateComplianceWarning_eq]
  exact (if_pos hdue).trans h.currentWarnings

/-- **The verdict is independent of the order of the batch** if and only if the batch is decided. -/
theorem orderFree_iff (hrole : s.monitor.mDataRole ≠ .host) {r : FileRead}
    (hr : newDataRole r = .host) (states : List StateReady)
    (hdue : ∀ b : List Ready, b.Perm (hostBatch r states) → TimerDue P regexSearch c s b) :
    OrderFree P regexSearch c s (hostBatch r states) ↔ Decided states := by
  constructor
  · intro h
    by_contra hn
    obtain ⟨pre, post, hp, hne⟩ := exists_hostWarnings hn
    -- the states that call for a warning come last, or all states come first
    have hlast : (pre.map StateReady.ready ++ .dataRole r :: post.map StateReady.ready).Perm
        (hostBatch r states) := by
      refine List.perm_middle.trans (List.Perm.cons _ ?_)
      rw [← List.map_append]
      exact hp.map _
    have hfirst : (states.map StateReady.ready ++ .dataRole r :: [].map StateReady.ready).Perm
        (hostBatch r states) := by
      refine List.perm_middle.trans (List.Perm.cons _ ?_)
      rw [List.map_nil, List.append_nil]
    have heq := h _ _ hlast hfirst
    rw [verdict_eq (monitorThread_batch hrole hr pre post) (hdue _ hlast),
      verdict_eq (monitorThread_batch hrole hr states []) (hdue _ hfirst)] at heq
    exact hne (heq.trans hostWarnings_nil)
  · intro h b b' hb hb'
    have hempty : ∀ d : List Ready, d.Perm (hostBatch r states) →
        verdict P regexSearch c s d = ∅ := by
      intro d hd
      obtain ⟨pre, post, hp, rfl⟩ := perm_hostBatch hd
      rw [verdict_eq (monitorThread_batch hrole hr pre post) (hdue _ hd)]
      exact h.hostWarnings hp
    rw [hempty b hb, hempty b' hb']

/-- A clock that advances by the delay from each reading to the next makes every timer due. -/
theorem timerDue_of_pace
    (hpace : ∀ a b : ℕ, a < b →
      warningSurfaceDelaySec * 1000000000 ≤ P.bootClock b - P.bootClock a)
    (hrole : s.monitor.mDataRole ≠ .host) {r : FileRead} (hr : newDataRole r = .host)
    {states : List StateReady} {b : List Ready} (h : b.Perm (hostBatch r states)) :
    TimerDue P regexSearch c s b := by
  obtain ⟨pre, post, -, rfl⟩ := perm_hostBatch h
  obtain ⟨n, hn, hstart⟩ := (monitorThread_batch hrole hr pre post).started
  have hwait := hpace n _ hn
  rw [← hstart] at hwait
  unfold TimerDue elapsedTimeSec
  rw [Int.tdiv_eq_ediv_of_nonneg (le_trans (by decide) hwait)]
  exact (Int.le_ediv_iff_mul_le (by decide)).2 hwait

theorem orderFree_oneReport :
    OrderFree .slowHand (fun _ _ => false) .usb
      (construct .none none (fun _ _ => none) (fun _ => true))
      (hostBatch (.of "host") [⟨⟨.host1, host1_ne_device⟩, .of "not attached\n"⟩]) := by
  refine (orderFree_iff (by decide) (by decide) _ fun b hb =>
    timerDue_of_pace Platform.slowHand_pace (by decide) (by decide) hb).2 ⟨?_, by decide⟩
  rintro ⟨p, hp⟩
  cases p with
  | device => exact absurd rfl hp
  | host1 => decide +revert
  | host2 => decide +revert

/-- Both ports report that nothing is attached. -/
def bothQuiet : List StateReady :=
  [⟨⟨.host1, host1_ne_device⟩, .of "not attached\n"⟩,
    ⟨⟨.host2, host2_ne_device⟩, .of "not attached\n"⟩]

/-- Behind the data role the reports are a missing data line, before it they are forgotten. -/
theorem bothQuiet_differs :
    ¬ OrderFree .slowHand (fun _ _ => false) .usb
      (construct .none none (fun _ _ => none) (fun _ => true))
      (hostBatch (.of "host") bothQuiet) := by
  intro h
  have heq := h (hostBatch (.of "host") bothQuiet)
    (bothQuiet.map StateReady.ready ++ [.dataRole (.of "host")]) (List.Perm.refl _)
    List.perm_append_comm
  revert heq
  decide

end System

end Gs101
