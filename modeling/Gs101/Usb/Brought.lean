import Gs101.Monitor.Shown
import Gs101.Monitor.Timer
import Gs101.Usb.Delivery

/-!
# Usb: from the state files to the framework

The state files raise warnings, the timer of the session has them evaluated, the monitor's thread
asks for a query, and some thread notifies what it reads.  `Timed` is about the first half of this
way, `Delivery` about the second; `TimedDelivery` is both, around one monitor.

* `step`: both machines are seen in it, `projects_delivery` and `projects_timed`;
* `Told.Possible`: what is told is at most one warning, and one that the role can have;
* `carries_step`: where what is read and told comes from;
* `Brought`: what was told last is possible, and what the histories say, once the timer of the
  session has gone off;
* `brought_always`.
-/

namespace Gs101

namespace Usb

open Monitor (possibleWarnings WellShown)

/-- The warnings that the histories raise, for a caller that asks for this role. -/
def dueWarnings (m : Monitor) (role : PortDataRole) : List ComplianceWarning :=
  if role = m.mDataRole then ComplianceWarning.all.filter (· ∈ m.currentWarnings) else []

/-- At most one warning, and one that the role can have. -/
structure Told.Possible (t : Told) : Prop where
  atMostOne : t.complianceWarnings.length ≤ 1
  ofRole : ∀ w ∈ t.complianceWarnings, w ∈ possibleWarnings t.currentDataRole

/-- Every event but those that the monitor handles. -/
def Delivery.Event.Elsewhere : Delivery.Event → Prop
  | .handle _ => False
  | _ => True

/-- The threads, the monitor and its timer. -/
structure TimedDelivery where
  delivery : Delivery
  timer : System.Timer

namespace TimedDelivery

inductive Event
  /-- The monitor handles an event. -/
  | handle (e : System.TimedEvent)
  /-- A thread goes on, or something arrives. -/
  | threads (e : {e : Delivery.Event // e.Elsewhere})

variable (P : Monitor.Platform)

/-- The monitor, with its timer. -/
def timed (s : TimedDelivery) : System.Timed := ⟨s.delivery.system, s.timer⟩

/-- In its callback the monitor handles nothing. -/
def step (s : TimedDelivery) : Event → TimedDelivery
  | .handle e =>
      { delivery := s.delivery.step P (.handle e.event)
        timer := if s.delivery.threads.monitor = .idle then (s.timed.step P e).timer
          else s.timer }
  | .threads e => { s with delivery := s.delivery.step P e.val }

/-- Once the monitor is constructed. -/
def initial (system : System) : TimedDelivery := ⟨.initial system, .unset⟩

/-- The kernel keeps to its timer, and no session opens over a warning. -/
def Allowed (s : TimedDelivery) : Event → Prop
  | .handle e =>
      s.delivery.system.OpensQuietly e.event ∧
        (s.delivery.threads.monitor = .idle → s.timed.Kernel P e)
  | .threads _ => True

/-- What was told last is possible.  Outside the callback, and once the timer of the session has
gone off, it is what the histories say, unless the gadget is pulled down. -/
structure Brought (s : TimedDelivery) : Prop where
  possible : ∀ t ∈ s.delivery.told, t.Possible
  current : s.delivery.threads.monitor = .idle → s.timer = .wentOff →
    ¬ (s.delivery.system.monitor.mDataRole = .device ∧
      s.delivery.system.monitor.mUdcBind = false) →
    ∀ t ∈ s.delivery.told,
      t.complianceWarnings = dueWarnings s.delivery.system.monitor t.currentDataRole

end TimedDelivery

/-! ### What a step of the threads leaves alone, and what it tells -/

namespace Delivery

variable {P : Monitor.Platform} (s : Delivery)

theorem system_query (role : PortDataRole) (next : Threads) :
    (s.query P role next).system = s.system := by
  unfold query
  split <;> rfl

/-- Only the monitor changes what it answers. -/
theorem system_step {e : Event} (he : e.Elsewhere) : (s.step P e).system = s.system := by
  cases e with
  | handle e => exact he.elim
  | arrives e => rfl
  | binder answer role =>
    show (s.binderStep P answer role).system = s.system
    unfold binderStep
    split
    · exact s.system_query role _
    all_goals rfl
  | worker answer role =>
    show (s.workerStep P answer role).system = s.system
    unfold workerStep
    split
    · exact s.system_query role _
    · rfl
  | monitor role =>
    show (s.monitorStep P role).system = s.system
    unfold monitorStep
    split
    · exact s.system_query role _
    · rfl

theorem eq_handle_of_not_elsewhere {e : Event} (he : ¬ e.Elsewhere) : ∃ e', e = .handle e' := by
  cases e with
  | handle e' => exact ⟨e', rfl⟩
  | binder | worker | monitor | arrives => exact absurd trivial he

/-- The monitor handles an event, or is in its callback. -/
theorem system_handle (e : Monitor.Event) :
    (s.step P (.handle e)).system = s.system.step P e ∨
      (s.step P (.handle e)).system = s.system := by
  by_cases hidle : s.threads.monitor = .idle
  · refine .inl ?_
    simp only [step, handle, if_pos hidle]
  · refine .inr ?_
    simp only [step, handle, if_neg hidle]

/-- What was read, or told. -/
def Carries (t : Told) : Prop := t ∈ s.taken ∨ t ∈ s.told

theorem carries_query {role : PortDataRole} {next : Threads} {t : Told}
    (h : (s.query P role next).Carries t) :
    s.Carries t ∨ t = ⟨role, s.system.monitor.getComplianceWarnings P role⟩ := by
  unfold query at h
  cases htaken : s.taken with
  | none =>
    simp only [htaken] at h
    rcases h with ht | ht
    · exact .inr (Option.some.inj ht).symm
    · exact .inl (.inr ht)
  | some v =>
    simp only [htaken] at h
    rcases h with ht | ht
    · cases ht
    · refine .inl ?_
      split_ifs at ht
      · exact .inl (htaken.trans ht)
      · exact .inr ht

/-- What is read or told after a step was so before, or is what the monitor answers. -/
theorem carries_step {e : Event} {t : Told} (h : (s.step P e).Carries t) :
    s.Carries t ∨ ∃ role, t = ⟨role, s.system.monitor.getComplianceWarnings P role⟩ := by
  have hquery : ∀ {role next}, (s.query P role next).Carries t →
      s.Carries t ∨ ∃ role, t = ⟨role, s.system.monitor.getComplianceWarnings P role⟩ :=
    fun hq => (s.carries_query hq).imp_right fun ht => ⟨_, ht⟩
  cases e with
  | handle e =>
    refine .inl ?_
    simp only [step, handle] at h
    split_ifs at h <;> exact h
  | arrives e => exact .inl h
  | binder answer role =>
    change (s.binderStep P answer role).Carries t at h
    unfold binderStep at h
    split at h
    · exact hquery h
    · exact .inl (h.imp_right fun ht => absurd ht (Option.not_mem_none t))
    · refine .inl (h.imp_right fun ht => ?_)
      cases answer with
      | true => exact ht
      | false => exact absurd ht (Option.not_mem_none t)
    · exact .inl h
  | worker answer role =>
    change (s.workerStep P answer role).Carries t at h
    unfold workerStep at h
    split at h
    · exact hquery h
    · exact .inl h
  | monitor role =>
    change (s.monitorStep P role).Carries t at h
    unfold monitorStep at h
    split at h
    · exact hquery h
    · exact .inl h

end Delivery

/-! ### What can be told -/

section Possible

variable {P : Monitor.Platform}

/-- What the monitor answers is possible. -/
theorem possible_of_wellShown {m : Monitor} (h : WellShown P m) (role : PortDataRole) :
    (⟨role, m.getComplianceWarnings P role⟩ : Told).Possible := by
  have hseen : ∀ w ∈ m.getComplianceWarnings P role, role = m.mDataRole ∧ w ∈ m.mWarningSet :=
    fun w hw => Monitor.mem_getComplianceWarnings hw
  have hnodup : (m.getComplianceWarnings P role).Nodup := by
    unfold Monitor.getComplianceWarnings
    split_ifs
    · exact List.nodup_nil
    · exact List.nodup_nil
    · exact (by decide : ComplianceWarning.all.Nodup).filter _
  refine ⟨?_, fun w hw => ?_⟩
  · have hsub : (m.getComplianceWarnings P role).toFinset ⊆ m.mWarningSet := fun w hw =>
      (hseen w (List.mem_toFinset.1 hw)).2
    calc (m.getComplianceWarnings P role).length
        = (m.getComplianceWarnings P role).toFinset.card :=
          (List.toFinset_card_of_nodup hnodup).symm
      _ ≤ m.mWarningSet.card := Finset.card_le_card hsub
      _ ≤ 1 := h.atMostOne
  · obtain ⟨hrole, hmem⟩ := hseen w hw
    rw [hrole]
    exact h.ofRole hmem

/-- The monitor's warnings are well shown, and what was read and told is possible. -/
structure Delivery.Sensible (P : Monitor.Platform) (s : Delivery) : Prop where
  shown : WellShown P s.system.monitor
  possible : ∀ t, s.Carries t → t.Possible

theorem Delivery.sensible_initial {system : System} (h : WellShown P system.monitor) :
    (Delivery.initial system).Sensible P := by
  refine ⟨h, fun t ht => ?_⟩
  obtain ht | ht := ht
  · exact absurd ht (Option.not_mem_none t)
  · exact absurd ht (Option.not_mem_none t)

theorem Delivery.sensible_step (s : Delivery) (e : Delivery.Event) (h : s.Sensible P) :
    (s.step P e).Sensible P := by
  refine ⟨?_, fun t ht => ?_⟩
  · by_cases he : e.Elsewhere
    · rw [s.system_step he]
      exact h.shown
    · obtain ⟨e, rfl⟩ := eq_handle_of_not_elsewhere he
      obtain hs | hs := s.system_handle (P := P) e
      all_goals rw [hs]
      · exact System.wellShown_step s.system e h.shown
      · exact h.shown
  · obtain hold | ⟨role, rfl⟩ := s.carries_step ht
    · exact h.possible t hold
    · exact possible_of_wellShown h.shown role

end Possible

namespace TimedDelivery

/-! ### The two machines -/

variable {P : Monitor.Platform}

theorem projects_delivery :
    Runs.Projects (step P) (Allowed P) (Delivery.step P) Delivery.OpensQuietly delivery := by
  rintro s (e | ⟨e, he⟩) hallowed
  · exact .inr ⟨.handle e.event, hallowed.1, rfl⟩
  · refine .inr ⟨e, ?_, rfl⟩
    cases e with
    | handle e => exact he.elim
    | _ => trivial

theorem projects_timed :
    Runs.Projects (step P) (Allowed P) (System.Timed.step P) (System.Timed.Kernel P) timed := by
  rintro s (e | ⟨e, he⟩) hallowed
  · by_cases hidle : s.delivery.threads.monitor = .idle
    · refine .inr ⟨e, hallowed.2 hidle, ?_⟩
      simp only [timed, step, Delivery.step, Delivery.handle, if_pos hidle]
      rfl
    · refine .inl ?_
      simp only [timed, step, Delivery.step, Delivery.handle, if_neg hidle]
  · refine .inl ?_
    simp only [timed, step, s.delivery.system_step he]

/-- What the monitor answers is due, once its warnings are those of the histories. -/
theorem getComplianceWarnings_eq_due {m : Monitor} (h : m.mWarningSet = m.currentWarnings)
    (role : PortDataRole) : m.getComplianceWarnings P.reporting role = dueWarnings m role := by
  unfold Monitor.getComplianceWarnings dueWarnings
  rw [h]
  by_cases hrole : role = m.mDataRole
  · by_cases hnone : role = .none
    · have hempty : m.currentWarnings = ∅ := by
        simp [Monitor.currentWarnings, Monitor.warningsAfterDelay, ← hrole, hnone]
      simp [hrole, hempty]
    · simp [hrole, hrole ▸ hnone]
  · simp [hrole]

/-- **From the state files to the framework.**  In every order of the threads' steps, the events
and the expirations of the timer, if no session opens over a warning: whenever the timer of the
session has gone off and the monitor is not in its callback, the framework was told last what the
histories say, and never more than one warning, or one that the role cannot have. -/
theorem brought_always (P : Monitor.Platform) (mDataRole : PortDataRole) (udc : Option String)
    (openFile : Monitor.Port → Monitor.Open) (epollCtl : Monitor.Port → Bool) (es : List Event)
    (h : Runs.Meets (step P.reporting) (Allowed P.reporting)
      (initial (.construct mDataRole udc openFile epollCtl)) es) :
    Runs.Always (step P.reporting) Brought
      (initial (.construct mDataRole udc openFile epollCtl)) es := by
  intro pre hpre
  have hdelivery : (Runs.run (step P.reporting) _ pre).delivery.UpToDate P.reporting :=
    (projects_delivery.always Delivery.inv_step (Delivery.inv_initial _) h pre hpre).upToDate
  have hsensible : (Runs.run (step P.reporting) _ pre).delivery.Sensible P.reporting :=
    projects_delivery.always (fun s e hs _ => Delivery.sensible_step s e hs)
      (Delivery.sensible_initial (Monitor.wellShown_of_empty rfl)) h pre hpre
  have htimed := projects_timed.always System.Timed.inv_step
    (System.Timed.inv_construct mDataRole udc openFile epollCtl) h pre hpre
  refine ⟨fun t ht => hsensible.possible t (.inr ht), fun hidle hoff hup t ht => ?_⟩
  rw [hdelivery hidle t ht]
  exact getComplianceWarnings_eq_due ((htimed.upToDate hoff).resolve_left hup) _

/-- A callback is registered, and a host session in which neither port sees a device waits for its
timer. -/
def unseenDevice : List Event :=
  .threads ⟨.arrives ⟨.call (.setCallback true), trivial⟩, trivial⟩ ::
    (List.replicate 4 (.threads ⟨.binder true .none, trivial⟩) ++
      System.Timed.quietHostSession.map .handle ++
      List.replicate 3 (.threads ⟨.monitor .host, trivial⟩))

theorem unseenDevice_brought :
    Runs.Always (step .secondHand) Brought
      (initial (.construct .none none (fun _ _ => none) fun _ => true)) unseenDevice :=
  brought_always .secondHand .none none (fun _ _ => none) (fun _ => true) unseenDevice
    ⟨trivial, trivial, trivial, trivial, trivial,
      ⟨fun _ => rfl, fun _ => ⟨Bool.noConfusion, fun _ => ⟨0, rfl, by decide⟩⟩⟩,
      ⟨False.elim, fun _ => ⟨Bool.noConfusion, fun h => absurd h (by decide)⟩⟩,
      ⟨False.elim, fun _ => ⟨Bool.noConfusion, fun h => absurd h (by decide)⟩⟩,
      ⟨False.elim, fun _ =>
        ⟨fun _ => ⟨5000000000, by decide, by decide⟩, fun h => absurd h (by decide)⟩⟩,
      trivial, trivial, trivial, trivial⟩

example : (Runs.run (step .secondHand)
    (initial (.construct .none none (fun _ _ => none) fun _ => true))
    unseenDevice).delivery.told = some ⟨.host, [.missingDataLines]⟩ := by
  decide

end TimedDelivery

end Usb

end Gs101
