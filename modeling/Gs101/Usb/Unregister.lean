import Gs101.Usb.Deadlock

/-!
# Usb: the worker of a callback

`setCallback` creates the worker for a callback, and ends it when the callback is taken back: it
sends SIGUSR1, whose handler sets `destroyThread`, and joins the worker under `mLock`.  The worker
tests `destroyThread` before each `epoll_wait`.

* `Tended`: no worker is created beside another, none is left without a callback, and none is told
  to stop while its callback is set;
* `Returns`: `setCallback(NULL)` is certain to return, with no help from a uevent;
* `returns_iff`: so it is if the worker has no port field left, which it would query for, and gets
  the signal inside `epoll_wait`, or has got it elsewhere than between the test and `epoll_wait`.
-/

namespace Gs101

namespace Usb

open Runs (Can Leads)

/-- SIGUSR1 is delivered, or the worker goes on, with calls that succeed. -/
def Event.Goes : Event → Prop
  | .signal => True
  | .worker answer => answer = true
  | _ => False

/-- The worker comes to a field for which it queries the port status, or is about to query. -/
def Worker.Asks : Worker → Prop
  | .fields l | .partnerLock l | .partnerHeld l => Field.port ∈ l
  | .queryLock | .queryHeld => True
  | _ => False

namespace Threads

/-- The worker is there as long as its callback is, and undisturbed. -/
structure Tended (s : Threads) : Prop where
  alone : s.binder = .callbackCreate → ¬ s.worker.Alive
  attended : s.worker.Alive → s.mCallback = true ∨ s.binder = .callbackKill ∨
    s.binder = .callbackJoin
  undisturbed : s.worker.Alive → s.mCallback = true →
    s.destroyThread = false ∧ s.pending = false

/-- Whatever the signal and the worker have done by then, they can go on to the worker's end. -/
def Returns (s : Threads) : Prop :=
  ∀ es : List Event, (∀ e ∈ es, e.Goes) →
    Can step Event.Goes (Runs.run step s es) fun s' => ¬ s'.worker.Alive

/-- The worker has got the signal before the test of `destroyThread`, or gets it in
`epoll_wait`. -/
def Heard (s : Threads) : Prop :=
  if s.worker = Worker.epollWait then s.pending = true
  else s.destroyThread = true ∧ s.worker ≠ .enter

/-! ### The worker lives with its callback -/

/-- Who is told to stop. -/
structure Told (s : Threads) : Prop where
  ending : s.binder = .callbackKill ∨ s.binder = .callbackJoin → s.mCallback = false
  flag : s.mCallback = true → s.destroyThread = false
  signal : s.mCallback = true → s.pending = true → s.binder = .callbackCreate

/-- The flags are as they were, and so is the part of `setCallback` that is being executed. -/
theorem Told.congr {s s' : Threads} (h : s.Told) (hcb : s'.mCallback = s.mCallback)
    (hflag : s'.destroyThread = s.destroyThread) (hpending : s'.pending = s.pending)
    (hb : s'.binder = s.binder) : s'.Told := by
  refine ⟨fun he => ?_, fun hc => ?_, fun hc hp => ?_⟩
  · rw [hb] at he
    exact hcb.trans (h.ending he)
  · exact hflag.trans (h.flag (hcb.symm.trans hc))
  · exact hb.trans (h.signal (hcb.symm.trans hc) (hpending.symm.trans hp))

/-- The binder thread moves outside `setCallback`. -/
theorem Told.move {s s' : Threads} (h : s.Told) (hcb : s'.mCallback = s.mCallback)
    (hflag : s'.destroyThread = s.destroyThread) (hpending : s'.pending = s.pending)
    (hne : s.binder ≠ .callbackCreate)
    (hb : s'.binder ≠ .callbackKill ∧ s'.binder ≠ .callbackJoin) : s'.Told := by
  refine ⟨fun he => absurd he (not_or.2 hb), fun hc => ?_, fun hc hp => ?_⟩
  · exact hflag.trans (h.flag (hcb.symm.trans hc))
  · exact absurd (h.signal (hcb.symm.trans hc) (hpending.symm.trans hp)) hne

theorem told_binderStep {s : Threads} (h : s.Told) (answer : Bool) :
    (s.binderStep answer).Told := by
  cases hb : s.binder <;> simp only [binderStep, hb]
  case callbackHeld cb =>
    split_ifs with hsame hcb
    · exact h.move hsame rfl rfl (by simp [hb]) (by simp [setBinder])
    · exact ⟨fun he => absurd he (by simp [setBinder]), fun _ => rfl, fun _ _ => rfl⟩
    · have hoff : cb = false := by simpa using hcb
      exact ⟨fun _ => hoff, fun hc => absurd (hoff.symm.trans hc) Bool.false_ne_true,
        fun hc => absurd (hoff.symm.trans hc) Bool.false_ne_true⟩
  case callbackKill =>
    have hoff : s.mCallback = false := h.ending (.inl hb)
    split_ifs
    · exact ⟨fun _ => hoff, fun hc => absurd (hoff.symm.trans hc) Bool.false_ne_true,
        fun hc => absurd (hoff.symm.trans hc) Bool.false_ne_true⟩
    · exact ⟨fun _ => hoff, h.flag, fun hc => absurd (hoff.symm.trans hc) Bool.false_ne_true⟩
    · exact ⟨fun _ => hoff, h.flag, fun hc => absurd (hoff.symm.trans hc) Bool.false_ne_true⟩
  case callbackJoin =>
    split_ifs
    · exact h
    · exact h.move rfl rfl rfl (by simp [hb]) (by simp [setBinder])
  case callbackCreate =>
    split_ifs
    · exact ⟨fun he => absurd he (by simp [setBinder]), h.flag,
        fun _ hp => absurd hp Bool.false_ne_true⟩
    · exact ⟨fun he => absurd he (by simp [setBinder]), fun hc => absurd hc Bool.false_ne_true,
        fun hc => absurd hc Bool.false_ne_true⟩
  all_goals
    have hne : s.binder ≠ .callbackCreate := by simp [hb]
    have hmove : ∀ (s' : Threads) (b : Binder), s'.mCallback = s.mCallback →
        s'.destroyThread = s.destroyThread → s'.pending = s.pending →
        b ≠ .callbackKill ∧ b ≠ .callbackJoin → (s'.setBinder b).Told :=
      fun s' b hcb hflag hpending hb' => h.move hcb hflag hpending hne hb'
    have hlock : ∀ (l : Lock) (b : Binder), b ≠ .callbackKill ∧ b ≠ .callbackJoin →
        (s.lock .binder l (·.setBinder b)).Told := by
      intro l b hb'
      unfold lock
      split_ifs
      · exact hmove _ b rfl rfl rfl hb'
      · exact h
  case idle => exact h
  case notifyLock q => exact hlock _ _ (by simp)
  case queryLock q => exact hlock _ _ (by simp)
  case roleLock q => exact hlock _ _ (by simp)
  case partnerLock => exact hlock _ _ (by simp)
  case partnerRelock t => exact hlock _ _ (by simp)
  case roleNotifyLock r => exact hlock _ _ (by simp)
  case callbackLock cb => exact hlock _ _ (by simp)
  case notifyHeld q =>
    exact hmove (s.unlock _) _ rfl rfl rfl (by cases q <;> simp)
  case queryHeld n =>
    exact hmove (s.unlock _) _ rfl rfl rfl (by cases n <;> simp)
  case roleHeld mode =>
    cases mode
    · exact hmove s _ rfl rfl rfl (by simp)
    · exact hmove s _ rfl rfl rfl (by cases answer <;> simp)
  case partnerHeld =>
    split_ifs
    · exact hmove ({ s with mPartnerUp := false }.unlock .mPartnerLock) .partnerWait
        rfl rfl rfl (by simp)
    · exact hmove { s with mPartnerUp := false } (.partnerUnlock false) rfl rfl rfl (by simp)
  case partnerWait => exact hmove s _ rfl rfl rfl (by simp)
  case partnerWoken timedOut =>
    cases timedOut <;> simp only
    · split_ifs
      · exact hmove s _ rfl rfl rfl (by simp)
      · exact hmove (s.unlock _) _ rfl rfl rfl (by simp)
    · exact hmove s _ rfl rfl rfl (by simp)
  case partnerUnlock r => exact hmove (s.unlock _) _ rfl rfl rfl (by simp)
  case roleNotifyHeld r => exact hmove (s.unlock _) _ rfl rfl rfl (by simp)
  case roleUnlock => exact hmove (s.unlock _) _ rfl rfl rfl (by simp)
  case callbackUnlock => exact hmove (s.unlock _) _ rfl rfl rfl (by simp)

/-- The worker touches neither the flags nor the callback. -/
theorem told_workerStep {s : Threads} (h : s.Told) (answer : Bool) :
    (s.workerStep answer).Told := by
  cases hw : s.worker <;> simp only [workerStep, hw]
  case absent => exact h
  case exited => exact h
  case epollWait =>
    split_ifs
    · exact h
    · exact h.congr rfl rfl rfl rfl
  case fields l =>
    rcases l with - | ⟨f, l⟩
    · exact h.congr rfl rfl rfl rfl
    · cases f <;> exact h.congr rfl rfl rfl rfl
  case tryRole =>
    unfold lock
    split_ifs <;> exact h.congr rfl rfl rfl rfl
  all_goals first
    | exact h.congr rfl rfl rfl rfl
    | (unfold lock; split_ifs; exacts [h.congr rfl rfl rfl rfl, h])

/-- The handler runs in a worker that is being ended. -/
theorem told_signalStep {s : Threads} (h : s.Told) (hs : s.Sound) : s.signalStep.Told := by
  unfold signalStep
  by_cases hp : s.pending ∧ s.worker.Alive
  · rw [if_pos hp]
    have hoff : s.mCallback = false := by
      cases hc : s.mCallback with
      | false => rfl
      | true => exact absurd hp.2 (hs.attended.create (h.signal hc hp.1)).1
    exact ⟨fun _ => hoff, fun hc => absurd (hoff.symm.trans hc) Bool.false_ne_true,
      fun hc => absurd (hoff.symm.trans hc) Bool.false_ne_true⟩
  · rw [if_neg hp]
    exact h

theorem told_step {s : Threads} (h : s.Told) (hs : s.Sound) (e : Event) : (s.step e).Told := by
  cases e with
  | call c =>
    simp only [step]
    split_ifs with hidle
    · exact h.move rfl rfl rfl (by simp [hidle]) (by cases c <;> simp [setBinder, Call.entry])
    · exact h
  | binder answer => exact told_binderStep h answer
  | worker answer => exact told_workerStep h answer
  | uevent fields =>
    simp only [step]
    split_ifs
    · exact h.congr rfl rfl rfl rfl
    · exact h
  | signal => exact told_signalStep h hs
  | updatePortStatus =>
    simp only [step]
    split_ifs
    · exact h.congr rfl rfl rfl rfl
    · exact h
  | monitor =>
    simp only [step, monitorStep]
    cases s.monitor with
    | idle => exact h
    | queryLock => simp only [lock]; split_ifs; exacts [h.congr rfl rfl rfl rfl, h]
    | queryHeld => exact h.congr rfl rfl rfl rfl

theorem told_run (es : List Event) :
    (Runs.run step initial es).Sound ∧ (Runs.run step initial es).Told := by
  refine Runs.run_invariant (I := fun s => s.Sound ∧ s.Told)
    (fun s e h => ⟨sound_step s e h.1, told_step h.2 h.1 e⟩) ⟨sound_initial, ?_⟩ es
  exact ⟨fun _ => rfl, fun _ => rfl, fun hc => absurd hc Bool.false_ne_true⟩

/-- **The worker lives with its callback**, in every state of every run. -/
theorem tended_always (es : List Event) : Runs.Always step Tended initial es := by
  intro pre _
  obtain ⟨hs, ht⟩ := told_run pre
  refine ⟨fun hb => (hs.attended.create hb).1, fun ha => ?_, fun ha hc => ⟨ht.flag hc, ?_⟩⟩
  · by_contra hn
    simp only [not_or] at hn
    exact hs.attended.rest (Bool.eq_false_iff.2 hn.1) hn.2.1 hn.2.2 ha
  · cases hp : (Runs.run step initial pre).pending with
    | false => rfl
    | true => exact absurd ha (hs.attended.create (ht.signal hc hp)).1

/-! ### The worker while it is joined -/

/-- `setCallback(NULL)` joins the worker. -/
structure Joining (s : Threads) : Prop where
  sound : s.Sound
  binder : s.binder = .callbackJoin

theorem Joining.step {s : Threads} (h : s.Joining) {e : Event} (he : e.Goes) :
    (s.step e).Joining := by
  refine ⟨sound_step s e h.sound, ?_⟩
  cases e with
  | signal => exact (kept_step s (e := .signal) trivial).binder.trans h.binder
  | worker answer => exact (workerStep_keeps s answer).2.1.trans h.binder
  | _ => exact he.elim

theorem Joining.worker {s : Threads} (h : s.Joining) : (s.workerStep true).Joining :=
  h.step (e := .worker true) rfl

theorem Joining.owner {s : Threads} (h : s.Joining) : s.owner .mLock = some .binder := by
  rw [h.sound.guarded .mLock .binder]
  show s.binder.Holds .mLock
  rw [h.binder]
  rfl

/-- The worker need not wait for the binder thread to give `mPartnerLock` up. -/
structure Apart (s : Threads) : Prop where
  sound : s.Sound
  binder : ¬ s.binder.Holds .mPartnerLock

theorem Joining.apart {s : Threads} (h : s.Joining) : s.Apart := by
  refine ⟨h.sound, ?_⟩
  rw [h.binder]
  nofun

theorem Apart.worker {s : Threads} (h : s.Apart) : (s.workerStep true).Apart := by
  refine ⟨sound_step s (.worker true) h.sound, ?_⟩
  rw [(workerStep_keeps s true).2.1]
  exact h.binder

/-- Nobody holds `mPartnerLock` but the worker. -/
theorem Apart.free {s : Threads} (h : s.Apart) (hw : ¬ s.worker.Holds .mPartnerLock) :
    s.owner .mPartnerLock = none := by
  cases ho : s.owner .mPartnerLock with
  | none => rfl
  | some t =>
    have hholds : s.Holds t .mPartnerLock := (h.sound.guarded .mPartnerLock t).1 ho
    cases t with
    | binder => exact absurd hholds h.binder
    | worker => exact absurd hholds hw
    | monitor =>
      have hm : s.monitor.Holds .mPartnerLock := hholds
      cases hs : s.monitor <;> rw [hs] at hm
      case queryHeld => cases hm
      all_goals exact hm.elim

/-- The binder thread holds `mLock` meanwhile. -/
theorem Joining.not_queryHeld {s : Threads} (h : s.Joining) : s.worker ≠ .queryHeld := by
  intro hw
  have hholds : s.Holds .worker .mLock := by
    show s.worker.Holds .mLock
    rw [hw]
    rfl
  have howner := (h.sound.guarded .mLock .worker).2 hholds
  rw [h.owner] at howner
  cases howner

/-- The binder thread, the callback and the flags are as they were. -/
structure Aside (s s' : Threads) : Prop where
  binder : s'.binder = s.binder
  mCallback : s'.mCallback = s.mCallback
  destroyThread : s'.destroyThread = s.destroyThread
  pending : s'.pending = s.pending

theorem Aside.trans {s₁ s₂ s₃ : Threads} (h : s₁.Aside s₂) (h' : s₂.Aside s₃) : s₁.Aside s₃ :=
  ⟨h'.binder.trans h.binder, h'.mCallback.trans h.mCallback,
    h'.destroyThread.trans h.destroyThread, h'.pending.trans h.pending⟩

theorem aside_workerStep (s : Threads) (answer : Bool) : s.Aside (s.workerStep answer) := by
  obtain ⟨hcb, hb, -⟩ := workerStep_keeps s answer
  refine ⟨hb, hcb, ?_, ?_⟩
  all_goals
    cases hw : s.worker <;> simp only [workerStep, hw]
    case fields l =>
      rcases l with - | ⟨f, l⟩
      · rfl
      · cases f <;> rfl
    case epollWait => split_ifs <;> rfl
    case tryRole => unfold lock; split_ifs <;> rfl
    all_goals first
      | rfl
      | (unfold lock; split_ifs <;> rfl)

/-- The monitor's thread leaves the worker alone, too. -/
theorem aside_monitorStep (s : Threads) :
    s.Aside s.monitorStep ∧ s.monitorStep.worker = s.worker := by
  unfold monitorStep lock
  cases s.monitor with
  | idle => exact ⟨⟨rfl, rfl, rfl, rfl⟩, rfl⟩
  | queryLock =>
    dsimp only
    split_ifs <;> exact ⟨⟨rfl, rfl, rfl, rfl⟩, rfl⟩
  | queryHeld => exact ⟨⟨rfl, rfl, rfl, rfl⟩, rfl⟩

theorem Joining.aside {s s' : Threads} (h : s.Joining) (hs : s'.Sound) (haside : s.Aside s') :
    s'.Joining := ⟨hs, haside.binder.trans h.binder⟩

/-- The worker goes on, and leaves the rest alone. -/
theorem leads_keeps {s : Threads} (h : s.Sound) {Q : Threads → Prop}
    (hl : Leads step (.worker true) s Q) : Leads step (.worker true) s fun s' =>
      Q s' ∧ s'.Sound ∧ s.Aside s' := by
  obtain ⟨n, hn⟩ := hl
  refine ⟨n, hn, ?_⟩
  clear hn
  induction n generalizing s with
  | zero => exact ⟨h, rfl, rfl, rfl, rfl⟩
  | succ n ih =>
    obtain ⟨hs, haside⟩ := ih (sound_step s (.worker true) h)
    exact ⟨hs, (aside_workerStep s true).trans haside⟩

/-! ### The fields of a message -/

/-- From the fields `l` the worker gets to a state of which `Q` holds. -/
def Passes (Q : Threads → Prop) (l : List Field) : Prop :=
  ∀ s : Threads, s.Apart → s.worker = .fields l → Leads step (.worker true) s Q

section Fields

variable {Q : Threads → Prop} {l : List Field} {s : Threads}

theorem Passes.held (h : Passes Q l) (ha : s.Apart) (hw : s.worker = .partnerHeld l) :
    Leads step (.worker true) s Q := by
  refine Leads.next (h _ ha.worker ?_)
  simp only [step, workerStep, hw, setWorker]

theorem Passes.lock (h : Passes Q l) (ha : s.Apart) (hw : s.worker = .partnerLock l) :
    Leads step (.worker true) s Q := by
  have hfree : s.owner .mPartnerLock = none := ha.free (by rw [hw]; exact id)
  refine Leads.next (h.held ha.worker ?_)
  simp only [step, workerStep, hw, Threads.lock, if_pos hfree, setWorker]

/-- A field of a partner, or of no interest, is passed. -/
theorem Passes.cons (h : Passes Q l) {f : Field} (hf : f ≠ .port) : Passes Q (f :: l) := by
  intro s ha hw
  cases f with
  | port => exact absurd rfl hf
  | partnerAdded =>
    refine Leads.next (h.lock ha.worker ?_)
    simp only [step, workerStep, hw, setWorker]
  | other =>
    refine Leads.next (h _ ha.worker ?_)
    simp only [step, workerStep, hw, setWorker]

/-- Without a port field the worker gets to the test. -/
theorem passes_check (hl : Field.port ∉ l) : Passes (fun s => s.worker = .check) l := by
  induction l with
  | nil =>
    intro s ha hw
    refine Leads.next (.here ?_)
    simp only [step, workerStep, hw, setWorker]
  | cons f l ih =>
    exact (ih fun hf => hl (.tail f hf)).cons fun hf => hl (hf ▸ .head l)

/-- The first port field makes it query. -/
theorem passes_query (hl : Field.port ∈ l) : Passes (fun s => s.worker = .queryLock) l := by
  induction l with
  | nil => cases hl
  | cons f l ih =>
    by_cases hf : f = .port
    · intro s ha hw
      refine Leads.next (.here ?_)
      simp only [step, workerStep, hw, hf, setWorker]
    · exact (ih ((List.mem_cons.1 hl).resolve_left fun hp => hf hp.symm)).cons hf

/-- A worker that asks gets to the query. -/
theorem leads_query (ha : s.Apart) (hasks : s.worker.Asks) (hne : s.worker ≠ .queryHeld) :
    Leads step (.worker true) s fun s' => s'.worker = .queryLock := by
  cases hw : s.worker <;> rw [hw] at hasks
  case fields l => exact passes_query hasks s ha hw
  case partnerLock l => exact (passes_query hasks).lock ha hw
  case partnerHeld l => exact (passes_query hasks).held ha hw
  case queryLock => exact .here hw
  case queryHeld => exact absurd hw hne
  all_goals exact hasks.elim

/-- A worker that runs outside `epoll_wait`, and does not ask, gets to the test. -/
theorem leads_check (ha : s.Apart) (halive : s.worker.Alive) (hasks : ¬ s.worker.Asks)
    (hepoll : s.worker ≠ .enter ∧ s.worker ≠ .epollWait) :
    Leads step (.worker true) s fun s' => s'.worker = .check := by
  have hrole : ∀ s : Threads, s.worker = .roleHeld →
      Leads step (.worker true) s fun s' => s'.worker = .check := by
    intro s hw
    refine Leads.next (.here ?_)
    simp only [step, workerStep, hw, setWorker]
  cases hw : s.worker <;> rw [hw] at hasks
  case absent => exact absurd hw halive.1
  case exited => exact absurd hw halive.2
  case enter => exact absurd hw hepoll.1
  case epollWait => exact absurd hw hepoll.2
  case check => exact .here hw
  case start =>
    refine Leads.next (.here ?_)
    simp only [step, workerStep, hw, setWorker, if_true]
  case fields l => exact passes_check hasks s ha hw
  case partnerLock l => exact (passes_check hasks).lock ha hw
  case partnerHeld l => exact (passes_check hasks).held ha hw
  case queryLock => exact absurd trivial hasks
  case queryHeld => exact absurd trivial hasks
  case roleHeld => exact hrole s hw
  case tryRole =>
    by_cases hfree : s.owner .mRoleSwitchLock = none
    · refine Leads.next (hrole _ ?_)
      simp only [step, workerStep, hw, if_pos hfree, Threads.lock, setWorker]
    · refine Leads.next (.here ?_)
      simp only [step, workerStep, hw, if_neg hfree, setWorker]

end Fields

/-! ### Whether `setCallback(NULL)` returns -/

section Returns

variable {s : Threads}

theorem can_of_leads {Q : Threads → Prop} (h : Leads step (.worker true) s Q) :
    Can step Event.Goes s Q := Can.of_leads (show Event.Goes (.worker true) from rfl) h

/-- The worker waits, for `mLock` or for a uevent, and no signal is to come. -/
structure Waits (s : Threads) : Prop where
  joining : s.Joining
  worker : s.worker = .queryLock ∨ (s.worker = .epollWait ∧ s.pending = false)

theorem waits_step (s : Threads) (e : Event) (h : s.Waits) (he : e.Goes) : (s.step e).Waits := by
  refine ⟨h.joining.step he, ?_⟩
  cases e with
  | signal =>
    obtain hw | ⟨hw, hp⟩ := h.worker
    · refine .inl ?_
      simp only [step, signalStep, hw, reduceCtorEq, if_false]
      split_ifs
      · rfl
      · exact hw
    · refine .inr ?_
      simp only [step, signalStep, hp, Bool.false_eq_true, false_and, if_false]
      exact ⟨hw, trivial⟩
  | worker answer =>
    obtain rfl : answer = true := he
    obtain hw | ⟨hw, hp⟩ := h.worker
    · refine .inl ?_
      simp only [step, workerStep, hw, lock, h.joining.owner, reduceCtorEq, if_false]
    · refine .inr ?_
      simp only [step, workerStep, hw, if_true]
      exact ⟨trivial, hp⟩
  | _ => exact he.elim

/-- A worker that waits does not end. -/
theorem not_returns_of_can (h : Can step Event.Goes s Waits) : ¬ s.Returns := by
  rintro hr
  obtain ⟨es, hes, hw⟩ := h
  obtain ⟨fs, hfs, hdead⟩ := hr es hes
  obtain hq | ⟨hq, -⟩ := (Runs.kept_of_allowed waits_step hw hfs).worker
  · exact hdead (by simp [hq, Worker.Alive])
  · exact hdead (by simp [hq, Worker.Alive])

/-- The worker is on its way out, or has left. -/
structure Leaves (s : Threads) : Prop where
  joining : s.Joining
  worker : s.worker.Alive → ¬ s.worker.Asks ∧ s.Heard

theorem heard_of_ne (hw : s.worker ≠ .epollWait) :
    s.Heard ↔ s.destroyThread = true ∧ s.worker ≠ .enter := by
  rw [Heard, if_neg hw]

theorem heard_epollWait (hw : s.worker = .epollWait) : s.Heard ↔ s.pending = true := by
  rw [Heard, if_pos hw]

/-- The worker goes on to `w`, told to stop. -/
theorem Leaves.of_told (hj : s.Joining) (hflag : s.destroyThread = true) (hasks : ¬ s.worker.Asks)
    (hepoll : s.worker ≠ .enter ∧ s.worker ≠ .epollWait) : s.Leaves :=
  ⟨hj, fun _ => ⟨hasks, (heard_of_ne hepoll.2).2 ⟨hflag, hepoll.1⟩⟩⟩

theorem leaves_worker (h : s.Leaves) : (s.workerStep true).Leaves := by
  by_cases halive : s.worker.Alive
  swap
  · exact ⟨h.joining.worker, fun ha => absurd ((workerStep_keeps s true).2.2 ha) halive⟩
  obtain ⟨hasks, hheard⟩ := h.worker halive
  by_cases hepoll : s.worker = .epollWait
  · have hstep : s.workerStep true = s := by simp only [workerStep, hepoll, if_true]
    rw [hstep]
    exact h
  obtain ⟨hflag, henter⟩ := (heard_of_ne hepoll).1 hheard
  have hj := h.joining.worker
  have hflag' : (s.workerStep true).destroyThread = true :=
    (aside_workerStep s true).destroyThread.trans hflag
  have hto : ∀ w, (s.workerStep true).worker = w → ¬ w.Asks → w ≠ .enter ∧ w ≠ .epollWait →
      (s.workerStep true).Leaves := fun w hw ha hne =>
    .of_told hj hflag' (hw ▸ ha) (hw ▸ hne)
  cases hw : s.worker <;> rw [hw] at hasks
  case absent => exact absurd hw halive.1
  case exited => exact absurd hw halive.2
  case enter => exact absurd hw henter
  case epollWait => exact absurd hw hepoll
  case start => exact hto .check (by simp [workerStep, hw, setWorker]) id (by simp)
  case check => exact hto .exited (by simp [workerStep, hw, setWorker, hflag]) id (by simp)
  case queryLock => exact absurd trivial hasks
  case queryHeld => exact absurd trivial hasks
  case roleHeld => exact hto .check (by simp [workerStep, hw, setWorker]) id (by simp)
  case tryRole =>
    by_cases hfree : s.owner .mRoleSwitchLock = none
    · exact hto .roleHeld (by simp [workerStep, hw, hfree, lock, setWorker]) id (by simp)
    · exact hto .check (by simp [workerStep, hw, hfree, setWorker]) id (by simp)
  case partnerLock l =>
    have hfree : s.owner .mPartnerLock = none := h.joining.apart.free (by rw [hw]; exact id)
    exact hto (.partnerHeld l) (by simp [workerStep, hw, hfree, lock, setWorker]) hasks
      (by simp)
  case partnerHeld l =>
    exact hto (.fields l) (by simp [workerStep, hw, setWorker]) hasks (by simp)
  case fields l =>
    rcases l with - | ⟨f, l⟩
    · exact hto .check (by simp [workerStep, hw, setWorker]) id (by simp)
    · have hrest : Field.port ∉ l := fun hp => hasks (.tail f hp)
      cases f with
      | port => exact absurd (.head l) hasks
      | partnerAdded =>
        exact hto (.partnerLock l) (by simp [workerStep, hw, setWorker]) hrest (by simp)
      | other => exact hto (.fields l) (by simp [workerStep, hw, setWorker]) hrest (by simp)

theorem leaves_signal (h : s.Leaves) : s.signalStep.Leaves := by
  have hj : s.signalStep.Joining := h.joining.step (e := .signal) trivial
  by_cases hp : s.pending ∧ s.worker.Alive
  swap
  · rw [signalStep, if_neg hp]
    exact h
  obtain ⟨hasks, hheard⟩ := h.worker hp.2
  rw [signalStep, if_pos hp] at hj ⊢
  by_cases hepoll : s.worker = .epollWait
  · rw [if_pos hepoll] at hj ⊢
    exact .of_told hj rfl id (by simp [setWorker])
  · rw [if_neg hepoll] at hj ⊢
    exact .of_told hj rfl hasks ⟨((heard_of_ne hepoll).1 hheard).2, hepoll⟩

theorem leaves_step (s : Threads) (e : Event) (h : s.Leaves) (he : e.Goes) : (s.step e).Leaves := by
  cases e with
  | signal => exact leaves_signal h
  | worker answer =>
    obtain rfl : answer = true := he
    exact leaves_worker h
  | _ => exact he.elim

/-- At the test, told to stop, the worker ends. -/
theorem can_end_of_check (hw : s.worker = .check) (hflag : s.destroyThread = true) :
    Can step Event.Goes s fun s' => ¬ s'.worker.Alive := by
  refine .next (e := .worker true) rfl (.here ?_)
  simp [step, workerStep, hw, hflag, setWorker, Worker.Alive]

theorem Leaves.can_end (h : s.Leaves) : Can step Event.Goes s fun s' => ¬ s'.worker.Alive := by
  by_cases halive : s.worker.Alive
  swap
  · exact .here halive
  obtain ⟨hasks, hheard⟩ := h.worker halive
  by_cases hepoll : s.worker = .epollWait
  · have hp : s.pending = true := (heard_epollWait hepoll).1 hheard
    have hsignal : Can step Event.Goes s fun s' =>
        s'.worker = .check ∧ s'.destroyThread = true := by
      refine .next (e := .signal) trivial (.here ?_)
      show s.signalStep.worker = .check ∧ s.signalStep.destroyThread = true
      rw [signalStep, if_pos ⟨hp, halive⟩, if_pos hepoll]
      exact ⟨rfl, rfl⟩
    exact hsignal.trans fun s' hs' => can_end_of_check hs'.1 hs'.2
  · obtain ⟨hflag, henter⟩ := (heard_of_ne hepoll).1 hheard
    have hcheck := leads_keeps h.joining.sound
      (leads_check h.joining.apart halive hasks ⟨henter, hepoll⟩)
    exact (can_of_leads hcheck).trans fun s' hs' =>
      can_end_of_check hs'.1 (hs'.2.2.destroyThread.trans hflag)

/-- Past the test, the worker may get the signal before `epoll_wait`, which then waits. -/
theorem can_wait_of_enter (hj : s.Joining) (hw : s.worker = .enter) :
    Can step Event.Goes s Waits := by
  have hjs : s.signalStep.Joining := hj.step (e := .signal) trivial
  have hsignal : s.signalStep.worker = .enter ∧ s.signalStep.pending = false := by
    have halive : s.worker.Alive := by simp [hw, Worker.Alive]
    have hne : s.worker ≠ .epollWait := by simp [hw]
    by_cases hp : s.pending = true
    · rw [signalStep, if_pos ⟨hp, halive⟩, if_neg hne]
      exact ⟨hw, rfl⟩
    · rw [signalStep, if_neg fun ha => hp ha.1]
      exact ⟨hw, Bool.eq_false_iff.2 hp⟩
  refine .next (e := .signal) trivial (.next (e := .worker true) rfl (.here ⟨hjs.worker, .inr ?_⟩))
  simp only [step, workerStep, hsignal.1, setWorker]
  exact ⟨trivial, hsignal.2⟩

/-- A worker that is not on its way out may come to wait. -/
theorem can_wait (hj : s.Joining) (halive : s.worker.Alive)
    (h : s.worker.Asks ∨ ¬ s.Heard) : Can step Event.Goes s Waits := by
  by_cases hasks : s.worker.Asks
  · have hquery := leads_keeps hj.sound (leads_query hj.apart hasks hj.not_queryHeld)
    exact (can_of_leads hquery).trans fun s' hs' =>
      .here ⟨hj.aside hs'.2.1 hs'.2.2, .inl hs'.1⟩
  have hheard : ¬ s.Heard := h.resolve_left hasks
  by_cases hepoll : s.worker = .epollWait
  · rw [heard_epollWait hepoll] at hheard
    exact .here ⟨hj, .inr ⟨hepoll, Bool.eq_false_iff.2 hheard⟩⟩
  rw [heard_of_ne hepoll] at hheard
  by_cases henter : s.worker = .enter
  · exact can_wait_of_enter hj henter
  have hflag : s.destroyThread = false := by
    rw [← Bool.not_eq_true]
    exact fun hf => hheard ⟨hf, henter⟩
  have hcheck := leads_keeps hj.sound (leads_check hj.apart halive hasks ⟨henter, hepoll⟩)
  have hlate : Can step Event.Goes s fun s' => s'.Joining ∧ s'.worker = .enter := by
    refine (can_of_leads hcheck).trans fun s' hs' => ?_
    refine .next (e := .worker true) rfl (.here ⟨(hj.aside hs'.2.1 hs'.2.2).worker, ?_⟩)
    simp [step, workerStep, hs'.1, hs'.2.2.destroyThread, hflag, setWorker]
  exact hlate.trans fun s' hs' => can_wait_of_enter hs'.1 hs'.2

end Returns

/-- **`setCallback(NULL)` is certain to return**, whatever the order of the threads' steps, if and
only if the worker asks for nothing more and has heard the signal in time. -/
theorem returns_iff {s : Threads} (es : List Event) (hs : Runs.run step initial es = s)
    (h : s.binder = .callbackJoin) :
    s.Returns ↔ (s.worker.Alive → ¬ s.worker.Asks ∧ s.Heard) := by
  have hj : s.Joining := ⟨hs ▸ sound_run es, h⟩
  constructor
  · intro hr halive
    by_contra hn
    refine not_returns_of_can (can_wait hj halive ?_) hr
    by_cases hasks : s.worker.Asks
    · exact .inl hasks
    · exact .inr fun hheard => hn ⟨hasks, hheard⟩
  · intro hw es hes
    exact (Runs.kept_of_allowed leaves_step ⟨hj, hw⟩ hes).can_end

/-- The callback is taken back when the worker is past the test. -/
def lateSignal : List Event :=
  [.call (.setCallback true), .binder true, .binder true, .binder true, .binder true, .worker true,
    .worker true, .call (.setCallback false), .binder true, .binder true, .binder true]

/-- The signal may come before `epoll_wait`, and `setCallback(NULL)` then waits for a uevent. -/
theorem lateSignal_not_returns : ¬ (Runs.run step initial lateSignal).Returns := by
  intro hr
  have hheard := ((returns_iff lateSignal rfl (by decide)).1 hr (by decide)).2
  exact ((heard_of_ne (by decide)).1 hheard).2 (by decide)

end Threads

end Usb

end Gs101
