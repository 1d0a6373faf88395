import Gs101.Monitor.HotPlug

/-!
# UsbDataSessionMonitor: which handler an event is for

`epoll_wait` fills `events` with the numbers of descriptors that are ready, and `monitorThread`
compares each of them with the numbers that the monitor holds by then.  A uevent that is handled
on the way may close a descriptor of the batch, and the kernel may give its number out again.

* `Source`: what a descriptor was opened for;
* `MonitorThread.step`: `epoll_wait`, and the body of the loop over `events`;
* `Routed`: the next event is handled as one of the file that was ready, or dropped because its
  port holds the descriptor no more;
* `Allowed`: what the kernel answers, and at most one `bind@` in a message;
* `routed_always`: so every event is routed, in every run;
* `twoBinds_not_routed`: with two of them in a message, one port's event can be handled as the
  other's.
-/

namespace Gs101

namespace Monitor

/-- What a descriptor in the epoll instance was opened for. -/
inductive Source
  | uevent
  | timer
  | dataRole
  | state (p : Port)
  deriving DecidableEq

/-- The descriptors that the constructor opens and that stay open. -/
structure FixedFds where
  mUeventFd : Fd
  mTimerFd : Fd
  mDataRoleFd : Fd
  distinct : [mUeventFd, mTimerFd, mDataRoleFd].Nodup

namespace FixedFds

def all (F : FixedFds) : List Fd := [F.mUeventFd, F.mTimerFd, F.mDataRoleFd]

/-- `open` answers none of these: they are in use. -/
def Spares (F : FixedFds) (openFile : Open) : Prop :=
  ∀ inUse n, openFile inUse = some n → n.val ∉ F.all

/-- What these were opened for; the others do not matter yet. -/
def source (F : FixedFds) (n : Fd) : Source :=
  if n = F.mTimerFd then .timer else if n = F.mDataRoleFd then .dataRole else .uevent

end FixedFds

/-- The comparisons of `monitorThread`, in their order. -/
def route (F : FixedFds) (s : StateFiles) (n : Fd) : Option Source :=
  if n = F.mUeventFd then some .uevent
  else if n = F.mTimerFd then some .timer
  else if n = F.mDataRoleFd then some .dataRole
  else if s.fd .device = some n then some (.state .device)
  else if s.fd .host1 = some n then some (.state .host1)
  else if s.fd .host2 = some n then some (.state .host2)
  else none

def Event.isBind : Event → Bool
  | .bind _ _ _ => true
  | _ => false

/-- A descriptor that is opened belongs to the port's file from then on. -/
def openedFor (p : Port) (openFile : Open) (s : StateFiles) (source : Fd → Source) :
    Fd → Source :=
  match openFile s.opened with
  | some n => Function.update source n.val (.state p)
  | none => source

end Monitor

/-- `monitorThread` between two events. -/
structure MonitorThread where
  system : System
  /-- What is left of `events`.  Ghost: the file that was ready. -/
  events : List (Monitor.Fd × Monitor.Source)
  /-- Ghost: what each descriptor was opened for. -/
  source : Monitor.Fd → Monitor.Source

namespace MonitorThread

open Monitor

inductive Event
  /-- `epoll_wait` returns these descriptors. -/
  | epollWait (ready : List Fd)
  /-- The next of `events`: the fields of the message, if it is the uevent socket, and what is
  read, if it is a file. -/
  | next (fields : List UeventField) (r : FileRead)

variable (P : Platform) (regexSearch : String → String → Bool) (c : Config) (F : FixedFds)

/-- The handler for a file. -/
def handlers (fields : List UeventField) (r : FileRead) : Source → List Monitor.Event
  | .uevent => handleUevent regexSearch c fields
  | .timer => [.timer]
  | .dataRole => [.dataRole r]
  | .state p => [.deviceState p r]

/-- What a handler does. -/
def act (t : MonitorThread) (e : Monitor.Event) : MonitorThread :=
  { t with
    system := t.system.step P e
    source := match e with
      | .bind p openFile _ => openedFor p.val openFile t.system.files t.source
      | _ => t.source }

/-- Handle the next event as one of this file. -/
def handle (t : MonitorThread) (fields : List UeventField) (r : FileRead) :
    Option Source → MonitorThread
  | some source => Runs.run (act P) t (handlers regexSearch c fields r source)
  | none => t

def step (t : MonitorThread) : Event → MonitorThread
  | .epollWait ready =>
      if t.events = [] then { t with events := ready.map fun n => (n, t.source n) } else t
  | .next fields r =>
      match t.events with
      | [] => t
      | (n, _) :: rest =>
          handle P regexSearch c { t with events := rest } fields r (route F t.system.files n)

/-- The state files after the constructor, and what their descriptors were opened for. -/
def constructFiles (openFile : Port → Open) (epollCtl : Port → Bool) :
    StateFiles × (Fd → Source) :=
  [Port.device, .host1, .host2].foldl
    (fun s p => (s.1.addEpollFile p (openFile p) (epollCtl p), openedFor p (openFile p) s.1 s.2))
    (StateFiles.empty, F.source)

/-- The thread when it starts. -/
def construct (mDataRole : PortDataRole) (udc : Option String) (openFile : Port → Open)
    (epollCtl : Port → Bool) : MonitorThread where
  system := ⟨Monitor.construct mDataRole udc, (constructFiles F openFile epollCtl).1⟩
  events := []
  source := (constructFiles F openFile epollCtl).2

/-! ### What is assumed, and what is promised -/

/-- `epoll_wait` returns descriptors that are registered, each once; a message binds one host port
at most, and no number that is in use is given out. -/
def Allowed (t : MonitorThread) : Event → Prop
  | .epollWait ready => ready.Nodup ∧ ∀ n ∈ ready, n ∈ F.all ∨ n ∈ t.system.files.registered
  | .next fields _ =>
      (handleUevent regexSearch c fields).countP Monitor.Event.isBind ≤ 1 ∧
        ∀ f ∈ fields, ∀ path, F.Spares (f.openFile path)

/-- The descriptor is still the one that its file is watched with. -/
def Current (s : StateFiles) (n : Fd) : Source → Prop
  | .state p => s.fd p = some n
  | _ => True

/-- The next event goes to the handler of the file that was ready, if the descriptor is current,
and to none otherwise. -/
def Routed (t : MonitorThread) : Prop :=
  ∀ n source rest, t.events = (n, source) :: rest → ∀ source',
    route F t.system.files n = some source' ↔ source' = source ∧ Current t.system.files n source

end MonitorThread

/-! ### The state files -/

namespace Monitor

open Ownership

/-- The kernel's side and the monitor's agree on what a descriptor is for. -/
structure Sound (F : FixedFds) (s : StateFiles) (source : Fd → Source) : Prop where
  distinct : Distinct s.fd
  held : ∀ p n, s.fd p = some n → n ∈ s.opened
  registered : s.registered ⊆ s.opened
  spared : ∀ n ∈ s.opened, n ∉ F.all
  slots : ∀ p n, s.fd p = some n → source n = .state p
  states : ∀ n ∈ s.opened, ∃ p, source n = .state p
  fixed : ∀ n ∈ F.all, source n = F.source n

variable {F : FixedFds} {s : StateFiles} {source : Fd → Source} {p : Port} {n m : Fd}

theorem assign_fd : (s.assign p n).fd = Function.update s.fd p (some n) := by
  unfold StateFiles.assign
  cases s.fd p <;> rfl

theorem mem_assign_opened :
    m ∈ (s.assign p n).opened ↔ m ∈ s.opened ∧ s.fd p ≠ some m := by
  unfold StateFiles.assign
  cases s.fd p with
  | none => simp
  | some old => simp [StateFiles.close, and_comm, eq_comm]

theorem mem_assign_registered :
    m ∈ (s.assign p n).registered ↔ m ∈ s.registered ∧ s.fd p ≠ some m := by
  unfold StateFiles.assign
  cases s.fd p with
  | none => simp
  | some old => simp [StateFiles.close, and_comm, eq_comm]

theorem removeEpollFile_fd (epollCtl : Bool) :
    (s.removeEpollFile p epollCtl).fd = Function.update s.fd p none := by
  cases epollCtl <;> cases hp : s.fd p <;> simp [StateFiles.removeEpollFile, hp]

theorem removeEpollFile_opened (epollCtl : Bool) :
    (s.removeEpollFile p epollCtl).opened = s.opened := by
  cases epollCtl <;> cases hp : s.fd p <;> simp [StateFiles.removeEpollFile, hp]

theorem removeEpollFile_registered (epollCtl : Bool) :
    (s.removeEpollFile p epollCtl).registered ⊆ s.registered := by
  cases epollCtl <;> cases hp : s.fd p <;>
    simp [StateFiles.removeEpollFile, hp, Finset.erase_subset]

/-- A descriptor that could not be registered is closed again. -/
theorem Sound.close (h : Sound F s source) (hn : n ∉ s.opened) :
    { s with opened := insert n s.opened }.close n = s := by
  have hr : n ∉ s.registered := fun hr => hn (h.registered hr)
  simp [StateFiles.close, Finset.erase_insert hn, Finset.erase_eq_of_notMem hr]

/-- A number that was not in use may be given to any port. -/
theorem Sound.relabel (h : Sound F s source) (hn : n ∉ s.opened) (hspared : n ∉ F.all) (p : Port) :
    Sound F s (Function.update source n (.state p)) := by
  have hold : ∀ m, m ≠ n → Function.update source n (.state p) m = source m := fun m hm =>
    Function.update_of_ne hm _ _
  have hopened : ∀ m ∈ s.opened, m ≠ n := fun m hm he => hn (he ▸ hm)
  refine ⟨h.distinct, h.held, h.registered, h.spared, fun q m hq => ?_, fun m hm => ?_,
    fun m hm => ?_⟩
  · rw [hold m (hopened m (h.held q m hq))]
    exact h.slots q m hq
  · rw [hold m (hopened m hm)]
    exact h.states m hm
  · rw [hold m fun he => hspared (he ▸ hm)]
    exact h.fixed m hm

theorem Sound.assign (h : Sound F s source) (hn : n ∉ s.opened) (hspared : n ∉ F.all) (p : Port) :
    Sound F ({ s with opened := insert n s.opened, registered := insert n s.registered }.assign p n)
      (Function.update source n (.state p)) := by
  have hslot : ∀ q, s.fd q ≠ some n := fun q hq => hn (h.held q n hq)
  have hlabel := h.relabel hn hspared p
  refine ⟨?_, fun q m hq => ?_, fun m hm => ?_, fun m hm => ?_, fun q m hq => ?_, fun m hm => ?_,
    hlabel.fixed⟩
  · rw [assign_fd]
    refine distinct_update_some h.distinct fun hheld => ?_
    obtain ⟨q, hq⟩ := mem_held.1 hheld
    exact hslot q hq
  · rw [assign_fd] at hq
    rw [mem_assign_opened]
    by_cases hqp : q = p
    · subst hqp
      rw [Function.update_self] at hq
      cases hq
      exact ⟨Finset.mem_insert_self _ _, hslot q⟩
    · rw [Function.update_of_ne hqp] at hq
      refine ⟨Finset.mem_insert_of_mem (h.held q m hq), fun hp => ?_⟩
      exact hqp (h.distinct q p m hq hp)
  · obtain ⟨hm, hp⟩ := mem_assign_registered.1 hm
    exact mem_assign_opened.2 ⟨Finset.insert_subset_insert n h.registered hm, hp⟩
  · rcases Finset.mem_insert.1 (mem_assign_opened.1 hm).1 with rfl | hm
    · exact hspared
    · exact h.spared m hm
  · rw [assign_fd] at hq
    by_cases hqp : q = p
    · subst hqp
      rw [Function.update_self] at hq
      cases hq
      exact Function.update_self ..
    · rw [Function.update_of_ne hqp] at hq
      exact hlabel.slots q m hq
  · rcases Finset.mem_insert.1 (mem_assign_opened.1 hm).1 with rfl | hm
    · exact ⟨p, Function.update_self ..⟩
    · exact hlabel.states m hm

theorem Sound.addEpollFile (h : Sound F s source) {openFile : Open} (ho : F.Spares openFile)
    (p : Port) (epollCtl : Bool) :
    Sound F (s.addEpollFile p openFile epollCtl) (openedFor p openFile s source) := by
  unfold StateFiles.addEpollFile openedFor
  cases hopen : openFile s.opened with
  | none => exact h
  | some fd =>
    obtain ⟨n, hn⟩ := fd
    have hspared : n ∉ F.all := ho _ _ hopen
    cases epollCtl with
    | true => exact h.assign hn hspared p
    | false =>
      dsimp only
      rw [if_neg Bool.false_ne_true, h.close hn]
      exact h.relabel hn hspared p

theorem Sound.removeEpollFile (h : Sound F s source) (p : Port) (epollCtl : Bool) :
    Sound F (s.removeEpollFile p epollCtl) source := by
  have hfd : ∀ q m, (s.removeEpollFile p epollCtl).fd q = some m → s.fd q = some m := by
    intro q m hq
    rw [removeEpollFile_fd] at hq
    by_cases hqp : q = p
    · rw [hqp, Function.update_self] at hq
      cases hq
    · rwa [Function.update_of_ne hqp] at hq
  have hopened := removeEpollFile_opened (s := s) (p := p) epollCtl
  refine ⟨fun q q' m hq hq' => h.distinct q q' m (hfd q m hq) (hfd q' m hq'), fun q m hq => ?_,
    ?_, fun m hm => h.spared m (hopened ▸ hm), fun q m hq => h.slots q m (hfd q m hq),
    fun m hm => h.states m (hopened ▸ hm), h.fixed⟩
  · rw [hopened]
    exact h.held q m (hfd q m hq)
  · rw [hopened]
    exact (removeEpollFile_registered epollCtl).trans h.registered

/-- `open` answers no number that is in use. -/
def Event.Spared (F : FixedFds) : Event → Prop
  | .bind _ openFile _ => F.Spares openFile
  | _ => True

end Monitor

namespace MonitorThread

open Monitor

variable {P : Platform} {regexSearch : String → String → Bool} {c : Config} {F : FixedFds}
  {t : MonitorThread} {e : Monitor.Event} {es : List Monitor.Event} {p : Port} {n : Fd}

/-! ### What a handler does to the state files -/

theorem sound_act (h : Sound F t.system.files t.source) (he : e.Spared F) :
    Sound F (act P t e).system.files (act P t e).source := by
  cases e with
  | bind p openFile epollCtl => exact h.addEpollFile he p.val epollCtl
  | unbind p epollCtl => exact h.removeEpollFile p.val epollCtl
  | _ => exact h

/-- Only a bind gives a descriptor to a port, or closes one. -/
theorem act_of_not_bind (he : e.isBind = false) :
    (act P t e).system.files.opened = t.system.files.opened ∧
      ∀ p n, (act P t e).system.files.fd p = some n → t.system.files.fd p = some n := by
  cases e with
  | bind p openFile epollCtl => cases he
  | unbind q epollCtl =>
    refine ⟨removeEpollFile_opened epollCtl, fun p n hp => ?_⟩
    have hp' : (t.system.files.removeEpollFile q.val epollCtl).fd p = some n := hp
    rw [removeEpollFile_fd] at hp'
    by_cases hpq : p = q.val
    · rw [hpq, Function.update_self] at hp'
      cases hp'
    · rwa [Function.update_of_ne hpq] at hp'
  | _ => exact ⟨rfl, fun _ _ hp => hp⟩

/-- What a bind gives to a port was not open. -/
theorem fd_act (hn : n ∈ t.system.files.opened)
    (hp : (act P t e).system.files.fd p = some n) : t.system.files.fd p = some n := by
  cases e with
  | bind q openFile epollCtl =>
    have hp' : (t.system.files.addEpollFile q.val openFile epollCtl).fd p = some n := hp
    unfold StateFiles.addEpollFile at hp'
    cases hopen : openFile t.system.files.opened with
    | none => rwa [hopen] at hp'
    | some fd =>
      obtain ⟨m, hm⟩ := fd
      rw [hopen] at hp'
      cases epollCtl with
      | false => exact hp'
      | true =>
        dsimp only at hp'
        rw [if_pos rfl, assign_fd] at hp'
        by_cases hpq : p = q.val
        · rw [hpq, Function.update_self] at hp'
          cases hp'
          exact absurd hn hm
        · rwa [Function.update_of_ne hpq] at hp'
  | _ => exact (act_of_not_bind rfl).2 p n hp

theorem sound_run (h : Sound F t.system.files t.source) (hes : ∀ e ∈ es, e.Spared F) :
    Sound F (Runs.run (act P) t es).system.files (Runs.run (act P) t es).source := by
  induction es generalizing t with
  | nil => exact h
  | cons e es ih =>
    obtain ⟨he, hes⟩ := List.forall_mem_cons.1 hes
    exact ih (sound_act h he) hes

theorem run_of_not_bind (hes : ∀ e ∈ es, e.isBind = false) :
    (Runs.run (act P) t es).system.files.opened = t.system.files.opened ∧
      ∀ p n, (Runs.run (act P) t es).system.files.fd p = some n →
        t.system.files.fd p = some n := by
  induction es generalizing t with
  | nil => exact ⟨rfl, fun _ _ hp => hp⟩
  | cons e es ih =>
    obtain ⟨he, hes⟩ := List.forall_mem_cons.1 hes
    obtain ⟨hopened, hfd⟩ := ih (t := act P t e) hes
    obtain ⟨hopened', hfd'⟩ := act_of_not_bind (P := P) (t := t) he
    exact ⟨hopened.trans hopened', fun p n hp => hfd' p n (hfd p n hp)⟩

/-- With one bind, no port gets a descriptor that was open: a bind opens its descriptor before it
closes another. -/
theorem fd_run (hbind : es.countP Event.isBind ≤ 1) (hn : n ∈ t.system.files.opened)
    (hp : (Runs.run (act P) t es).system.files.fd p = some n) :
    t.system.files.fd p = some n := by
  induction es generalizing t with
  | nil => exact hp
  | cons e es ih =>
    cases he : e.isBind with
    | true =>
      rw [List.countP_cons_of_pos he] at hbind
      have hzero : es.countP Event.isBind = 0 := by omega
      have hrest : ∀ e ∈ es, e.isBind = false := fun e hmem => by
        simpa using List.countP_eq_zero.1 hzero e hmem
      exact fd_act (P := P) hn ((run_of_not_bind hrest).2 p n hp)
    | false =>
      rw [List.countP_cons_of_neg (by simp [he])] at hbind
      obtain ⟨hopened, hfd⟩ := act_of_not_bind (P := P) (t := t) he
      exact hfd p n (ih (t := act P t e) hbind (hopened ▸ hn) hp)

/-- A handler leaves the rest of `events` alone. -/
theorem events_run : (Runs.run (act P) t es).events = t.events := by
  induction es generalizing t with
  | nil => rfl
  | cons e es ih => exact ih (t := act P t e)

/-! ### The handlers -/

theorem spared_hostFieldEvents {f : UeventField} (h : ∀ path, F.Spares (f.openFile path))
    (p : HostPort) : ∀ e ∈ hostFieldEvents regexSearch c f p, e.Spared F := by
  intro e he
  unfold hostFieldEvents at he
  split_ifs at he
  · rw [List.mem_singleton.1 he]
    exact h _
  · rw [List.mem_singleton.1 he]
    trivial
  · cases he
  · cases he

theorem spared_deviceFieldEvents (f : UeventField) :
    ∀ e ∈ deviceFieldEvents regexSearch c f, e.Spared F := by
  intro e he
  unfold deviceFieldEvents at he
  split_ifs at he
  · rw [List.mem_singleton.1 he]
    trivial
  · cases he
  · cases he

theorem spared_handleUevent {fields : List UeventField}
    (h : ∀ f ∈ fields, ∀ path, F.Spares (f.openFile path)) :
    ∀ e ∈ handleUevent regexSearch c fields, e.Spared F := by
  unfold handleUevent
  split_ifs
  · exact List.forall_mem_nil _
  · intro e he
    obtain ⟨f, hf, he⟩ := List.mem_flatMap.1 he
    unfold fieldEvents at he
    rw [List.mem_append, List.mem_append] at he
    rcases he with (he | he) | he
    · exact spared_hostFieldEvents (h f hf) _ e he
    · exact spared_hostFieldEvents (h f hf) _ e he
    · exact spared_deviceFieldEvents f e he

/-- Only the uevent handler opens and closes files. -/
theorem handlers_not_bind (regexSearch : String → String → Bool) (c : Config) (F : FixedFds)
    (fields : List UeventField) (r : FileRead) {source : Source} (h : source ≠ .uevent) :
    ∀ e ∈ handlers regexSearch c fields r source, e.isBind = false ∧ e.Spared F := by
  cases source with
  | uevent => exact absurd rfl h
  | _ =>
    intro e he
    rw [List.mem_singleton.1 he]
    exact ⟨rfl, trivial⟩

/-! ### The comparisons -/

theorem mem_all : n ∈ F.all ↔ n = F.mUeventFd ∨ n = F.mTimerFd ∨ n = F.mDataRoleFd := by
  simp [FixedFds.all]

theorem fixed_ne (F : FixedFds) :
    F.mUeventFd ≠ F.mTimerFd ∧ F.mUeventFd ≠ F.mDataRoleFd ∧ F.mTimerFd ≠ F.mDataRoleFd := by
  have h := F.distinct
  simp only [List.nodup_cons, List.mem_cons, List.not_mem_nil, or_false, not_or] at h
  exact ⟨h.1.1, h.1.2, h.2.1⟩

theorem route_fixed (s : StateFiles) (h : n ∈ F.all) : route F s n = some (F.source n) := by
  obtain ⟨hut, hud, htd⟩ := fixed_ne F
  unfold route FixedFds.source
  rcases mem_all.1 h with rfl | rfl | rfl
  · rw [if_pos rfl, if_neg hut, if_neg hud]
  · rw [if_neg hut.symm, if_pos rfl, if_pos rfl]
  · rw [if_neg hud.symm, if_neg htd.symm, if_pos rfl, if_neg htd.symm, if_pos rfl]

theorem route_state {s : StateFiles} (hs : Ownership.Distinct s.fd) (h : n ∉ F.all)
    (source : Source) :
    route F s n = some source ↔ ∃ p, source = .state p ∧ s.fd p = some n := by
  have hne := mt mem_all.2 h
  push Not at hne
  unfold route
  rw [if_neg hne.1, if_neg hne.2.1, if_neg hne.2.2]
  constructor
  · intro hroute
    split_ifs at hroute with hd h1 h2 <;> cases hroute
    · exact ⟨.device, rfl, hd⟩
    · exact ⟨.host1, rfl, h1⟩
    · exact ⟨.host2, rfl, h2⟩
  · rintro ⟨p, rfl, hp⟩
    have hother : ∀ q, s.fd q = some n → q = p := fun q hq => hs q p n hq hp
    split_ifs with hd h1 h2
    · rw [hother _ hd]
    · rw [hother _ h1]
    · rw [hother _ h2]
    · cases p <;> contradiction

/-! ### The invariant -/

/-- What is left of `events` is labelled rightly, and while the uevent socket is among it no file
of the batch has been closed. -/
structure Inv (F : FixedFds) (t : MonitorThread) : Prop where
  sound : Sound F t.system.files t.source
  nodup : (t.events.map Prod.fst).Nodup
  labelled : ∀ n source, (n, source) ∈ t.events →
    (n ∈ F.all ∧ source = F.source n) ∨
      n ∉ F.all ∧ ∃ p, source = .state p ∧ ∀ q, t.system.files.fd q = some n → q = p
  awaited : F.mUeventFd ∈ t.events.map Prod.fst →
    ∀ n ∈ t.events.map Prod.fst, n ∉ F.all → n ∈ t.system.files.opened

theorem Inv.routed (h : Inv F t) : t.Routed F := by
  intro n source rest hevents source'
  rcases h.labelled n source (hevents ▸ List.mem_cons_self) with
    ⟨hn, rfl⟩ | ⟨hn, p, rfl, hp⟩
  · rw [route_fixed _ hn, Option.some.injEq, eq_comm]
    refine (and_iff_left ?_).symm
    unfold FixedFds.source
    split_ifs <;> trivial
  · rw [route_state h.sound.distinct hn]
    constructor
    · rintro ⟨q, rfl, hq⟩
      obtain rfl := hp q hq
      exact ⟨rfl, hq⟩
    · rintro ⟨rfl, hcurrent⟩
      exact ⟨p, rfl, hcurrent⟩

theorem inv_epollWait (h : Inv F t) {ready : List Fd}
    (ha : t.Allowed regexSearch c F (.epollWait ready)) :
    Inv F (t.step P regexSearch c F (.epollWait ready)) := by
  obtain ⟨hnodup, hready⟩ := ha
  unfold step
  dsimp only
  split_ifs
  · have hfst : (ready.map fun n => (n, t.source n)).map Prod.fst = ready := by
      rw [List.map_map]
      exact List.map_id ready
    have hopened : ∀ n ∈ ready, n ∉ F.all → n ∈ t.system.files.opened := fun n hn hfixed =>
      h.sound.registered ((hready n hn).resolve_left hfixed)
    refine ⟨h.sound, ?_, fun n source hmem => ?_, fun _ n hn hfixed => ?_⟩
    · show ((ready.map fun n => (n, t.source n)).map Prod.fst).Nodup
      rw [hfst]
      exact hnodup
    · obtain ⟨m, hm, he⟩ := List.mem_map.1 hmem
      cases he
      by_cases hfixed : n ∈ F.all
      · exact .inl ⟨hfixed, h.sound.fixed n hfixed⟩
      · obtain ⟨p, hp⟩ := h.sound.states n (hopened n hm hfixed)
        refine .inr ⟨hfixed, p, hp, fun q hq => ?_⟩
        exact Source.state.inj ((h.sound.slots q n hq).symm.trans hp)
    · have hn' : n ∈ (ready.map fun n => (n, t.source n)).map Prod.fst := hn
      rw [hfst] at hn'
      exact hopened n hn' hfixed
  · exact h

theorem Inv.tail (h : Inv F t) {x : Fd × Source} {rest : List (Fd × Source)}
    (hevents : t.events = x :: rest) : Inv F { t with events := rest } := by
  have hnodup := h.nodup
  have hawaited := h.awaited
  rw [hevents, List.map_cons] at hnodup hawaited
  refine ⟨h.sound, (List.nodup_cons.1 hnodup).2, fun n source hmem => ?_, fun hu n hn => ?_⟩
  · exact h.labelled n source (hevents ▸ List.mem_cons_of_mem x hmem)
  · exact hawaited (List.mem_cons_of_mem _ hu) n (List.mem_cons_of_mem _ hn)

/-- What a handler has to leave alone. -/
theorem Inv.run (h : Inv F t) (hes : ∀ e ∈ es, e.Spared F)
    (hfd : ∀ n ∈ t.events.map Prod.fst, n ∉ F.all → ∀ p,
      (Runs.run (act P) t es).system.files.fd p = some n → t.system.files.fd p = some n)
    (hopened : F.mUeventFd ∈ t.events.map Prod.fst →
      (Runs.run (act P) t es).system.files.opened = t.system.files.opened) :
    Inv F (Runs.run (act P) t es) := by
  have hevents : (Runs.run (act P) t es).events = t.events := events_run
  refine ⟨sound_run h.sound hes, ?_, fun n source hmem => ?_, fun hu n hn hfixed => ?_⟩
  · rw [hevents]
    exact h.nodup
  · rw [hevents] at hmem
    refine (h.labelled n source hmem).imp_right fun ⟨hfixed, p, hsource, hp⟩ =>
      ⟨hfixed, p, hsource, fun q hq => hp q ?_⟩
    exact hfd n (List.mem_map_of_mem hmem) hfixed q hq
  · rw [hevents] at hu hn
    rw [hopened hu]
    exact h.awaited hu n hn hfixed

theorem eq_mUeventFd (h : Inv F t) (hroute : route F t.system.files n = some .uevent) :
    n = F.mUeventFd := by
  by_cases hfixed : n ∈ F.all
  · rw [route_fixed _ hfixed, Option.some.injEq] at hroute
    unfold FixedFds.source at hroute
    split_ifs at hroute with ht hd
    exact (mem_all.1 hfixed).resolve_right fun hor => hor.elim ht hd
  · obtain ⟨p, hp, -⟩ := (route_state h.sound.distinct hfixed _).1 hroute
    cases hp

theorem inv_next (h : Inv F t) {fields : List UeventField} {r : FileRead}
    (ha : t.Allowed regexSearch c F (.next fields r)) :
    Inv F (t.step P regexSearch c F (.next fields r)) := by
  obtain ⟨hbind, hspared⟩ := ha
  unfold step
  cases hevents : t.events with
  | nil =>
    dsimp only
    exact h
  | cons x rest =>
    obtain ⟨n, source⟩ := x
    dsimp only
    have htail := h.tail hevents
    cases hroute : route F t.system.files n with
    | none => exact htail
    | some source' =>
      by_cases huevent : source' = .uevent
      · -- no later event of the batch is one of the socket
        subst huevent
        obtain rfl := eq_mUeventFd h hroute
        have hnodup := h.nodup
        have hawaited := h.awaited
        rw [hevents, List.map_cons] at hnodup hawaited
        refine htail.run (spared_handleUevent hspared) (fun m hm hfixed p hp => ?_) fun hu =>
          absurd hu (List.nodup_cons.1 hnodup).1
        exact fd_run (t := { t with events := rest }) hbind
          (hawaited List.mem_cons_self m (List.mem_cons_of_mem _ hm) hfixed) hp
      · have hhandlers := handlers_not_bind regexSearch c F fields r huevent
        obtain ⟨hopened, hfd⟩ := run_of_not_bind (P := P) (t := { t with events := rest })
          fun e he => (hhandlers e he).1
        exact htail.run (fun e he => (hhandlers e he).2) (fun m _ _ p => hfd p m) fun _ => hopened

theorem inv_step (t : MonitorThread) (e : Event) (h : Inv F t)
    (ha : t.Allowed regexSearch c F e) : Inv F (t.step P regexSearch c F e) := by
  cases e with
  | epollWait ready => exact inv_epollWait h ha
  | next fields r => exact inv_next h ha

/-! ### Runs -/

theorem sound_constructFiles {openFile : Port → Open} (hopen : ∀ p, F.Spares (openFile p))
    (epollCtl : Port → Bool) :
    Sound F (constructFiles F openFile epollCtl).1 (constructFiles F openFile epollCtl).2 := by
  have hempty : Sound F StateFiles.empty F.source := by
    refine ⟨fun p q n hp => ?_, fun p n hp => ?_, subset_rfl, fun n hn => ?_, fun p n hp => ?_,
      fun n hn => ?_, fun _ _ => rfl⟩
    · cases hp
    · cases hp
    · exact absurd hn (Finset.notMem_empty n)
    · cases hp
    · exact absurd hn (Finset.notMem_empty n)
  exact ((hempty.addEpollFile (hopen _) .device _).addEpollFile (hopen _) .host1 _).addEpollFile
    (hopen _) .host2 _

theorem inv_construct (mDataRole : PortDataRole) (udc : Option String) {openFile : Port → Open}
    (hopen : ∀ p, F.Spares (openFile p)) (epollCtl : Port → Bool) :
    Inv F (construct F mDataRole udc openFile epollCtl) :=
  ⟨sound_constructFiles hopen epollCtl, List.nodup_nil,
    fun _ _ hmem => absurd hmem List.not_mem_nil, fun hmem => absurd hmem List.not_mem_nil⟩

/-- What a run of the thread does to the monitor and its files is a run of `System`. -/
theorem exists_system_run (t : MonitorThread) (es : List Event) :
    ∃ fs, (Runs.run (step P regexSearch c F) t es).system =
      Runs.run (System.step P) t.system fs := by
  have hact : ∀ (es : List Monitor.Event) (t : MonitorThread),
      (Runs.run (act P) t es).system = Runs.run (System.step P) t.system es := by
    intro es
    induction es with
    | nil => exact fun _ => rfl
    | cons e es ih => exact fun t => ih (act P t e)
  have hstep : ∀ (t : MonitorThread) (e : Event), ∃ fs,
      (step P regexSearch c F t e).system = Runs.run (System.step P) t.system fs := by
    intro t e
    cases e with
    | epollWait ready =>
      refine ⟨[], ?_⟩
      unfold step
      dsimp only
      split_ifs <;> rfl
    | next fields r =>
      unfold step
      cases t.events with
      | nil => exact ⟨[], rfl⟩
      | cons x rest =>
        dsimp only
        cases route F t.system.files x.1 with
        | none => exact ⟨[], rfl⟩
        | some source => exact ⟨_, hact _ _⟩
  induction es generalizing t with
  | nil => exact ⟨[], rfl⟩
  | cons e es ih =>
    obtain ⟨fs, hfs⟩ := hstep t e
    obtain ⟨gs, hgs⟩ := ih (step P regexSearch c F t e)
    exact ⟨fs ++ gs, by rw [Runs.run_cons, hgs, hfs, Runs.run_append]⟩

/-- A message of the kernel binds one port at most: its other fields are no headers. -/
theorem countP_isBind_message {f : UeventField} {fields : List UeventField}
    (hfields : ∀ g ∈ fields, HotPlug.IsKeyValue g.text)
    (hone : ¬ (regexSearch f.text (c.ueventRegex .host1) = true ∧
      regexSearch f.text (c.ueventRegex .host2) = true)) :
    (handleUevent regexSearch c (f :: fields)).countP Event.isBind ≤ 1 := by
  have hhost : ∀ p, (hostFieldEvents regexSearch c f p).countP Event.isBind ≤
      if regexSearch f.text (c.ueventRegex p) then 1 else 0 := by
    intro p
    unfold hostFieldEvents
    split_ifs <;> simp [Event.isBind]
  have hdevice : (deviceFieldEvents regexSearch c f).countP Event.isBind = 0 := by
    unfold deviceFieldEvents
    split_ifs <;> simp [Event.isBind]
  have hrest : fields.flatMap (fieldEvents regexSearch c) = [] :=
    List.flatMap_eq_nil_iff.2 fun g hg => HotPlug.fieldEvents_keyValue _ (hfields g hg)
  have hhost1 := hhost ⟨.host1, by decide⟩
  have hhost2 := hhost ⟨.host2, by decide⟩
  unfold handleUevent
  split_ifs with hlength
  · exact Nat.zero_le _
  · rw [readyEvents, List.flatMap_cons, hrest, List.append_nil, fieldEvents, List.countP_append,
      List.countP_append, hdevice]
    dsimp only at hhost1 hhost2
    split_ifs at hhost1 hhost2 with h1 h2 h2
    · exact absurd ⟨h1, h2⟩ hone
    all_goals omega

/-- **Every event is routed**: in each state of each run, what is dispatched next goes to the
handler of the file that was ready, or its port has given the descriptor up. -/
theorem routed_always (P : Platform) (regexSearch : String → String → Bool) (c : Config)
    (F : FixedFds) (mDataRole : PortDataRole) (udc : Option String) {openFile : Port → Open}
    (hopen : ∀ p, F.Spares (openFile p)) (epollCtl : Port → Bool) (es : List Event)
    (h : Runs.Meets (step P regexSearch c F) (Allowed regexSearch c F)
      (construct F mDataRole udc openFile epollCtl) es) :
    Runs.Always (step P regexSearch c F) (Routed F)
      (construct F mDataRole udc openFile epollCtl) es := by
  have hinv := Runs.always_of_meets (I := Inv F) (fun t e ht ha => inv_step t e ht ha)
    (inv_construct mDataRole udc hopen epollCtl) h
  exact fun pre hpre => (hinv pre hpre).routed

/-! ### Two binds in a message -/

/-- The first of these numbers that is free. -/
def firstFree : List Fd → Open
  | [], _ => none
  | n :: ns, inUse => if h : n ∉ inUse then some ⟨n, h⟩ else firstFree ns inUse

theorem mem_of_firstFree {ns : List Fd} {inUse : Finset Fd} {n : {n : Fd // n ∉ inUse}}
    (h : firstFree ns inUse = some n) : n.val ∈ ns := by
  induction ns with
  | nil => cases h
  | cons m ns ih =>
    by_cases hm : m ∉ inUse
    · rw [firstFree, dif_pos hm] at h
      cases h
      exact List.mem_cons_self
    · rw [firstFree, dif_neg hm] at h
      exact List.mem_cons_of_mem m (ih h)

def fewFds : FixedFds := ⟨0, 1, 2, by decide⟩

/-- The lowest number that is free. -/
def lowestFd : Open := firstFree [3, 4, 5]

theorem spares_lowestFd : fewFds.Spares lowestFd := by
  intro inUse n hn hmem
  have h : ∀ m ∈ [3, 4, 5], m ∉ fewFds.all := by decide
  exact h n.val (mem_of_firstFree hn) hmem

/-- A bind for the hosts whose names occur in the text. -/
def bindField (hosts : String) : UeventField :=
  ⟨"bind@" ++ hosts, fun _ => lowestFd, fun _ => true, fun _ => none⟩

/-- The names are short, and each is its own regex. -/
def shortNames : Config where
  ueventRegex p := if p = .host1 then "1" else if p = .host2 then "2" else "0"
  filePath _ := ""

/-- The two host ports have state files. -/
def twoHosts : MonitorThread :=
  construct fewFds .none none (fun p => if p = .device then fun _ => none else lowestFd)
    (fun _ => true)

/-- The socket and the first host port are ready, and then the message is handled. -/
def rebinding (fields : List UeventField) : List Event :=
  [.epollWait [0, 3], .next fields ⟨none, []⟩]

theorem oneBind_routed :
    Runs.Always (step .secondHand CText.contains shortNames fewFds) (Routed fewFds) twoHosts
      (rebinding [bindField "1"]) := by
  refine routed_always _ _ _ _ _ _ (fun p => ?_) _ _ ⟨⟨by decide, by decide⟩, ⟨?_, ?_⟩, trivial⟩
  · split_ifs
    · exact fun inUse n hn => absurd hn (by simp)
    · exact spares_lowestFd
  · decide
  · intro f hf path
    rw [List.mem_singleton.1 hf]
    exact spares_lowestFd

/-- The second bind gets the number that the first has closed, and the first port's event is
handled as one of the second. -/
theorem twoBinds_not_routed :
    ¬ Runs.Always (step .secondHand CText.contains shortNames fewFds) (Routed fewFds) twoHosts
      (rebinding [bindField "1", bindField "2"]) := by
  intro h
  have hrouted := h _ List.prefix_rfl 3 (.state .host1) [] rfl (.state .host2)
  have hroute : route fewFds (Runs.run (step .secondHand CText.contains shortNames fewFds) twoHosts
      (rebinding [bindField "1", bindField "2"])).system.files 3 = some (.state .host2) := by
    decide
  exact absurd (hrouted.1 hroute).1 (by decide)

end MonitorThread

end Gs101
