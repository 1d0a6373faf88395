import Gs101.Monitor.System
import Mathlib.Order.Lattice.Nat

/-!
# UsbDataSessionMonitor: descriptor bookkeeping

`Accounted` says that the open state-file descriptors, the registered ones and the ones held by
the three `unique_fd`s are the same, without repetition.  The constructor and `addEpollFile` keep
it whatever `open` and `epoll_ctl` answer.  `removeEpollFile` calls `release` where a reset was
due, so it keeps it exactly when there is nothing to release.
-/

namespace Gs101

namespace Monitor

open Ownership

namespace StateFiles

/-- The open and the registered descriptors are those held by the `unique_fd`s, pairwise
distinct. -/
structure Accounted (s : StateFiles) : Prop where
  distinct : Distinct s.fd
  opened : s.opened = held s.fd
  registered : s.registered = held s.fd

/-- Three slots hold at most three descriptors. -/
theorem Accounted.card_opened_le {s : StateFiles} (h : s.Accounted) : s.opened.card ≤ 3 := by
  rw [h.opened]
  exact card_held_le s.fd

theorem accounted_empty : empty.Accounted where
  distinct := by intro i j a h; cases h
  opened := by ext a; simp [empty, mem_held]
  registered := by ext a; simp [empty, mem_held]

/-- A descriptor that was opened and could not be registered is closed again. -/
theorem close_insert {s : StateFiles} {n : Fd} (h : s.Accounted) (hn : n ∉ s.opened) :
    ({ s with opened := insert n s.opened }.close n) = s := by
  have hr : n ∉ s.registered := by rwa [h.registered, ← h.opened]
  simp [close, Finset.erase_insert hn, Finset.erase_eq_of_notMem hr]

/-- Moving a fresh registered descriptor into a slot closes the one it replaces. -/
theorem accounted_assign {s : StateFiles} {n : Fd} (h : s.Accounted) (hn : n ∉ s.opened)
    (p : Port) :
    ({ s with opened := insert n s.opened, registered := insert n s.registered }.assign p
      n).Accounted := by
  have hn' : n ∉ held s.fd := by rwa [← h.opened]
  have hset : ∀ a, a ∈ held (Function.update s.fd p (some n)) ↔
      a = n ∨ (a ∈ held s.fd ∧ s.fd p ≠ some a) := fun a => mem_held_update_some h.distinct
  cases hp : s.fd p with
  | none =>
    refine ⟨?_, ?_, ?_⟩ <;> simp only [assign, hp]
    · exact distinct_update_some h.distinct hn'
    · ext a; simp [hset, h.opened, hp]
    · ext a; simp [hset, h.registered, hp]
  | some old =>
    have hold : old ≠ n := by rintro rfl; exact hn' (mem_held_of_eq hp)
    refine ⟨?_, ?_, ?_⟩ <;> simp only [assign, close, hp]
    · exact distinct_update_some h.distinct hn'
    · ext a; simp only [Finset.mem_erase, Finset.mem_insert, hset, h.opened, hp]; grind
    · ext a; simp only [Finset.mem_erase, Finset.mem_insert, hset, h.registered, hp]; grind

/-- `addEpollFile` keeps the books, whatever `open` and `epoll_ctl` answer. -/
theorem accounted_addEpollFile {s : StateFiles} (h : s.Accounted) (p : Port) (openFile : Open)
    (epollCtl : Bool) : (s.addEpollFile p openFile epollCtl).Accounted := by
  unfold addEpollFile
  cases openFile s.opened with
  | none => exact h
  | some n =>
    obtain ⟨n, hn⟩ := n
    cases epollCtl with
    | true => exact accounted_assign h hn p
    | false => simp only [Bool.false_eq_true, if_false]; rwa [close_insert h hn]

/-- The constructor's three attempts keep the books. -/
theorem accounted_construct (openFile : Port → Open) (epollCtl : Port → Bool) :
    (construct openFile epollCtl).Accounted := by
  refine Runs.run_invariant (fun s p h => ?_) accounted_empty [Port.device, .host1, .host2]
  exact accounted_addEpollFile h p (openFile p) (epollCtl p)

/-- `removeEpollFile` keeps the books exactly when the port holds no descriptor: a descriptor it
releases stays open. -/
theorem accounted_removeEpollFile_iff {s : StateFiles} (h : s.Accounted) (p : Port)
    (epollCtl : Bool) : (s.removeEpollFile p epollCtl).Accounted ↔ s.fd p = none := by
  constructor
  · intro h'
    cases hp : s.fd p with
    | none => rfl
    | some n =>
      -- the descriptor is still open, but no slot holds it any more
      have hopen : (s.removeEpollFile p epollCtl).opened = s.opened := by
        cases epollCtl <;> simp [removeEpollFile, hp]
      have hfd : (s.removeEpollFile p epollCtl).fd = Function.update s.fd p none := by
        cases epollCtl <;> simp [removeEpollFile, hp]
      have hn : n ∈ held (Function.update s.fd p none) := by
        rw [← hfd, ← h'.opened, hopen, h.opened]
        exact mem_held_of_eq hp
      exact absurd hp ((mem_held_update_none h.distinct).1 hn).2
  · intro hp
    have hfd : Function.update s.fd p none = s.fd := by
      rw [← hp, Function.update_eq_self]
    have hs : s.removeEpollFile p epollCtl = s := by
      simp only [removeEpollFile, hp, hfd]
    rwa [hs]

end StateFiles

end Monitor

namespace System

open Monitor

/-- An unbind uevent comes only when the port holds no descriptor. -/
def UnbindsNothing (s : System) (e : Event) : Prop :=
  ∀ p epollCtl, e = .unbind p epollCtl → s.files.fd p.val = none

theorem accounted_step_iff {P : Platform} {s : System} {e : Event} (h : s.files.Accounted) :
    (step P s e).files.Accounted ↔ s.UnbindsNothing e := by
  cases e with
  | unbind p epollCtl =>
    simp only [step, StateFiles.accounted_removeEpollFile_iff h]
    constructor
    · rintro hp q c hqc
      cases hqc
      exact hp
    · exact fun hq => hq p epollCtl rfl
  | bind p openFile epollCtl =>
    simpa [step, UnbindsNothing] using StateFiles.accounted_addEpollFile h p.val openFile epollCtl
  | dataRole r => simpa [step, UnbindsNothing] using h
  | deviceState p r => simpa [step, UnbindsNothing] using h
  | timer => simpa [step, UnbindsNothing] using h
  | udcChange f => simpa [step, UnbindsNothing] using h

/-- **Descriptor bookkeeping.**  The open state-file descriptors are, in every state of a run,
exactly the held and registered ones, and at most three, if and only if no unbind uevent of the
run finds a descriptor in its port. -/
theorem always_accounted_iff (P : Platform) (mDataRole : PortDataRole) (udc : Option String)
    (openFile : Port → Open) (epollCtl : Port → Bool) (es : List Event) :
    Runs.Always (step P) (fun s => s.files.Accounted ∧ s.files.opened.card ≤ 3)
        (construct mDataRole udc openFile epollCtl) es ↔
      Runs.Meets (step P) UnbindsNothing (construct mDataRole udc openFile epollCtl) es := by
  have h0 : (construct mDataRole udc openFile epollCtl).files.Accounted :=
    StateFiles.accounted_construct openFile epollCtl
  refine Runs.always_iff_meets (J := fun _ => True) (fun _ _ _ => trivial) ?_ trivial
    ⟨h0, h0.card_opened_le⟩ es
  rintro s e - ⟨h, -⟩
  constructor
  · exact fun h' => (accounted_step_iff h).1 h'.1
  · intro hc
    have h' := (accounted_step_iff (P := P) h).2 hc
    exact ⟨h', h'.card_opened_le⟩

/-- A kernel that opens the next descriptor above those in use. -/
def nextFd : Open := fun inUse =>
  some ⟨inUse.sup id + 1, fun h => by
    have hle : inUse.sup id + 1 ≤ inUse.sup id := Finset.le_sup (f := id) h
    exact Nat.not_succ_le_self _ hle⟩

/-- The high-speed port goes away once and comes back: its first descriptor stays open, held by
nobody, so that four are open. -/
theorem unbind_leaks :
    ¬ Runs.Always (step .secondHand) (fun s => s.files.Accounted ∧ s.files.opened.card ≤ 3)
      (construct .none none (fun _ => nextFd) (fun _ => true))
      [.unbind ⟨.host1, by decide⟩ true, .bind ⟨.host1, by decide⟩ nextFd true] := by
  intro h
  have hcard := (h _ List.prefix_rfl).2
  revert hcard
  decide

end System

end Gs101
