import Gs101.Lib.Ownership
import Gs101.Monitor.State

/-!
# UsbDataSessionMonitor: the descriptors of the state files

`mDeviceState.fd`, `mHost1State.fd` and `mHost2State.fd` are `unique_fd`s.  The kernel's side is
the set of open descriptors of state files and the set of those registered in the epoll instance.
Assigning to a `unique_fd` closes the descriptor held so far, leaving the scope of a local one
closes it, `release` only forgets it; closing a descriptor drops its registration.
-/

namespace Gs101

namespace Monitor

instance : Fintype Port where
  elems := {.device, .host1, .host2}
  complete p := by cases p <;> decide

/-- A file descriptor. -/
abbrev Fd := ℕ

/-- An answer of `open`: a descriptor that is not in use, or a failure. -/
abbrev Open := (inUse : Finset Fd) → Option {n : Fd // n ∉ inUse}

structure StateFiles where
  opened : Finset Fd
  registered : Finset Fd
  fd : Port → Option Fd

namespace StateFiles

/-- `close(n)`. -/
def close (n : Fd) (s : StateFiles) : StateFiles :=
  { s with opened := s.opened.erase n, registered := s.registered.erase n }

/-- `fileFd = std::move(fd)`. -/
def assign (p : Port) (n : Fd) (s : StateFiles) : StateFiles :=
  let s := match s.fd p with
    | some old => s.close old
    | none => s
  { s with fd := Function.update s.fd p (some n) }

/-- `epollCtl` tells whether the registration succeeds. -/
def addEpollFile (p : Port) (openFile : Open) (epollCtl : Bool) (s : StateFiles) : StateFiles :=
  match openFile s.opened with
  | none => s
  | some ⟨n, _⟩ =>
      let s := { s with opened := insert n s.opened }
      if epollCtl then { s with registered := insert n s.registered }.assign p n
      else s.close n

/-- `epollCtl` tells whether the removal from epoll succeeds. -/
def removeEpollFile (p : Port) (epollCtl : Bool) (s : StateFiles) : StateFiles :=
  let s := match s.fd p with
    | some n => if epollCtl then { s with registered := s.registered.erase n } else s
    | none => s
  { s with fd := Function.update s.fd p none }

/-- No state file is open. -/
def empty : StateFiles := ⟨∅, ∅, fun _ => none⟩

/-- The three `addEpollFile` calls of the constructor; each may fail. -/
def construct (openFile : Port → Open) (epollCtl : Port → Bool) : StateFiles :=
  [Port.device, .host1, .host2].foldl (fun s p => s.addEpollFile p (openFile p) (epollCtl p)) empty

end StateFiles

end Monitor

end Gs101
