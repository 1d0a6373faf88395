import Gs101.Lib.Locks
import Gs101.Lib.Runs

/-!
# Usb: the threads

Three threads meet in `Usb`: a binder thread that executes HAL calls one at a time, the worker
(`work`, `uevent_event`) that `setCallback` creates and joins, and the thread of the data-session
monitor, which calls `queryVersionHelper` through `mUpdatePortStatusCb`.  Each has a program counter
that stops where the source locks, unlocks, waits, signals or joins; what it computes in between is
left to the other modules, and where it branches on an answer of the kernel, the event carries that
answer.
-/

namespace Gs101

namespace Usb

inductive Thread
  | binder
  | worker
  | monitor
  deriving DecidableEq

inductive Lock
  | mLock
  | mRoleSwitchLock
  | mPartnerLock
  deriving DecidableEq

/-- The calls of the HAL.  A `switchRole` of an invalid role type takes no lock, and is left out;
`setCallback` is called with a callback or with NULL. -/
inductive Call
  | enableUsbData
  | enableUsbDataWhileDocked
  | enableContaminantPresenceDetection
  | limitPowerTransfer
  | resetUsbPort
  | queryPortStatus
  | switchRole (mode : Bool)
  | setCallback (in_callback : Bool)
  deriving DecidableEq

/-- What a field of a uevent message makes `uevent_event` do. -/
inductive Field
  /-- `add…-partner`. -/
  | partnerAdded
  /-- `DEVTYPE=typec_`, `DRIVER=max77759tcpc`, `DRIVER=pogo-transport`, `POWER_SUPPLY_NAME=usb`. -/
  | port
  | other
  deriving DecidableEq

/-- Where the binder thread is. -/
inductive Binder
  | idle
  /-- About to lock `mLock` for a notification; then perhaps for a query. -/
  | notifyLock (thenQuery : Bool)
  | notifyHeld (thenQuery : Bool)
  /-- About to lock `mLock` in `queryVersionHelper`; then perhaps for a notification. -/
  | queryLock (thenNotify : Bool)
  | queryHeld (thenNotify : Bool)
  /-- `switchRole`. -/
  | roleLock (mode : Bool)
  | roleHeld (mode : Bool)
  /-- `switchMode`, from the lock of `mPartnerLock` to its unlock. -/
  | partnerLock
  | partnerHeld
  | partnerWait
  | partnerRelock (timedOut : Bool)
  | partnerWoken (timedOut : Bool)
  | partnerUnlock (roleSwitch : Bool)
  | roleNotifyLock (roleSwitch : Bool)
  | roleNotifyHeld (roleSwitch : Bool)
  | roleUnlock
  /-- `setCallback`. -/
  | callbackLock (in_callback : Bool)
  | callbackHeld (in_callback : Bool)
  | callbackKill
  | callbackJoin
  | callbackCreate
  | callbackUnlock
  deriving DecidableEq

/-- Where the worker is; `absent` before it is created and after it is joined. -/
inductive Worker
  | absent
  /-- `work`, before the loop. -/
  | start
  /-- At the test of `destroyThread`. -/
  | check
  /-- Past the test, about to call `epoll_wait`. -/
  | enter
  | epollWait
  /-- `uevent_event`, with these fields of the message to come. -/
  | fields (l : List Field)
  | partnerLock (l : List Field)
  | partnerHeld (l : List Field)
  | queryLock
  | queryHeld
  | tryRole
  | roleHeld
  | exited
  deriving DecidableEq

/-- Where the thread of the data-session monitor is. -/
inductive MonitorThread
  | idle
  | queryLock
  | queryHeld
  deriving DecidableEq

structure Threads where
  binder : Binder
  worker : Worker
  monitor : MonitorThread
  owner : Lock → Option Thread
  mCallback : Bool
  mPartnerUp : Bool
  destroyThread : Bool
  /-- SIGUSR1 was sent to the worker and not yet delivered. -/
  pending : Bool

inductive Event
  /-- The binder thread takes up a call. -/
  | call (c : Call)
  /-- The binder thread makes its next step. -/
  | binder (answer : Bool)
  /-- A uevent with these fields wakes the worker. -/
  | uevent (fields : List Field)
  /-- The worker makes its next step. -/
  | worker (answer : Bool)
  /-- SIGUSR1 is delivered. -/
  | signal
  /-- The data-session monitor invokes `mUpdatePortStatusCb`. -/
  | updatePortStatus
  /-- The thread of the monitor makes its next step. -/
  | monitor
  deriving DecidableEq

/-- Where a call begins. -/
def Call.entry : Call → Binder
  | .enableUsbData | .enableUsbDataWhileDocked | .enableContaminantPresenceDetection
  | .limitPowerTransfer => .notifyLock true
  | .resetUsbPort => .notifyLock false
  | .queryPortStatus => .queryLock true
  | .switchRole mode => .roleLock mode
  | .setCallback in_callback => .callbackLock in_callback

/-- The worker has been created and has not returned from `work`. -/
def Worker.Alive (w : Worker) : Prop := w ≠ .absent ∧ w ≠ .exited

instance (w : Worker) : Decidable w.Alive := inferInstanceAs (Decidable (_ ∧ _))

namespace Threads

def setBinder (s : Threads) (b : Binder) : Threads := { s with binder := b }

def setWorker (s : Threads) (w : Worker) : Threads := { s with worker := w }

def setMonitor (s : Threads) (m : MonitorThread) : Threads := { s with monitor := m }

/-- `pthread_mutex_lock`: the thread goes on once the lock is free. -/
def lock (s : Threads) (t : Thread) (l : Lock) (next : Threads → Threads) : Threads :=
  if s.owner l = none then next { s with owner := Function.update s.owner l (some t) } else s

/-- `pthread_mutex_unlock`. -/
def unlock (s : Threads) (l : Lock) : Threads :=
  { s with owner := Function.update s.owner l none }

/-- The next step of the binder thread. -/
def binderStep (s : Threads) (answer : Bool) : Threads :=
  match s.binder with
  | .idle => s
  | .notifyLock q => s.lock .binder .mLock (·.setBinder (.notifyHeld q))
  | .notifyHeld q => (s.unlock .mLock).setBinder (if q then .queryLock false else .idle)
  | .queryLock n => s.lock .binder .mLock (·.setBinder (.queryHeld n))
  | .queryHeld n => (s.unlock .mLock).setBinder (if n then .notifyLock false else .idle)
  | .roleLock mode => s.lock .binder .mRoleSwitchLock (·.setBinder (.roleHeld mode))
  -- a mode is switched once its file is open; another role is written, and the answer is the result
  | .roleHeld true => s.setBinder (if answer then .partnerLock else .roleNotifyLock false)
  | .roleHeld false => s.setBinder (.roleNotifyLock answer)
  | .partnerLock => s.lock .binder .mPartnerLock (·.setBinder .partnerHeld)
  -- the mode is written; `pthread_cond_timedwait` gives the lock up as it begins to wait
  | .partnerHeld =>
      if answer then
        ({ s with mPartnerUp := false }.unlock .mPartnerLock).setBinder .partnerWait
      else { s with mPartnerUp := false }.setBinder (.partnerUnlock false)
  -- a signal, a spurious wake-up or the time-out
  | .partnerWait => s.setBinder (.partnerRelock answer)
  | .partnerRelock timedOut =>
      s.lock .binder .mPartnerLock (·.setBinder (.partnerWoken timedOut))
  | .partnerWoken true => s.setBinder (.partnerUnlock false)
  | .partnerWoken false =>
      if s.mPartnerUp then s.setBinder (.partnerUnlock true)
      else (s.unlock .mPartnerLock).setBinder .partnerWait
  | .partnerUnlock r => (s.unlock .mPartnerLock).setBinder (.roleNotifyLock r)
  | .roleNotifyLock r => s.lock .binder .mLock (·.setBinder (.roleNotifyHeld r))
  | .roleNotifyHeld _ => (s.unlock .mLock).setBinder .roleUnlock
  | .roleUnlock => (s.unlock .mRoleSwitchLock).setBinder .idle
  | .callbackLock cb => s.lock .binder .mLock (·.setBinder (.callbackHeld cb))
  | .callbackHeld cb =>
      if cb = s.mCallback then { s with mCallback := cb }.setBinder .callbackUnlock
      else if cb then { s with mCallback := cb, destroyThread := false }.setBinder .callbackCreate
      else { s with mCallback := cb }.setBinder .callbackKill
  -- `pthread_kill` can fail only when the worker has exited
  | .callbackKill =>
      if s.worker.Alive then { s with pending := true }.setBinder .callbackJoin
      else s.setBinder (if answer then .callbackJoin else .callbackUnlock)
  | .callbackJoin =>
      if s.worker.Alive then s else (s.setWorker .absent).setBinder .callbackUnlock
  | .callbackCreate =>
      if answer then ({ s with pending := false }.setWorker .start).setBinder .callbackUnlock
      else { s with mCallback := false }.setBinder .callbackUnlock
  | .callbackUnlock => (s.unlock .mLock).setBinder .idle

/-- The next step of the worker. -/
def workerStep (s : Threads) (answer : Bool) : Threads :=
  match s.worker with
  | .absent | .exited => s
  | .start => s.setWorker (if answer then .check else .exited)
  | .check => s.setWorker (if s.destroyThread then .exited else .enter)
  | .enter => s.setWorker .epollWait
  -- `epoll_wait` fails, or it goes on waiting
  | .epollWait => if answer then s else s.setWorker .exited
  | .fields [] => s.setWorker .check
  | .fields (.partnerAdded :: l) => s.setWorker (.partnerLock l)
  | .fields (.port :: _) => s.setWorker .queryLock
  | .fields (.other :: l) => s.setWorker (.fields l)
  | .partnerLock l => s.lock .worker .mPartnerLock (·.setWorker (.partnerHeld l))
  | .partnerHeld l =>
      ({ s with mPartnerUp := true }.unlock .mPartnerLock).setWorker (.fields l)
  | .queryLock => s.lock .worker .mLock (·.setWorker .queryHeld)
  | .queryHeld => (s.unlock .mLock).setWorker .tryRole
  -- `pthread_mutex_trylock`; either way the message is left
  | .tryRole =>
      if s.owner .mRoleSwitchLock = none then
        s.lock .worker .mRoleSwitchLock (·.setWorker .roleHeld)
      else s.setWorker .check
  | .roleHeld => (s.unlock .mRoleSwitchLock).setWorker .check

/-- The next step of the monitor's thread. -/
def monitorStep (s : Threads) : Threads :=
  match s.monitor with
  | .idle => s
  | .queryLock => s.lock .monitor .mLock (·.setMonitor .queryHeld)
  | .queryHeld => (s.unlock .mLock).setMonitor .idle

/-- `sighandler`, in the worker: `epoll_wait` is interrupted, a lock is waited for again. -/
def signalStep (s : Threads) : Threads :=
  if s.pending ∧ s.worker.Alive then
    { s with pending := false, destroyThread := true }.setWorker
      (if s.worker = Worker.epollWait then .check else s.worker)
  else s

def step (s : Threads) : Event → Threads
  | .call c => if s.binder = .idle then s.setBinder c.entry else s
  | .binder answer => s.binderStep answer
  | .uevent fields => if s.worker = .epollWait then s.setWorker (.fields fields) else s
  | .worker answer => s.workerStep answer
  | .signal => s.signalStep
  | .updatePortStatus => if s.monitor = .idle then s.setMonitor .queryLock else s
  | .monitor => s.monitorStep

/-- Before the first call. -/
def initial : Threads where
  binder := .idle
  worker := .absent
  monitor := .idle
  owner _ := none
  mCallback := false
  mPartnerUp := false
  destroyThread := false
  pending := false

end Threads

end Usb

end Gs101
