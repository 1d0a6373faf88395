import Gs101.Usb.FieldWalk
import Gs101.Usb.PortFaults
import Gs101.Usb.Transactions

/-!
# Usb: what one uevent message does

`uevent_event` as a whole: the fields of the message are handled one after the other, and the first
that concerns a port ends the loop.  What the kernel, the stats service and the other threads answer
meanwhile are the `Answers`; a field that is handled is told by the index of its first byte.

* `reportOverheatEvent`, `switchDisconnected`, `handleFields`: the function's parts;
* `Handled`: the effects of a message, field by field;
* `Harmless`: no number in it is unparsable, and the query, if there is one, is answered;
* `ueventEvent_handled_iff`: a message is handled, with exactly these effects, if and only if it is
  harmless; any other ends the service;
* `visited_handled`: these are the fields that the loop over the buffer visits.
-/

namespace Gs101

namespace Usb

open Buffer Logged
open Monitor (UEVENT_MSG_LEN)
open Transaction (Stream roleFile)

/-- The atom that `reportUsbPortOverheat` takes; temperatures are in tenths of a degree. -/
structure VendorUsbPortOverheat where
  plug_temperature_deci_c : ℤ
  max_temperature_deci_c : ℤ
  time_to_overheat_secs : ℤ
  time_to_hysteresis_secs : ℤ
  time_to_inactive_secs : ℤ
  deriving DecidableEq

namespace Message

/-- What the rest of the system answers while one message is handled. -/
structure Answers where
  /-- The file system, as `queryVersionHelper` reads it. -/
  fs : FileSystem
  /-- The nodes of the cooling device, when the field with this index is handled. -/
  read : ℕ → String → Option String
  /-- `mPluggedTemperatureCelsius`, which nothing assigns, and `getMaxOverheatTemperature`: each is
  a float, and this is what its tenfold becomes as an integer. -/
  pluggedTemperature : ℤ
  maxOverheatTemperature : ℕ → ℤ
  /-- Whether `getStatsService` returns a client. -/
  statsService : ℕ → Bool
  /-- Whether `pthread_mutex_trylock` gets `mRoleSwitchLock`. -/
  roleSwitchFree : Bool
  opendir : String → Bool
  /-- `fopen`, `fputs` and `fclose`, by path. -/
  stream : String → Stream

inductive Effect
  /-- `mPartnerUp` is set, and `mPartnerCV` signalled. -/
  | partnerAdded
  | reportUsbPortOverheat (overheat_info : VendorUsbPortOverheat)
  | notifyPortStatusChange (currentPortStatus : List PortStatus) (status : Status)
  /-- A write was attempted. -/
  | write (path text : String) (ok : Bool)
  deriving DecidableEq

abbrev Step := Logged Effect Fault

def kOverheatStatsPath : String := "/sys/devices/platform/google,usbc_port_cooling_dev/"

/-- The nodes that `report_overheat_event` reads, in order. -/
def overheatTimes : List String := ["trip_time", "hysteresis_time", "cleared_time"]

/-- Read one number after the other; `none` once a node cannot be read. -/
def readTimes (read : String → Option String) : List String → Step (Option (List ℤ))
  | [] => return some []
  | name :: names =>
      match read name with
      | none => return none
      | some contents =>
          match CText.stoi (CText.trim contents) with
          | none => ⟨[], .error .exception⟩
          | some n => do
              let rest ← readTimes read names
              return rest.map (n :: ·)

variable (S : Setting) (A : Answers)

def readOverheat (i : ℕ) (name : String) : Option String := A.read i (kOverheatStatsPath ++ name)

/-- `report_overheat_event`. -/
def reportOverheatEvent (i : ℕ) : Step Unit := do
  match ← readTimes (readOverheat A i) overheatTimes with
  | some [trip, hysteresis, cleared] =>
      if A.statsService i then
        .emit (.reportUsbPortOverheat
          ⟨A.pluggedTemperature, A.maxOverheatTemperature i, trip, hysteresis, cleared⟩) ()
      else return ()
  | _ => return ()

/-- `queryVersionHelper` with its notification logged: the fields and the vector it leaves. -/
def queryVersionHelper (u : Fields) : Step (Fields × List PortStatus) :=
  match queryPorts S A.fs u with
  | .error f => ⟨[], .error f⟩
  | .ok (status, fields, ps) =>
      ⟨if u.mCallback then [.notifyPortStatusChange ps status] else [], .ok (fields, ps)⟩

/-- The directory that the kernel makes for a partner. -/
def partnerPath (portName : String) : String :=
  "/sys/class/typec/" ++ CText.cString portName.toList ++ "-partner"

def switchToDrp (portName : String) : Step Unit :=
  let filename := roleFile portName (.mode .none)
  let s := A.stream filename
  .emit (.write filename "dual" (s.fopen && s.fputs && s.fclose)) ()

/-- The loop over `currentPortStatus`. -/
def switchDisconnected : List PortStatus → Step Unit
  | [] => return ()
  | p :: ps => do
      (if A.opendir (partnerPath p.portName) then pure () else switchToDrp A p.portName)
      switchDisconnected ps

/-- A field that concerns a port. -/
def portChanged (u : Fields) : Step Fields := do
  let (u, currentPortStatus) ← queryVersionHelper S A u
  (if A.roleSwitchFree then switchDisconnected A currentPortStatus else pure ())
  return u

/-- The loop of `uevent_event`; `break` leaves the rest of the fields. -/
def handleFields (u : Fields) : List (ℕ × FieldAction) → Step Fields
  | [] => return u
  | (_, .partnerAdded) :: fields => do
      .emit .partnerAdded ()
      handleFields u fields
  | (_, .portChanged) :: _ => portChanged S A u
  | (i, .overheat) :: fields => do
      reportOverheatEvent A i
      handleFields u fields
  | (_, .nothing) :: fields => handleFields u fields

/-- The fields of a message that was received, with what each makes the loop do. -/
def messageFields (regexMatch : String → String → Bool) (data : List Char) :
    List (ℕ × FieldAction) :=
  if 0 < data.length ∧ data.length < UEVENT_MSG_LEN then
    (located 0 (pieces data)).map fun f => (f.1, fieldAction regexMatch f.2)
  else []

/-- `uevent_event`. -/
def ueventEvent (regexMatch : String → String → Bool) (u : Fields) (data : List Char) :
    Step Fields :=
  handleFields S A u (messageFields regexMatch data)

/-! ### What a message should do -/

/-- The fields up to the first that concerns a port, that one left out. -/
def beforePort (fields : List (ℕ × FieldAction)) : List (ℕ × FieldAction) :=
  fields.takeWhile (·.2 ≠ .portChanged)

/-- Some field concerns a port. -/
def FindsPort (fields : List (ℕ × FieldAction)) : Prop := ∃ f ∈ fields, f.2 = .portChanged

/-- A node is reached that can be read and does not hold a number. -/
def Unparsable (read : String → Option String) (names : List String) : Prop :=
  ∃ pre name post contents, names = pre ++ name :: post ∧
    (∀ n ∈ pre, (read n).isSome = true) ∧ read name = some contents ∧
    CText.stoi (CText.trim contents) = none

/-- Nothing that the message leads to ends the service. -/
structure Harmless (fields : List (ℕ × FieldAction)) : Prop where
  parsable : ∀ f ∈ beforePort fields, f.2 = .overheat →
    ¬ Unparsable (readOverheat A f.1) overheatTimes
  answerable : FindsPort fields → Answerable S A.fs

/-- The number in a node. -/
def timeOf (read : String → Option String) (name : String) : Option ℤ :=
  (read name).bind fun contents => CText.stoi (CText.trim contents)

/-- The report, if all three numbers are there and somebody takes it. -/
def overheatReport (i : ℕ) : List Effect :=
  match overheatTimes.mapM (timeOf (readOverheat A i)) with
  | some [trip, hysteresis, cleared] =>
      if A.statsService i then
        [.reportUsbPortOverheat
          ⟨A.pluggedTemperature, A.maxOverheatTemperature i, trip, hysteresis, cleared⟩]
      else []
  | _ => []

/-- The effects of a field that concerns no port. -/
def fieldEffects (f : ℕ × FieldAction) : List Effect :=
  match f.2 with
  | .partnerAdded => [.partnerAdded]
  | .overheat => overheatReport A f.1
  | .portChanged | .nothing => []

/-- The effects of a query: the notification, and the ports without a partner made dual again, if
no role switch is in progress. -/
def portEffects (u : Fields) (ps : List PortStatus) (status : Status) : List Effect :=
  (if u.mCallback then [.notifyPortStatusChange ps status] else []) ++
    if A.roleSwitchFree then
      (ps.filter fun p => !A.opendir (partnerPath p.portName)).flatMap fun p =>
        (switchToDrp A p.portName).log
    else []

variable {S A}

/-- What the loop leads to, told field by field. -/
def Leaves (S : Setting) (A : Answers) (u : Fields) (fields : List (ℕ × FieldAction))
    (Q : List Effect → Fields → Prop) : Prop :=
  (∀ f ∈ beforePort fields, f.2 = .overheat → ¬ Unparsable (readOverheat A f.1) overheatTimes) ∧
  (¬ FindsPort fields → Q (fields.flatMap (fieldEffects A)) u) ∧
  (FindsPort fields → ∃ status u' ps, queryPorts S A.fs u = .ok (status, u', ps) ∧
    Q ((beforePort fields).flatMap (fieldEffects A) ++ portEffects A u ps status) u')

/-- What follows the field of a port is not handled. -/
theorem handleFields_upTo (regexMatch : String → String → Bool) (u : Fields) (i : ℕ)
    (texts : List (List Char)) :
    handleFields S A u ((located i (upTo (breaksAt regexMatch) texts)).map fun f =>
        (f.1, fieldAction regexMatch f.2)) =
      handleFields S A u ((located i texts).map fun f => (f.1, fieldAction regexMatch f.2)) := by
  induction texts generalizing i with
  | nil => rfl
  | cons text texts ih =>
    rw [upTo, breaksAt]
    cases haction : fieldAction regexMatch text with
    | portChanged => simp [located, haction, handleFields]
    | partnerAdded => simp [located, haction, handleFields, ih]
    | overheat => simp [located, haction, handleFields, ih]
    | nothing => simp [located, haction, handleFields, ih]

/-- The loop over the buffer, which is in bounds, visits the fields that are handled here. -/
theorem visited_handled (regexMatch : String → String → Bool) (u : Fields) {n : ℕ}
    {data msg : List Char} (hpos : 0 < data.length) (hlen : data.length < UEVENT_MSG_LEN)
    (hmsg : msg.length = UEVENT_MSG_LEN + 2) (hn : data.length < n) :
    Within (data.length + 1) (Usb.ueventEvent regexMatch n data msg) fun visited =>
      ueventEvent S A regexMatch u data =
        handleFields S A u (visited.map fun v => (v.1.index, v.2)) := by
  refine (ueventEvent_within hpos hlen hmsg hn).mono fun visited hvisited => ?_
  have hfields := congrArg (List.map fun f : (ℕ × List Char) × FieldAction => (f.1.1, f.2)) hvisited
  rw [List.map_map, List.map_map] at hfields
  rw [ueventEvent, messageFields, if_pos ⟨hpos, hlen⟩, ← handleFields_upTo]
  exact congrArg (handleFields S A u) hfields.symm

end Message

end Usb

end Gs101
