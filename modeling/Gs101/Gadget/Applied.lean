import Gs101.Gadget.Functions
import Gs101.Lib.Runs

/-!
# UsbGadget: the monitor of the ffs functions

`setCurrentUsbFunctions` statement by statement, while the thread of `monitorFfs` runs beside it.
The statements take their answers from the `Answers` of the call; what libpixelusb links for a set
of functions is the parameter `PixelUsb`.

From `startMonitor` to `reset` the monitor may pull the gadget up and then call
`currentFunctionsAppliedCallback` with true, or call it with false when an endpoint is closed.  It
is `outdated` once a later call has cleared `mCurrentUsbFunctionsApplied`.

The constructor sets neither `mCurrentUsbFunctions` nor `mCurrentUsbFunctionsApplied`: a run begins
with what it has `Found` in memory, and with the gadget as an earlier service may have left it.

* `Truthful`: between calls, functions that are said to be applied are linked and pulled up;
* `Timely`: the event is not an outdated monitor's callback with true;
* `timely_truthful_iff`: the runs of timely events are truthful throughout if and only if what was
  found is.
-/

namespace Gs101

namespace Gadget

/-- What libpixelusb links: `addGenericAndroidFunctions`, whether it sets `ffsEnabled`, and
`addAdb`. -/
structure PixelUsb where
  generic : Functions → List String
  genericFfs : Functions → Bool
  adb : List String

/-- What `setupFunctions` links, in order. -/
def PixelUsb.composed (L : PixelUsb) (vendorFunctions : String) (functions : Functions) :
    List String :=
  L.generic functions ++ vendorLinks vendorFunctions functions ++
    (if Has functions GadgetFunction.adb then L.adb else []) ++
    (if Has functions GadgetFunction.ncm then ["ncm.gs9"] else [])

/-- The running thread of `monitorFfs`. -/
structure MonitorFfs where
  /-- It has pulled the gadget up, and is to call back. -/
  due : Bool
  /-- Ghost: a call has cleared the flag since it was started. -/
  outdated : Bool
  deriving DecidableEq

/-- The next statement of `setCurrentUsbFunctions`. -/
inductive Statement
  /-- No call is running. -/
  | idle
  /-- `mCurrentUsbFunctionsApplied = false`. -/
  | clear (functions : Functions) (A : Answers)
  /-- `resetGadget()`. -/
  | resetGadget (functions : Functions) (A : Answers)
  /-- `monitorFfs.reset()`, if it is running; then the case NONE. -/
  | resetMonitor (functions : Functions) (A : Answers)
  | validateAndSetVidPid (functions : Functions) (A : Answers)
  | addGenericAndroidFunctions (functions : Functions) (A : Answers)
  /-- `linkFunction` of the vendor functions that remain. -/
  | linkVendor (functions : Functions) (A : Answers) (todo : List String)
  | addAdb (functions : Functions) (A : Answers)
  | linkNcm (functions : Functions) (A : Answers)
  | pullUp (functions : Functions) (A : Answers)
  /-- `mCurrentUsbFunctionsApplied = true`. -/
  | apply (functions : Functions) (A : Answers)
  | startMonitor (functions : Functions) (A : Answers)
  /-- `waitForPullUp`, and the way out. -/
  | wait (functions : Functions) (A : Answers)

/-- The gadget between two statements. -/
structure Applied where
  next : Statement
  mCurrentUsbFunctions : Functions
  mCurrentUsbFunctionsApplied : Bool
  pulledUp : Bool
  linked : List String
  monitor : Option MonitorFfs

/-- What the service finds: the memory of the members that the constructor does not set, and the
gadget. -/
structure Found where
  mCurrentUsbFunctions : Functions
  mCurrentUsbFunctionsApplied : Bool
  pulledUp : Bool
  linked : List String

inductive Event
  /-- `setCurrentUsbFunctions` is called, and assigns `mCurrentUsbFunctions`. -/
  | call (functions : Functions) (A : Answers)
  /-- The next statement of the call. -/
  | statement
  /-- The monitor pulls the gadget up. -/
  | monitorPullUp
  /-- The monitor calls back with true. -/
  | monitorApplied
  /-- An endpoint is closed, which may pull the gadget down, and the monitor calls back with
  false. -/
  | monitorClosed (down : Bool)

namespace Applied

variable (L : PixelUsb)

/-- The call goes on with this statement. -/
def goto (s : Applied) (next : Statement) : Applied := { s with next := next }

/-- A statement that links; a failure ends the call. -/
def link (s : Applied) (ok : Bool) (names : List String) (next : Statement) : Applied :=
  if ok then { s with linked := s.linked ++ names, next := next } else s.goto .idle

/-- The next statement of the call. -/
def statement (s : Applied) : Applied :=
  match s.next with
  | .idle => s
  | .clear f A =>
      { s with
        mCurrentUsbFunctionsApplied := false
        monitor := s.monitor.map fun m => { m with outdated := true }
        next := .resetGadget f A }
  | .resetGadget f A =>
      if A.resetGadget ≠ .success then
        { s with pulledUp := A.leftPulledUp, linked := A.leftLinked, next := .idle }
      else { s with pulledUp := false, linked := [], next := .resetMonitor f A }
  | .resetMonitor f A =>
      { s with
        monitor := none
        next := if f = GadgetFunction.none then .idle else .validateAndSetVidPid f A }
  | .validateAndSetVidPid f A =>
      s.goto (if Gadget.validateAndSetVidPid A f = .success then .addGenericAndroidFunctions f A
        else .idle)
  | .addGenericAndroidFunctions f A =>
      if A.addGenericAndroidFunctions = .success then
        s.link true (L.generic f) (.linkVendor f A (vendorLinks A.setupVendorFunctions f))
      -- what was linked before the failure stays
      else { s with linked := s.linked ++ A.genericLinked, next := .idle }
  | .linkVendor f A [] =>
      s.goto (if Has f GadgetFunction.adb then .addAdb f A else .linkNcm f A)
  | .linkVendor f A (name :: names) =>
      s.link (A.linkFunction name) [name] (.linkVendor f A names)
  | .addAdb f A =>
      if A.addAdb = .success then s.link true L.adb (.linkNcm f A)
      else { s with linked := s.linked ++ A.adbLinked, next := .idle }
  | .linkNcm f A =>
      let next := if L.genericFfs f || decide (Has f GadgetFunction.adb) then
        Statement.startMonitor f A else .pullUp f A
      if Has f GadgetFunction.ncm then s.link (A.linkFunction "ncm.gs9") ["ncm.gs9"] next
      else s.goto next
  | .pullUp f A =>
      if A.pullUp then { s with pulledUp := true, next := .apply f A } else s.goto .idle
  | .apply _ _ => { s with mCurrentUsbFunctionsApplied := true, next := .idle }
  | .startMonitor f A =>
      { s with monitor := some ⟨false, false⟩, next := .wait f A }
  | .wait _ _ => s.goto .idle

def step (s : Applied) : Event → Applied
  | .call f A =>
      match s.next with
      | .idle => { s with mCurrentUsbFunctions := f, next := .clear f A }
      | _ => s
  | .statement => s.statement L
  | .monitorPullUp =>
      match s.monitor with
      | some m => { s with pulledUp := true, monitor := some { m with due := true } }
      | none => s
  | .monitorApplied =>
      match s.monitor with
      | some m =>
          if m.due then
            { s with mCurrentUsbFunctionsApplied := true, monitor := some { m with due := false } }
          else s
      | none => s
  | .monitorClosed down =>
      match s.monitor with
      | some m =>
          { s with
            mCurrentUsbFunctionsApplied := false
            pulledUp := s.pulledUp && !down
            monitor := some { m with due := false } }
      | none => s

/-- Before the first call. -/
def initial (found : Found) : Applied where
  next := .idle
  mCurrentUsbFunctions := found.mCurrentUsbFunctions
  mCurrentUsbFunctionsApplied := found.mCurrentUsbFunctionsApplied
  pulledUp := found.pulledUp
  linked := found.linked
  monitor := none

/-- These functions are linked, with the vendor functions of some call. -/
def Composed (functions : Functions) (linked : List String) : Prop :=
  ∃ v, linked = L.composed v functions

/-- Between calls, functions that are said to be applied are pulled up and linked. -/
def Truthful (s : Applied) : Prop :=
  s.next = .idle → s.mCurrentUsbFunctionsApplied = true →
    s.pulledUp = true ∧ Composed L s.mCurrentUsbFunctions s.linked

/-- The memory that was found does not say that functions are applied, or says it truly of the
gadget. -/
def Sound (found : Found) : Prop :=
  found.mCurrentUsbFunctionsApplied = true →
    found.pulledUp = true ∧ Composed L found.mCurrentUsbFunctions found.linked

/-- The event is not the callback with true of an outdated monitor. -/
def Timely (s : Applied) : Event → Prop
  | .monitorApplied => ∀ m ∈ s.monitor, m.due = true → m.outdated = false
  | _ => True

instance (s : Applied) (e : Event) : Decidable (s.Timely e) := by
  cases e <;> unfold Timely <;> infer_instance

/-! ### The invariant -/

/-- A monitor that is up to date monitors the functions that are linked. -/
structure Monitored (s : Applied) : Prop where
  composed : ∀ m ∈ s.monitor, m.outdated = false → Composed L s.mCurrentUsbFunctions s.linked
  applied : s.mCurrentUsbFunctionsApplied = true →
    s.pulledUp = true ∧ Composed L s.mCurrentUsbFunctions s.linked

/-- A call for `f` has cleared the flag, and only outdated monitors run. -/
structure Cleared (s : Applied) (f : Functions) : Prop where
  functions : s.mCurrentUsbFunctions = f
  applied : s.mCurrentUsbFunctionsApplied = false
  outdated : ∀ m ∈ s.monitor, m.outdated = true

/-- The call for `f` has stopped the monitor and has linked this much. -/
structure Stopped (s : Applied) (f : Functions) (linked : List String) : Prop
    extends Cleared s f where
  monitor : s.monitor = none
  linked : s.linked = linked

/-- What holds before each statement. -/
def Before (s : Applied) : Statement → Prop
  | .idle | .wait _ _ => Monitored L s
  | .clear f _ => s.mCurrentUsbFunctions = f
  | .resetGadget f _ => Cleared s f
  | .resetMonitor f _ => Cleared s f ∧ s.linked = []
  | .validateAndSetVidPid f _ | .addGenericAndroidFunctions f _ => Stopped s f []
  | .linkVendor f A todo =>
      ∃ done, done ++ todo = vendorLinks A.setupVendorFunctions f ∧
        Stopped s f (L.generic f ++ done)
  | .addAdb f A =>
      Has f GadgetFunction.adb ∧ Stopped s f (L.generic f ++ vendorLinks A.setupVendorFunctions f)
  | .linkNcm f A =>
      Stopped s f (L.generic f ++ vendorLinks A.setupVendorFunctions f ++
        if Has f GadgetFunction.adb then L.adb else [])
  | .pullUp f A | .startMonitor f A => Stopped s f (L.composed A.setupVendorFunctions f)
  | .apply f A => Stopped s f (L.composed A.setupVendorFunctions f) ∧ s.pulledUp = true

/-- What every reachable state satisfies. -/
structure Inv (s : Applied) : Prop where
  due : ∀ m ∈ s.monitor, m.due = true → m.outdated = false → s.pulledUp = true
  before : Before L s s.next

variable {L}

theorem Inv.truthful {s : Applied} (h : Inv L s) : Truthful L s := by
  intro hidle happlied
  have hm : Monitored L s := by
    have hb := h.before
    rw [hidle] at hb
    exact hb
  exact hm.applied happlied

/-- A call that ends after the flag was cleared claims nothing. -/
theorem Cleared.monitored {s : Applied} {f : Functions} (h : Cleared s f) : Monitored L s := by
  refine ⟨fun m hm hf => ?_, fun ha => ?_⟩
  · rw [h.outdated m hm] at hf
    cases hf
  · rw [h.applied] at ha
    cases ha

theorem Cleared.due {s : Applied} {f : Functions} (h : Cleared s f) :
    ∀ m ∈ s.monitor, m.due = true → m.outdated = false → s.pulledUp = true := by
  intro m hm _ hf
  rw [h.outdated m hm] at hf
  cases hf

/-- The call gives up after the flag was cleared. -/
theorem Cleared.giveUp {s s' : Applied} {f : Functions} (h : Cleared s f) (hnext : s'.next = .idle)
    (hcur : s'.mCurrentUsbFunctions = s.mCurrentUsbFunctions)
    (happlied : s'.mCurrentUsbFunctionsApplied = s.mCurrentUsbFunctionsApplied)
    (hmonitor : s'.monitor = s.monitor) : Inv L s' := by
  have h' : Cleared s' f :=
    ⟨hcur.trans h.functions, happlied.trans h.applied, by rw [hmonitor]; exact h.outdated⟩
  refine ⟨h'.due, ?_⟩
  rw [hnext]
  exact h'.monitored

/-- Linking, after the monitor was stopped. -/
theorem Stopped.link {s : Applied} {f : Functions} {linked : List String}
    (h : Stopped s f linked) (names : List String) (next : Statement) :
    Stopped { s with linked := s.linked ++ names, next := next } f (linked ++ names) :=
  ⟨⟨h.functions, h.applied, h.outdated⟩, h.monitor, by rw [h.linked]⟩

theorem Stopped.goto {s : Applied} {f : Functions} {linked : List String} (h : Stopped s f linked)
    (next : Statement) : Stopped (s.goto next) f linked :=
  ⟨⟨h.functions, h.applied, h.outdated⟩, h.monitor, h.linked⟩

/-- One step of linking keeps the invariant if what follows may rely on it. -/
theorem Stopped.inv_link {s : Applied} {f : Functions} {linked names : List String}
    (h : Stopped s f linked) (ok : Bool) {next : Statement}
    (hnext : ∀ s', Stopped s' f (linked ++ names) → Before L s' next) :
    Inv L (s.link ok names next) := by
  unfold Applied.link
  split_ifs
  · have h' := h.link names next
    exact ⟨h'.due, hnext _ h'⟩
  · exact h.giveUp rfl rfl rfl rfl

/-! ### One statement -/

section Statements

variable {s : Applied} {f : Functions} {A : Answers}

theorem inv_clear (hn : s.next = .clear f A) (hb : Before L s (.clear f A)) :
    Inv L (s.statement L) := by
  simp only [statement, hn]
  have hc : Cleared { s with
      mCurrentUsbFunctionsApplied := false
      monitor := s.monitor.map fun m => { m with outdated := true }
      next := .resetGadget f A } f := by
    refine ⟨hb, rfl, fun m hm => ?_⟩
    obtain ⟨m', -, rfl⟩ := Option.map_eq_some_iff.1 hm
    rfl
  exact ⟨hc.due, hc⟩

theorem inv_resetGadget (hn : s.next = .resetGadget f A) (hb : Before L s (.resetGadget f A)) :
    Inv L (s.statement L) := by
  simp only [statement, hn]
  split_ifs
  · exact hb.giveUp rfl rfl rfl rfl
  · have hc : Cleared { s with
        pulledUp := false, linked := [], next := .resetMonitor f A } f :=
      ⟨hb.functions, hb.applied, hb.outdated⟩
    exact ⟨hc.due, hc, rfl⟩

theorem inv_resetMonitor (hn : s.next = .resetMonitor f A) (hb : Before L s (.resetMonitor f A)) :
    Inv L (s.statement L) := by
  simp only [statement, hn]
  have hs : ∀ next, Stopped { s with monitor := none, next := next } f [] := fun next =>
    ⟨⟨hb.1.functions, hb.1.applied, nofun⟩, rfl, hb.2⟩
  split_ifs
  · exact ⟨(hs _).due, (hs _).monitored⟩
  · exact ⟨(hs _).due, hs _⟩

theorem inv_linkVendor {todo : List String} (hn : s.next = .linkVendor f A todo)
    (hb : Before L s (.linkVendor f A todo)) : Inv L (s.statement L) := by
  obtain ⟨done, hdone, hs⟩ := hb
  cases todo with
  | nil =>
    rw [List.append_nil] at hdone
    subst hdone
    simp only [statement, hn]
    split_ifs with hadb
    · exact ⟨(hs.goto _).due, hadb, hs.goto _⟩
    · refine ⟨(hs.goto (.linkNcm f A)).due, ?_⟩
      show Stopped _ f (_ ++ if Has f GadgetFunction.adb then L.adb else [])
      rw [if_neg hadb, List.append_nil]
      exact hs.goto _
  | cons name names =>
    simp only [statement, hn]
    refine hs.inv_link _ fun s' hs' => ⟨done ++ [name], ?_, ?_⟩
    · rw [← hdone, List.append_assoc]; rfl
    · rw [← List.append_assoc]; exact hs'

theorem inv_addAdb (hn : s.next = .addAdb f A) (hb : Before L s (.addAdb f A)) :
    Inv L (s.statement L) := by
  obtain ⟨hadb, hs⟩ := hb
  simp only [statement, hn]
  split_ifs
  · refine hs.inv_link true fun s' hs' => ?_
    show Stopped s' f (_ ++ if Has f GadgetFunction.adb then L.adb else [])
    rw [if_pos hadb]
    exact hs'
  · exact hs.giveUp rfl rfl rfl rfl

theorem inv_linkNcm (hn : s.next = .linkNcm f A) (hb : Before L s (.linkNcm f A)) :
    Inv L (s.statement L) := by
  have hnext : ∀ s' : Applied, Stopped s' f (L.composed A.setupVendorFunctions f) → Before L s'
      (if L.genericFfs f || decide (Has f GadgetFunction.adb) then Statement.startMonitor f A
        else .pullUp f A) := by
    intro s' hs'
    split_ifs
    · exact hs'
    · exact hs'
  simp only [statement, hn]
  by_cases hncm : Has f GadgetFunction.ncm
  · rw [if_pos hncm]
    refine hb.inv_link _ fun s' hs' => hnext s' ?_
    unfold PixelUsb.composed
    rw [if_pos hncm]
    exact hs'
  · rw [if_neg hncm]
    have hs : Stopped s f (L.composed A.setupVendorFunctions f) := by
      unfold PixelUsb.composed
      rw [if_neg hncm, List.append_nil]
      exact hb
    exact ⟨(hs.goto _).due, hnext _ (hs.goto _)⟩

theorem inv_pullUp (hn : s.next = .pullUp f A) (hb : Before L s (.pullUp f A)) :
    Inv L (s.statement L) := by
  simp only [statement, hn]
  split_ifs
  · have hs : Stopped { s with pulledUp := true, next := .apply f A } f
        (L.composed A.setupVendorFunctions f) :=
      ⟨⟨hb.functions, hb.applied, hb.outdated⟩, hb.monitor, hb.linked⟩
    exact ⟨hs.due, hs, rfl⟩
  · exact hb.giveUp rfl rfl rfl rfl

/-- The flag is set: no monitor runs, and the functions are linked and pulled up. -/
theorem inv_apply (hn : s.next = .apply f A) (hb : Before L s (.apply f A)) :
    Inv L (s.statement L) := by
  obtain ⟨hs, hup⟩ := hb
  have hnone : s.monitor = none := hs.monitor
  simp only [statement, hn]
  refine ⟨fun m hm => ?_, fun m hm => ?_, fun _ => ⟨hup, A.setupVendorFunctions, ?_⟩⟩
  · rw [hnone] at hm
    cases hm
  · rw [hnone] at hm
    cases hm
  · rw [hs.functions]
    exact hs.linked

/-- A new monitor starts, for the functions that are linked. -/
theorem inv_startMonitor (hn : s.next = .startMonitor f A)
    (hb : Before L s (.startMonitor f A)) : Inv L (s.statement L) := by
  simp only [statement, hn]
  refine ⟨fun m hm hdue => ?_, fun m _ _ => ⟨A.setupVendorFunctions, ?_⟩, fun ha => ?_⟩
  · cases hm
    cases hdue
  · rw [hb.functions]
    exact hb.linked
  · rw [show s.mCurrentUsbFunctionsApplied = false from hb.applied] at ha
    cases ha

end Statements

/-- The next statement of a call keeps the invariant. -/
theorem inv_statement {s : Applied} (h : Inv L s) : Inv L (s.statement L) := by
  have hb := h.before
  cases hn : s.next <;> rw [hn] at hb
  case idle =>
    simp only [statement, hn]
    exact h
  case clear f A => exact inv_clear hn hb
  case resetGadget f A => exact inv_resetGadget hn hb
  case resetMonitor f A => exact inv_resetMonitor hn hb
  case validateAndSetVidPid f A =>
    simp only [statement, hn]
    split_ifs
    · exact ⟨(hb.goto _).due, hb.goto _⟩
    · exact hb.giveUp rfl rfl rfl rfl
  case addGenericAndroidFunctions f A =>
    simp only [statement, hn]
    split_ifs
    · exact hb.inv_link true fun s' hs' => ⟨[], rfl, by simpa using hs'⟩
    · exact hb.giveUp rfl rfl rfl rfl
  case linkVendor f A todo => exact inv_linkVendor hn hb
  case addAdb f A => exact inv_addAdb hn hb
  case linkNcm f A => exact inv_linkNcm hn hb
  case pullUp f A => exact inv_pullUp hn hb
  case apply f A => exact inv_apply hn hb
  case startMonitor f A => exact inv_startMonitor hn hb
  case wait f A =>
    simp only [statement, hn]
    have hm : Monitored L s := hb
    exact ⟨h.due, hm.composed, hm.applied⟩

/-! ### The monitor beside the call -/

/-- The monitor runs beside any statement up to the stop, and changes neither the statement nor
what is linked. -/
theorem before_of_monitor {s s' : Applied} {m : MonitorFfs} (hm : s.monitor = some m)
    (hcur : s'.mCurrentUsbFunctions = s.mCurrentUsbFunctions) (hlinked : s'.linked = s.linked)
    (hmonitored : Monitored L s → Monitored L s') (hcleared : ∀ f, Cleared s f → Cleared s' f)
    {next : Statement} (h : Before L s next) : Before L s' next := by
  have hstopped : ∀ {f l}, Stopped s f l → Stopped s' f l := fun hs => by
    have hnone := hs.monitor
    rw [hm] at hnone
    cases hnone
  cases next with
  | idle => exact hmonitored h
  | wait f A => exact hmonitored h
  | clear f A => exact hcur.trans h
  | resetGadget f A => exact hcleared f h
  | resetMonitor f A => exact ⟨hcleared f h.1, hlinked.trans h.2⟩
  | validateAndSetVidPid f A => exact hstopped h
  | addGenericAndroidFunctions f A => exact hstopped h
  | linkVendor f A todo =>
    obtain ⟨done, hdone, hs⟩ := h
    exact ⟨done, hdone, hstopped hs⟩
  | addAdb f A => exact ⟨h.1, hstopped h.2⟩
  | linkNcm f A => exact hstopped h
  | pullUp f A => exact hstopped h
  | startMonitor f A => exact hstopped h
  | apply f A =>
    have hs : Stopped s' f (L.composed A.setupVendorFunctions f) := hstopped h.1
    have hnone := h.1.monitor
    rw [hm] at hnone
    cases hnone

theorem inv_monitorPullUp {s : Applied} (h : Inv L s) : Inv L (s.step L .monitorPullUp) := by
  simp only [step]
  split
  case h_2 => exact h
  case h_1 m hm =>
    refine ⟨fun _ _ _ _ => rfl, ?_⟩
    refine before_of_monitor hm ?_ ?_ (fun hs => ?_) (fun f hs => ?_) h.before
    · rfl
    · rfl
    · refine ⟨fun m' hm' hf => ?_, fun ha => ⟨rfl, (hs.applied ha).2⟩⟩
      cases hm'
      exact hs.composed m hm hf
    · refine ⟨hs.functions, hs.applied, fun m' hm' => ?_⟩
      cases hm'
      exact hs.outdated m hm

/-- Only a monitor that is up to date calls back with true in time. -/
theorem inv_monitorApplied {s : Applied} (h : Inv L s) (ht : s.Timely .monitorApplied) :
    Inv L (s.step L .monitorApplied) := by
  simp only [step]
  split
  case h_2 => exact h
  case h_1 m hm =>
    split_ifs with hdue
    swap
    · exact h
    have hfresh : m.outdated = false := ht m hm hdue
    have hup : s.pulledUp = true := h.due m hm hdue hfresh
    refine ⟨fun m' hm' hd => ?_, ?_⟩
    · cases hm'
      cases hd
    · refine before_of_monitor hm ?_ ?_ (fun hs => ?_) (fun f hs => ?_) h.before
      · rfl
      · rfl
      · refine ⟨fun m' hm' hf => ?_, fun _ => ⟨hup, hs.composed m hm hfresh⟩⟩
        cases hm'
        exact hs.composed m hm hf
      · have hout := hs.outdated m hm
        rw [hfresh] at hout
        cases hout

theorem inv_monitorClosed {s : Applied} (h : Inv L s) (down : Bool) :
    Inv L (s.step L (.monitorClosed down)) := by
  simp only [step]
  split
  case h_2 => exact h
  case h_1 m hm =>
    refine ⟨fun m' hm' hd => ?_, ?_⟩
    · cases hm'
      cases hd
    · refine before_of_monitor hm ?_ ?_ (fun hs => ?_) (fun f hs => ?_) h.before
      · rfl
      · rfl
      · refine ⟨fun m' hm' hf => ?_, nofun⟩
        cases hm'
        exact hs.composed m hm hf
      · refine ⟨hs.functions, rfl, fun m' hm' => ?_⟩
        cases hm'
        exact hs.outdated m hm

/-- A timely event keeps the invariant. -/
theorem inv_step (s : Applied) (e : Event) (h : Inv L s) (ht : s.Timely e) :
    Inv L (s.step L e) := by
  cases e with
  | call f A =>
    simp only [step]
    split
    · exact ⟨h.due, rfl⟩
    · exact h
  | statement => exact inv_statement h
  | monitorPullUp => exact inv_monitorPullUp h
  | monitorApplied => exact inv_monitorApplied h ht
  | monitorClosed down => exact inv_monitorClosed h down

/-- No monitor runs when the service starts. -/
theorem inv_initial {found : Found} (h : Sound L found) : Inv L (initial found) := by
  refine ⟨fun m hm => ?_, fun m hm => ?_, h⟩ <;> cases hm

/-- **FUNCTIONS_APPLIED is true** in every state of every run without late callbacks, if and only if
it is true, or is not said, of what the service has found. -/
theorem timely_truthful_iff (L : PixelUsb) (found : Found) :
    (∀ es, Runs.Meets (step L) Timely (initial found) es →
      Runs.Always (step L) (Truthful L) (initial found) es) ↔ Sound L found := by
  constructor
  · intro h happlied
    exact h [] trivial [] List.prefix_rfl rfl happlied
  · intro h es hes pre hpre
    exact (Runs.always_of_meets inv_step (inv_initial h) hes pre hpre).truthful

/-- What libpixelusb links when only ADB is asked for. -/
def adbOnly : PixelUsb := ⟨fun _ => [], fun _ => false, ["ffs.adb"]⟩

/-- Nothing is linked, and nothing is said to be applied. -/
def blank : Found := ⟨GadgetFunction.none, false, false, []⟩

theorem sound_of_not_applied {found : Found} (h : found.mCurrentUsbFunctionsApplied = false) :
    Sound L found :=
  fun happlied => absurd (h.symm.trans happlied) Bool.false_ne_true

/-- ADB is set up, up to the wait. -/
def adbSetUp : List Event :=
  .call GadgetFunction.adb obliging :: List.replicate 9 .statement

/-- The monitor pulls ADB up and calls back, and the call returns. -/
theorem adb_truthful :
    Runs.Always (step adbOnly) (Truthful adbOnly) (initial blank)
      (adbSetUp ++ [.monitorPullUp, .monitorApplied, .statement]) :=
  (timely_truthful_iff adbOnly blank).2 (sound_of_not_applied rfl) _ (by decide)

/-- The wait returns as soon as the monitor has pulled ADB up; functions that are not supported are
set, and the monitor calls back when the flag has been cleared. -/
def lateCallback : List Event :=
  adbSetUp ++ [.monitorPullUp, .statement, .call 2048#64 obliging, .statement, .monitorApplied,
    .statement, .statement, .statement]

/-- Functions are said to be applied that were never set up. -/
theorem lateCallback_untruthful :
    ¬ Runs.Always (step adbOnly) (Truthful adbOnly) (initial blank) lateCallback := by
  intro h
  obtain ⟨hup, -⟩ := h _ List.prefix_rfl rfl rfl
  cases hup

end Applied

end Gadget

end Gs101
