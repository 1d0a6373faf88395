import Gs101.Lib.CText
import Mathlib.Logic.Function.Basic

/-!
# UsbGadget: setting the functions of the gadget

`setCurrentUsbFunctions` and the functions it calls.  `Answers` is what the kernel, libpixelusb and
the client answer in one call; the state is the fields of `UsbGadget` and the part of the kernel
that the call writes.  What the thread of `monitorFfs` does meanwhile is the subject of `Applied`.
-/

namespace Gs101

namespace Gadget

/-- A set of `GadgetFunction` bits, a `long`. -/
abbrev Functions := BitVec 64

namespace GadgetFunction

def none : Functions := 0#64
def adb : Functions := 1#64
def accessory : Functions := 2#64
def mtp : Functions := 4#64
def midi : Functions := 8#64
def ptp : Functions := 16#64
def rndis : Functions := 32#64
def audioSource : Functions := 64#64
def uvc : Functions := 128#64
def ncm : Functions := 1024#64

end GadgetFunction

/-- `functions & f`. -/
def Has (functions f : Functions) : Prop := functions &&& f ≠ 0#64

instance (functions f : Functions) : Decidable (Has functions f) :=
  inferInstanceAs (Decidable (_ ≠ _))

/-- `Status` of the gadget HAL. -/
inductive Status
  | success
  | error
  | functionsApplied
  | functionsNotApplied
  | configurationNotSupported
  deriving DecidableEq

/-- `ScopedAStatus`, as the gadget HAL returns it. -/
inductive ScopedAStatus
  | ok
  | serviceSpecific (code : ℤ) (message : String)
  deriving DecidableEq

/-- The arguments of `setCurrentUsbFunctionsCb`. -/
structure FunctionsCb where
  functions : Functions
  status : Status
  transactionId : ℤ
  deriving DecidableEq

def kGadgetName : String := "11110000.dwc3"
def kAccessoryLimitCurrent : String := "usb_limit_accessory_current"
def kAccessoryLimitCurrentEnable : String := "usb_limit_accessory_enable"
def kUpdateSdpEnumTimeout : String := "update_sdp_enum_timeout"
def bigCore : String := "6"
def mediumCore : String := "4"
def currentUsbTypePath : String := "/sys/class/power_supply/usb/usb_type"
def currentUsbPowerOperationModePath : String := "/sys/class/typec/port0/power_operation_mode"

/-- What the rest of the system answers in one call of `setCurrentUsbFunctions`. -/
structure Answers where
  /-- `resetGadget`, and what it leaves pulled up and linked when it fails. -/
  resetGadget : Status
  leftPulledUp : Bool
  leftLinked : List String
  /-- `getVendorFunctions`, in `validateAndSetVidPid` and in `setupFunctions`. -/
  vendorFunctions : String
  setupVendorFunctions : String
  /-- The property `kUvcEnabled`. -/
  uvcEnabled : Bool
  setVidPid : String → String → Status
  /-- `addGenericAndroidFunctions`, what it links, and what it leaves in `ffsEnabled`. -/
  addGenericAndroidFunctions : Status
  genericLinked : List String
  genericFfs : Bool
  /-- Whether `linkFunction` of a function returns zero. -/
  linkFunction : String → Bool
  /-- `addAdb`, and what it links. -/
  addAdb : Status
  adbLinked : List String
  /-- The write of the gadget's name to `PULLUP_PATH`. -/
  pullUp : Bool
  waitForPullUp : ℤ → Bool
  /-- `callback`, if it is not NULL: whether each of its transactions succeeds. -/
  callback : Option (ℕ → Bool)
  /-- What `getI2cClientPath` finds, if it has to search. -/
  i2cClientPath : String
  /-- What `getUsbGadgetIrqPath` finds. -/
  irqPath : Option String
  reads : String → Option String
  writes : String → Bool

end Gadget

/-- The fields of `UsbGadget`, and what it writes. -/
structure UsbGadget where
  mCurrentUsbFunctions : Gadget.Functions
  mCurrentUsbFunctionsApplied : Bool
  mGadgetIrqPath : String
  mI2cClientPath : String
  /-- `monitorFfs.isMonitorRunning()`. -/
  monitorRunning : Bool
  pulledUp : Bool
  linked : List String
  files : String → String
  /-- Ghost: the invocations of the callback in this call. -/
  calls : List Gadget.FunctionsCb

namespace Gadget

open GadgetFunction (adb accessory mtp midi ptp rndis audioSource uvc ncm)

variable (A : Answers)

/-- `WriteStringToFile`. -/
def writeStringToFile (text path : String) (g : UsbGadget) : UsbGadget :=
  if A.writes path then { g with files := Function.update g.files path text } else g

/-- `callback->setCurrentUsbFunctionsCb`: the new state, and whether the transaction succeeded. -/
def setCurrentUsbFunctionsCb (transaction : ℕ → Bool) (cb : FunctionsCb) (g : UsbGadget) :
    UsbGadget × Bool :=
  ({ g with calls := g.calls ++ [cb] }, transaction g.calls.length)

/-- `getI2cClientPath`: the path is searched for until it is found. -/
def getI2cClientPath (g : UsbGadget) : UsbGadget × String :=
  if g.mI2cClientPath ≠ "" then (g, g.mI2cClientPath)
  else ({ g with mI2cClientPath := A.i2cClientPath }, A.i2cClientPath)

def updateSdpEnumTimeout (g : UsbGadget) : UsbGadget :=
  let (g, i2cPath) := getI2cClientPath A g
  if i2cPath = "" then g
  else writeStringToFile A "1" (i2cPath ++ "/" ++ kUpdateSdpEnumTimeout) g

/-- `tearDownGadget`. -/
def tearDownGadget (g : UsbGadget) : UsbGadget × Status :=
  if A.resetGadget ≠ .success then
    ({ g with pulledUp := A.leftPulledUp, linked := A.leftLinked }, .error)
  else ({ g with pulledUp := false, linked := [], monitorRunning := false }, .success)

/-! ### Compositions -/

/-- `vendorFunctions == "user" || vendorFunctions == ""`. -/
def Plain (vendorFunctions : String) : Prop := vendorFunctions = "user" ∨ vendorFunctions = ""

instance (v : String) : Decidable (Plain v) := inferInstanceAs (Decidable (_ ∨ _))

/-- A case that rejects vendor functions. -/
def strict (v vid pid : String) : Option (String × String) :=
  if Plain v then some (vid, pid) else none

/-- A case that only logs vendor functions. -/
def lax (_v vid pid : String) : Option (String × String) := some (vid, pid)

/-- A case of `GadgetFunction::UVC`. -/
def ifUvc (uvcEnabled : Bool) (v vid pid : String) : Option (String × String) :=
  if ¬ Plain v then none else if uvcEnabled then some (vid, pid) else none

/-- The switch of `validateAndSetVidPid`: the ids that the case of these functions sets, `none` if
it answers CONFIGURATION_NOT_SUPPORTED. -/
def composition (uvcEnabled : Bool) (v : String) (functions : Functions) :
    Option (String × String) :=
  if functions = mtp then strict v "0x18d1" "0x4ee1"
  else if functions = adb ||| mtp then strict v "0x18d1" "0x4ee2"
  else if functions = rndis ∨ functions = rndis ||| ncm then strict v "0x18d1" "0x4ee3"
  else if functions = adb ||| rndis ∨ functions = adb ||| rndis ||| ncm then
    if v = "dm" then some ("0x04e8", "0x6862") else strict v "0x18d1" "0x4ee4"
  else if functions = ptp then strict v "0x18d1" "0x4ee5"
  else if functions = adb ||| ptp then strict v "0x18d1" "0x4ee6"
  else if functions = adb then
    if v = "dm" then some ("0x04e8", "0x6862")
    else if v = "etr_miu" then some ("0x18d1", "0x4ee2")
    else if v = "uwb_acm" then some ("0x18d1", "0x4ee2")
    else strict v "0x18d1" "0x4ee7"
  else if functions = midi then strict v "0x18d1" "0x4ee8"
  else if functions = adb ||| midi then strict v "0x18d1" "0x4ee9"
  else if functions = accessory then lax v "0x18d1" "0x2d00"
  else if functions = adb ||| accessory then lax v "0x18d1" "0x2d01"
  else if functions = audioSource then lax v "0x18d1" "0x2d02"
  else if functions = adb ||| audioSource then lax v "0x18d1" "0x2d03"
  else if functions = accessory ||| audioSource then lax v "0x18d1" "0x2d04"
  else if functions = adb ||| accessory ||| audioSource then lax v "0x18d1" "0x2d05"
  else if functions = ncm then lax v "0x18d1" "0x4eeb"
  else if functions = adb ||| ncm then
    if v = "dm" then some ("0x04e8", "0x6862") else lax v "0x18d1" "0x4eec"
  else if functions = uvc then ifUvc uvcEnabled v "0x18d1" "0x4eed"
  else if functions = adb ||| uvc then ifUvc uvcEnabled v "0x18d1" "0x4eee"
  else none

def validateAndSetVidPid (functions : Functions) : Status :=
  match composition A.uvcEnabled A.vendorFunctions functions with
  | some (vid, pid) => A.setVidPid vid pid
  | none => .configurationNotSupported

/-- The vendor functions that `setupFunctions` links, in order. -/
def vendorLinks (v : String) (functions : Functions) : List String :=
  if v = "dm" then
    if Has functions rndis then ["acm.gs6", "dm.gs7"] else ["dm.gs7", "acm.gs6"]
  else if v = "etr_miu" then ["etr_miu.gs11"]
  else if v = "uwb_acm" then ["acm.uwb0"]
  else []

/-- Calls of `linkFunction` one after another, up to the first that fails. -/
def linkFunctions : List String → UsbGadget → UsbGadget × Bool
  | [], g => (g, true)
  | name :: names, g =>
      if A.linkFunction name then linkFunctions names { g with linked := g.linked ++ [name] }
      else (g, false)

/-- The first half of `setupFunctions`: everything that is linked, and `ffsEnabled`; `none` if it
returns ERROR. -/
def linkComposition (functions : Functions) (g : UsbGadget) : UsbGadget × Option Bool :=
  let g := { g with linked := g.linked ++ A.genericLinked }
  if A.addGenericAndroidFunctions ≠ .success then (g, none)
  else
    let (g, vendor) := linkFunctions A (vendorLinks A.setupVendorFunctions functions) g
    if !vendor then (g, none)
    else
      let (g, adbStatus) := if Has functions adb then
        ({ g with linked := g.linked ++ A.adbLinked }, A.addAdb) else (g, .success)
      if adbStatus ≠ .success then (g, none)
      else
        let (g, ncmLinked) := if Has functions ncm then linkFunctions A ["ncm.gs9"] g else (g, true)
        if !ncmLinked then (g, none)
        else (g, some (A.genericFfs || decide (Has functions adb)))

def setupFunctions (functions : Functions) (timeout in_transactionId : ℤ) (g : UsbGadget) :
    UsbGadget × Status :=
  match linkComposition A functions g with
  | (g, none) => (g, .error)
  -- without ffs functions the gadget is pulled up right away
  | (g, some false) =>
      if !A.pullUp then (g, .error)
      else
        let g := { g with pulledUp := true, mCurrentUsbFunctionsApplied := true }
        let g := match A.callback with
          | some transaction =>
              (setCurrentUsbFunctionsCb transaction ⟨functions, .success, in_transactionId⟩ g).1
          | none => g
        (updateSdpEnumTimeout A g, .success)
  | (g, some true) =>
      let g := { g with monitorRunning := true }
      match A.callback with
      | some transaction =>
          let pullup := A.waitForPullUp timeout
          let (g, ret) := setCurrentUsbFunctionsCb transaction
            ⟨functions, if pullup then .success else .error, in_transactionId⟩ g
          (g, if ret then .success else .error)
      | none => (g, .success)

/-! ### The call -/

def noCallback : ScopedAStatus := .serviceSpecific (-1) "callback == NULL"
def failedWithoutCallback : ScopedAStatus :=
  .serviceSpecific (-1) "Usb Gadget setcurrent functions failed"
def errorWhileCalling : ScopedAStatus :=
  .serviceSpecific (-1) "Error while calling setCurrentUsbFunctionsCb"

/-- The label `error`. -/
def errorExit (functions : Functions) (in_transactionId : ℤ) (status : Status) (g : UsbGadget) :
    UsbGadget × ScopedAStatus :=
  match A.callback with
  | none => (g, failedWithoutCallback)
  | some transaction =>
      ((setCurrentUsbFunctionsCb transaction ⟨functions, status, in_transactionId⟩ g).1,
        errorWhileCalling)

/-- The affinity of the gadget's IRQ. -/
def setIrqAffinity (functions : Functions) (g : UsbGadget) : UsbGadget :=
  if g.mGadgetIrqPath = "" then g
  else writeStringToFile A (if Has functions ncm then bigCore else mediumCore) g.mGadgetIrqPath g

/-- The accessory current limit is voted for, or the vote is dropped. -/
def setAccessoryLimit (functions : Functions) (i2cPath : String) (g : UsbGadget) : UsbGadget :=
  let limitPath := if i2cPath = "" then "" else i2cPath ++ "/" ++ kAccessoryLimitCurrent
  let enablePath := if i2cPath = "" then "" else i2cPath ++ "/" ++ kAccessoryLimitCurrentEnable
  let usbType := (A.reads currentUsbTypePath).elim "" CText.trim
  let mode := (A.reads currentUsbPowerOperationModePath).elim "" CText.trim
  if Has functions accessory ∧ usbType = "Unknown SDP [CDP] DCP" ∧
      (mode = "default" ∨ mode = "1.5A") then
    if limitPath = "" ∨ A.writes limitPath = false then g
    else
      let g := writeStringToFile A "1300000" limitPath g
      if enablePath = "" then g else writeStringToFile A "1" enablePath g
  else if enablePath = "" then g else writeStringToFile A "0" enablePath g

def setCurrentUsbFunctions (functions : Functions) (timeout in_transactionId : ℤ)
    (g : UsbGadget) : UsbGadget × ScopedAStatus :=
  let g := { g with mCurrentUsbFunctions := functions, mCurrentUsbFunctionsApplied := false,
                    calls := [] }
  let (g, i2cPath) := getI2cClientPath A g
  let g := if g.mGadgetIrqPath = "" then { g with mGadgetIrqPath := A.irqPath.getD "" } else g
  match tearDownGadget A g with
  | (g, .success) =>
      if functions = GadgetFunction.none then
        match A.callback with
        | none => (g, noCallback)
        | some transaction =>
            ((setCurrentUsbFunctionsCb transaction ⟨functions, .success, in_transactionId⟩ g).1,
              errorWhileCalling)
      else
        let status := validateAndSetVidPid A functions
        if status ≠ .success then errorExit A functions in_transactionId status g
        else
          match setupFunctions A functions timeout in_transactionId g with
          | (g, .success) =>
              (setAccessoryLimit A functions i2cPath (setIrqAffinity A functions g), .ok)
          | (g, status) => errorExit A functions in_transactionId status g
  | (g, status) => errorExit A functions in_transactionId status g

/-! ### What the parts leave alone -/

/-- Only files, and the path of the i2c client, have changed. -/
def OnlyFiles (g g' : UsbGadget) : Prop :=
  ∃ files path, g' = { g with files := files, mI2cClientPath := path }

theorem OnlyFiles.refl (g : UsbGadget) : OnlyFiles g g := ⟨g.files, g.mI2cClientPath, rfl⟩

theorem OnlyFiles.trans {g₁ g₂ g₃ : UsbGadget} (h : OnlyFiles g₁ g₂) (h' : OnlyFiles g₂ g₃) :
    OnlyFiles g₁ g₃ := by
  obtain ⟨files, path, rfl⟩ := h
  obtain ⟨files', path', rfl⟩ := h'
  exact ⟨files', path', rfl⟩

theorem OnlyFiles.calls {g g' : UsbGadget} (h : OnlyFiles g g') : g'.calls = g.calls := by
  obtain ⟨files, path, rfl⟩ := h
  rfl

theorem onlyFiles_writeStringToFile (text path : String) (g : UsbGadget) :
    OnlyFiles g (writeStringToFile A text path g) := by
  unfold writeStringToFile
  split_ifs
  · exact ⟨_, g.mI2cClientPath, rfl⟩
  · exact .refl g

theorem onlyFiles_getI2cClientPath (g : UsbGadget) : OnlyFiles g (getI2cClientPath A g).1 := by
  unfold getI2cClientPath
  split_ifs
  · exact .refl g
  · exact ⟨g.files, _, rfl⟩

theorem onlyFiles_updateSdpEnumTimeout (g : UsbGadget) :
    OnlyFiles g (updateSdpEnumTimeout A g) := by
  simp only [updateSdpEnumTimeout]
  split_ifs
  · exact onlyFiles_getI2cClientPath A g
  · exact (onlyFiles_getI2cClientPath A g).trans (onlyFiles_writeStringToFile A _ _ _)

theorem onlyFiles_setIrqAffinity (functions : Functions) (g : UsbGadget) :
    OnlyFiles g (setIrqAffinity A functions g) := by
  unfold setIrqAffinity
  split_ifs
  · exact .refl g
  · exact onlyFiles_writeStringToFile A _ _ g
  · exact onlyFiles_writeStringToFile A _ _ g

theorem onlyFiles_setAccessoryLimit (functions : Functions) (i2cPath : String) (g : UsbGadget) :
    OnlyFiles g (setAccessoryLimit A functions i2cPath g) := by
  have hw := onlyFiles_writeStringToFile A
  simp only [setAccessoryLimit]
  split_ifs
  all_goals first
    | exact .refl g
    | exact hw _ _ g
    | exact (hw _ _ g).trans (hw _ _ _)

/-- A system in which everything succeeds, and no vendor function is configured. -/
def obliging : Answers where
  resetGadget := .success
  leftPulledUp := false
  leftLinked := []
  vendorFunctions := ""
  setupVendorFunctions := ""
  uvcEnabled := false
  setVidPid _ _ := .success
  addGenericAndroidFunctions := .success
  genericLinked := []
  genericFfs := false
  linkFunction _ := true
  addAdb := .success
  adbLinked := ["ffs.adb"]
  pullUp := true
  waitForPullUp _ := true
  callback := some fun _ => true
  i2cClientPath := ""
  irqPath := none
  reads _ := none
  writes _ := true

end Gadget

end Gs101
