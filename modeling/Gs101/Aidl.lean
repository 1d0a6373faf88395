import Mathlib.Data.Finset.Basic

/-!
# The interface types of the USB HAL

The enumerations of `android.hardware.usb` that the HAL stores or reports.
-/

namespace Gs101

/-- `PortDataRole`, an `enum class : int8_t`: besides the three enumerators, a field that was
never assigned may hold any other byte. -/
inductive PortDataRole
  | none
  | host
  | device
  | unnamed (byte : UInt8)
  deriving DecidableEq

/-- `ComplianceWarning`, in the order of the enumerators' values. -/
inductive ComplianceWarning
  | other
  | debugAccessory
  | bc12
  | missingRp
  | inputPowerLimited
  | missingDataLines
  | enumerationFail
  | flakyConnection
  deriving DecidableEq

/-- The enumerators in the order in which a `std::set<ComplianceWarning>` is traversed. -/
def ComplianceWarning.all : List ComplianceWarning :=
  [.other, .debugAccessory, .bc12, .missingRp, .inputPowerLimited, .missingDataLines,
    .enumerationFail, .flakyConnection]

inductive PortPowerRole
  | none
  | source
  | sink
  deriving DecidableEq

inductive PortMode
  | none
  | ufp
  | dfp
  | drp
  | audioAccessory
  | debugAccessory
  deriving DecidableEq

/-- `PortRole`, a tagged union. -/
inductive PortRole
  | powerRole (role : PortPowerRole)
  | dataRole (role : PortDataRole)
  | mode (mode : PortMode)
  deriving DecidableEq

inductive PowerBrickStatus
  | unknown
  | connected
  | notConnected
  deriving DecidableEq

inductive UsbDataStatus
  | unknown
  | enabled
  | disabledOverheat
  | disabledContaminant
  | disabledDock
  | disabledForce
  | disabledDebug
  deriving DecidableEq

inductive ContaminantProtectionMode
  | forceSink
  | forceSource
  | forceDisable
  | none
  deriving DecidableEq

inductive ContaminantProtectionStatus
  | none
  | forceSink
  | forceSource
  | forceDisable
  | disabled
  deriving DecidableEq

inductive ContaminantDetectionStatus
  | notSupported
  | disabled
  | notDetected
  | detected
  deriving DecidableEq

/-- The fields of `PortStatus` that the HAL reads or writes. -/
structure PortStatus where
  portName : String
  currentPowerRole : PortPowerRole
  currentDataRole : PortDataRole
  currentMode : PortMode
  canChangeMode : Bool
  canChangeDataRole : Bool
  canChangePowerRole : Bool
  supportedModes : List PortMode
  usbDataStatus : List UsbDataStatus
  powerBrickStatus : PowerBrickStatus
  supportedContaminantProtectionModes : List ContaminantProtectionMode
  contaminantProtectionStatus : ContaminantProtectionStatus
  contaminantDetectionStatus : ContaminantDetectionStatus
  supportsEnableContaminantPresenceDetection : Bool
  supportsEnableContaminantPresenceProtection : Bool
  powerTransferLimited : Bool
  supportsComplianceWarnings : Bool
  complianceWarnings : List ComplianceWarning
  deriving DecidableEq

/-- `Status` of the USB HAL. -/
inductive Status
  | success
  | error
  | invalidArgument
  | unrecognizedRole
  | notSupported
  deriving DecidableEq

end Gs101
