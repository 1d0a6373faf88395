import Gs101.Lib.Runs
import Gs101.Lib.CText
import Gs101.Aidl
import Gs101.Monitor.State
import Gs101.Lib.Ownership
import Gs101.Monitor.Handlers
import Gs101.Monitor.StateFiles
import Gs101.Monitor.System
import Gs101.Monitor.Descriptors
import Gs101.Monitor.Warnings
import Gs101.Monitor.Notifications
import Gs101.Lib.Segments
import Gs101.Monitor.Sessions
import Gs101.Monitor.FirstSession
import Gs101.Usb.DataSignal
import Gs101.Lib.Locks
import Gs101.Usb.Threads
import Gs101.Usb.Deadlock
import Gs101.Gadget.Functions
import Gs101.Gadget.Results
import Gs101.Gadget.IrqPath
import Gs101.Gadget.Applied
import Gs101.Lib.Returns
import Gs101.Usb.PortStatus
import Gs101.Usb.PortFaults
import Gs101.Gadget.Statements
import Gs101.Monitor.Histories
import Gs101.Monitor.Shown
import Gs101.Monitor.Uevents
import Gs101.Monitor.Exchange
import Gs101.Monitor.Batches
import Gs101.Lib.Logged
import Gs101.Usb.Transactions
import Gs101.Lib.Shell
import Gs101.Uwb.Calib
import Gs101.Uwb.Restart
import Gs101.Uwb.Lines
import Gs101.Gadget.AccessoryLimit
import Gs101.Gadget.VendorFunctions
import Gs101.Usb.Partner
import Gs101.Usb.Roles
import Gs101.Lib.Regex
import Gs101.Monitor.HotPlug
import Gs101.Monitor.BindStatus
import Gs101.Usb.Contaminant
import Gs101.Usb.Chargers
import Gs101.Usb.PortNames
import Gs101.Lib.Buffer
import Gs101.Usb.FieldWalk
import Gs101.Monitor.ReadBuffers
import Gs101.Fingerprint.CheckParameter
import Gs101.Health.Storage
import Gs101.Health.Measured
import Gs101.Health.Refresh
import Gs101.Lib.Bash
import Gs101.Uwb.CountryConf
import Gs101.Uwb.Countries
import Gs101.Usb.RoleSwitch
import Gs101.Usb.Delivery
import Gs101.Usb.UeventEvent
import Gs101.Gadget.PullUps
import Gs101.Usb.Unregister
import Gs101.Usb.Progress
import Gs101.Usb.Ports
import Gs101.Usb.Consistent
import Gs101.Usb.ClientPath
import Gs101.Monitor.Dispatch
import Gs101.Uwb.Xtal
import Gs101.Fingerprint.Main
import Gs101.Gadget.Told
import Gs101.Monitor.Withdrawn
import Gs101.Monitor.Timer
import Gs101.Usb.Brought
