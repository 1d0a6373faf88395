import Gs101.Usb.Chargers
import Gs101.Usb.Contaminant
import Gs101.Usb.PortNames

/-!
# Usb: the status of each port

`queryVersionHelper` fills a vector of port statuses in four passes: the loop of
`getPortStatusHelper`, which leaves with `goto done` at the first port that cannot be read, two
helpers that write to the first element only, and the loop over the chargers.

* `portStatus`: the status of a port by itself, without a vector;
* `ownNodes`, `sharedNodes`: the nodes of a port, and those that are read for every port;
* `portStatus_congr`: the status of a port is made of these;
* `firstPort`: what the nodes of the i2c client and the data-session monitor add to the first port;
* `queryPorts_portwise`: a query that answers SUCCESS has made the vector of these.
-/

namespace Gs101

namespace Usb

open Fallible

namespace Ports

/-! ### One port -/

/-- The word of a role; a port without a partner has none. -/
def wordOf (fs : FileSystem) (port : String × Bool) (role : PortRole) : String :=
  if port.2 then (roleWord fs port.1 role).getD "none" else "none"

/-- The accessory that a partner is. -/
def accessoryOf (fs : FileSystem) (port : String × Bool) : String :=
  if port.2 then (getAccessoryConnected fs port.1).getD "none" else "none"

def powerRoleOf (word : String) : PortPowerRole :=
  if word = "source" then .source else if word = "sink" then .sink else .none

def dataRoleOf (word : String) : PortDataRole :=
  if word = "host" then .host else if word = "device" then .device else .none

/-- The mode of a port; it is taken from the word of the data role. -/
def modeOf (accessory word : String) : PortMode :=
  if accessory = "analog_audio" then .audioAccessory
  else if accessory = "debug" then .debugAccessory
  else if word = "host" then .dfp
  else if word = "device" then .ufp
  else .none

/-- Whether the node of the pogo transport says that USB data is in use there. -/
def docked (fs : FileSystem) : Bool :=
  match pogoUsbActive fs with
  | .ok docked => docked
  | .error _ => false

/-- The rest of a status, once the roles are known. -/
def details (fs : FileSystem) (u : Fields) (port : String × Bool) (p : PortStatus) : PortStatus :=
  let canSwitch := port.2 && canSwitchRoleHelper fs port.1
  let p := { p with
    canChangeMode := true
    canChangeDataRole := canSwitch
    canChangePowerRole := canSwitch
    supportedModes := p.supportedModes ++ [PortMode.drp]
    usbDataStatus := p.usbDataStatus ++ usbDataStatuses (docked fs) u.mUsbDataEnabled }
  { p with powerBrickStatus := powerBrick fs port.2 p }

/-- What the loop of `getPortStatusHelper` makes of a fresh status. -/
def loopStatus (S : Setting) (fs : FileSystem) (u : Fields) (port : String × Bool) : PortStatus :=
  details fs u port { S.freshPortStatus with
    portName := port.1
    currentPowerRole := powerRoleOf (wordOf fs port (.powerRole .none))
    currentDataRole := dataRoleOf (wordOf fs port (.dataRole .none))
    currentMode := modeOf (accessoryOf fs port) (wordOf fs port (.dataRole .none)) }

/-- What `queryMoistureDetectionStatus` writes, with the directory of the i2c client. -/
def moisture (fs : FileSystem) (i2cPath : String) (p : PortStatus) : PortStatus :=
  let p := { p with
    supportedContaminantProtectionModes := p.supportedContaminantProtectionModes ++ [.forceDisable]
    contaminantProtectionStatus := .none
    contaminantDetectionStatus := .disabled
    supportsEnableContaminantPresenceDetection := true
    supportsEnableContaminantPresenceProtection := false }
  if i2cPath = "" then p
  else match fs.read (i2cPath ++ "/" ++ kContaminantDetectionPath) with
    | none => p
    | some enabled =>
        if CText.trim enabled ≠ "1" then p
        else match fs.read (i2cPath ++ "/" ++ kStatusPath) with
          | none => p
          | some status =>
              if CText.trim status = "1" then
                { p with
                  contaminantDetectionStatus := .detected
                  contaminantProtectionStatus := .forceDisable }
              else { p with contaminantDetectionStatus := .notDetected }

/-- What `queryPowerTransferStatus` writes. -/
def powerTransfer (fs : FileSystem) (i2cPath : String) (p : PortStatus) : PortStatus :=
  if i2cPath = "" then p
  else match fs.read (i2cPath ++ "/" ++ kSinkLimitEnable) with
    | none => p
    | some enabled => { p with powerTransferLimited := CText.trim enabled = "1" }

/-- The warnings of the data session, for the role of the port. -/
def dataSession (S : Setting) (m : Monitor) (p : PortStatus) : PortStatus :=
  { p with complianceWarnings := p.complianceWarnings ++
      m.getComplianceWarnings S.platform p.currentDataRole }

/-- The status of a port. -/
def portStatus (S : Setting) (fs : FileSystem) (u : Fields) (port : String × Bool) : PortStatus :=
  nonCompliantCharger S fs (loopStatus S fs u port)

/-- The status of the first port. -/
def firstPort (S : Setting) (fs : FileSystem) (u : Fields) (port : String × Bool) : PortStatus :=
  let i2cPath := (getI2cClientPath fs u).1
  dataSession S u.mUsbDataSessionMonitor
    (nonCompliantCharger S fs (powerTransfer fs i2cPath (moisture fs i2cPath
      (loopStatus S fs u port))))

/-- The vector, without indices. -/
def portStatuses (S : Setting) (fs : FileSystem) (u : Fields) : List (String × Bool) →
    List PortStatus
  | [] => []
  | port :: ports => firstPort S fs u port :: ports.map (portStatus S fs u)

/-- The nodes of a port and of its partner. -/
def ownNodes (portName : String) : List String :=
  [roleNode portName (.powerRole .none), roleNode portName (.dataRole .none),
    "/sys/class/typec/" ++ portName ++ "-partner/accessory_mode",
    "/sys/class/typec/" ++ portName ++ "-partner/supports_usb_power_delivery",
    Chargers.reasonsNode portName]

/-- The nodes that are read for every port. -/
def sharedNodes : List String := [kPogoUsbActive, kPowerSupplyUsbType]

variable {S : Setting} {fs : FileSystem} {u : Fields} {port : String × Bool} {p : PortStatus}
  {before after : List PortStatus}

/-! ### The roles -/

theorem powerRole_assignRole {word : String} {c : PortRole} {r : PortPowerRole}
    (h : assignRole (.powerRole .none) word = (.success, c)) (hr : getPowerRole c = .ok r) :
    r = powerRoleOf word := by
  unfold assignRole at h
  unfold powerRoleOf
  split_ifs at h ⊢ <;> cases h <;> cases hr <;> rfl

theorem dataRole_assignRole {word : String} {c : PortRole} {r : PortDataRole}
    (h : assignRole (.dataRole .none) word = (.success, c)) (hr : getDataRole c = .ok r) :
    r = dataRoleOf word := by
  unfold assignRole at h
  unfold dataRoleOf
  split_ifs at h ⊢ <;> cases h <;> cases hr <;> rfl

/-- A role other than the mode that was read is the one of its word. -/
theorem plain_role {α : Type} {role c : PortRole} {get : PortRole → Except Fault α}
    (ofWord : String → α) {r : α} (hrole : IsPlain role) (hnone : get role = .ok (ofWord "none"))
    (hassign : ∀ word c r, assignRole role word = (.success, c) → get c = .ok r → r = ofWord word)
    (h : getCurrentRoleHelper fs port.1 port.2 role = (.success, c)) (hr : get c = .ok r) :
    r = ofWord (wordOf fs port role) := by
  obtain ⟨portName, connected⟩ := port
  cases connected with
  | false =>
    have hc : c = role := by
      rcases hrole with rfl | rfl <;> cases h <;> rfl
    rw [hc, hnone] at hr
    cases hr
    rfl
  | true =>
    rw [getCurrentRoleHelper_plain hrole] at h
    cases hw : roleWord fs portName role with
    | none => simp [hw] at h
    | some word =>
      simp only [hw] at h
      simp only [wordOf, hw, if_true, Option.getD_some]
      exact hassign word c r h hr

theorem mode_assignRole {accessory word : String} {c : PortRole} {m : PortMode}
    (haudio : accessory ≠ "analog_audio") (hdebug : accessory ≠ "debug")
    (h : assignRole (.mode .none) word = (.success, c)) (hm : getMode c = .ok m) :
    m = modeOf accessory word := by
  unfold assignRole at h
  unfold modeOf
  rw [if_neg haudio, if_neg hdebug]
  split_ifs at h ⊢ <;> cases h <;> cases hm <;> rfl

theorem mode_role {c : PortRole} {m : PortMode}
    (h : getCurrentRoleHelper fs port.1 port.2 (.mode .none) = (.success, c))
    (hm : getMode c = .ok m) :
    m = modeOf (accessoryOf fs port) (wordOf fs port (.dataRole .none)) := by
  obtain ⟨portName, connected⟩ := port
  cases connected with
  | false =>
    cases h
    cases hm
    rfl
  | true =>
    rw [getCurrentRoleHelper_mode] at h
    cases ha : getAccessoryConnected fs portName with
    | none => simp [ha] at h
    | some accessory =>
      simp only [ha] at h
      simp only [accessoryOf, ha, if_true, Option.getD_some]
      by_cases haudio : accessory = "analog_audio"
      · rw [if_pos haudio] at h
        cases h
        cases hm
        rw [modeOf, if_pos haudio]
      by_cases hdebug : accessory = "debug"
      · rw [if_neg haudio, if_pos hdebug] at h
        cases h
        cases hm
        rw [modeOf, if_neg haudio, if_pos hdebug]
      rw [if_neg haudio, if_neg hdebug] at h
      cases hw : roleWord fs portName (.dataRole .none) with
      | none => simp [hw] at h
      | some word =>
        simp only [hw] at h
        simp only [wordOf, hw, if_true, Option.getD_some]
        exact mode_assignRole haudio hdebug h hm

/-! ### The loop over the ports -/

theorem portRole_success {α : Type} {role : PortRole} {get : PortRole → Except Fault α}
    {put : α → PortStatus → PortStatus} {ps : List PortStatus}
    (h : portRole fs before.length port role get put (before ++ p :: after) = .ok (.success, ps)) :
    ∃ c r, getCurrentRoleHelper fs port.1 port.2 role = (.success, c) ∧ get c = .ok r ∧
      ps = before ++ put r p :: after := by
  unfold portRole at h
  cases hc : getCurrentRoleHelper fs port.1 port.2 role with
  | mk status c =>
    rw [hc] at h
    cases status with
    | success =>
      obtain ⟨r, hr, h⟩ := of_bind_eq_ok h
      rw [Chargers.setAt_append, ok_bind] at h
      cases h
      exact ⟨c, r, rfl, hr, rfl⟩
    | _ => cases h

theorem orDone_success {x : Except Fault (Status × List PortStatus)}
    {f : List PortStatus → Except Fault (Status × List PortStatus)} {qs : List PortStatus}
    (h : orDone x f = .ok (.success, qs)) :
    ∃ ps, x = .ok (.success, ps) ∧ f ps = .ok (.success, qs) := by
  obtain ⟨⟨result, ps⟩, hx, h⟩ := of_bind_eq_ok h
  dsimp only at h
  split_ifs at h with hs
  · exact ⟨ps, hs ▸ hx, h⟩
  · cases h
    exact absurd rfl hs

theorem docked_of_ok {d : Bool} (h : pogoUsbActive fs = .ok d) : d = docked fs := by
  rw [docked, h]

theorem portDetails_ok {ps : List PortStatus}
    (h : portDetails fs u before.length port (before ++ p :: after) = .ok ps) :
    ps = before ++ details fs u port p :: after := by
  obtain ⟨ps₁, h₁, h⟩ := of_bind_eq_ok h
  rw [Chargers.setAt_append] at h₁
  cases h₁
  obtain ⟨d, hd, h⟩ := of_bind_eq_ok h
  obtain ⟨ps₂, h₂, h⟩ := of_bind_eq_ok h
  rw [Chargers.setAt_append, docked_of_ok hd] at h₂
  cases h₂
  rw [Chargers.setAt_append] at h
  cases h
  rfl

/-- The body leaves the status of the port behind. -/
theorem portBody_success {ps : List PortStatus}
    (h : portBody fs u before.length port (before ++ S.freshPortStatus :: after) =
      .ok (.success, ps)) :
    ps = before ++ loopStatus S fs u port :: after := by
  obtain ⟨ps₀, h₀, h⟩ := of_bind_eq_ok h
  rw [Chargers.setAt_append] at h₀
  cases h₀
  obtain ⟨ps₁, h₁, h⟩ := orDone_success h
  obtain ⟨c₁, power, hc₁, hpower, rfl⟩ := portRole_success h₁
  obtain ⟨ps₂, h₂, h⟩ := orDone_success h
  obtain ⟨c₂, data, hc₂, hdata, rfl⟩ := portRole_success h₂
  obtain ⟨ps₃, h₃, h⟩ := orDone_success h
  obtain ⟨c₃, mode, hc₃, hmode, rfl⟩ := portRole_success h₃
  obtain rfl := plain_role powerRoleOf (.inl rfl) rfl
    (fun _ _ _ => powerRole_assignRole) hc₁ hpower
  obtain rfl := plain_role dataRoleOf (.inr rfl) rfl
    (fun _ _ _ => dataRole_assignRole) hc₂ hdata
  obtain rfl := mode_role hc₃ hmode
  obtain ⟨ps₄, h₄, h⟩ := of_bind_eq_ok h
  obtain rfl := portDetails_ok h₄
  cases h
  rfl

/-- The loop leaves the statuses of the ports behind. -/
theorem portLoop_success {ports : List (String × Bool)} {ps : List PortStatus}
    (h : portLoop fs u before.length ports
      (before ++ List.replicate ports.length S.freshPortStatus) = .ok (.success, ps)) :
    ps = before ++ ports.map (loopStatus S fs u) := by
  induction ports generalizing before with
  | nil =>
    cases h
    rfl
  | cons port ports ih =>
    rw [List.length_cons, List.replicate_succ] at h
    obtain ⟨ps₁, h₁, h⟩ := orDone_success h
    obtain rfl := portBody_success h₁
    have hrest : portLoop fs u (before ++ [loopStatus S fs u port]).length ports
        (before ++ [loopStatus S fs u port] ++ List.replicate ports.length S.freshPortStatus) =
          .ok (.success, ps) := by
      rw [List.append_assoc, List.length_append]
      exact h
    rw [ih hrest, List.map_cons, List.append_assoc]
    rfl

theorem getPortStatusHelper_success {ps : List PortStatus}
    (h : getPortStatusHelper S fs u = .ok (.success, ps)) :
    ∃ names, getTypeCPortNamesHelper fs = some names ∧
      ps = (S.order names).map (loopStatus S fs u) := by
  unfold getPortStatusHelper at h
  cases hn : getTypeCPortNamesHelper fs with
  | none =>
    rw [hn] at h
    cases h
  | some names =>
    rw [hn] at h
    dsimp only at h
    rw [← (S.perm names).length_eq] at h
    have hloop : portLoop fs u ([] : List PortStatus).length (S.order names)
        ([] ++ List.replicate (S.order names).length S.freshPortStatus) = .ok (.success, ps) := h
    exact ⟨names, rfl, portLoop_success hloop⟩

/-! ### The first port -/

theorem setAt_zero (f : PortStatus → PortStatus) : setAt (p :: after) 0 f = .ok (f p :: after) := by
  rw [setAt, if_pos (by simp)]
  rfl

theorem queryMoistureDetectionStatus_cons {r : Status × Fields × List PortStatus}
    (h : queryMoistureDetectionStatus fs u (p :: after) = .ok r) :
    r.2.2 = moisture fs (getI2cClientPath fs u).1 p :: after := by
  obtain ⟨ps, hps, h⟩ := of_bind_eq_ok h
  rw [setAt_zero] at hps
  cases hps
  unfold moisture
  generalize getI2cClientPath fs u = client at h ⊢
  dsimp only at h ⊢
  split_ifs at h ⊢ with hpath
  · cases h
    rfl
  cases hread : fs.read (client.1 ++ "/" ++ kContaminantDetectionPath) with
  | none =>
    rw [hread] at h
    cases h
    rfl
  | some enabled =>
    simp only [hread] at h ⊢
    split_ifs at h ⊢ with henabled
    · cases h
      rfl
    cases hstatus : fs.read (client.1 ++ "/" ++ kStatusPath) with
    | none =>
      rw [hstatus] at h
      cases h
      rfl
    | some status =>
      simp only [hstatus, setAt_zero] at h ⊢
      cases h
      split_ifs <;> rfl

theorem queryPowerTransferStatus_cons {r : Status × Fields × List PortStatus}
    (h : queryPowerTransferStatus fs u (p :: after) = .ok r) :
    r.2.2 = powerTransfer fs (getI2cClientPath fs u).1 p :: after := by
  unfold queryPowerTransferStatus at h
  unfold powerTransfer
  generalize getI2cClientPath fs u = client at h ⊢
  dsimp only at h ⊢
  split_ifs at h ⊢
  · cases h
    rfl
  cases hread : fs.read (client.1 ++ "/" ++ kSinkLimitEnable) with
  | none =>
    rw [hread] at h
    cases h
    rfl
  | some enabled =>
    simp only [hread, setAt_zero] at h
    cases h
    rfl

theorem queryUsbDataSession_cons {ps : List PortStatus}
    (h : queryUsbDataSession S u (p :: after) = .ok ps) :
    ps = dataSession S u.mUsbDataSessionMonitor p :: after := by
  obtain ⟨q, hq, h⟩ := of_bind_eq_ok h
  cases hq
  rw [setAt_zero] at h
  cases h
  rfl

theorem getI2cClientPath_monitor (fs : FileSystem) (u : Fields) :
    (getI2cClientPath fs u).2.mUsbDataSessionMonitor = u.mUsbDataSessionMonitor := by
  unfold getI2cClientPath
  obtain ⟨n, hn⟩ := Transaction.getI2cBusNumber_keeps fs u
  simp only [hn]
  split_ifs <;> rfl

/-- The directory of the client is looked for twice, with one answer. -/
theorem getI2cClientPath_moisture {ps : List PortStatus} {r : Status × Fields × List PortStatus}
    (h : queryMoistureDetectionStatus fs u ps = .ok r) :
    (getI2cClientPath fs r.2.1).1 = (getI2cClientPath fs u).1 ∧
      r.2.1.mUsbDataSessionMonitor = u.mUsbDataSessionMonitor := by
  have hclient := Contaminant.queryMoistureDetectionStatus_client h
  split_ifs at hclient with hpath
  · rw [hclient]
    exact ⟨Contaminant.getI2cClientPath_again fs u, getI2cClientPath_monitor fs u⟩
  · refine ⟨?_, ?_⟩
    · rw [Contaminant.getI2cClientPath_fst, hclient]
      dsimp only
      rw [Contaminant.getI2cClientPath_path, if_pos hpath]
    · rw [hclient]
      exact getI2cClientPath_monitor fs u

theorem queryPorts_success {v : Fields} {ps : List PortStatus}
    (h : queryPorts S fs u = .ok (.success, v, ps)) :
    ∃ names, getTypeCPortNamesHelper fs = some names ∧ S.order names ≠ [] ∧
      ps = portStatuses S fs u (S.order names) := by
  obtain ⟨⟨status, qs⟩, hloop, h⟩ := of_bind_eq_ok h
  obtain ⟨⟨_, u₁, qs₁⟩, h₁, h⟩ := of_bind_eq_ok h
  obtain ⟨⟨_, u₂, qs₂⟩, h₂, h⟩ := of_bind_eq_ok h
  obtain ⟨qs₃, h₃, h⟩ := of_bind_eq_ok h
  cases h
  obtain ⟨names, hnames, rfl⟩ := getPortStatusHelper_success hloop
  refine ⟨names, hnames, ?_⟩
  -- the first element of an empty vector is written to
  cases hports : S.order names with
  | nil =>
    rw [hports] at h₁
    cases h₁
  | cons port ports =>
    rw [hports, List.map_cons] at h₁
    obtain ⟨hclient, hmonitor⟩ := getI2cClientPath_moisture h₁
    obtain rfl : qs₁ = _ := queryMoistureDetectionStatus_cons h₁
    dsimp only at h₂ hclient hmonitor
    have hfields := Contaminant.queryPowerTransferStatus_client h₂
    obtain rfl : qs₂ = _ := queryPowerTransferStatus_cons h₂
    dsimp only at h₃ hfields
    have hsession := queryUsbDataSession_cons h₃
    rw [hsession, hfields, getI2cClientPath_monitor, hmonitor, hclient, portStatuses,
      List.map_map]
    exact ⟨List.cons_ne_nil port ports, rfl⟩

/-- The status of a port is made of its own nodes and the shared ones. -/
theorem portStatus_congr {fs' : FileSystem}
    (h : ∀ path ∈ ownNodes port.1 ++ sharedNodes, fs'.read path = fs.read path) :
    portStatus S fs' u port = portStatus S fs u port := by
  simp only [ownNodes, sharedNodes, List.cons_append, List.nil_append, List.forall_mem_cons] at h
  obtain ⟨hpower, hdata, haccessory, hswitch, hreasons, hpogo, husb, -⟩ := h
  have hpowerWord : wordOf fs' port (.powerRole .none) = wordOf fs port (.powerRole .none) := by
    rw [wordOf, wordOf, roleWord, roleWord, hpower]
  have hdataWord : wordOf fs' port (.dataRole .none) = wordOf fs port (.dataRole .none) := by
    rw [wordOf, wordOf, roleWord, roleWord, hdata]
  have haccessoryOf : accessoryOf fs' port = accessoryOf fs port := by
    rw [accessoryOf, accessoryOf, getAccessoryConnected, getAccessoryConnected, haccessory]
  have hcanSwitch : canSwitchRoleHelper fs' port.1 = canSwitchRoleHelper fs port.1 := by
    rw [canSwitchRoleHelper, canSwitchRoleHelper, hswitch]
  have hdocked : docked fs' = docked fs := by
    rw [docked, docked, pogoUsbActive, pogoUsbActive, hpogo]
  have hbrick : ∀ p, powerBrick fs' port.2 p = powerBrick fs port.2 p := by
    intro p
    rw [powerBrick, powerBrick, husb]
  have hloop : loopStatus S fs' u port = loopStatus S fs u port := by
    rw [loopStatus, loopStatus, details, details, hpowerWord, hdataWord, haccessoryOf, hcanSwitch,
      hdocked, hbrick]
  rw [portStatus, portStatus, hloop]
  exact Chargers.nonCompliantCharger_congr hreasons

/-- **The vector is that of the ports**, each with the status of its own nodes and the shared ones,
and the first one with what concerns the client and the data session. -/
theorem queryPorts_portwise {v : Fields} {ps : List PortStatus}
    (h : queryPorts S fs u = .ok (.success, v, ps)) :
    (∃ entries names, fs.entries kTypecPath = some entries ∧ PortNames.NamesOf entries names ∧
      ps = portStatuses S fs u (S.order names)) ∧
    ∀ (port : String × Bool) (fs' : FileSystem),
      (∀ path ∈ ownNodes port.1 ++ sharedNodes, fs'.read path = fs.read path) →
        portStatus S fs' u port = portStatus S fs u port := by
  obtain ⟨names, hnames, -, hps⟩ := queryPorts_success h
  obtain ⟨entries, hentries, rfl⟩ := Option.map_eq_some_iff.1 hnames
  exact ⟨⟨entries, _, hentries, PortNames.namesOf_foldl entries, hps⟩,
    fun port fs' hsame => portStatus_congr hsame⟩

/-! ### Two ports -/

/-- The directory of the i2c client. -/
def tcpcPath : String := "/sys/devices/platform/10d50000.hsi2c/i2c-11/i2c-max77759tcpc"

/-- The first port has a partner, and the second one a charger that is not compliant; the client
has found a contaminant and limits power transfer. -/
def twoPortsNodes : List (String × String) :=
  [("/sys/class/typec/port0/power_role", "source [sink]\n"),
    ("/sys/class/typec/port0/data_role", "host [device]\n"),
    ("/sys/class/typec/port0-partner/accessory_mode", "none\n"),
    ("/sys/class/typec/port0-partner/supports_usb_power_delivery", "yes\n"),
    (kPowerSupplyUsbType, "Unknown SDP [DCP]\n"),
    ("/sys/class/typec/port1/device/non_compliant_reasons", "[bc12]\n"),
    (tcpcPath ++ "/contaminant_detection", "1\n"),
    (tcpcPath ++ "/contaminant_detection_status", "1\n"),
    (tcpcPath ++ "/usb_limit_sink_enable", "1\n")]

def twoPorts : FileSystem where
  read path := twoPortsNodes.lookup path
  entries path :=
    if path = kTypecPath then some [⟨"port0", .lnk⟩, ⟨"port0-partner", .lnk⟩, ⟨"port1", .lnk⟩]
    else if path = kHsi2cPath then some [⟨"i2c-11", .dir⟩]
    else if path = tcpcPath then some []
    else none

def port0Status : PortStatus :=
  { Setting.plain.freshPortStatus with
    portName := "port0"
    currentPowerRole := .sink
    currentDataRole := .device
    currentMode := .ufp
    canChangeMode := true
    canChangeDataRole := true
    canChangePowerRole := true
    supportedModes := [.drp]
    usbDataStatus := [.enabled]
    powerBrickStatus := .connected
    supportedContaminantProtectionModes := [.forceDisable]
    contaminantProtectionStatus := .forceDisable
    contaminantDetectionStatus := .detected
    supportsEnableContaminantPresenceDetection := true
    powerTransferLimited := true
    supportsComplianceWarnings := true }

/-- A sink, though there is no partner. -/
def port1Status : PortStatus :=
  { Setting.plain.freshPortStatus with
    portName := "port1"
    currentPowerRole := .sink
    currentMode := .ufp
    canChangeMode := true
    supportedModes := [.drp]
    usbDataStatus := [.enabled]
    powerBrickStatus := .connected
    supportsComplianceWarnings := true
    complianceWarnings := [.bc12] }

theorem queryPorts_twoPorts : ∃ v,
    queryPorts .plain twoPorts .plain = .ok (.success, v, [port0Status, port1Status]) := by
  have hvector : (queryPorts .plain twoPorts .plain).map (fun r => (r.1, r.2.2)) =
      .ok (.success, [port0Status, port1Status]) := by decide
  cases hquery : queryPorts .plain twoPorts .plain with
  | error f =>
    rw [hquery] at hvector
    cases hvector
  | ok r =>
    obtain ⟨status, v, ps⟩ := r
    rw [hquery] at hvector
    obtain ⟨rfl, rfl⟩ := Prod.mk.inj (Except.ok.inj hvector)
    exact ⟨v, rfl⟩

theorem twoPorts_portwise :
    (∃ entries names, twoPorts.entries kTypecPath = some entries ∧
      PortNames.NamesOf entries names ∧ [port0Status, port1Status] =
        portStatuses .plain twoPorts .plain (Setting.plain.order names)) ∧
    ∀ (port : String × Bool) (fs' : FileSystem),
      (∀ path ∈ ownNodes port.1 ++ sharedNodes, fs'.read path = twoPorts.read path) →
        portStatus .plain fs' .plain port = portStatus .plain twoPorts .plain port :=
  queryPorts_twoPorts.elim fun _ h => queryPorts_portwise h

end Ports

end Usb

end Gs101
