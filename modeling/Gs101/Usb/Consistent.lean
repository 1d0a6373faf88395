import Gs101.Usb.Ports

/-!
# Usb: the fields of a status agree

Each pass of the query of the port status writes some fields of a status, from other nodes than the
others.  `client` is the directory of the i2c client for the first port, and the empty path for the
others; `session` are the warnings of the data session, which only the first port has.

* `Shows`: a node can be read, and holds this word;
* `Roled`: roles, mode and power brick are those that the nodes of the port show;
* `TakenForSink`: the port is warned of, and shows no power role;
* `ClientSays`: contaminant and power transfer are what the nodes of the client say;
* `Consistent`: the fields of a status agree with the nodes and with one another;
* `notified_consistent`: so they do in every status that is notified with SUCCESS.
-/

namespace Gs101

namespace Usb

namespace Ports

/-- The node can be read, and holds this word. -/
def Shows (fs : FileSystem) (path word : String) : Prop :=
  ∃ text, fs.read path = some text ∧ CText.trim text = word

/-- The warnings for the reasons in the node of the port. -/
def chargerWarnings (S : Setting) (fs : FileSystem) (portName : String) : List ComplianceWarning :=
  ((fs.read (Chargers.reasonsNode portName)).map fun reasons =>
    (CText.tokenize (CText.cString reasons.toList) Chargers.delimiters).filterMap
      (complianceWarning S)).getD []

/-- `usb_type` names a charger. -/
def BrickSeen (fs : FileSystem) : Prop :=
  ∃ usbType, fs.read kPowerSupplyUsbType = some usbType ∧
    CText.contains (CText.cString usbType.toList) "[D" = true

/-- `usb_type` cannot be read, or names an unknown charger. -/
def BrickUnknown (fs : FileSystem) : Prop :=
  ∀ usbType, fs.read kPowerSupplyUsbType = some usbType →
    CText.contains (CText.cString usbType.toList) "[D" = false ∧
      CText.contains (CText.cString usbType.toList) "[U" = true

/-- Roles, mode and power brick are those that the nodes of the port show. -/
structure Roled (fs : FileSystem) (port : String × Bool) (p : PortStatus) : Prop where
  power : p.currentPowerRole = powerRoleOf (wordOf fs port (.powerRole .none))
  data : p.currentDataRole = dataRoleOf (wordOf fs port (.dataRole .none))
  mode : p.currentMode = modeOf (accessoryOf fs port) (wordOf fs port (.dataRole .none))
  brick : p.powerBrickStatus = .connected ↔
    port.2 = true ∧ p.currentPowerRole ≠ .source ∧ BrickSeen fs
  unknownBrick : p.powerBrickStatus = .unknown ↔
    port.2 = true ∧ p.currentPowerRole ≠ .source ∧ BrickUnknown fs

/-- The port is warned of, and shows no power role: it is taken for a sink at a charger. -/
structure TakenForSink (S : Setting) (fs : FileSystem) (port : String × Bool) (p : PortStatus) :
    Prop where
  roleless : powerRoleOf (wordOf fs port (.powerRole .none)) = .none
  warned : chargerWarnings S fs port.1 ≠ []
  power : p.currentPowerRole = .sink
  data : p.currentDataRole = .none
  mode : p.currentMode = .ufp
  brick : p.powerBrickStatus = .connected

/-- Contaminant and power transfer are what the nodes of the client say. -/
structure ClientSays (fs : FileSystem) (client : String) (p : PortStatus) : Prop where
  detected : p.contaminantDetectionStatus = .detected ↔
    client ≠ "" ∧ Shows fs (client ++ "/" ++ kContaminantDetectionPath) "1" ∧
      Shows fs (client ++ "/" ++ kStatusPath) "1"
  notDetected : p.contaminantDetectionStatus = .notDetected ↔
    client ≠ "" ∧ Shows fs (client ++ "/" ++ kContaminantDetectionPath) "1" ∧
      ∃ word, Shows fs (client ++ "/" ++ kStatusPath) word ∧ word ≠ "1"
  protection : p.contaminantProtectionStatus = .forceDisable ↔
    p.contaminantDetectionStatus = .detected
  limited : p.powerTransferLimited = true ↔
    client ≠ "" ∧ Shows fs (client ++ "/" ++ kSinkLimitEnable) "1"

/-- The fields of a status agree with the nodes, with `mUsbDataEnabled` and with one another. -/
structure Consistent (S : Setting) (fs : FileSystem) (u : Fields) (client : String)
    (session : PortDataRole → List ComplianceWarning) (port : String × Bool) (p : PortStatus) :
    Prop where
  portName : p.portName = port.1
  supportedModes : p.supportedModes = [.drp]
  canChangeMode : p.canChangeMode = true
  /-- Roles can be switched together, and with a partner that supports power delivery. -/
  canChange : p.canChangeDataRole = p.canChangePowerRole
  canSwitch : p.canChangePowerRole = true ↔ port.2 = true ∧
    Shows fs ("/sys/class/typec/" ++ port.1 ++ "-partner/supports_usb_power_delivery") "yes"
  roles : Roled fs port p ∧ (p.currentPowerRole = .none → chargerWarnings S fs port.1 = []) ∨
    TakenForSink S fs port p
  /-- USB data is enabled, or there is a reason why it is not. -/
  enabled : p.usbDataStatus = [.enabled] ↔ u.mUsbDataEnabled = true ∧ docked fs = false
  disabled : p.usbDataStatus ≠ [.enabled] → p.usbDataStatus ≠ [] ∧ .enabled ∉ p.usbDataStatus ∧
    (.disabledForce ∈ p.usbDataStatus ↔ u.mUsbDataEnabled = false) ∧
    (.disabledDock ∈ p.usbDataStatus ↔ docked fs = true)
  client : ClientSays fs client p
  warnings : p.complianceWarnings = chargerWarnings S fs port.1 ++ session p.currentDataRole

variable {S : Setting} {fs : FileSystem} {u : Fields} {client : String}
  {session : PortDataRole → List ComplianceWarning} {port : String × Bool} {p : PortStatus}

/-! ### What follows for the fields of one status -/

/-- Without a partner, and at a source, there is no power brick. -/
theorem Roled.noBrick (h : Roled fs port p)
    (hno : port.2 = false ∨ p.currentPowerRole = .source) : p.powerBrickStatus = .notConnected := by
  have hnot : ¬ (port.2 = true ∧ p.currentPowerRole ≠ .source) := by
    rintro ⟨hport, hsource⟩
    rcases hno with hno | hno
    · exact absurd (hno.symm.trans hport) Bool.false_ne_true
    · exact hsource hno
  cases hbrick : p.powerBrickStatus with
  | notConnected => rfl
  | connected => exact absurd ((and_assoc.2 (h.brick.1 hbrick)).1) hnot
  | unknown => exact absurd ((and_assoc.2 (h.unknownBrick.1 hbrick)).1) hnot

/-- Without a partner there is no role, but that of a sink at a charger that is warned of. -/
theorem Consistent.absent (h : Consistent S fs u client session port p) (hport : port.2 = false) :
    p.currentDataRole = .none ∧
      (p.currentPowerRole = .none ∧ p.currentMode = .none ∧ p.powerBrickStatus = .notConnected ∨
        p.currentPowerRole = .sink ∧ p.currentMode = .ufp ∧ p.powerBrickStatus = .connected ∧
          p.complianceWarnings ≠ []) := by
  rcases h.roles with ⟨hroled, -⟩ | hsink
  · have hword : ∀ role, wordOf fs port role = "none" := fun role => by
      rw [wordOf, hport]
      rfl
    have haccessory : accessoryOf fs port = "none" := by
      rw [accessoryOf, hport]
      rfl
    have hpower := hroled.power
    have hdata := hroled.data
    have hmode := hroled.mode
    rw [hword] at hpower hdata hmode
    rw [haccessory] at hmode
    exact ⟨hdata, .inl ⟨hpower, hmode, hroled.noBrick (.inl hport)⟩⟩
  · refine ⟨hsink.data, .inr ⟨hsink.power, hsink.mode, hsink.brick, ?_⟩⟩
    rw [h.warnings]
    exact fun happend => hsink.warned (List.append_eq_nil_iff.1 happend).1

/-- No power brick is connected to a source. -/
theorem Consistent.source (h : Consistent S fs u client session port p)
    (hsource : p.currentPowerRole = .source) : p.powerBrickStatus = .notConnected := by
  rcases h.roles with ⟨hroled, -⟩ | hsink
  · exact hroled.noBrick (.inr hsource)
  · rw [hsink.power] at hsource
    cases hsource

/-- A port without a power role is warned of for its data session only. -/
theorem Consistent.warned (h : Consistent S fs u client session port p)
    (hnone : p.currentPowerRole = .none) : p.complianceWarnings = session p.currentDataRole := by
  rcases h.roles with ⟨-, hcharger⟩ | hsink
  · rw [h.warnings, hcharger hnone, List.nil_append]
  · rw [hsink.power] at hnone
    cases hnone

/-! ### The loop over the ports -/

/-- What the HAL appends to, or leaves alone, is empty in a fresh status. -/
structure Blank (p : PortStatus) : Prop where
  supportedModes : p.supportedModes = []
  usbDataStatus : p.usbDataStatus = []
  complianceWarnings : p.complianceWarnings = []
  powerBrickStatus : p.powerBrickStatus = .unknown
  contaminantProtectionStatus : p.contaminantProtectionStatus = .none
  contaminantDetectionStatus : p.contaminantDetectionStatus = .notSupported
  powerTransferLimited : p.powerTransferLimited = false

/-- What holds of a status before the warnings are appended. -/
structure Looped (fs : FileSystem) (u : Fields) (client : String) (port : String × Bool)
    (p : PortStatus) : Prop where
  portName : p.portName = port.1
  supportedModes : p.supportedModes = [.drp]
  canChangeMode : p.canChangeMode = true
  canChange : p.canChangeDataRole = p.canChangePowerRole
  canSwitch : p.canChangePowerRole = true ↔ port.2 = true ∧
    Shows fs ("/sys/class/typec/" ++ port.1 ++ "-partner/supports_usb_power_delivery") "yes"
  roled : Roled fs port p
  usbDataStatus : p.usbDataStatus = usbDataStatuses (docked fs) u.mUsbDataEnabled
  client : ClientSays fs client p
  warnings : p.complianceWarnings = []

theorem canSwitchRoleHelper_iff (fs : FileSystem) (portName : String) :
    canSwitchRoleHelper fs portName = true ↔
      Shows fs ("/sys/class/typec/" ++ portName ++ "-partner/supports_usb_power_delivery")
        "yes" := by
  unfold canSwitchRoleHelper Shows
  cases fs.read ("/sys/class/typec/" ++ portName ++ "-partner/supports_usb_power_delivery") with
  | none => simp
  | some text => simp

/-- The power brick, told by the node. -/
theorem powerBrick_iff (fs : FileSystem) (connected : Bool) (h : p.powerBrickStatus = .unknown) :
    (powerBrick fs connected p = .connected ↔
      connected = true ∧ p.currentPowerRole ≠ .source ∧ BrickSeen fs) ∧
    (powerBrick fs connected p = .unknown ↔
      connected = true ∧ p.currentPowerRole ≠ .source ∧ BrickUnknown fs) := by
  unfold powerBrick BrickSeen BrickUnknown
  cases connected with
  | false => simp
  | true =>
    by_cases hsource : p.currentPowerRole = .source
    · simp [hsource]
    · cases fs.read kPowerSupplyUsbType with
      | none => simp [hsource, h]
      | some usbType =>
        by_cases hcharger : CText.contains (CText.cString usbType.toList) "[D" = true
        · simp [hsource, hcharger]
        · by_cases hunknown : CText.contains (CText.cString usbType.toList) "[U" = true
          · simp [hsource, hcharger, hunknown]
          · simp [hsource, hcharger, hunknown]

/-- Without a client nothing is said. -/
theorem clientSays_blank (hblank : Blank S.freshPortStatus) (port : String × Bool) :
    ClientSays fs "" (loopStatus S fs u port) := by
  have hdetection : (loopStatus S fs u port).contaminantDetectionStatus = .notSupported :=
    hblank.contaminantDetectionStatus
  have hprotection : (loopStatus S fs u port).contaminantProtectionStatus = .none :=
    hblank.contaminantProtectionStatus
  have hlimited : (loopStatus S fs u port).powerTransferLimited = false :=
    hblank.powerTransferLimited
  refine ⟨?_, ?_, ?_, ?_⟩
  · simp [hdetection]
  · simp [hdetection]
  · simp [hdetection, hprotection]
  · simp [hlimited]

theorem looped_loopStatus (hblank : Blank S.freshPortStatus) (port : String × Bool) :
    Looped fs u "" port (loopStatus S fs u port) := by
  refine ⟨rfl, ?_, rfl, rfl, ?_, ⟨rfl, rfl, rfl, ?_, ?_⟩, ?_, clientSays_blank hblank port,
    hblank.complianceWarnings⟩
  · show S.freshPortStatus.supportedModes ++ _ = _
    rw [hblank.supportedModes, List.nil_append]
  · show (port.2 && canSwitchRoleHelper fs port.1) = true ↔ _
    rw [Bool.and_eq_true, canSwitchRoleHelper_iff]
  · refine (powerBrick_iff fs port.2 ?_).1
    exact hblank.powerBrickStatus
  · refine (powerBrick_iff fs port.2 ?_).2
    exact hblank.powerBrickStatus
  · show S.freshPortStatus.usbDataStatus ++ _ = _
    rw [hblank.usbDataStatus, List.nil_append]

/-! ### The client -/

theorem powerTransfer_keeps (fs : FileSystem) (client : String) (p : PortStatus) :
    ∃ limited, powerTransfer fs client p = { p with powerTransferLimited := limited } := by
  unfold powerTransfer
  split_ifs
  · exact ⟨_, rfl⟩
  · split <;> exact ⟨_, rfl⟩

theorem powerTransfer_limited (fs : FileSystem) (hlimited : p.powerTransferLimited = false)
    (client : String) :
    (powerTransfer fs client p).powerTransferLimited = true ↔
      client ≠ "" ∧ Shows fs (client ++ "/" ++ kSinkLimitEnable) "1" := by
  unfold powerTransfer Shows
  by_cases hclient : client = ""
  · simp [hclient, hlimited]
  · cases fs.read (client ++ "/" ++ kSinkLimitEnable) <;> simp [hclient, hlimited]

theorem moisture_keeps (fs : FileSystem) (client : String) (p : PortStatus) :
    ∃ modes protection detection presence active, moisture fs client p = { p with
      supportedContaminantProtectionModes := modes
      contaminantProtectionStatus := protection
      contaminantDetectionStatus := detection
      supportsEnableContaminantPresenceDetection := presence
      supportsEnableContaminantPresenceProtection := active } := by
  unfold moisture
  dsimp only
  split_ifs
  · exact ⟨_, _, _, _, _, rfl⟩
  split
  · exact ⟨_, _, _, _, _, rfl⟩
  split_ifs
  · exact ⟨_, _, _, _, _, rfl⟩
  split
  · exact ⟨_, _, _, _, _, rfl⟩
  split_ifs
  · exact ⟨_, _, _, _, _, rfl⟩
  · exact ⟨_, _, _, _, _, rfl⟩

/-- What the pass over the contaminant writes, told by the nodes. -/
theorem moisture_detection (fs : FileSystem) (client : String) (p : PortStatus) :
    ((moisture fs client p).contaminantDetectionStatus = .detected ↔
      client ≠ "" ∧ Shows fs (client ++ "/" ++ kContaminantDetectionPath) "1" ∧
        Shows fs (client ++ "/" ++ kStatusPath) "1") ∧
    ((moisture fs client p).contaminantDetectionStatus = .notDetected ↔
      client ≠ "" ∧ Shows fs (client ++ "/" ++ kContaminantDetectionPath) "1" ∧
        ∃ word, Shows fs (client ++ "/" ++ kStatusPath) word ∧ word ≠ "1") ∧
    ((moisture fs client p).contaminantProtectionStatus = .forceDisable ↔
      (moisture fs client p).contaminantDetectionStatus = .detected) := by
  unfold moisture Shows
  by_cases hclient : client = ""
  · simp [hclient]
  cases henabled : fs.read (client ++ "/" ++ kContaminantDetectionPath) with
  | none => simp [hclient]
  | some enabled =>
    by_cases hone : CText.trim enabled = "1"
    swap
    · simp [hclient, hone]
    cases hstatus : fs.read (client ++ "/" ++ kStatusPath) with
    | none => simp [hclient, hone]
    | some status =>
      by_cases hdetected : CText.trim status = "1"
      · simp [hclient, hone, hdetected]
      · simp [hclient, hone, hdetected]

/-- The two passes that read the nodes of the client write down what these say. -/
theorem Looped.passes (h : Looped fs u "" port p) (client : String) :
    Looped fs u client port (powerTransfer fs client (moisture fs client p)) := by
  have hnone : p.powerTransferLimited = false :=
    Bool.eq_false_iff.2 fun hlimited => (h.client.limited.1 hlimited).1 rfl
  obtain ⟨hdetected, hnotDetected, hprotection⟩ := moisture_detection fs client p
  obtain ⟨modes, protection, detection, presence, active, hmoisture⟩ := moisture_keeps fs client p
  rw [hmoisture] at hdetected hnotDetected hprotection ⊢
  have hlimited := powerTransfer_limited fs (p := { p with
    supportedContaminantProtectionModes := modes
    contaminantProtectionStatus := protection
    contaminantDetectionStatus := detection
    supportsEnableContaminantPresenceDetection := presence
    supportsEnableContaminantPresenceProtection := active }) hnone client
  obtain ⟨limited, htransfer⟩ := powerTransfer_keeps fs client { p with
    supportedContaminantProtectionModes := modes
    contaminantProtectionStatus := protection
    contaminantDetectionStatus := detection
    supportsEnableContaminantPresenceDetection := presence
    supportsEnableContaminantPresenceProtection := active }
  rw [htransfer] at hlimited ⊢
  exact ⟨h.portName, h.supportedModes, h.canChangeMode, h.canChange, h.canSwitch,
    ⟨h.roled.power, h.roled.data, h.roled.mode, h.roled.brick, h.roled.unknownBrick⟩, h.usbDataStatus,
    ⟨hdetected, hnotDetected, hprotection, hlimited⟩, h.warnings⟩

/-! ### The warnings -/

/-- What is said of the data is one thing or the other. -/
theorem usbDataStatuses_cases (docked mUsbDataEnabled : Bool) :
    (usbDataStatuses docked mUsbDataEnabled = [.enabled] ↔
      mUsbDataEnabled = true ∧ docked = false) ∧
    (usbDataStatuses docked mUsbDataEnabled ≠ [.enabled] →
      usbDataStatuses docked mUsbDataEnabled ≠ [] ∧
      .enabled ∉ usbDataStatuses docked mUsbDataEnabled ∧
      (.disabledForce ∈ usbDataStatuses docked mUsbDataEnabled ↔ mUsbDataEnabled = false) ∧
      (.disabledDock ∈ usbDataStatuses docked mUsbDataEnabled ↔ docked = true)) := by
  cases docked <;> cases mUsbDataEnabled <;> decide

theorem nonCompliantCharger_eq_warned (hname : p.portName = port.1)
    (hwarnings : p.complianceWarnings = []) :
    nonCompliantCharger S fs p = Chargers.warned p (chargerWarnings S fs port.1) := by
  unfold chargerWarnings
  rw [← hname]
  cases hread : fs.read (Chargers.reasonsNode p.portName) with
  | none =>
    rw [Chargers.nonCompliantCharger_of_unread hread, Option.map_none, Option.getD_none,
      Chargers.warned, if_neg (by simp), hwarnings]
  | some text =>
    rw [Chargers.nonCompliantCharger_of_read hread, hwarnings, List.nil_append, Option.map_some,
      Option.getD_some]

/-- A port that is warned of is a sink, and no other field says otherwise. -/
theorem Looped.consistent (h : Looped fs u client port p) :
    Consistent S fs u client (fun _ => []) port (nonCompliantCharger S fs p) := by
  obtain ⟨henabled, hdisabled⟩ := usbDataStatuses_cases (docked fs) u.mUsbDataEnabled
  rw [← h.usbDataStatus] at henabled hdisabled
  have hclient : ∀ q : PortStatus,
      q.contaminantDetectionStatus = p.contaminantDetectionStatus →
      q.contaminantProtectionStatus = p.contaminantProtectionStatus →
      q.powerTransferLimited = p.powerTransferLimited → ClientSays fs client q :=
    fun q hdetection hprotection hlimited =>
      ⟨by rw [hdetection]; exact h.client.detected, by rw [hdetection]; exact h.client.notDetected,
        by rw [hdetection, hprotection]; exact h.client.protection,
        by rw [hlimited]; exact h.client.limited⟩
  rw [nonCompliantCharger_eq_warned h.portName h.warnings]
  unfold Chargers.warned
  dsimp only
  by_cases hsink : chargerWarnings S fs port.1 ≠ [] ∧ p.currentPowerRole = .none
  · rw [if_pos hsink]
    refine ⟨h.portName, h.supportedModes, h.canChangeMode, h.canChange, h.canSwitch, .inr ?_,
      henabled, hdisabled, hclient _ rfl rfl rfl, (List.append_nil _).symm⟩
    exact ⟨h.roled.power.symm.trans hsink.2, hsink.1, rfl, rfl, rfl, rfl⟩
  · rw [if_neg hsink]
    refine ⟨h.portName, h.supportedModes, h.canChangeMode, h.canChange, h.canSwitch, .inl ?_,
      henabled, hdisabled, hclient _ rfl rfl rfl, (List.append_nil _).symm⟩
    refine ⟨⟨h.roled.power, h.roled.data, h.roled.mode, h.roled.brick, h.roled.unknownBrick⟩,
      fun hpower => ?_⟩
    by_contra hwarned
    exact hsink ⟨hwarned, hpower⟩

/-- The warnings of the data session come last. -/
theorem Consistent.dataSession (h : Consistent S fs u client (fun _ => []) port p)
    (m : Monitor) : Consistent S fs u client (m.getComplianceWarnings S.platform) port
      (dataSession S m p) := by
  refine ⟨h.portName, h.supportedModes, h.canChangeMode, h.canChange, h.canSwitch, ?_, h.enabled,
    h.disabled, ?_, ?_⟩
  · exact h.roles.imp
      (fun ⟨hroled, hcharger⟩ => ⟨⟨hroled.power, hroled.data, hroled.mode, hroled.brick,
        hroled.unknownBrick⟩, hcharger⟩)
      fun hsink => ⟨hsink.roleless, hsink.warned, hsink.power, hsink.data, hsink.mode, hsink.brick⟩
  · exact ⟨h.client.detected, h.client.notDetected, h.client.protection, h.client.limited⟩
  · show p.complianceWarnings ++ _ = _
    rw [h.warnings, List.append_nil]
    rfl

/-! ### The vector -/

/-- **Every status that is notified is consistent**, and each port has one, in a query that answers
SUCCESS; the first one is also consistent with the client and the data session. -/
theorem notified_consistent {v : Fields} {ps : List PortStatus} (hblank : Blank S.freshPortStatus)
    (h : queryPorts S fs u = .ok (.success, v, ps)) :
    (ps.map PortStatus.portName).Nodup ∧
      ∃ entries names, fs.entries kTypecPath = some entries ∧ PortNames.NamesOf entries names ∧
        ∃ port ports first others, S.order names = port :: ports ∧ ps = first :: others ∧
          Consistent S fs u (getI2cClientPath fs u).1
            (u.mUsbDataSessionMonitor.getComplianceWarnings S.platform) port first ∧
          List.Forall₂ (Consistent S fs u "" fun _ => []) ports others := by
  obtain ⟨names, hnames, hne, hps⟩ := queryPorts_success h
  obtain ⟨entries, hentries, rfl⟩ := Option.map_eq_some_iff.1 hnames
  obtain ⟨port, ports, hports⟩ := List.exists_cons_of_ne_nil hne
  rw [hports, portStatuses] at hps
  have hof := PortNames.namesOf_foldl entries
  have hlooped : ∀ port, Looped fs u "" port (loopStatus S fs u port) :=
    fun port => looped_loopStatus hblank port
  have hfirst := ((hlooped port).passes (getI2cClientPath fs u).1).consistent (S := S)
  have hothers : List.Forall₂ (Consistent S fs u "" fun _ => []) ports
      (ports.map (portStatus S fs u)) :=
    List.forall₂_map_right_iff.2 (List.forall₂_same.2 fun port _ => (hlooped port).consistent)
  refine ⟨?_, entries, _, hentries, hof, port, ports, _, _, hports, hps, hfirst.dataSession _,
    hothers⟩
  have hsame : ps.map PortStatus.portName =
      (S.order (entries.foldl addTypeCName [])).map Prod.fst := by
    rw [hps, hports, List.map_cons, List.map_cons, List.map_map]
    exact congrArg₂ List.cons hfirst.portName
      (List.map_congr_left fun port _ => ((hlooped port).consistent (S := S)).portName)
  rw [hsame]
  exact ((S.perm _).map Prod.fst).nodup_iff.2 hof.nodup

theorem twoPorts_consistent : ([port0Status, port1Status].map PortStatus.portName).Nodup ∧
    ∃ entries names, twoPorts.entries kTypecPath = some entries ∧
      PortNames.NamesOf entries names ∧
        ∃ port ports first others, Setting.plain.order names = port :: ports ∧
          [port0Status, port1Status] = first :: others ∧
          Consistent .plain twoPorts .plain (getI2cClientPath twoPorts .plain).1
            (Fields.plain.mUsbDataSessionMonitor.getComplianceWarnings Setting.plain.platform) port
            first ∧
          List.Forall₂ (Consistent .plain twoPorts .plain "" fun _ => []) ports others :=
  queryPorts_twoPorts.elim fun _ h =>
    notified_consistent ⟨rfl, rfl, rfl, rfl, rfl, rfl, rfl⟩ h

end Ports

end Usb

end Gs101
