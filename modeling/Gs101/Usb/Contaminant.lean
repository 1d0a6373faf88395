import Gs101.Usb.Transactions

/-!
# Usb: the node that contaminant detection is switched with

`enableContaminantPresenceDetection` writes to `enabledPath`, a global that
`queryMoistureDetectionStatus` sets when it finds the directory of the i2c client.

* `Call`, `after`: the calls before, which may all query the port status, and the fields they leave;
* `Synced`: `enabledPath` is the node of the client, once its path is known;
* `Located`: a query of the port status has found the directory of the client;
* `effective_iff`: the call switches the detection and notifies SUCCESS if and only if the client
  was located by a call before.

A call that faults is the last one.
-/

namespace Gs101

namespace Usb

open Fallible

namespace Contaminant

open Transaction

/-- A call of the HAL; or what other threads do between two calls: a query of the port status, or
a step of the data session monitor. -/
inductive Call
  | operation (A : Answers) (op : Operation) (in_transactionId : ℤ)
  /-- Whether the callback is not NULL, and whether `pthread_create` succeeds. -/
  | setCallback (in_callback created : Bool)
  | query (fs : FileSystem)
  | dataSession (mUsbDataSessionMonitor : Monitor)

def setCallback (u : Fields) (in_callback created : Bool) : Fields :=
  if u.mCallback = in_callback then u else { u with mCallback := in_callback && created }

variable (S : Setting)

def Call.run (u : Fields) : Call → Except Fault Fields
  | .operation A op id => (op.run S A u id).outcome
  | .setCallback in_callback created => .ok (Contaminant.setCallback u in_callback created)
  | .query fs => (queryPorts S fs u).map fun r => r.2.1
  | .dataSession m => .ok { u with mUsbDataSessionMonitor := m }

/-- The fields after a list of calls. -/
def after : Fields → List Call → Except Fault Fields
  | u, [] => .ok u
  | u, c :: cs => do
      let u ← c.run S u
      after u cs

/-- What the constructors leave. -/
structure Fresh (u : Fields) : Prop where
  bus : u.mI2cBusNumber = -1
  path : u.mI2cClientPath = ""
  enabled : u.enabledPath = ""

def detectionNode (i2cPath : String) : String := i2cPath ++ "/" ++ kContaminantDetectionPath

theorem detectionNode_ne (i2cPath : String) : detectionNode i2cPath ≠ "" := by
  simp [detectionNode, kContaminantDetectionPath]

/-- The fields with which an operation comes to query the port status, if it does. -/
def fieldsAtQuery (A : Answers) (u : Fields) : Operation → Option Fields
  | .resetUsbPort _ | .switchRole _ _ => none
  | .limitPowerTransfer _ _ => some (getI2cClientPath A.fs u).2
  | _ => some u

/-- The call queries the port status, and the query finds the directory of the client. -/
def Call.Locates (u : Fields) : Call → Prop
  | .operation A op _ => ∃ v, fieldsAtQuery A u op = some v ∧ (getI2cClientPath A.later v).1 ≠ ""
  | .query fs => (getI2cClientPath fs u).1 ≠ ""
  | _ => False

/-- One of the calls locates the client. -/
def Located : Fields → List Call → Prop
  | _, [] => False
  | u, c :: cs => c.Locates u ∨ ∃ v, c.run S u = .ok v ∧ Located v cs

/-- The directory of the client exists, its node can be written, and the property does not disable
the detection. -/
structure Provided (A : Answers) (u : Fields) (in_enable : Bool) : Prop where
  found : (getI2cClientPath A.fs u).1 ≠ ""
  writable : A.writes (detectionNode (getI2cClientPath A.fs u).1) (if in_enable then "1" else "0") =
    true
  enabled : A.contaminantDisable ≠ "true"

/-- The call writes to the client's node, and notifies SUCCESS to the callback, if there is one. -/
def Effective (A : Answers) (u : Fields) (in_portName : String) (in_enable : Bool)
    (in_transactionId : ℤ) : Prop :=
  ∃ rest, (enableContaminantPresenceDetection S A u in_portName in_enable in_transactionId).log =
      .write (detectionNode (getI2cClientPath A.fs u).1) (if in_enable then "1" else "0") true ::
        rest ∧
    results rest = if u.mCallback then
      [.notifyContaminantEnabledStatus in_portName in_enable .success in_transactionId] else []

/-- `enabledPath` is the node of the client, once its path is known. -/
def Synced (u : Fields) : Prop :=
  u.enabledPath = if u.mI2cClientPath = "" then "" else detectionNode u.mI2cClientPath

/-! ### The path of the client -/

variable {S} {fs : FileSystem} {u v : Fields}

/-- What `getI2cClientPath` finds below a bus. -/
def pathBelow (fs : FileSystem) (bus : ℤ) : String :=
  if bus < 0 then ""
  else
    let labeled := kHsi2cPath ++ "/i2c-" ++ toString bus ++ "/" ++ kMax77759TcpcDevName
    let unLabeled := kHsi2cPath ++ "/i2c-" ++ toString bus ++ "/" ++ toString bus ++ "-" ++
      kMax77759TcpcClientId
    if (fs.entries labeled).isSome then labeled
    else if (fs.entries unLabeled).isSome then unLabeled
    else ""

theorem getI2cClientPath_fst (fs : FileSystem) (u : Fields) :
    (getI2cClientPath fs u).1 =
      if u.mI2cClientPath ≠ "" then u.mI2cClientPath
      else pathBelow fs (getI2cBusNumber fs u).1 := by
  unfold getI2cClientPath pathBelow
  dsimp only
  split_ifs <;> rfl

/-- A path that is known stays known. -/
theorem getI2cClientPath_ne (fs : FileSystem) (h : u.mI2cClientPath ≠ "") :
    (getI2cClientPath fs u).1 ≠ "" := by
  rwa [getI2cClientPath_fst, if_pos h]

/-- The path that is answered is the one that is remembered. -/
theorem getI2cClientPath_path (fs : FileSystem) (u : Fields) :
    (getI2cClientPath fs u).2.mI2cClientPath = (getI2cClientPath fs u).1 := by
  obtain ⟨n, hn⟩ := getI2cBusNumber_keeps fs u
  unfold getI2cClientPath
  by_cases h : u.mI2cClientPath ≠ ""
  · rw [if_pos h]
  · simp only [if_neg h, hn]
    split_ifs
    · exact not_not.1 h
    · rfl
    · rfl
    · exact not_not.1 h

theorem getI2cClientPath_enabledPath (fs : FileSystem) (u : Fields) :
    (getI2cClientPath fs u).2.enabledPath = u.enabledPath := by
  obtain ⟨n, hn⟩ := getI2cBusNumber_keeps fs u
  unfold getI2cClientPath
  simp only [hn]
  split_ifs <;> rfl

theorem getI2cClientPath_bus (fs : FileSystem) (h : u.mI2cClientPath = "") :
    (getI2cClientPath fs u).2.mI2cBusNumber = (getI2cBusNumber fs u).2.mI2cBusNumber := by
  simp only [getI2cClientPath, h, ne_eq, not_true_eq_false, if_false]
  split_ifs <;> rfl

/-- What the directory of the buses answers does not depend on the fields. -/
theorem getI2cBusNumber_eq (fs : FileSystem) : ∃ found : Option ℤ, ∀ u,
    getI2cBusNumber fs u =
      if u.mI2cBusNumber ≥ 0 then (u.mI2cBusNumber, u)
      else match found with
        | some n => (n, { u with mI2cBusNumber := n })
        | none => (u.mI2cBusNumber, u) := by
  cases h : (fs.entries kHsi2cPath).bind findI2cBus with
  | none => exact ⟨none, fun u => by rw [getI2cBusNumber, h]⟩
  | some n => exact ⟨some _, fun u => by rw [getI2cBusNumber, h]⟩

theorem getI2cBusNumber_congr (fs : FileSystem) (h : v.mI2cBusNumber = u.mI2cBusNumber) :
    (getI2cBusNumber fs v).1 = (getI2cBusNumber fs u).1 := by
  obtain ⟨found, hfound⟩ := getI2cBusNumber_eq fs
  rw [hfound, hfound, h]
  split_ifs
  · rfl
  · cases found <;> rfl

theorem getI2cBusNumber_again (fs : FileSystem) (u : Fields) :
    (getI2cBusNumber fs (getI2cBusNumber fs u).2).1 = (getI2cBusNumber fs u).1 := by
  obtain ⟨found, hfound⟩ := getI2cBusNumber_eq fs
  by_cases h : u.mI2cBusNumber ≥ 0
  · rw [hfound u, if_pos h, hfound, if_pos h]
  · rw [hfound u, if_neg h]
    cases found with
    | none => rw [hfound, if_neg h]
    | some n =>
      rw [hfound]
      split_ifs <;> rfl

/-- A search that has failed fails again in the same file system. -/
theorem getI2cClientPath_again (fs : FileSystem) (u : Fields) :
    (getI2cClientPath fs (getI2cClientPath fs u).2).1 = (getI2cClientPath fs u).1 := by
  rw [getI2cClientPath_fst fs (getI2cClientPath fs u).2, getI2cClientPath_path]
  by_cases hp : (getI2cClientPath fs u).1 = ""
  · have hu : u.mI2cClientPath = "" := by
      by_contra hu
      rw [getI2cClientPath_fst, if_pos hu] at hp
      exact hu hp
    have hbus : (getI2cBusNumber fs (getI2cClientPath fs u).2).1 = (getI2cBusNumber fs u).1 :=
      (getI2cBusNumber_congr fs (getI2cClientPath_bus fs hu)).trans (getI2cBusNumber_again fs u)
    rw [if_neg (not_not.2 hp), hbus, getI2cClientPath_fst, if_neg (not_not.2 hu)]
  · rw [if_pos hp]

/-! ### The query of the port status -/

theorem queryMoistureDetectionStatus_client {ps : List PortStatus}
    {r : Status × Fields × List PortStatus} (h : queryMoistureDetectionStatus fs u ps = .ok r) :
    r.2.1 = if (getI2cClientPath fs u).1 = "" then (getI2cClientPath fs u).2
      else { (getI2cClientPath fs u).2 with
        enabledPath := detectionNode (getI2cClientPath fs u).1 } := by
  obtain ⟨qs, -, h⟩ := of_bind_eq_ok h
  generalize getI2cClientPath fs u = client at h ⊢
  dsimp only at h
  split_ifs at h ⊢
  · cases h
    rfl
  · split at h
    · cases h
      rfl
    · split_ifs at h
      · cases h
        rfl
      · split at h
        · cases h
          rfl
        · obtain ⟨rs, -, h⟩ := of_bind_eq_ok h
          cases h
          rfl

theorem queryPowerTransferStatus_client {ps : List PortStatus}
    {r : Status × Fields × List PortStatus} (h : queryPowerTransferStatus fs u ps = .ok r) :
    r.2.1 = (getI2cClientPath fs u).2 := by
  unfold queryPowerTransferStatus at h
  generalize getI2cClientPath fs u = client at h ⊢
  dsimp only at h
  split_ifs at h
  · cases h
    rfl
  · split at h
    · cases h
      rfl
    · obtain ⟨rs, -, h⟩ := of_bind_eq_ok h
      cases h
      rfl

/-- A query that returns has set `enabledPath`, if it found the client. -/
theorem of_queryPorts_client {r : Status × Fields × List PortStatus}
    (h : queryPorts S fs u = .ok r) :
    r.2.1.mI2cClientPath = (getI2cClientPath fs u).1 ∧
      r.2.1.enabledPath = if (getI2cClientPath fs u).1 = "" then u.enabledPath
        else detectionNode (getI2cClientPath fs u).1 := by
  obtain ⟨_, -, h⟩ := of_bind_eq_ok h
  obtain ⟨⟨_, u₁, _⟩, h₁, h⟩ := of_bind_eq_ok h
  obtain ⟨⟨_, u₂, _⟩, h₂, h⟩ := of_bind_eq_ok h
  obtain ⟨_, -, h⟩ := of_bind_eq_ok h
  cases h
  have hmoisture := queryMoistureDetectionStatus_client h₁
  have hpower := queryPowerTransferStatus_client h₂
  dsimp only at hmoisture hpower ⊢
  rw [hpower, getI2cClientPath_path, getI2cClientPath_enabledPath, hmoisture]
  split_ifs with hp
  · -- `queryPowerTransferStatus` looks once more, with the same answer
    rw [getI2cClientPath_again, getI2cClientPath_enabledPath]
    exact ⟨rfl, rfl⟩
  · refine ⟨?_, rfl⟩
    rw [getI2cClientPath_fst, if_pos]
    · exact getI2cClientPath_path fs u
    · rwa [getI2cClientPath_path]

/-! ### One call -/

variable {A : Answers}

/-- The fields that concern the client are the same. -/
structure SameClient (u v : Fields) : Prop where
  bus : v.mI2cBusNumber = u.mI2cBusNumber
  path : v.mI2cClientPath = u.mI2cClientPath
  enabled : v.enabledPath = u.enabledPath

theorem SameClient.refl (u : Fields) : SameClient u u := ⟨rfl, rfl, rfl⟩

theorem SameClient.synced (h : SameClient u v) (hu : Synced u) : Synced v := by
  rw [Synced, h.enabled, h.path]
  exact hu

theorem getI2cClientPath_congr (fs : FileSystem) (h : SameClient u v) :
    (getI2cClientPath fs v).1 = (getI2cClientPath fs u).1 := by
  rw [getI2cClientPath_fst, getI2cClientPath_fst, h.path, getI2cBusNumber_congr fs h.bus]

theorem of_outcome_queryVersionHelper
    (h : (Transaction.queryVersionHelper S A u).outcome = .ok v) :
    ∃ r, queryPorts S A.later u = .ok r ∧ r.2.1 = v := by
  unfold Transaction.queryVersionHelper at h
  cases hquery : queryPorts S A.later u with
  | error f =>
    rw [hquery] at h
    cases h
  | ok r =>
    rw [hquery] at h
    exact ⟨r, rfl, Except.ok.inj h⟩

/-- An operation queries the port status at its end, or leaves the client's fields alone. -/
theorem of_outcome_run {op : Operation} {id : ℤ} (h : (op.run S A u id).outcome = .ok v) :
    match fieldsAtQuery A u op with
    | none => SameClient u v
    | some w => ∃ w' r, SameClient w w' ∧ queryPorts S A.later w' = .ok r ∧ r.2.1 = v := by
  -- the helper of the operation, the callback, and the query
  cases op with
  | enableUsbData portName enable =>
    obtain ⟨result, -, h⟩ := Logged.of_outcome_bind h
    obtain ⟨_, -, h⟩ := Logged.of_outcome_bind h
    obtain ⟨r, hr⟩ := of_outcome_queryVersionHelper h
    refine ⟨_, r, ?_, hr⟩
    cases result <;> exact ⟨rfl, rfl, rfl⟩
  | enableUsbDataWhileDocked portName =>
    obtain ⟨_, -, h⟩ := Logged.of_outcome_bind h
    obtain ⟨_, -, h⟩ := Logged.of_outcome_bind h
    obtain ⟨r, hr⟩ := of_outcome_queryVersionHelper h
    exact ⟨u, r, .refl u, hr⟩
  | resetUsbPort portName =>
    obtain ⟨_, -, h⟩ := Logged.of_outcome_bind h
    obtain ⟨_, -, h⟩ := Logged.of_outcome_bind h
    cases h
    exact .refl u
  | switchRole portName role =>
    obtain ⟨_, -, h⟩ := Logged.of_outcome_bind h
    obtain ⟨_, -, h⟩ := Logged.of_outcome_bind h
    cases h
    exact .refl u
  | limitPowerTransfer portName limit =>
    obtain ⟨_, -, h⟩ := Logged.of_outcome_bind h
    obtain ⟨_, -, h⟩ := Logged.of_outcome_bind h
    obtain ⟨r, hr⟩ := of_outcome_queryVersionHelper h
    exact ⟨_, r, .refl _, hr⟩
  | queryPortStatus =>
    obtain ⟨w, hquery, h⟩ := Logged.of_outcome_bind h
    obtain ⟨_, -, h⟩ := Logged.of_outcome_bind h
    obtain ⟨r, hr⟩ := of_outcome_queryVersionHelper hquery
    cases h
    exact ⟨u, r, .refl u, hr⟩
  | enableContaminantPresenceDetection portName enable =>
    obtain ⟨_, -, h⟩ := Logged.of_outcome_bind h
    obtain ⟨_, -, h⟩ := Logged.of_outcome_bind h
    obtain ⟨r, hr⟩ := of_outcome_queryVersionHelper h
    exact ⟨u, r, .refl u, hr⟩

/-- The node is not set before the path is. -/
def Unset (u : Fields) : Prop := u.mI2cClientPath = "" → u.enabledPath = ""

theorem Synced.unset (h : Synced u) : Unset u := fun hpath => by rw [h, if_pos hpath]

/-- A query leaves the node in step with the path. -/
theorem synced_of_queryPorts (hu : Unset u) {r : Status × Fields × List PortStatus}
    (h : queryPorts S fs u = .ok r) :
    Synced r.2.1 ∧ (r.2.1.mI2cClientPath ≠ "" ↔ (getI2cClientPath fs u).1 ≠ "") := by
  obtain ⟨hpath, henabled⟩ := of_queryPorts_client h
  refine ⟨?_, by rw [hpath]⟩
  rw [Synced, hpath, henabled]
  split_ifs with hp
  · refine hu ?_
    by_contra hu'
    exact getI2cClientPath_ne fs hu' hp
  · rfl

/-- The fields with which an operation comes to the query: `limitPowerTransfer` may have found the
path by then, but no other operation sets it. -/
theorem unset_atQuery {op : Operation} (hu : Synced u) (h : fieldsAtQuery A u op = some v) :
    Unset v ∧ (u.mI2cClientPath ≠ "" → v.mI2cClientPath ≠ "") := by
  have hv : v = u ∨ v = (getI2cClientPath A.fs u).2 := by
    cases op <;> cases h <;> first | exact .inl rfl | exact .inr rfl
  rcases hv with rfl | rfl
  · exact ⟨hu.unset, fun hp => hp⟩
  · refine ⟨fun hpath => ?_, fun hp => ?_⟩
    · rw [getI2cClientPath_path] at hpath
      rw [getI2cClientPath_enabledPath]
      refine hu.unset ?_
      by_contra hu'
      exact getI2cClientPath_ne _ hu' hpath
    · rw [getI2cClientPath_path]
      exact getI2cClientPath_ne _ hp

/-- A call keeps the node in step with the path, and the path is known afterwards if it was before
or if the call locates the client. -/
theorem run_synced {c : Call} (hu : Synced u) (h : c.run S u = .ok v) :
    Synced v ∧ (v.mI2cClientPath ≠ "" ↔ u.mI2cClientPath ≠ "" ∨ c.Locates u) := by
  cases c with
  | operation A op id =>
    have hrun := of_outcome_run h
    cases hfields : fieldsAtQuery A u op with
    | none =>
      rw [hfields] at hrun
      refine ⟨hrun.synced hu, ?_⟩
      rw [hrun.path]
      simp [Call.Locates, hfields]
    | some w =>
      rw [hfields] at hrun
      obtain ⟨w', r, hsame, hquery, rfl⟩ := hrun
      obtain ⟨hunset, hknown⟩ := unset_atQuery hu hfields
      have hw' : Unset w' := fun hpath =>
        hsame.enabled.trans (hunset (hsame.path.symm.trans hpath))
      obtain ⟨hsynced, hiff⟩ := synced_of_queryPorts hw' hquery
      refine ⟨hsynced, hiff.trans ?_⟩
      rw [getI2cClientPath_congr _ hsame]
      simp only [Call.Locates, hfields, Option.some.injEq, exists_eq_left']
      exact ⟨.inr, fun hor => hor.elim (fun hp => getI2cClientPath_ne _ (hknown hp)) fun hl => hl⟩
  | setCallback in_callback created =>
    cases h
    have hsame : SameClient u (setCallback u in_callback created) := by
      unfold setCallback
      split_ifs <;> exact ⟨rfl, rfl, rfl⟩
    refine ⟨hsame.synced hu, ?_⟩
    rw [hsame.path]
    simp [Call.Locates]
  | query fs =>
    cases hquery : queryPorts S fs u with
    | error f =>
      rw [Call.run, hquery] at h
      cases h
    | ok r =>
      rw [Call.run, hquery] at h
      cases h
      obtain ⟨hsynced, hiff⟩ := synced_of_queryPorts hu.unset hquery
      refine ⟨hsynced, hiff.trans ⟨.inr, ?_⟩⟩
      exact fun hor => hor.elim (fun hp => getI2cClientPath_ne _ hp) fun hl => hl
  | dataSession m =>
    cases h
    exact ⟨hu, by simp [Call.Locates]⟩

/-! ### Histories -/

theorem after_synced {cs : List Call} (hu : Synced u) (h : after S u cs = .ok v) :
    Synced v ∧ (v.mI2cClientPath ≠ "" ↔ u.mI2cClientPath ≠ "" ∨ Located S u cs) := by
  induction cs generalizing u with
  | nil =>
    cases h
    exact ⟨hu, by simp [Located]⟩
  | cons c cs ih =>
    obtain ⟨w, hrun, hafter⟩ := of_bind_eq_ok h
    obtain ⟨hw, hpath⟩ := run_synced hu hrun
    obtain ⟨hv, hiff⟩ := ih hw hafter
    refine ⟨hv, hiff.trans ?_⟩
    rw [hpath, or_assoc]
    have hrest : (∃ w', c.run S u = .ok w' ∧ Located S w' cs) ↔ Located S w cs := by
      simp [hrun]
    rw [Located, hrest]

theorem Fresh.synced (h : Fresh u) : Synced u := by
  rw [Synced, h.enabled, if_pos h.path]

/-- The call is effective as soon as `enabledPath` is the node of the client. -/
theorem effective_iff_enabledPath {in_enable : Bool} (h : Provided A u in_enable)
    (in_portName : String) (in_transactionId : ℤ) :
    Effective S A u in_portName in_enable in_transactionId ↔
      u.enabledPath = detectionNode (getI2cClientPath A.fs u).1 := by
  have hlog : (enableContaminantPresenceDetection S A u in_portName in_enable
      in_transactionId).log =
      .write u.enabledPath (if in_enable then "1" else "0")
          (A.writes u.enabledPath (if in_enable then "1" else "0")) ::
        (notify u (.notifyContaminantEnabledStatus in_portName in_enable
          (toStatus (A.writes u.enabledPath (if in_enable then "1" else "0"))) in_transactionId)
          >>= fun _ => Transaction.queryVersionHelper S A u).log := by
    rw [enableContaminantPresenceDetection, if_pos h.enabled]
    rfl
  rw [Effective, hlog]
  constructor
  · rintro ⟨rest, heq, -⟩
    exact (Effect.write.inj (List.cons.inj heq).1).1
  · intro hpath
    rw [hpath, h.writable]
    exact ⟨_, rfl, results_notify queryVersionHelper_quiet⟩

/-- **The call is effective** if and only if a call before has located the client. -/
theorem effective_iff (S : Setting) {u₀ u : Fields} (hfresh : Fresh u₀) {cs : List Call}
    (h : after S u₀ cs = .ok u) {A : Answers} {in_enable : Bool} (hA : Provided A u in_enable)
    (in_portName : String) (in_transactionId : ℤ) :
    Effective S A u in_portName in_enable in_transactionId ↔ Located S u₀ cs := by
  obtain ⟨hu, hpath⟩ := after_synced hfresh.synced h
  have hlocated : u.mI2cClientPath ≠ "" ↔ Located S u₀ cs := by
    rw [hpath, hfresh.path]
    simp
  rw [effective_iff_enabledPath hA, ← hlocated, hu]
  constructor
  · intro heq hunset
    rw [if_pos hunset] at heq
    exact detectionNode_ne _ heq.symm
  · intro hset
    rw [if_neg hset, getI2cClientPath_fst, if_pos hset]

/-- A port without a partner, and the directories of the bus and of the client. -/
def clientOnly : FileSystem where
  read _ := none
  entries path :=
    if path = kTypecPath then some [⟨"port0", .lnk⟩]
    else if path = kHsi2cPath then some [⟨"i2c-11", .dir⟩]
    else some []

/-- Every write succeeds. -/
def clientAnswers : Answers := { Answers.unread with fs := clientOnly, later := clientOnly }

theorem fresh_plain : Fresh .plain := ⟨rfl, rfl, rfl⟩

theorem clientOnly_found : (getI2cClientPath clientOnly .plain).1 ≠ "" := by decide

theorem clientOnly_answerable : Answerable .plain clientOnly := by
  refine ⟨[⟨"port0", .lnk⟩], rfl, ⟨_, List.mem_singleton_self _, rfl⟩, ?_, fun _ => trivial⟩
  exact ⟨nofun, fun _ => nofun, fun _ _ _ => nofun⟩

theorem effective_after_query : ∃ u, after .plain .plain [.query clientOnly] = .ok u ∧
    Effective .plain clientAnswers u "port0" true 7 := by
  obtain ⟨r, hquery, -⟩ := (queryPorts_returns .plain clientOnly .plain).2 clientOnly_answerable
  have hafter : after .plain .plain [.query clientOnly] = .ok r.2.1 := by
    rw [after, Call.run, hquery]
    rfl
  have hlocated : Located .plain .plain [.query clientOnly] := .inl clientOnly_found
  have hpath := (after_synced fresh_plain.synced hafter).2.2 (.inr hlocated)
  exact ⟨r.2.1, hafter, (effective_iff .plain fresh_plain hafter
    ⟨getI2cClientPath_ne _ hpath, rfl, by decide⟩ _ _).2 hlocated⟩

/-- The first call of all writes to the empty path. -/
theorem first_not_effective : ¬ Effective .plain clientAnswers .plain "port0" true 7 := by
  have hprovided : Provided clientAnswers .plain true := ⟨clientOnly_found, rfl, by decide⟩
  rw [effective_iff_enabledPath hprovided]
  exact (detectionNode_ne _).symm

end Contaminant

end Usb

end Gs101
