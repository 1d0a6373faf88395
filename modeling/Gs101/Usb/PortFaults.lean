import Gs101.Lib.Returns
import Gs101.Usb.PortStatus

/-!
# Usb: when the port status query faults

* `PowerRight`, `DataRight`: the role nodes of a connected port do not hold a word of the other
  kind, such as "host" in `power_role`;
* `Served`: the query ends without a fault, with `mLock` released and the callback called;
* `Answerable`: the directory lists a port, the ports that are visited have words of the right
  kind, and the pogo node, if it is consulted, holds an `int`;
* `served_iff`: a query is served if and only if the file system is answerable.
-/

namespace Gs101

namespace Usb

open Fallible

variable {fs : FileSystem} {u : Fields} {i : ℕ} {port : String × Bool} {ps : List PortStatus}

/-- The word in the node of a role of a port. -/
def roleWord (fs : FileSystem) (portName : String) (role : PortRole) : Option String :=
  (fs.read (roleNode portName role)).map fun roleName => extractRole (CText.trim roleName)

/-- The words that `getCurrentRoleHelper` knows. -/
def Known (word : String) : Prop :=
  word = "source" ∨ word = "sink" ∨ word = "host" ∨ word = "device" ∨ word = "none"

/-- The node of the role of a connected port holds a known word. -/
def RoleRead (fs : FileSystem) (port : String × Bool) (role : PortRole) : Prop :=
  port.2 = true → ∃ word, roleWord fs port.1 role = some word ∧ Known word

/-- The node of the role of a connected port holds neither of these words. -/
def RoleAvoids (fs : FileSystem) (port : String × Bool) (role : PortRole) (a b : String) : Prop :=
  port.2 = true → roleWord fs port.1 role ≠ some a ∧ roleWord fs port.1 role ≠ some b

def PowerRead (fs : FileSystem) (port : String × Bool) : Prop :=
  RoleRead fs port (.powerRole .none)

def DataRead (fs : FileSystem) (port : String × Bool) : Prop :=
  RoleRead fs port (.dataRole .none)

def PowerRight (fs : FileSystem) (port : String × Bool) : Prop :=
  RoleAvoids fs port (.powerRole .none) "host" "device"

def DataRight (fs : FileSystem) (port : String × Bool) : Prop :=
  RoleAvoids fs port (.dataRole .none) "source" "sink"

def AccessoryRead (fs : FileSystem) (port : String × Bool) : Prop :=
  port.2 = true → ∃ accessory, getAccessoryConnected fs port.1 = some accessory

/-! ### The role of a port -/

theorem assignRole_success (role : PortRole) (word : String) :
    (assignRole role word).1 = .success ↔ Known word := by
  unfold assignRole Known
  split_ifs with h₁ h₂ h₃ h₄ h₅
  · exact iff_of_true rfl (.inl h₁)
  · exact iff_of_true rfl (.inr (.inl h₂))
  · cases role <;> exact iff_of_true rfl (.inr (.inr (.inl h₃)))
  · cases role <;> exact iff_of_true rfl (.inr (.inr (.inr (.inl h₄))))
  · refine iff_of_false (by nofun) ?_
    rintro (h | h | h | h | h) <;> contradiction
  · exact iff_of_true rfl (.inr (.inr (.inr (.inr (not_not.mp h₅)))))

/-- A word of data roles moves the union away from the power role. -/
theorem getPowerRole_assignRole (word : String) :
    (∃ r, getPowerRole (assignRole (.powerRole .none) word).2 = .ok r) ↔
      word ≠ "host" ∧ word ≠ "device" := by
  unfold assignRole
  split_ifs with h₁ h₂ h₃ h₄ h₅ <;> simp_all [getPowerRole]

theorem getDataRole_assignRole (word : String) :
    (∃ r, getDataRole (assignRole (.dataRole .none) word).2 = .ok r) ↔
      word ≠ "source" ∧ word ≠ "sink" := by
  unfold assignRole
  split_ifs with h₁ h₂ h₃ h₄ h₅ <;> simp_all [getDataRole]

theorem getMode_assignRole (word : String) :
    (∃ m, getMode (assignRole (.mode .none) word).2 = .ok m) ↔
      word ≠ "source" ∧ word ≠ "sink" := by
  unfold assignRole
  split_ifs with h₁ h₂ h₃ h₄ h₅ <;> simp_all [getMode]

/-- The power role and the data role, as they are asked for. -/
def IsPlain (role : PortRole) : Prop := role = .powerRole .none ∨ role = .dataRole .none

theorem getCurrentRoleHelper_plain {role : PortRole} (hrole : IsPlain role) (portName : String) :
    getCurrentRoleHelper fs portName true role =
      match roleWord fs portName role with
      | none => (.error, role)
      | some word => assignRole role word := by
  rcases hrole with rfl | rfl
  · simp only [getCurrentRoleHelper, resetRole, roleWord]
    cases fs.read (roleNode portName (.powerRole .none)) <;> simp
  · simp only [getCurrentRoleHelper, resetRole, roleWord]
    cases fs.read (roleNode portName (.dataRole .none)) <;> simp

/-- The mode is that of an accessory, or it follows from the word of the data role. -/
theorem getCurrentRoleHelper_mode (portName : String) :
    getCurrentRoleHelper fs portName true (.mode .none) =
      match getAccessoryConnected fs portName with
      | none => (.error, .mode .none)
      | some accessory =>
          if accessory = "analog_audio" then (.success, .mode .audioAccessory)
          else if accessory = "debug" then (.success, .mode .debugAccessory)
          else match roleWord fs portName (.dataRole .none) with
            | none => (.error, .mode .none)
            | some word => assignRole (.mode .none) word := by
  have hn : roleNode portName (.mode .none) = roleNode portName (.dataRole .none) := rfl
  simp only [getCurrentRoleHelper, resetRole, hn, roleWord]
  cases fs.read (roleNode portName (.dataRole .none)) <;>
    cases getAccessoryConnected fs portName <;> simp

theorem plain_success {role : PortRole} (hrole : IsPlain role) :
    (getCurrentRoleHelper fs port.1 port.2 role).1 = .success ↔ RoleRead fs port role := by
  obtain ⟨portName, connected⟩ := port
  cases connected with
  | false => exact iff_of_true rfl (by nofun)
  | true =>
    rw [getCurrentRoleHelper_plain hrole]
    cases h : roleWord fs portName role with
    | none => simp [RoleRead, h]
    | some word => simpa [RoleRead, h] using assignRole_success role word

/-- Once the data role is known, the mode is known if the accessory node can be read. -/
theorem mode_success (hd : DataRead fs port) :
    (getCurrentRoleHelper fs port.1 port.2 (.mode .none)).1 = .success ↔
      AccessoryRead fs port := by
  obtain ⟨portName, connected⟩ := port
  cases connected with
  | false => exact iff_of_true rfl (by nofun)
  | true =>
    obtain ⟨word, hw, hk⟩ := hd rfl
    rw [getCurrentRoleHelper_mode]
    cases h : getAccessoryConnected fs portName with
    | none => simp [AccessoryRead, h]
    | some accessory =>
      have hs := (assignRole_success (.mode .none) word).mpr hk
      simp only [AccessoryRead, h, hw]
      split_ifs <;> simp [hs]

/-- What `get` needs of a word, it needs of the node. -/
theorem plain_get {α : Type} {role : PortRole} {get : PortRole → Except Fault α} {a b : String}
    (hrole : IsPlain role) (hself : ∃ r, get role = .ok r)
    (hget : ∀ word, (∃ r, get (assignRole role word).2 = .ok r) ↔ word ≠ a ∧ word ≠ b) :
    (∃ r, get (getCurrentRoleHelper fs port.1 port.2 role).2 = .ok r) ↔
      RoleAvoids fs port role a b := by
  obtain ⟨portName, connected⟩ := port
  cases connected with
  | false =>
    refine iff_of_true ?_ (by nofun)
    rcases hrole with rfl | rfl
    · exact hself
    · exact hself
  | true =>
    rw [getCurrentRoleHelper_plain hrole]
    cases h : roleWord fs portName role with
    | none => simpa [RoleAvoids, h] using hself
    | some word => simpa [RoleAvoids, h] using hget word

/-- The mode is read from the node of the data role, and is no harder to `get`. -/
theorem mode_get (hd : DataRight fs port) :
    ∃ m, getMode (getCurrentRoleHelper fs port.1 port.2 (.mode .none)).2 = .ok m := by
  obtain ⟨portName, connected⟩ := port
  cases connected with
  | false => exact ⟨_, rfl⟩
  | true =>
    have hr := hd rfl
    rw [getCurrentRoleHelper_mode]
    cases getAccessoryConnected fs portName with
    | none => exact ⟨_, rfl⟩
    | some accessory =>
      dsimp only
      split_ifs
      · exact ⟨_, rfl⟩
      · exact ⟨_, rfl⟩
      · cases h : roleWord fs portName (.dataRole .none) with
        | none => exact ⟨_, rfl⟩
        | some word =>
          simp only [h, ne_eq, Option.some.injEq] at hr
          exact (getMode_assignRole word).mpr hr

/-! ### One port -/

theorem setAt_of_lt (hi : i < ps.length) (f : PortStatus → PortStatus) :
    setAt ps i f = .ok (ps.modify i f) := if_pos hi

theorem length_of_setAt {f : PortStatus → PortStatus} {qs : List PortStatus}
    (h : setAt ps i f = .ok qs) : i < ps.length ∧ qs.length = ps.length := by
  unfold setAt at h
  split_ifs at h with hi
  cases h
  exact ⟨hi, List.length_modify ..⟩

/-- The computation returns if and only if `right` holds, and then a vector of `n` elements, with
SUCCESS if and only if `done` holds. -/
structure Yields (x : Except Fault (Status × List PortStatus)) (n : ℕ) (right done : Prop) :
    Prop where
  returns : (Returns x fun _ => True) ↔ right
  length : ∀ r, x = .ok r → r.2.length = n
  success : ∀ r, x = .ok r → (r.1 = .success ↔ done)

theorem Yields.congr {x : Except Fault (Status × List PortStatus)} {n : ℕ}
    {right done right' done' : Prop} (h : Yields x n right done) (hr : right ↔ right')
    (hd : right → (done ↔ done')) : Yields x n right' done' where
  returns := h.returns.trans hr
  length := h.length
  success r hx := (h.success r hx).trans (hd (h.returns.mp ⟨r, hx, trivial⟩))

/-- The rule of composition with a part that has nothing to report. -/
theorem Yields.bind {α : Type} {x : Except Fault α}
    {f : α → Except Fault (Status × List PortStatus)} {n : ℕ} {right right' done : Prop}
    (hx : (Returns x fun _ => True) ↔ right)
    (hf : ∀ a, x = .ok a → Yields (f a) n right' done) :
    Yields (x >>= f) n (right ∧ right') done where
  returns := returns_bind_and hx fun a ha => (hf a ha).returns
  length := by
    intro r h
    obtain ⟨a, ha, hr⟩ := of_bind_eq_ok h
    exact (hf a ha).length r hr
  success := by
    intro r h
    obtain ⟨a, ha, hr⟩ := of_bind_eq_ok h
    exact (hf a ha).success r hr

/-- The rule of `orDone`: the second part has to answer only if the first ends in SUCCESS. -/
theorem Yields.orDone {x : Except Fault (Status × List PortStatus)}
    {f : List PortStatus → Except Fault (Status × List PortStatus)} {n : ℕ}
    {right done right' done' : Prop} (hx : Yields x n right done)
    (hf : right → done → ∀ qs, qs.length = n → Yields (f qs) n right' done') :
    Yields (orDone x f) n (right ∧ (done → right')) (done ∧ done') where
  returns := by
    refine returns_bind_and hx.returns ?_
    rintro ⟨result, qs⟩ h
    have hright := hx.returns.mp ⟨_, h, trivial⟩
    have hsuccess := hx.success _ h
    dsimp only at hsuccess ⊢
    split_ifs with hs
    · have hdone := hsuccess.mp hs
      rw [(hf hright hdone qs (hx.length _ h)).returns]
      exact ⟨fun hr _ => hr, fun hr => hr hdone⟩
    · exact iff_of_true (returns_pure.mpr trivial) fun hdone => absurd (hsuccess.mpr hdone) hs
  length := by
    intro r h
    obtain ⟨⟨result, qs⟩, ha, hr⟩ := of_bind_eq_ok h
    dsimp only at hr
    split_ifs at hr with hs
    · exact (hf (hx.returns.mp ⟨_, ha, trivial⟩) ((hx.success _ ha).mp hs) qs
        (hx.length _ ha)).length r hr
    · cases hr
      exact hx.length _ ha
  success := by
    intro r h
    obtain ⟨⟨result, qs⟩, ha, hr⟩ := of_bind_eq_ok h
    have hsuccess := hx.success _ ha
    dsimp only at hr hsuccess
    split_ifs at hr with hs
    · have hdone := hsuccess.mp hs
      rw [(hf (hx.returns.mp ⟨_, ha, trivial⟩) hdone qs (hx.length _ ha)).success r hr]
      exact (and_iff_right hdone).symm
    · cases hr
      exact iff_of_false hs fun hd => hs (hsuccess.mpr hd.1)

theorem portRole_yields {α : Type} {role : PortRole} {get : PortRole → Except Fault α}
    {put : α → PortStatus → PortStatus} (hi : i < ps.length) :
    Yields (portRole fs i port role get put ps) ps.length
      ((getCurrentRoleHelper fs port.1 port.2 role).1 = .success →
        ∃ a, get (getCurrentRoleHelper fs port.1 port.2 role).2 = .ok a)
      ((getCurrentRoleHelper fs port.1 port.2 role).1 = .success) := by
  unfold portRole
  generalize getCurrentRoleHelper fs port.1 port.2 role = answer
  obtain ⟨status, current⟩ := answer
  have hset (a : α) : setAt ps i (put a) = .ok (ps.modify i (put a)) := setAt_of_lt hi _
  cases status with
  | success =>
    cases hg : get current with
    | ok a => constructor <;> simp [hg, hset, bind, Except.bind, pure, Except.pure]
    | error e => constructor <;> simp [hg, bind, Except.bind]
  | _ => constructor <;> simp

/-- A word that is not known is not of the wrong kind. -/
theorem roleAvoids_of_not_read {role : PortRole} {a b : String} (ha : Known a) (hb : Known b)
    (h : ¬ RoleRead fs port role) : RoleAvoids fs port role a b := by
  intro _
  exact ⟨fun hw => h fun _ => ⟨a, hw, ha⟩, fun hw => h fun _ => ⟨b, hw, hb⟩⟩

/-- The power role and the data role. -/
theorem plain_yields {α : Type} {role : PortRole} {get : PortRole → Except Fault α}
    {put : α → PortStatus → PortStatus} {a b : String} (hrole : IsPlain role)
    (hself : ∃ r, get role = .ok r)
    (hget : ∀ word, (∃ r, get (assignRole role word).2 = .ok r) ↔ word ≠ a ∧ word ≠ b)
    (ha : Known a) (hb : Known b) (hi : i < ps.length) :
    Yields (portRole fs i port role get put ps) ps.length (RoleAvoids fs port role a b)
      (RoleRead fs port role) := by
  refine (portRole_yields hi).congr ?_ fun _ => plain_success hrole
  rw [plain_success hrole, plain_get hrole hself hget]
  constructor
  · intro h
    by_cases hread : RoleRead fs port role
    · exact h hread
    · exact roleAvoids_of_not_read ha hb hread
  · exact fun h _ => h

section OnePort

variable {n : ℕ} (fs port) (hi : i < n) (hn : ps.length = n)
include hi hn

theorem portPowerRole_yields :
    Yields (portPowerRole fs i port ps) n (PowerRight fs port) (PowerRead fs port) := by
  subst hn
  exact plain_yields (.inl rfl) ⟨_, rfl⟩ getPowerRole_assignRole (by simp [Known])
    (by simp [Known]) hi

theorem portDataRole_yields :
    Yields (portDataRole fs i port ps) n (DataRight fs port) (DataRead fs port) := by
  subst hn
  exact plain_yields (.inr rfl) ⟨_, rfl⟩ getDataRole_assignRole (by simp [Known])
    (by simp [Known]) hi

theorem portMode_yields (hright : DataRight fs port) (hread : DataRead fs port) :
    Yields (portMode fs i port ps) n True (AccessoryRead fs port) := by
  subst hn
  exact (portRole_yields hi).congr (iff_of_true (fun _ => mode_get hright) trivial)
    fun _ => mode_success hread

end OnePort

/-- The pogo node cannot be read, or it holds what `stoi` takes. -/
def PogoRight (fs : FileSystem) : Prop :=
  ∀ text, fs.read kPogoUsbActive = some text → ∃ n, CText.stoi (CText.trim text) = some n

theorem pogoUsbActive_returns : (Returns (pogoUsbActive fs) fun _ => True) ↔ PogoRight fs := by
  unfold pogoUsbActive PogoRight
  cases fs.read kPogoUsbActive with
  | none => simp
  | some text => cases h : CText.stoi (CText.trim text) <;> simp [h]

theorem portDetails_returns (hi : i < ps.length) :
    (Returns (portDetails fs u i port ps) fun _ => True) ↔ PogoRight fs := by
  have hlater (f g : PortStatus → PortStatus) (qs : List PortStatus)
      (hq : qs.length = ps.length) :
      (Returns (setAt qs i f >>= fun rs => setAt rs i g) fun _ => True) ↔ True := by
    have hi' : i < (qs.modify i f).length := by simpa [hq] using hi
    refine iff_true_intro (returns_bind.mpr ?_)
    rw [setAt_of_lt (hq ▸ hi), returns_ok, setAt_of_lt hi', returns_ok]
    trivial
  unfold portDetails
  refine (returns_bind_and (p := True) ?_ fun qs hq =>
    returns_bind_and pogoUsbActive_returns fun docked _ =>
      hlater _ _ qs (length_of_setAt hq).2).trans ?_
  · rw [setAt_of_lt hi, returns_ok]
  · rw [true_and, and_true]

theorem length_of_portDetails {qs : List PortStatus} (h : portDetails fs u i port ps = .ok qs) :
    qs.length = ps.length := by
  obtain ⟨qs₁, h₁, h⟩ := of_bind_eq_ok h
  obtain ⟨docked, -, h⟩ := of_bind_eq_ok h
  obtain ⟨qs₂, h₂, h₃⟩ := of_bind_eq_ok h
  rw [(length_of_setAt h₃).2, (length_of_setAt h₂).2, (length_of_setAt h₁).2]

/-- What the body of the loop needs of a port. -/
structure PortRight (fs : FileSystem) (port : String × Bool) : Prop where
  power : PowerRight fs port
  data : PowerRead fs port → DataRight fs port
  pogo : PowerRead fs port → DataRead fs port → AccessoryRead fs port → PogoRight fs

/-- The roles of a port can be read. -/
structure RolesRead (fs : FileSystem) (port : String × Bool) : Prop where
  power : PowerRead fs port
  data : DataRead fs port
  accessory : AccessoryRead fs port

theorem portDetails_yields {n : ℕ} (hi : i < n) (hn : ps.length = n) :
    Yields (portDetails fs u i port ps >>= fun qs => pure (.success, qs)) n
      (PogoRight fs ∧ True) True := by
  subst hn
  refine Yields.bind (portDetails_returns hi) fun qs hq => ?_
  constructor <;> simp [pure, Except.pure, length_of_portDetails hq]

theorem portBody_yields (hi : i < ps.length) :
    Yields (portBody fs u i port ps) ps.length (PortRight fs port) (RolesRead fs port) := by
  have hset : (Returns (setAt ps i fun p => { p with portName := port.1 }) fun _ => True) ↔
      True := by
    rw [setAt_of_lt hi, returns_ok]
  refine (Yields.bind hset fun qs hq =>
    (portPowerRole_yields fs port hi (length_of_setAt hq).2).orDone fun _ _ qs hq =>
      (portDataRole_yields fs port hi hq).orDone fun hright hread qs hq =>
        (portMode_yields fs port hi hq hright hread).orDone fun _ _ qs hq =>
          portDetails_yields hi hq).congr ?_ fun _ => ?_
  · constructor
    · rintro ⟨-, hp, hrest⟩
      exact ⟨hp, fun h => (hrest h).1, fun h h' h'' => (((hrest h).2 h').2 h'').1⟩
    · intro h
      exact ⟨trivial, h.power, fun hp =>
        ⟨h.data hp, fun hd => ⟨trivial, fun ha => ⟨h.pogo hp hd ha, trivial⟩⟩⟩⟩
  · constructor
    · rintro ⟨hp, hd, ha, -⟩
      exact ⟨hp, hd, ha⟩
    · intro h
      exact ⟨h.power, h.data, h.accessory, trivial⟩

/-- The ports that the loop visits, up to the first whose roles cannot be read, are right. -/
def PortsRight (fs : FileSystem) : List (String × Bool) → Prop
  | [] => True
  | port :: ports => PortRight fs port ∧ (RolesRead fs port → PortsRight fs ports)

theorem portLoop_yields {ports : List (String × Bool)} (h : i + ports.length ≤ ps.length) :
    Yields (portLoop fs u i ports ps) ps.length (PortsRight fs ports)
      (∀ port ∈ ports, RolesRead fs port) := by
  induction ports generalizing i ps with
  | nil => constructor <;> simp [portLoop, PortsRight]
  | cons port ports ih =>
    rw [List.length_cons] at h
    have hbody : Yields (portBody fs u i port ps) ps.length (PortRight fs port)
        (RolesRead fs port) := portBody_yields (by omega)
    refine (hbody.orDone fun _ _ qs hq => hq ▸ ih (by omega)).congr Iff.rfl fun _ => ?_
    simp

/-! ### The whole query -/

theorem queryMoistureDetectionStatus_nil :
    queryMoistureDetectionStatus fs u [] = .error .outOfBounds := rfl

theorem queryMoistureDetectionStatus_returns (fs : FileSystem) (u : Fields)
    (h : 0 < ps.length) :
    Returns (queryMoistureDetectionStatus fs u ps) fun r => r.2.2.length = ps.length := by
  unfold queryMoistureDetectionStatus
  rw [returns_bind, setAt_of_lt h, returns_ok]
  generalize getI2cClientPath fs u = client
  dsimp only
  split_ifs
  · simp
  · split
    · simp
    · split_ifs
      · simp
      · split
        · simp
        · rw [returns_bind, setAt_of_lt (by simpa using h), returns_ok]
          simp

theorem queryPowerTransferStatus_returns (fs : FileSystem) (u : Fields) (h : 0 < ps.length) :
    Returns (queryPowerTransferStatus fs u ps) fun r => r.2.2.length = ps.length := by
  unfold queryPowerTransferStatus
  generalize getI2cClientPath fs u = client
  dsimp only
  split_ifs
  · simp
  · split
    · simp
    · rw [returns_bind, setAt_of_lt h, returns_ok]
      simp

theorem queryUsbDataSession_returns (S : Setting) (u : Fields) (h : 0 < ps.length) :
    Returns (queryUsbDataSession S u ps) fun qs => qs.length = ps.length := by
  have hget : getAt ps 0 = .ok ps[0] := by simp [getAt, List.getElem?_eq_getElem h]
  unfold queryUsbDataSession
  rw [returns_bind, hget, returns_ok, setAt_of_lt h, returns_ok, List.length_modify]

theorem addTypeCName_ne_nil {names : List (String × Bool)} (ep : Dirent) (h : names ≠ []) :
    addTypeCName names ep ≠ [] := by
  unfold addTypeCName
  dsimp only
  split_ifs <;> simp_all

theorem addTypeCName_nil (ep : Dirent) : addTypeCName [] ep ≠ [] ↔ ep.d_type = .lnk := by
  unfold addTypeCName
  split_ifs <;> simp_all

/-- There is a port if and only if the directory holds a link. -/
theorem foldl_addTypeCName_ne_nil (entries : List Dirent) (names : List (String × Bool)) :
    entries.foldl addTypeCName names ≠ [] ↔ names ≠ [] ∨ ∃ ep ∈ entries, ep.d_type = .lnk := by
  induction entries generalizing names with
  | nil => simp
  | cons ep entries ih =>
    rw [List.foldl_cons, ih]
    by_cases hn : names = []
    · subst hn
      rw [addTypeCName_nil]
      simp
    · exact iff_of_true (.inl (addTypeCName_ne_nil ep hn)) (.inl hn)

/-- The directory of the ports can be read and lists one, and the ports that are visited hold
nothing of the wrong kind. -/
def Answerable (S : Setting) (fs : FileSystem) : Prop :=
  ∃ entries, fs.entries kTypecPath = some entries ∧ (∃ ep ∈ entries, ep.d_type = .lnk) ∧
    PortsRight fs (S.order (entries.foldl addTypeCName []))

/-- With the first part of the query done, the rest returns if and only if there is a port. -/
theorem queryPorts_tail {S : Setting} {status : Status} :
    (Returns (do
      let (_, u, ps) ← queryMoistureDetectionStatus fs u ps
      let (_, u, ps) ← queryPowerTransferStatus fs u ps
      let ps ← queryUsbDataSession S u (queryNonCompliantChargerStatus S fs ps)
      return (status, u, ps)) fun _ => True) ↔ ps ≠ [] := by
  cases ps with
  | nil =>
    rw [returns_bind, queryMoistureDetectionStatus_nil]
    exact iff_of_false returns_error (not_not.mpr rfl)
  | cons p ps =>
    refine iff_of_true (returns_bind.mpr ?_) (List.cons_ne_nil p ps)
    obtain ⟨⟨_, u₁, ps₁⟩, h₁, hn₁⟩ :=
      queryMoistureDetectionStatus_returns fs u (List.length_pos_of_ne_nil (List.cons_ne_nil p ps))
    have hpos₁ : 0 < ps₁.length := by simp [hn₁]
    obtain ⟨⟨_, u₂, ps₂⟩, h₂, hn₂⟩ := queryPowerTransferStatus_returns fs u₁ hpos₁
    have hpos₂ : 0 < (queryNonCompliantChargerStatus S fs ps₂).length := by
      simp [queryNonCompliantChargerStatus, hn₂, hn₁]
    obtain ⟨ps₃, h₃, -⟩ := queryUsbDataSession_returns S u₂ hpos₂
    simp [h₁, h₂, h₃, bind, Except.bind]

theorem queryPorts_returns (S : Setting) (fs : FileSystem) (u : Fields) :
    (Returns (queryPorts S fs u) fun _ => True) ↔ Answerable S fs := by
  unfold queryPorts getPortStatusHelper getTypeCPortNamesHelper Answerable
  cases he : fs.entries kTypecPath with
  | none =>
    refine iff_of_false ?_ (by simp)
    rw [Option.map_none, returns_bind, returns_ok]
    exact fun h => queryPorts_tail.mp h rfl
  | some entries =>
    have hlen := (S.perm (entries.foldl addTypeCName [])).length_eq
    have hloop : Yields (portLoop fs u 0 (S.order (entries.foldl addTypeCName []))
        (List.replicate (entries.foldl addTypeCName []).length S.freshPortStatus)) _ _ _ :=
      portLoop_yields (by simp [hlen])
    rw [Option.map_some]
    have hports (r : Status × List PortStatus)
        (hr : portLoop fs u 0 (S.order (entries.foldl addTypeCName []))
          (List.replicate (entries.foldl addTypeCName []).length S.freshPortStatus) = .ok r) :
        r.2 ≠ [] ↔ ∃ ep ∈ entries, ep.d_type = .lnk := by
      have hr' := hloop.length r hr
      rw [List.length_replicate] at hr'
      rw [← List.length_pos_iff, hr', List.length_pos_iff, foldl_addTypeCName_ne_nil]
      simp
    refine (returns_bind_and hloop.returns fun r hr => queryPorts_tail.trans (hports r hr)).trans ?_
    simp [and_comm]

/-- The query ends without a fault, with `mLock` released, and calls the callback if there is
one. -/
structure Served (u : Fields) (o : Outcome) : Prop where
  fault : o.fault = none
  mLock : o.mLock = false
  notified : u.mCallback = true → o.notified.isSome = true

/-- No type-C port at all: `/sys/class/typec` is missing, and so is everything else. -/
def FileSystem.bare : FileSystem where
  read _ := none
  entries _ := none

/-- A HAL with a callback, the pairs traversed in the order in which they were inserted. -/
def Setting.plain : Setting where
  order := id
  perm := .refl
  freshPortStatus :=
    { portName := ""
      currentPowerRole := .none
      currentDataRole := .none
      currentMode := .none
      canChangeMode := false
      canChangeDataRole := false
      canChangePowerRole := false
      supportedModes := []
      usbDataStatus := []
      powerBrickStatus := .unknown
      supportedContaminantProtectionModes := []
      contaminantProtectionStatus := .none
      contaminantDetectionStatus := .notSupported
      supportsEnableContaminantPresenceDetection := false
      supportsEnableContaminantPresenceProtection := false
      powerTransferLimited := false
      supportsComplianceWarnings := false
      complianceWarnings := [] }
  enableUsbDataComplianceWarning := true
  enableInputPowerLimitedWarning := true
  platform := .secondHand

def Fields.plain : Fields where
  mCallback := true
  mUsbDataEnabled := true
  mI2cBusNumber := -1
  mI2cClientPath := ""
  enabledPath := ""
  mUsbDataSessionMonitor := Monitor.construct .none none

/-- A query is served if and only if the file system is answerable. -/
theorem served_iff (S : Setting) (fs : FileSystem) (u : Fields) :
    Served u (queryVersionHelper S fs u) ↔ Answerable S fs := by
  rw [← queryPorts_returns S fs u]
  unfold queryVersionHelper
  cases queryPorts S fs u with
  | error f => exact iff_of_false (fun h => by cases h.fault) returns_error
  | ok r =>
    refine iff_of_true ⟨rfl, rfl, fun hc => ?_⟩ (returns_ok.mpr trivial)
    simp [hc]

/-- Without the directory the query writes to the first element of an empty vector, with `mLock`
held. -/
theorem bare_not_served :
    ¬ Served .plain (queryVersionHelper .plain .bare .plain) := by
  intro h
  exact absurd h.fault (by decide)

end Usb

end Gs101
