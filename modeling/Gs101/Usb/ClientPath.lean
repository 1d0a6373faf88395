import Gs101.Usb.Contaminant

/-!
# Usb: the path of the i2c client is looked for once

`getI2cBusNumber` and `getI2cClientPath` remember what they find, because it "doesn't change after
boot".

* `busOf`, `pathOf`: what a search finds that remembers nothing;
* `Stays`: a file system in which what an earlier search found is found again; what was not there
  may have come;
* `Coherent`: what is remembered is what a search finds;
* `Alike`: two states of the HAL that differ in what they remember;
* `runs_forgetful`: a HAL that forgets the bus and the path before every call does, notifies and
  answers the same as the one that remembers them.
-/

namespace Gs101

namespace Usb

open Fallible

namespace ClientPath

open Transaction Contaminant

/-- The number of the bus; −1 when there is none. -/
def busOf (fs : FileSystem) : ℤ :=
  match (fs.entries kHsi2cPath).bind findI2cBus with
  | some busNumber => Int.bmod busNumber (2 ^ 32)
  | none => -1

/-- The directory of the client; the empty path when there is none. -/
def pathOf (fs : FileSystem) : String := pathBelow fs (busOf fs)

/-- What is found in `fs` is found in `fs'`. -/
structure Stays (fs fs' : FileSystem) : Prop where
  bus : 0 ≤ busOf fs → busOf fs' = busOf fs
  path : pathOf fs ≠ "" → pathOf fs' = pathOf fs

/-- What is remembered is there. -/
structure Coherent (fs : FileSystem) (u : Fields) : Prop where
  bus : 0 ≤ u.mI2cBusNumber → u.mI2cBusNumber = busOf fs
  path : u.mI2cClientPath ≠ "" → u.mI2cClientPath = pathOf fs

/-- As the constructors leave the two fields. -/
def forget (u : Fields) : Fields := { u with mI2cBusNumber := -1, mI2cClientPath := "" }

/-- Two states that differ in what they remember, and both rightly. -/
structure Alike (fs : FileSystem) (u v : Fields) : Prop where
  rest : forget u = forget v
  left : Coherent fs u
  right : Coherent fs v

/-- The file systems in which a call looks for the client, in this order. -/
def searched : Contaminant.Call → List FileSystem
  | .operation A op _ =>
      match op with
      | .resetUsbPort _ | .switchRole _ _ => []
      | .limitPowerTransfer _ _ => [A.fs, A.later]
      | _ => [A.later]
  | .query fs => [fs]
  | .setCallback _ _ | .dataSession _ => []

variable (S : Setting)

/-- A call, with what it does. -/
def perform (u : Fields) : Contaminant.Call → Step Fields
  | .operation A op id => op.run S A u id
  | .setCallback in_callback created => pure (Contaminant.setCallback u in_callback created)
  | .query fs => Transaction.queryVersionHelper S { Answers.unread with later := fs } u
  | .dataSession m => pure { u with mUsbDataSessionMonitor := m }

/-- The calls one after another, each from what `before` makes of the fields. -/
def runs (before : Fields → Fields) : Fields → List Contaminant.Call → Step Fields
  | u, [] => pure u
  | u, c :: cs => do
      let u ← perform S (before u) c
      runs before u cs

variable {S} {fs fs' : FileSystem} {u v : Fields} {A : Answers}

/-- The fields that a call leaves are those of `Contaminant.Call.run`. -/
theorem outcome_perform (u : Fields) (c : Contaminant.Call) :
    (perform S u c).outcome = c.run S u := by
  cases c with
  | query fs =>
    show (Transaction.queryVersionHelper S _ u).outcome = (queryPorts S fs u).map _
    unfold Transaction.queryVersionHelper
    dsimp only
    cases queryPorts S fs u <;> rfl
  | _ => rfl

/-! ### What a search finds -/

theorem pathBelow_of_neg {bus : ℤ} (h : bus < 0) : pathBelow fs bus = "" := if_pos h

/-- A search stores what it finds, if it finds something. -/
theorem getI2cBusNumber_search (fs : FileSystem) :
    (∀ u : Fields, ¬ u.mI2cBusNumber ≥ 0 →
      getI2cBusNumber fs u = (busOf fs, { u with mI2cBusNumber := busOf fs })) ∨
    (busOf fs < 0 ∧ ∀ u : Fields, ¬ u.mI2cBusNumber ≥ 0 →
      getI2cBusNumber fs u = (u.mI2cBusNumber, u)) := by
  cases h : (fs.entries kHsi2cPath).bind findI2cBus with
  | some busNumber => exact .inl fun u hu => by rw [getI2cBusNumber, if_neg hu, busOf, h]
  | none =>
    refine .inr ⟨?_, fun u hu => by rw [getI2cBusNumber, if_neg hu, h]⟩
    rw [busOf, h]
    decide

/-- The bus is the one that is there, or there is none. -/
theorem bus_cases (h : Coherent fs u) :
    (getI2cBusNumber fs u).1 = busOf fs ∨
      (getI2cBusNumber fs u).1 < 0 ∧ busOf fs < 0 := by
  by_cases hbus : u.mI2cBusNumber ≥ 0
  · rw [getI2cBusNumber, if_pos hbus]
    exact .inl (h.bus hbus)
  · rcases getI2cBusNumber_search fs with hfound | ⟨hnone, hsame⟩
    · exact .inl (by rw [hfound u hbus])
    · rw [hsame u hbus]
      exact .inr ⟨not_le.1 hbus, hnone⟩

/-- **Remembering changes nothing** in the answer of `getI2cClientPath`. -/
theorem getI2cClientPath_of_coherent (h : Coherent fs u) :
    (getI2cClientPath fs u).1 = pathOf fs := by
  rw [getI2cClientPath_fst]
  split_ifs with hpath
  · exact h.path hpath
  · rcases bus_cases h with hbus | ⟨hbus, hnone⟩
    · rw [hbus, pathOf]
    · rw [pathOf, pathBelow_of_neg hbus, pathBelow_of_neg hnone]

theorem getI2cClientPath_keeps (fs : FileSystem) (u : Fields) :
    ∃ n p, (getI2cClientPath fs u).2 = { u with mI2cBusNumber := n, mI2cClientPath := p } := by
  obtain ⟨n, hn⟩ := getI2cBusNumber_keeps fs u
  unfold getI2cClientPath
  simp only [hn]
  split_ifs <;> exact ⟨_, _, rfl⟩

theorem forget_getI2cClientPath (fs : FileSystem) (u : Fields) :
    forget (getI2cClientPath fs u).2 = forget u := by
  obtain ⟨n, p, h⟩ := getI2cClientPath_keeps fs u
  rw [h]
  rfl

/-- What is found is remembered. -/
theorem Coherent.getI2cClientPath (h : Coherent fs u) :
    Coherent fs (getI2cClientPath fs u).2 := by
  refine ⟨?_, fun _ => ?_⟩
  · by_cases hpath : u.mI2cClientPath = ""
    · rw [getI2cClientPath_bus fs hpath]
      by_cases hbus : u.mI2cBusNumber ≥ 0
      · rw [getI2cBusNumber, if_pos hbus]
        exact h.bus
      · rcases getI2cBusNumber_search fs with hfound | ⟨-, hsame⟩
        · rw [hfound u hbus]
          exact fun _ => rfl
        · rw [hsame u hbus]
          exact h.bus
    · have hsame : (Usb.getI2cClientPath fs u).2 = u := by
        rw [Usb.getI2cClientPath, if_pos hpath]
      rw [hsame]
      exact h.bus
  · rw [getI2cClientPath_path, getI2cClientPath_of_coherent h]

theorem Coherent.stays (h : Coherent fs u) (hs : Stays fs fs') : Coherent fs' u := by
  refine ⟨fun hbus => ?_, fun hpath => ?_⟩
  · rw [hs.bus (h.bus hbus ▸ hbus)]
    exact h.bus hbus
  · rw [hs.path (h.path hpath ▸ hpath)]
    exact h.path hpath

theorem coherent_forget (fs : FileSystem) (u : Fields) : Coherent fs (forget u) :=
  ⟨fun h => absurd h (by simp [forget]), fun h => absurd rfl h⟩

theorem Coherent.congr (h : Coherent fs u) (hbus : v.mI2cBusNumber = u.mI2cBusNumber)
    (hpath : v.mI2cClientPath = u.mI2cClientPath) : Coherent fs v := by
  refine ⟨?_, ?_⟩
  · rw [hbus]
    exact h.bus
  · rw [hpath]
    exact h.path

/-! ### Two states -/

theorem Alike.stays (h : Alike fs u v) (hs : Stays fs fs') : Alike fs' u v :=
  ⟨h.rest, h.left.stays hs, h.right.stays hs⟩

/-- The second state may forget what it remembers. -/
theorem Alike.forget (h : Alike fs u v) : Alike fs u (forget v) :=
  ⟨h.rest, h.left, coherent_forget fs v⟩

theorem Alike.mCallback (h : Alike fs u v) : u.mCallback = v.mCallback :=
  (Fields.mk.inj h.rest).1

theorem Alike.mUsbDataEnabled (h : Alike fs u v) : u.mUsbDataEnabled = v.mUsbDataEnabled :=
  (Fields.mk.inj h.rest).2.1

theorem Alike.enabledPath (h : Alike fs u v) : u.enabledPath = v.enabledPath :=
  (Fields.mk.inj h.rest).2.2.2.2.1

theorem Alike.mUsbDataSessionMonitor (h : Alike fs u v) :
    u.mUsbDataSessionMonitor = v.mUsbDataSessionMonitor :=
  (Fields.mk.inj h.rest).2.2.2.2.2

/-- A change of the fields that does not concern the client. -/
theorem Alike.update (h : Alike fs u v) (f : Fields → Fields)
    (hbus : ∀ w, (f w).mI2cBusNumber = w.mI2cBusNumber)
    (hpath : ∀ w, (f w).mI2cClientPath = w.mI2cClientPath)
    (hrest : ∀ w, ClientPath.forget (f w) = f (ClientPath.forget w)) : Alike fs (f u) (f v) := by
  refine ⟨?_, h.left.congr (hbus u) (hpath u), h.right.congr (hbus v) (hpath v)⟩
  rw [hrest, hrest, h.rest]

/-- Both find the same, and stay alike. -/
theorem Alike.getI2cClientPath (h : Alike fs u v) :
    (getI2cClientPath fs u).1 = (getI2cClientPath fs v).1 ∧
      Alike fs (getI2cClientPath fs u).2 (getI2cClientPath fs v).2 := by
  refine ⟨?_, ?_, h.left.getI2cClientPath, h.right.getI2cClientPath⟩
  · rw [getI2cClientPath_of_coherent h.left, getI2cClientPath_of_coherent h.right]
  · rw [forget_getI2cClientPath, forget_getI2cClientPath, h.rest]

/-! ### The query of the port status -/

open Logged (EndAlike Agree)

/-- What a helper of the query answers, but for what is remembered. -/
def SameAnswer (fs : FileSystem) (a b : Status × Fields × List PortStatus) : Prop :=
  a.1 = b.1 ∧ Alike fs a.2.1 b.2.1 ∧ a.2.2 = b.2.2

theorem portBody_congr (h : u.mUsbDataEnabled = v.mUsbDataEnabled) (i : ℕ) (port : String × Bool)
    (ps : List PortStatus) : portBody fs u i port ps = portBody fs v i port ps := by
  unfold portBody portDetails
  rw [h]

theorem portLoop_congr (h : u.mUsbDataEnabled = v.mUsbDataEnabled)
    (ports : List (String × Bool)) (i : ℕ) (ps : List PortStatus) :
    portLoop fs u i ports ps = portLoop fs v i ports ps := by
  induction ports generalizing i ps with
  | nil => rfl
  | cons port ports ih =>
    have hrest : portLoop fs u (i + 1) ports = portLoop fs v (i + 1) ports :=
      funext fun ps => ih _ ps
    rw [portLoop, portLoop, portBody_congr h, hrest]

theorem getPortStatusHelper_congr (S : Setting) (h : u.mUsbDataEnabled = v.mUsbDataEnabled) :
    getPortStatusHelper S fs u = getPortStatusHelper S fs v := by
  unfold getPortStatusHelper
  cases getTypeCPortNamesHelper fs with
  | none => rfl
  | some names => exact portLoop_congr h _ _ _

theorem endAlike_setAt (ps : List PortStatus) (i : ℕ) (f : PortStatus → PortStatus) :
    EndAlike (· = ·) (setAt ps i f) (setAt ps i f) := by
  cases setAt ps i f with
  | ok ps => exact .ok rfl
  | error e => exact .error e

theorem queryMoistureDetectionStatus_alike (h : Alike fs u v) (ps : List PortStatus) :
    EndAlike (SameAnswer fs) (queryMoistureDetectionStatus fs u ps)
      (queryMoistureDetectionStatus fs v ps) := by
  obtain ⟨hpath, hafter⟩ := h.getI2cClientPath
  refine (endAlike_setAt _ _ _).bind fun qs _ hqs => ?_
  subst hqs
  generalize getI2cClientPath fs u = client at hpath hafter ⊢
  generalize getI2cClientPath fs v = client' at hpath hafter ⊢
  obtain ⟨i2cPath, u'⟩ := client
  obtain ⟨_, v'⟩ := client'
  obtain rfl : i2cPath = _ := hpath
  dsimp only at hafter ⊢
  have henabled := hafter.update
    (fun w => { w with enabledPath := i2cPath ++ "/" ++ kContaminantDetectionPath })
    (fun _ => rfl) (fun _ => rfl) fun _ => rfl
  split_ifs
  · exact .ok ⟨rfl, hafter, rfl⟩
  split
  · exact .ok ⟨rfl, henabled, rfl⟩
  split_ifs
  · exact .ok ⟨rfl, henabled, rfl⟩
  split
  · exact .ok ⟨rfl, henabled, rfl⟩
  · refine (endAlike_setAt _ _ _).bind fun rs _ hrs => ?_
    subst hrs
    exact .ok ⟨rfl, henabled, rfl⟩

theorem queryPowerTransferStatus_alike (h : Alike fs u v) (ps : List PortStatus) :
    EndAlike (SameAnswer fs) (queryPowerTransferStatus fs u ps)
      (queryPowerTransferStatus fs v ps) := by
  obtain ⟨hpath, hafter⟩ := h.getI2cClientPath
  unfold queryPowerTransferStatus
  generalize getI2cClientPath fs u = client at hpath hafter ⊢
  generalize getI2cClientPath fs v = client' at hpath hafter ⊢
  obtain ⟨i2cPath, u'⟩ := client
  obtain ⟨_, v'⟩ := client'
  obtain rfl : i2cPath = _ := hpath
  dsimp only at hafter ⊢
  split_ifs
  · exact .ok ⟨rfl, hafter, rfl⟩
  split
  · exact .ok ⟨rfl, hafter, rfl⟩
  · refine (endAlike_setAt _ _ _).bind fun rs _ hrs => ?_
    subst hrs
    exact .ok ⟨rfl, hafter, rfl⟩

theorem queryUsbDataSession_congr (S : Setting)
    (h : u.mUsbDataSessionMonitor = v.mUsbDataSessionMonitor) (ps : List PortStatus) :
    queryUsbDataSession S u ps = queryUsbDataSession S v ps := by
  unfold queryUsbDataSession
  rw [h]

/-- A query answers the same, and stores what it finds. -/
theorem queryPorts_alike (S : Setting) (h : Alike fs u v) :
    EndAlike (SameAnswer fs) (queryPorts S fs u) (queryPorts S fs v) := by
  unfold queryPorts
  rw [getPortStatusHelper_congr S h.mUsbDataEnabled]
  cases getPortStatusHelper S fs v with
  | error e => exact .error e
  | ok answer =>
    refine (queryMoistureDetectionStatus_alike h answer.2).bind ?_
    rintro ⟨_, u₁, ps⟩ ⟨_, v₁, _⟩ ⟨-, h₁, rfl⟩
    refine (queryPowerTransferStatus_alike h₁ ps).bind ?_
    rintro ⟨_, u₂, qs⟩ ⟨_, v₂, _⟩ ⟨-, h₂, rfl⟩
    dsimp only
    rw [queryUsbDataSession_congr S h₂.mUsbDataSessionMonitor]
    cases queryUsbDataSession S v₂ (queryNonCompliantChargerStatus S fs qs) with
    | error e => exact .error e
    | ok rs => exact .ok ⟨rfl, h₂, rfl⟩

theorem queryVersionHelper_alike (S : Setting) (h : Alike A.later u v) :
    Agree (Alike A.later) (Transaction.queryVersionHelper S A u)
      (Transaction.queryVersionHelper S A v) := by
  have hquery := queryPorts_alike S h
  unfold Transaction.queryVersionHelper
  generalize queryPorts S A.later u = answer at hquery ⊢
  generalize queryPorts S A.later v = answer' at hquery ⊢
  rw [h.mCallback]
  cases hquery with
  | error e => exact ⟨rfl, .error e⟩
  | @ok a b hab =>
    obtain ⟨status, fields, ps⟩ := a
    obtain ⟨_, fields', _⟩ := b
    obtain ⟨rfl, hfields, rfl⟩ := hab
    exact ⟨rfl, .ok hfields⟩

/-! ### The operations -/

theorem notify_congr (h : u.mCallback = v.mCallback) (n : Notification) :
    notify u n = notify v n := by
  unfold notify
  rw [h]

/-- What the operations that query at their end have in common. -/
theorem Alike.reported {α : Type} (S : Setting) (h : Alike fs u v) (hs : Stays fs A.later)
    (own : Step α) (n : α → Notification) (f : α → Fields → Fields)
    (hcallback : ∀ a w, (f a w).mCallback = w.mCallback)
    (hf : ∀ a, Alike fs (f a u) (f a v)) :
    Agree (Alike A.later)
      (own >>= fun a => notify (f a u) (n a) >>= fun _ =>
        Transaction.queryVersionHelper S A (f a u))
      (own >>= fun a => notify (f a v) (n a) >>= fun _ =>
        Transaction.queryVersionHelper S A (f a v)) := by
  refine .bind_same own fun a => ?_
  have hmCallback : (f a u).mCallback = (f a v).mCallback := by
    rw [hcallback, hcallback, h.mCallback]
  rw [notify_congr hmCallback]
  exact .bind_same _ fun _ => queryVersionHelper_alike S ((hf a).stays hs)

theorem turnOn_congr (h : u.mUsbDataEnabled = v.mUsbDataEnabled) : turnOn A u = turnOn A v := by
  unfold turnOn
  rw [h]

/-- The states are alike where the last search was, and what it found stays for the rest. -/
def Ahead (rest : List FileSystem) (u v : Fields) : Prop :=
  ∃ fs, Alike fs u v ∧ List.IsChain Stays (fs :: rest)

variable {rest : List FileSystem}

theorem limitPowerTransfer_ahead (S : Setting) (h : Ahead (A.fs :: A.later :: rest) u v)
    (portName : String) (limit : Bool) (id : ℤ) :
    Agree (Ahead rest) (limitPowerTransfer S A u portName limit id)
      (limitPowerTransfer S A v portName limit id) := by
  obtain ⟨fs, halike, hchain⟩ := h
  obtain ⟨hs, hchain⟩ := List.isChain_cons_cons.1 hchain
  obtain ⟨hs', hchain⟩ := List.isChain_cons_cons.1 hchain
  obtain ⟨hpath, hafter⟩ := (halike.stays hs).getI2cClientPath
  unfold limitPowerTransfer
  generalize getI2cClientPath A.fs u = client at hpath hafter ⊢
  generalize getI2cClientPath A.fs v = client' at hpath hafter ⊢
  obtain ⟨i2cPath, u'⟩ := client
  obtain ⟨_, v'⟩ := client'
  obtain rfl : i2cPath = _ := hpath
  dsimp only at hafter ⊢
  refine .bind_same _ fun success => ?_
  rw [notify_congr hafter.mCallback]
  refine .bind_same _ fun _ => ?_
  exact (queryVersionHelper_alike S (hafter.stays hs')).mono fun _ _ h => ⟨_, h, hchain⟩

theorem run_ahead (S : Setting) {op : Operation} {id : ℤ}
    (h : Ahead (searched (.operation A op id) ++ rest) u v) :
    Agree (Ahead rest) (op.run S A u id) (op.run S A v id) := by
  cases op with
  | limitPowerTransfer portName limit => exact limitPowerTransfer_ahead S h portName limit id
  | resetUsbPort portName =>
    obtain ⟨fs, halike, hchain⟩ := h
    refine .bind_same _ fun result => ?_
    rw [notify_congr halike.mCallback]
    exact .bind_same _ fun _ => .pure ⟨fs, halike, hchain⟩
  | switchRole portName role =>
    obtain ⟨fs, halike, hchain⟩ := h
    refine .bind_same _ fun roleSwitch => ?_
    rw [notify_congr halike.mCallback]
    exact .bind_same _ fun _ => .pure ⟨fs, halike, hchain⟩
  | enableUsbData portName enable =>
    obtain ⟨fs, halike, hchain⟩ := h
    obtain ⟨hs, hchain⟩ := List.isChain_cons_cons.1 hchain
    have hown : (if enable then turnOn A u else turnOff A) =
        if enable then turnOn A v else turnOff A := by
      rw [turnOn_congr halike.mUsbDataEnabled]
    show Agree _ ((if enable then turnOn A u else turnOff A) >>= _) _
    rw [hown]
    refine (halike.reported S hs _ _
      (fun (result : Bool) w => if result then { w with mUsbDataEnabled := enable } else w)
      ?_ ?_).mono fun _ _ h => ⟨A.later, h, hchain⟩
    · intro result w
      cases result <;> rfl
    · intro result
      cases result with
      | false => exact halike
      | true =>
        exact halike.update (fun w => { w with mUsbDataEnabled := enable }) (fun _ => rfl)
          (fun _ => rfl) fun _ => rfl
  | enableUsbDataWhileDocked portName =>
    obtain ⟨fs, halike, hchain⟩ := h
    obtain ⟨hs, hchain⟩ := List.isChain_cons_cons.1 hchain
    exact (halike.reported S hs _ _ (fun _ w => w) (fun _ _ => rfl) fun _ => halike).mono
      fun _ _ h => ⟨_, h, hchain⟩
  | queryPortStatus =>
    obtain ⟨fs, halike, hchain⟩ := h
    obtain ⟨hs, hchain⟩ := List.isChain_cons_cons.1 hchain
    refine (queryVersionHelper_alike S (halike.stays hs)).bind fun u' v' h' => ?_
    rw [notify_congr h'.mCallback]
    exact .bind_same _ fun _ => .pure ⟨_, h', hchain⟩
  | enableContaminantPresenceDetection portName enable =>
    obtain ⟨fs, halike, hchain⟩ := h
    obtain ⟨hs, hchain⟩ := List.isChain_cons_cons.1 hchain
    show Agree _ (enableContaminantPresenceDetection S A u portName enable id)
      (enableContaminantPresenceDetection S A v portName enable id)
    unfold enableContaminantPresenceDetection
    rw [halike.enabledPath]
    exact (halike.reported S hs _ _ (fun _ w => w) (fun _ _ => rfl) fun _ => halike).mono
      fun _ _ h => ⟨_, h, hchain⟩

/-! ### Histories -/

theorem perform_ahead (S : Setting) {c : Contaminant.Call} (h : Ahead (searched c ++ rest) u v) :
    Agree (Ahead rest) (perform S u c) (perform S v c) := by
  cases c with
  | operation A op id => exact run_ahead S h
  | setCallback in_callback created =>
    obtain ⟨fs, halike, hchain⟩ := h
    refine .pure ⟨fs, ?_, hchain⟩
    show Alike fs (Contaminant.setCallback u in_callback created)
      (Contaminant.setCallback v in_callback created)
    unfold Contaminant.setCallback
    rw [halike.mCallback]
    split_ifs
    · exact halike
    · exact halike.update (fun w => { w with mCallback := in_callback && created }) (fun _ => rfl)
        (fun _ => rfl) fun _ => rfl
  | query fs' =>
    obtain ⟨fs, halike, hchain⟩ := h
    obtain ⟨hs, hchain⟩ := List.isChain_cons_cons.1 hchain
    exact (queryVersionHelper_alike S (A := { Answers.unread with later := fs' })
      (halike.stays hs)).mono fun _ _ h => ⟨_, h, hchain⟩
  | dataSession m =>
    obtain ⟨fs, halike, hchain⟩ := h
    exact .pure ⟨fs, halike.update (fun w => { w with mUsbDataSessionMonitor := m }) (fun _ => rfl)
      (fun _ => rfl) fun _ => rfl, hchain⟩

theorem runs_ahead (S : Setting) (cs : List Contaminant.Call)
    (h : Ahead (cs.flatMap searched) u v) :
    Agree (fun u v => forget u = forget v) (runs S id u cs) (runs S forget v cs) := by
  induction cs generalizing u v with
  | nil =>
    obtain ⟨fs, halike, -⟩ := h
    exact .pure halike.rest
  | cons c cs ih =>
    obtain ⟨fs, halike, hchain⟩ := h
    exact (perform_ahead S (c := c) ⟨fs, halike.forget, hchain⟩).bind fun u v h => ih h

def noFiles : FileSystem := { read := fun _ => none, entries := fun _ => none }

/-- Where there is no bus, nothing was found. -/
theorem stays_of_no_bus (h : fs.entries kHsi2cPath = none) (fs' : FileSystem) : Stays fs fs' := by
  have hnone : busOf fs = -1 := by rw [busOf, h, Option.bind_none]
  refine ⟨fun hbus => ?_, fun hpath => ?_⟩
  · rw [hnone] at hbus
    exact absurd hbus (by decide)
  · refine absurd ?_ hpath
    rw [pathOf, hnone]
    exact pathBelow_of_neg (by decide)

/-- **A HAL that forgets** the bus and the path before every call does and notifies the same, and
ends with the same fault or with the same other fields, as long as what was found once is found
again. -/
theorem runs_forgetful (S : Setting) (hfresh : Fresh u) (cs : List Contaminant.Call)
    (h : List.IsChain Stays (cs.flatMap searched)) :
    Agree (fun u v => forget u = forget v) (runs S id u cs) (runs S forget u cs) := by
  have hcoherent : Coherent noFiles u :=
    ⟨fun hbus => absurd (hfresh.bus ▸ hbus) (by decide), fun hpath => absurd hfresh.path hpath⟩
  refine runs_ahead S cs ⟨noFiles, ⟨rfl, hcoherent, hcoherent⟩, ?_⟩
  -- before the first search nothing was found
  cases hsearched : cs.flatMap searched with
  | nil => exact .singleton _
  | cons fs rest => exact List.isChain_cons_cons.2 ⟨stays_of_no_bus rfl fs, hsearched ▸ h⟩

/-- A port, and no bus yet. -/
def portOnly : FileSystem where
  read _ := none
  entries path := if path = kTypecPath then some [⟨"port0", .lnk⟩] else none

/-- The client comes after the first query, and stays. -/
def clientComes : List Contaminant.Call :=
  [.query portOnly, .query clientOnly, .setCallback true true,
    .operation clientAnswers (.limitPowerTransfer "port0" true) 7]

theorem clientComes_forgetful : Agree (fun u v => forget u = forget v)
    (runs .plain id .plain clientComes) (runs .plain forget .plain clientComes) := by
  have hstays : Stays clientOnly clientOnly := ⟨fun _ => rfl, fun _ => rfl⟩
  refine runs_forgetful .plain fresh_plain clientComes ?_
  show List.IsChain Stays [portOnly, clientOnly, clientOnly, clientOnly]
  simp only [List.isChain_cons_cons]
  exact ⟨stays_of_no_bus (by decide) _, hstays, hstays, .singleton _⟩

end ClientPath

end Usb

end Gs101
