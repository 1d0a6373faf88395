import Gs101.Aidl
import Gs101.Lib.CText
import Gs101.Lib.Runs

/-!
# Usb: data signaling on and off

`enableUsbData` reads and writes four nodes of sysfs and keeps its last result in
`mUsbDataEnabled`.  The port status that it queries at the end touches none of these and is left
out.

* `Truthful`: the call notifies SUCCESS only if the nodes then hold what was asked for;
* `Checked`: the call neither trusts a stale `mUsbDataEnabled` nor goes on after a read of the
  pull-up node that failed;
* `meets_truthful_iff`: the calls of a history are truthful if and only if they are checked.
-/

namespace Gs101

namespace Usb

def kGadgetName : String := "11110000.dwc3"

/-- The nodes of `enableUsbData`: `PULLUP_PATH`, `ID_PATH`, `VBUS_PATH` and `USB_DATA_PATH`. -/
inductive Node
  | pullup
  | id
  | vbus
  | usbData
  deriving DecidableEq

/-- `mUsbDataEnabled` and the contents of the nodes. -/
structure DataSignal where
  mUsbDataEnabled : Bool
  cells : Node → String

/-- One call of `enableUsbData`: its arguments, whether `mCallback` is set, and which reads and
writes of a node succeed. -/
structure EnableUsbData where
  in_portName : String
  in_enable : Bool
  in_transactionId : ℤ
  mCallback : Bool
  reads : Node → Bool
  writes : Node → Bool

/-- The arguments of `notifyEnableUsbDataStatus`. -/
structure EnableUsbDataStatus where
  portName : String
  enable : Bool
  retval : Status
  transactionId : ℤ
  deriving DecidableEq

namespace DataSignal

/-- `WriteStringToFile`: a failed write leaves the node. -/
def write (c : EnableUsbData) (n : Node) (text : String) (s : DataSignal) : DataSignal × Bool :=
  if c.writes n then ({ s with cells := Function.update s.cells n text }, true) else (s, false)

/-- The first half of either branch: read the pull-up node, and write `text` if the content calls
for it. -/
def setPullup (c : EnableUsbData) (text : String) (unlessRead : String → Bool) (s : DataSignal) :
    DataSignal × Bool :=
  if c.reads .pullup then
    if unlessRead (CText.trim (s.cells .pullup)) then (s, true) else s.write c .pullup text
  -- a read that fails is passed over
  else (s, true)

/-- The branch `in_enable`. -/
def turnOn (c : EnableUsbData) (s : DataSignal) : DataSignal × Bool :=
  if s.mUsbDataEnabled then (s, true)
  else
    let (s, pulled) := s.setPullup c kGadgetName fun pullup => pullup = kGadgetName
    let (s, data) := s.write c .usbData "1"
    (s, pulled && data)

/-- The branch `!in_enable`. -/
def turnOff (c : EnableUsbData) (s : DataSignal) : DataSignal × Bool :=
  let (s, pulled) := s.setPullup c "none" fun pullup => pullup ≠ kGadgetName
  let (s, id) := s.write c .id "1"
  let (s, vbus) := s.write c .vbus "0"
  let (s, data) := s.write c .usbData "0"
  (s, pulled && id && vbus && data)

/-- The new state, and the notification if `mCallback` is set. -/
def enableUsbData (s : DataSignal) (c : EnableUsbData) : DataSignal × Option EnableUsbDataStatus :=
  let (s, result) := if c.in_enable then s.turnOn c else s.turnOff c
  let s := if result then { s with mUsbDataEnabled := c.in_enable } else s
  (s, if c.mCallback then
      some ⟨c.in_portName, c.in_enable, if result then .success else .error, c.in_transactionId⟩
    else none)

def step (s : DataSignal) (c : EnableUsbData) : DataSignal := (s.enableUsbData c).1

/-- Data signaling is on. -/
structure On (s : DataSignal) : Prop where
  pullup : s.cells .pullup = kGadgetName
  usbData : s.cells .usbData = "1"

/-- Data signaling is off. -/
structure Off (s : DataSignal) : Prop where
  pullup : s.cells .pullup ≠ kGadgetName
  id : s.cells .id = "1"
  vbus : s.cells .vbus = "0"
  usbData : s.cells .usbData = "0"

/-- If the call notifies SUCCESS, the nodes then hold what was asked for. -/
def Truthful (s : DataSignal) (c : EnableUsbData) : Prop :=
  ∀ n, (s.enableUsbData c).2 = some n → n.retval = .success →
    if n.enable then On (s.step c) else Off (s.step c)

/-- The call does not notify before it knows: it trusts `mUsbDataEnabled` only when the nodes are
on, and a read of the pull-up node that fails is not the only thing between the node and SUCCESS. -/
def Checked (s : DataSignal) (c : EnableUsbData) : Prop :=
  c.mCallback = true →
    if c.in_enable then
      if s.mUsbDataEnabled then On s
      else c.reads .pullup = true ∨ s.cells .pullup = kGadgetName ∨ c.writes .usbData = false
    else c.reads .pullup = true ∨ s.cells .pullup ≠ kGadgetName ∨
      c.writes .id = false ∨ c.writes .vbus = false ∨ c.writes .usbData = false

/-! ### One write, one pull-up -/

@[simp] theorem write_snd (c : EnableUsbData) (n : Node) (text : String) (s : DataSignal) :
    (s.write c n text).2 = c.writes n := by
  unfold write
  split_ifs with h <;> simp [h]

theorem write_cells (c : EnableUsbData) (n : Node) (text : String) (s : DataSignal) :
    (s.write c n text).1.cells =
      if c.writes n then Function.update s.cells n text else s.cells := by
  unfold write
  split_ifs <;> rfl

theorem write_cells_self {c : EnableUsbData} {n : Node} (h : c.writes n = true) (text : String)
    (s : DataSignal) : (s.write c n text).1.cells n = text := by
  rw [write_cells, if_pos h, Function.update_self]

theorem write_cells_of_ne {c : EnableUsbData} {n m : Node} (h : m ≠ n) (text : String)
    (s : DataSignal) : (s.write c n text).1.cells m = s.cells m := by
  rw [write_cells]
  split_ifs
  · exact Function.update_of_ne h _ _
  · rfl

/-- The pull-up node holds what this HAL writes to it. -/
def Plain (s : DataSignal) : Prop :=
  s.cells .pullup = kGadgetName ∨ s.cells .pullup = "none"

theorem Plain.trim {s : DataSignal} (h : Plain s) :
    CText.trim (s.cells .pullup) = s.cells .pullup := by
  rcases h with h | h <;> rw [h] <;> decide

theorem none_ne_kGadgetName : "none" ≠ kGadgetName := by decide

/-- A pull-up that succeeds leaves the gadget up, if the node was read or is up already. -/
theorem pulled_up_iff {c : EnableUsbData} {s : DataSignal} (hs : Plain s)
    (h : (s.setPullup c kGadgetName fun pullup => pullup = kGadgetName).2 = true) :
    (s.setPullup c kGadgetName fun pullup => pullup = kGadgetName).1.cells .pullup = kGadgetName ↔
      c.reads .pullup = true ∨ s.cells .pullup = kGadgetName := by
  unfold setPullup at h ⊢
  rw [hs.trim] at h ⊢
  split_ifs at h ⊢ with hread hup
  · simp only [decide_eq_true_eq] at hup
    simp [hup]
  · rw [write_snd] at h
    simp [write_cells_self h, hread]
  · simp [hread]

/-- A pull-down that succeeds leaves the gadget down, if the node was read or is down already. -/
theorem pulled_down_iff {c : EnableUsbData} {s : DataSignal} (hs : Plain s)
    (h : (s.setPullup c "none" fun pullup => pullup ≠ kGadgetName).2 = true) :
    (s.setPullup c "none" fun pullup => pullup ≠ kGadgetName).1.cells .pullup ≠ kGadgetName ↔
      c.reads .pullup = true ∨ s.cells .pullup ≠ kGadgetName := by
  unfold setPullup at h ⊢
  rw [hs.trim] at h ⊢
  split_ifs at h ⊢ with hread hdown
  · simp only [decide_eq_true_eq] at hdown
    simp [hdown]
  · rw [write_snd] at h
    simp [write_cells_self h, hread, none_ne_kGadgetName]
  · simp [hread]

theorem plain_setPullup {c : EnableUsbData} {s : DataSignal} (hs : Plain s) {text : String}
    (ht : text = kGadgetName ∨ text = "none") (unlessRead : String → Bool) :
    Plain (s.setPullup c text unlessRead).1 := by
  unfold setPullup
  split_ifs
  · exact hs
  · unfold Plain
    rw [write_cells]
    split_ifs
    · rw [Function.update_self]; exact ht
    · exact hs
  · exact hs

/-! ### One call -/

theorem turnOn_of_disabled {c : EnableUsbData} {s : DataSignal} (h : s.mUsbDataEnabled = false) :
    s.turnOn c =
      (((s.setPullup c kGadgetName fun pullup => pullup = kGadgetName).1.write c .usbData "1").1,
        (s.setPullup c kGadgetName fun pullup => pullup = kGadgetName).2 && c.writes .usbData) := by
  simp [turnOn, h]

/-- Turning data signaling on with a success. -/
theorem on_turnOn_iff {c : EnableUsbData} {s : DataSignal} (hs : Plain s)
    (h : (s.turnOn c).2 = true) :
    On (s.turnOn c).1 ↔
      if s.mUsbDataEnabled then On s
      else c.reads .pullup = true ∨ s.cells .pullup = kGadgetName := by
  cases he : s.mUsbDataEnabled with
  | true => simp [turnOn, he]
  | false =>
    rw [turnOn_of_disabled he] at h ⊢
    obtain ⟨hpull, hdata⟩ := Bool.and_eq_true_iff.1 h
    have hup := pulled_up_iff hs hpull
    have hcell : ∀ t : DataSignal, (t.write c .usbData "1").1.cells .pullup = t.cells .pullup :=
      fun t => write_cells_of_ne (by decide) _ t
    constructor
    · rintro ⟨hp, -⟩
      rw [hcell] at hp
      simpa using hup.1 hp
    · intro hc
      refine ⟨?_, write_cells_self hdata _ _⟩
      rw [hcell]
      exact hup.2 (by simpa using hc)

/-- Turning data signaling off with a success. -/
theorem off_turnOff_iff {c : EnableUsbData} {s : DataSignal} (hs : Plain s)
    (h : (s.turnOff c).2 = true) :
    Off (s.turnOff c).1 ↔ c.reads .pullup = true ∨ s.cells .pullup ≠ kGadgetName := by
  simp only [turnOff, write_snd, Bool.and_eq_true] at h
  obtain ⟨⟨⟨hpull, hid⟩, hvbus⟩, hdata⟩ := h
  have hdown := pulled_down_iff hs hpull
  simp only [turnOff]
  set s₁ := (s.setPullup c "none" fun pullup => pullup ≠ kGadgetName).1
  set s₂ := (s₁.write c .id "1").1 with hs₂
  set s₃ := (s₂.write c .vbus "0").1 with hs₃
  have hp : (s₃.write c .usbData "0").1.cells .pullup = s₁.cells .pullup := by
    rw [write_cells_of_ne (by decide), hs₃, write_cells_of_ne (by decide), hs₂,
      write_cells_of_ne (by decide)]
  constructor
  · rintro ⟨hoff, -, -, -⟩
    rw [hp] at hoff
    exact hdown.1 hoff
  · intro hc
    refine ⟨?_, ?_, ?_, write_cells_self hdata _ _⟩
    · rw [hp]
      exact hdown.2 hc
    · rw [write_cells_of_ne (by decide), hs₃, write_cells_of_ne (by decide), hs₂,
        write_cells_self hid]
    · rw [write_cells_of_ne (by decide), hs₃, write_cells_self hvbus]

theorem reads_of_setPullup_failed {c : EnableUsbData} {s : DataSignal} {text : String}
    {unlessRead : String → Bool} (h : (s.setPullup c text unlessRead).2 = false) :
    c.reads .pullup = true := by
  by_contra hn
  unfold setPullup at h
  rw [if_neg hn] at h
  cases h

theorem on_congr {s s' : DataSignal} (h : s'.cells = s.cells) : On s' ↔ On s := by
  constructor
  · rintro ⟨hp, hd⟩
    exact ⟨h ▸ hp, h ▸ hd⟩
  · rintro ⟨hp, hd⟩
    exact ⟨h ▸ hp, h ▸ hd⟩

theorem off_congr {s s' : DataSignal} (h : s'.cells = s.cells) : Off s' ↔ Off s := by
  constructor
  · rintro ⟨hp, hi, hv, hd⟩
    exact ⟨h ▸ hp, h ▸ hi, h ▸ hv, h ▸ hd⟩
  · rintro ⟨hp, hi, hv, hd⟩
    exact ⟨h ▸ hp, h ▸ hi, h ▸ hv, h ▸ hd⟩

theorem cells_step (s : DataSignal) (c : EnableUsbData) :
    (s.step c).cells = (if c.in_enable then s.turnOn c else s.turnOff c).1.cells := by
  unfold step enableUsbData
  simp only
  split_ifs <;> rfl

/-- A call is truthful if its branch, when it succeeds, has done what it was asked for. -/
theorem truthful_iff (s : DataSignal) (c : EnableUsbData) :
    Truthful s c ↔ (c.mCallback = true →
      (if c.in_enable then s.turnOn c else s.turnOff c).2 = true →
        if c.in_enable then On (s.turnOn c).1 else Off (s.turnOff c).1) := by
  have hcells := cells_step s c
  unfold Truthful enableUsbData
  cases hcb : c.mCallback with
  | false => simp
  | true =>
    cases hen : c.in_enable with
    | false =>
      simp only [hen, if_false, Bool.false_eq_true] at hcells ⊢
      cases hr : (s.turnOff c).2 <;> simp [off_congr hcells]
    | true =>
      simp only [hen, if_true] at hcells ⊢
      cases hr : (s.turnOn c).2 <;> simp [on_congr hcells]

/-- A call of the history is truthful exactly when it is a checked one. -/
theorem truthful_iff_checked (s : DataSignal) (c : EnableUsbData) (hs : Plain s) :
    Truthful s c ↔ Checked s c := by
  rw [truthful_iff]
  unfold Checked
  refine forall_congr' fun _ => ?_
  cases hen : c.in_enable with
  | true =>
    simp only [if_true]
    cases hr : (s.turnOn c).2 with
    | true =>
      rw [forall_prop_of_true rfl, on_turnOn_iff hs hr]
      cases he : s.mUsbDataEnabled with
      | true => simp
      | false =>
        rw [turnOn_of_disabled he] at hr
        have hdata : c.writes .usbData = true := (Bool.and_eq_true_iff.1 hr).2
        simp [hdata]
    | false =>
      cases he : s.mUsbDataEnabled with
      | true => simp [turnOn, he] at hr
      | false =>
        rw [turnOn_of_disabled he] at hr
        rcases Bool.and_eq_false_iff.1 hr with hp | hd
        · simp [reads_of_setPullup_failed hp]
        · simp [hd]
  | false =>
    simp only [Bool.false_eq_true, if_false]
    cases hr : (s.turnOff c).2 with
    | true =>
      rw [forall_prop_of_true rfl, off_turnOff_iff hs hr]
      simp only [turnOff, write_snd, Bool.and_eq_true] at hr
      simp [hr]
    | false =>
      simp only [turnOff, write_snd, Bool.and_eq_false_iff] at hr
      rcases hr with ((hp | hi) | hv) | hd
      · simp [reads_of_setPullup_failed hp]
      · simp [hi]
      · simp [hv]
      · simp [hd]

/-! ### Histories -/

theorem plain_step (s : DataSignal) (c : EnableUsbData) (hs : Plain s) : Plain (s.step c) := by
  have hkeep : ∀ (t : DataSignal) (n : Node) (text : String), n ≠ .pullup → Plain t →
      Plain (t.write c n text).1 := by
    intro t n text hn ht
    unfold Plain
    rw [write_cells_of_ne hn.symm]
    exact ht
  unfold Plain
  rw [cells_step]
  split_ifs with hen
  · unfold turnOn
    split_ifs
    · exact hs
    · exact hkeep _ .usbData _ (by decide) (plain_setPullup hs (.inl rfl) _)
  · have hdown : Plain (s.setPullup c "none" fun pullup => pullup ≠ kGadgetName).1 :=
      plain_setPullup hs (.inr rfl) _
    have hid := hkeep _ .id "1" (by decide) hdown
    have hvbus := hkeep _ .vbus "0" (by decide) hid
    exact hkeep _ .usbData "0" (by decide) hvbus

/-- The state before the first call: the gadget is up and its data enabled. -/
def initial (id vbus : String) : DataSignal where
  mUsbDataEnabled := true
  cells
    | .pullup => kGadgetName
    | .id => id
    | .vbus => vbus
    | .usbData => "1"

/-- **`enableUsbData` tells the truth over a history** if and only if each of its calls is a
checked one. -/
theorem meets_truthful_iff (id vbus : String) (cs : List EnableUsbData) :
    Runs.Meets step Truthful (initial id vbus) cs ↔
      Runs.Meets step Checked (initial id vbus) cs :=
  Runs.meets_congr (J := Plain) plain_step truthful_iff_checked (.inl rfl) cs

/-- Data signaling is turned off, but the id node cannot be written; then it is turned on. -/
def halfOff : List EnableUsbData :=
  [⟨"port0", false, 0, true, fun _ => true, fun n => n ≠ .id⟩,
    ⟨"port0", true, 1, true, fun _ => true, fun _ => true⟩]

/-- The second call finds `mUsbDataEnabled` still set, writes nothing and notifies SUCCESS. -/
theorem halfOff_untruthful : ¬ Runs.Meets step Truthful (initial "0" "1") halfOff := by
  rintro ⟨-, h, -⟩
  have hon := h _ rfl rfl
  have hpull := hon.pullup
  revert hpull
  decide

end DataSignal

end Usb

end Gs101
