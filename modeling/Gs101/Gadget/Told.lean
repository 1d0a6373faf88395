import Gs101.Gadget.PullUps

/-!
# UsbGadget: what a client is told

`getCurrentUsbFunctions` answers with two fields of `UsbGadget`.  It runs on the one binder thread,
so between the calls of `setCurrentUsbFunctions` and `reset`; the monitor and the Usb HAL go on at
any time, and neither `reset` nor the Usb HAL writes these fields.

* `getCurrentUsbFunctions`: the arguments of `getCurrentUsbFunctionsCb`;
* `Asked`: the service, with the note that `reset` or the Usb HAL has pulled the gadget down;
* `intended`: the gadget as it were without them;
* `Told`: FUNCTIONS_APPLIED is only answered for functions that are linked, and that are pulled up
  or have been until `reset` or the Usb HAL pulled them down;
* `told_always_iff`: this is so in every run without late callbacks of the monitor, if and only if
  what the service finds in memory does not say otherwise.
-/

namespace Gs101

namespace Gadget

/-- `getCurrentUsbFunctions`, up to its callback. -/
def getCurrentUsbFunctions (s : Applied) (in_transactionId : ℤ) : FunctionsCb where
  functions := s.mCurrentUsbFunctions
  status := if s.mCurrentUsbFunctionsApplied then .functionsApplied else .functionsNotApplied
  transactionId := in_transactionId

/-- The service, when it may be asked. -/
structure Asked where
  service : Service
  /-- Ghost: what was pulled up was pulled down from outside, and is still down. -/
  heldDown : Bool

namespace Asked

variable (L : PixelUsb)

/-- Whether the gadget is held down by the event, or was, if it is not pulled up after it. -/
def holds (s : Asked) : Service.Event → Bool
  | .resetDown _ | .usb _ => s.heldDown || s.service.applied.pulledUp
  | .gadget .statement =>
      match s.service.applied.next with
      | .resetGadget _ _ => false
      | _ => s.heldDown
  | _ => s.heldDown

def step (s : Asked) (e : Service.Event) : Asked where
  service := s.service.step L e
  heldDown := !(s.service.step L e).applied.pulledUp && s.holds e

/-- Before the first call. -/
def initial (found : Found) (target : List String) : Asked := ⟨.initial found target, false⟩

/-- The event is not the callback with true of an outdated monitor. -/
def Timely (s : Asked) : Service.Event → Prop
  | .gadget e => s.service.applied.Timely e
  | _ => True

instance (s : Asked) : (e : Service.Event) → Decidable (s.Timely e)
  | .gadget e => inferInstanceAs (Decidable (s.service.applied.Timely e))
  | .resetDown _ | .resetUp _ | .usb _ => isTrue trivial

/-- The functions of a reply with FUNCTIONS_APPLIED are linked, and pulled up unless they are held
down. -/
def Told (s : Asked) : Prop :=
  s.service.applied.next = .idle → ∀ in_transactionId,
    (getCurrentUsbFunctions s.service.applied in_transactionId).status = .functionsApplied →
      Applied.Composed L (getCurrentUsbFunctions s.service.applied in_transactionId).functions
          s.service.applied.linked ∧
        (s.service.applied.pulledUp = true ∨ s.heldDown = true)

end Asked

/-! ### The gadget as it were -/

/-- The gadget, pulled up or down. -/
def Applied.withUp (s : Applied) (up : Bool) : Applied := { s with pulledUp := up }

/-- The next statement is the call of `resetGadget`. -/
def Applied.Resets (s : Applied) : Gadget.Event → Prop
  | .statement => ∃ f A, s.next = .resetGadget f A
  | _ => False

/-- The gadget as it were if nobody had held it down. -/
def Asked.intended (s : Asked) : Applied :=
  s.service.applied.withUp (s.service.applied.pulledUp || s.heldDown)

namespace Applied

variable {L : PixelUsb}

/-- Pulling up keeps the invariant. -/
theorem Inv.withUp {s : Applied} {up : Bool} (h : Inv L s) (hup : s.pulledUp = true → up = true) :
    Inv L (s.withUp up) := by
  have hcleared : ∀ {f}, Cleared s f → Cleared (s.withUp up) f := fun hc =>
    ⟨hc.functions, hc.applied, hc.outdated⟩
  have hstopped : ∀ {f l}, Stopped s f l → Stopped (s.withUp up) f l := fun hs =>
    ⟨hcleared hs.toCleared, hs.monitor, hs.linked⟩
  have hmonitored : Monitored L s → Monitored L (s.withUp up) := fun hm =>
    ⟨hm.composed, fun ha => ⟨hup (hm.applied ha).1, (hm.applied ha).2⟩⟩
  refine ⟨fun m hm hdue hf => hup (h.due m hm hdue hf), ?_⟩
  have hb := h.before
  show Before L (s.withUp up) s.next
  cases hn : s.next <;> rw [hn] at hb
  case idle => exact hmonitored hb
  case wait f A => exact hmonitored hb
  case clear f A => exact hb
  case resetGadget f A => exact hcleared hb
  case resetMonitor f A => exact ⟨hcleared hb.1, hb.2⟩
  case validateAndSetVidPid f A => exact hstopped hb
  case addGenericAndroidFunctions f A => exact hstopped hb
  case linkVendor f A todo =>
    obtain ⟨done, hdone, hs⟩ := hb
    exact ⟨done, hdone, hstopped hs⟩
  case addAdb f A => exact ⟨hb.1, hstopped hb.2⟩
  case linkNcm f A => exact hstopped hb
  case pullUp f A => exact hstopped hb
  case startMonitor f A => exact hstopped hb
  case apply f A => exact ⟨hstopped hb.1, hup hb.2⟩

/-- `resetGadget` does the same whether or not the gadget is pulled up. -/
theorem statement_withUp_of_resets {s : Applied} (h : s.Resets .statement) (up : Bool) :
    (s.withUp up).statement L = s.statement L := by
  obtain ⟨f, A, hn⟩ := h
  simp only [statement, withUp, hn]

/-- The other statements do the same to the rest. -/
theorem statement_withUp {s : Applied} (h : ¬ s.Resets .statement) (up : Bool) :
    ∃ up', (s.withUp up).statement L = (s.statement L).withUp up' := by
  unfold withUp
  cases hn : s.next
  case resetGadget f A => exact absurd ⟨f, A, hn⟩ h
  case pullUp f A =>
    simp only [statement, goto, hn]
    split_ifs
    · exact ⟨true, rfl⟩
    · exact ⟨up, rfl⟩
  case linkVendor f A todo =>
    cases todo with
    | nil =>
      simp only [statement, goto, hn]
      exact ⟨up, rfl⟩
    | cons name names =>
      simp only [statement, link, goto, hn]
      split_ifs
      · exact ⟨up, rfl⟩
      · exact ⟨up, rfl⟩
  all_goals
    simp only [statement, link, goto, hn]
    first
      | exact ⟨up, rfl⟩
      | split_ifs <;> exact ⟨up, rfl⟩

/-- An event that does not reset the gadget does the same to the rest, whether or not the gadget is
pulled up. -/
theorem step_withUp {s : Applied} {e : Gadget.Event} (h : ¬ s.Resets e) (up : Bool) :
    ∃ up', (s.withUp up).step L e = (s.step L e).withUp up' := by
  cases e with
  | statement => exact statement_withUp h up
  | call f A =>
    unfold withUp
    cases hn : s.next <;> simp only [step, hn] <;> exact ⟨up, rfl⟩
  | monitorPullUp =>
    unfold withUp
    cases hm : s.monitor <;> simp only [step, hm]
    · exact ⟨up, rfl⟩
    · exact ⟨true, rfl⟩
  | monitorApplied =>
    unfold withUp
    cases hm : s.monitor <;> simp only [step, hm]
    · exact ⟨up, rfl⟩
    · split_ifs
      · exact ⟨up, rfl⟩
      · exact ⟨up, by rw [hm]⟩
  | monitorClosed down =>
    unfold withUp
    cases hm : s.monitor <;> simp only [step, hm]
    · exact ⟨up, rfl⟩
    · exact ⟨up && !down, rfl⟩

end Applied

namespace Asked

variable {L : PixelUsb} {s : Asked}

/-! ### The invariant -/

/-- The gadget counts as up. -/
def up (s : Asked) : Bool := s.service.applied.pulledUp || s.heldDown

/-- Only the monitor makes an event late. -/
theorem timely_withUp {s : Applied} {e : Gadget.Event} {up : Bool} (h : s.Timely e) :
    (s.withUp up).Timely e := by
  cases e <;> exact h

theorem up_step (e : Service.Event) :
    (s.step L e).up = ((s.service.step L e).applied.pulledUp || s.holds e) := by
  unfold up step
  dsimp only
  cases (s.service.step L e).applied.pulledUp <;> rfl

/-- The invariant holds after an event if it does with the gadget up no more often than it counts
as up. -/
theorem inv_of_withUp {e : Service.Event} {u : Bool}
    (h : Applied.Inv L ((s.service.step L e).applied.withUp u))
    (hup : u = true → (s.step L e).up = true) : Applied.Inv L (s.step L e).intended :=
  h.withUp hup

/-- An event of the gadget happens to the gadget, or is refused while `reset` sleeps. -/
theorem applied_step_gadget (s : Service) (e : Gadget.Event) :
    (s.step L (.gadget e)).applied = s.applied.step L e ∨
      ¬ s.applied.Resets e ∧ s.step L (.gadget e) = s := by
  cases e
  case call f A =>
    simp only [Service.step]
    split_ifs
    · exact .inr ⟨id, rfl⟩
    · exact .inl rfl
  all_goals exact .inl rfl

theorem holds_gadget {e : Gadget.Event} (h : ¬ s.service.applied.Resets e) :
    s.holds (.gadget e) = s.heldDown := by
  cases e
  case statement =>
    simp only [holds]
    split
    · case h_1 f A hn => exact absurd ⟨f, A, hn⟩ h
    · rfl
  all_goals rfl

/-- The events of the gadget happen to the gadget as it were. -/
theorem inv_gadget {e : Gadget.Event} (h : Applied.Inv L s.intended)
    (ht : s.service.applied.Timely e) : Applied.Inv L (s.step L (.gadget e)).intended := by
  have hnext : Applied.Inv L (s.intended.step L e) := Applied.inv_step _ _ h (timely_withUp ht)
  obtain happlied | ⟨hr, hrefused⟩ := applied_step_gadget (L := L) s.service e
  · by_cases hr : s.service.applied.Resets e
    · -- what was held down is reset
      have hreset : s.intended.step L e = s.service.applied.step L e := by
        cases e
        case statement => exact Applied.statement_withUp_of_resets hr _
        all_goals exact hr.elim
      rw [hreset, ← happlied] at hnext
      refine inv_of_withUp (u := (s.service.step L (.gadget e)).applied.pulledUp) hnext ?_
      intro hup
      rw [up_step, hup, Bool.true_or]
    · by_cases hheld : s.heldDown = true
      · obtain ⟨up', hup'⟩ := Applied.step_withUp (L := L) hr s.up
        refine inv_of_withUp (u := up') ?_ fun _ => ?_
        · rw [happlied, ← hup']
          exact hnext
        · rw [up_step, holds_gadget hr, hheld, Bool.or_true]
      · have hsame : s.intended = s.service.applied := by
          unfold intended
          rw [eq_false_of_ne_true hheld, Bool.or_false]
          rfl
        rw [hsame, ← happlied] at hnext
        refine inv_of_withUp (u := (s.service.step L (.gadget e)).applied.pulledUp) hnext ?_
        intro hup
        rw [up_step, hup, Bool.true_or]
  · refine inv_of_withUp (u := s.up) (by rw [hrefused]; exact h) fun hup => ?_
    rw [up_step, hrefused, holds_gadget hr]
    exact hup

/-- A write of the node from outside leaves the gadget up, or holds it down. -/
theorem inv_outside {e : Service.Event} (h : Applied.Inv L s.intended)
    (happlied : (s.service.step L e).applied.withUp s.up = s.intended)
    (hup : s.up = true → (s.service.step L e).applied.pulledUp = true ∨ s.holds e = true) :
    Applied.Inv L (s.step L e).intended := by
  refine inv_of_withUp (u := s.up) (by rw [happlied]; exact h) fun hs => ?_
  rw [up_step, Bool.or_eq_true]
  exact hup hs

/-- A timely event keeps the invariant of the gadget as it were. -/
theorem inv_step (s : Asked) (e : Service.Event) (h : Applied.Inv L s.intended)
    (ht : s.Timely e) : Applied.Inv L (s.step L e).intended := by
  cases e with
  | gadget e => exact inv_gadget h ht
  | resetDown ok =>
    refine inv_outside h ?_ fun hup => .inr ?_
    · simp only [Service.step]
      split_ifs <;> rfl
    · rw [holds, Bool.or_comm]
      exact hup
  | resetUp ok =>
    refine inv_outside h ?_ fun hup => ?_
    · simp only [Service.step]
      split_ifs <;> rfl
    · simp only [Service.step]
      split_ifs
      · exact .inl rfl
      · exact Bool.or_eq_true_iff.1 hup
      · exact Bool.or_eq_true_iff.1 hup
  | usb up =>
    refine inv_outside h rfl fun hup => .inr ?_
    rw [holds, Bool.or_comm]
    exact hup

theorem inv_initial {found : Found} (h : Applied.Sound L found) (target : List String) :
    Applied.Inv L (initial found target).intended := by
  have hsame : (initial found target).intended = .initial found := by
    show Applied.withUp _ (found.pulledUp || false) = _
    rw [Bool.or_false]
    rfl
  rw [hsame]
  exact Applied.inv_initial h

/-- What is answered between calls. -/
theorem told_of_inv (h : Applied.Inv L s.intended) : s.Told L := by
  intro hidle in_transactionId happlied
  have hflag : s.service.applied.mCurrentUsbFunctionsApplied = true := by
    by_contra hn
    rw [getCurrentUsbFunctions, if_neg hn] at happlied
    cases happlied
  obtain ⟨hup, hcomposed⟩ := h.truthful hidle hflag
  exact ⟨hcomposed, Bool.or_eq_true_iff.1 hup⟩

/-- What a client is told before the first call is what was found. -/
theorem told_initial {found : Found} {target : List String} :
    (initial found target).Told L ↔ Applied.Sound L found := by
  constructor
  · intro h happlied
    have htold := h rfl 0 (if_pos happlied)
    exact ⟨htold.2.resolve_right Bool.false_ne_true, htold.1⟩
  · intro h
    exact told_of_inv (inv_initial h target)

/-- **A client is told** FUNCTIONS_APPLIED only for functions that are linked, and that are pulled
up or held down from outside, in every state of every run without late callbacks, if and only if the
memory that the service finds does not say it of others. -/
theorem told_always_iff (L : PixelUsb) (found : Found) (target : List String) :
    (∀ es, Runs.Meets (step L) Timely (initial found target) es →
      Runs.Always (step L) (Told L) (initial found target) es) ↔ Applied.Sound L found := by
  constructor
  · intro h
    exact told_initial.1 (h [] trivial [] List.prefix_rfl)
  · intro h es hes pre hpre
    exact told_of_inv (Runs.always_of_meets inv_step (inv_initial h target) hes pre hpre)

/-- The Usb HAL pulls down what the monitor has pulled up. -/
def adbHeldDown : List Service.Event :=
  Applied.adbSetUp.map .gadget ++
    [.gadget .monitorPullUp, .gadget .monitorApplied, .gadget .statement, .usb false]

theorem adbHeldDown_told : Runs.Always (step Applied.adbOnly) (Told Applied.adbOnly)
    (initial Applied.blank []) adbHeldDown :=
  (told_always_iff Applied.adbOnly Applied.blank []).2 (Applied.sound_of_not_applied rfl)
    adbHeldDown (by decide)

/-- The client is told that ADB is applied, though it is pulled down. -/
example :
    let s := Runs.run (step Applied.adbOnly) (initial Applied.blank []) adbHeldDown
    s.service.applied.pulledUp = false ∧ s.heldDown = true ∧
      getCurrentUsbFunctions s.service.applied 7 = ⟨GadgetFunction.adb, .functionsApplied, 7⟩ := by
  decide

end Asked

end Gadget

end Gs101
