import Gs101.Gadget.Applied

/-!
# UsbGadget: what is pulled up

The gadget is pulled up in four places: `setupFunctions` and `reset` of `UsbGadget`, the thread of
`monitorFfs`, and `enableUsbData` in the process of the Usb HAL, which writes the same node.
`Service` adds `reset` and the other process to the statements of `setCurrentUsbFunctions` and the
monitor.  The service has one binder thread, so `reset` runs between calls; the others run at any
time.

* `step`: one statement, or one write of another party;
* `Kernel`: what the kernel refuses, and what a failed `resetGadget` leaves;
* `Quiet`: nothing but the call itself pulls the gadget up while functions are being linked, or
  after a call has given up with some of them linked;
* `Steady`: the vendor functions are the same when they are linked as they were when VID and PID
  were set for them;
* `sane_always`: a gadget that is pulled up has all the functions linked whose VID and PID were set
  last.
-/

namespace Gs101

namespace Gadget

/-- `UsbGadget`, its monitor, and the node that it shares. -/
structure Service where
  applied : Applied
  /-- `reset` sleeps, with the gadget pulled down. -/
  resetting : Bool
  /-- Ghost: a call gave up, and left some of its functions linked. -/
  gaveUp : Bool
  /-- Ghost: the functions that belong to the VID and PID that were set last. -/
  target : List String

namespace Service

inductive Event
  /-- `setCurrentUsbFunctions` is called or goes on, or the monitor acts. -/
  | gadget (e : Gadget.Event)
  /-- The first write of `reset`, and whether it succeeds. -/
  | resetDown (ok : Bool)
  /-- The second write of `reset`. -/
  | resetUp (ok : Bool)
  /-- The Usb HAL has written the node. -/
  | usb (up : Bool)

end Service

/-- A statement that links functions. -/
def Statement.links : Statement → Bool
  | .addGenericAndroidFunctions _ _ | .linkVendor _ _ _ | .addAdb _ _ | .linkNcm _ _ => true
  | _ => false

def Statement.isIdle : Statement → Bool
  | .idle => true
  | _ => false

namespace Service

variable (L : PixelUsb)

/-- Whether a call has given up, after its next statement. -/
def gaveUpAfter (s : Service) : Bool :=
  match s.applied.next with
  | .resetGadget _ A =>
      if A.resetGadget = .success then false else s.gaveUp || A.leftLinked ≠ s.applied.linked
  | next => if next.links && (s.applied.statement L).next.isIdle then true else s.gaveUp

/-- What belongs to the VID and PID, after the next statement: they are set for the vendor functions
that `validateAndSetVidPid` has read. -/
def targetAfter (s : Service) : List String :=
  match s.applied.next with
  | .validateAndSetVidPid f A =>
      if Gadget.validateAndSetVidPid A f = .success then L.composed A.vendorFunctions f
      else s.target
  | _ => s.target

def setPulledUp (s : Service) (up : Bool) : Service :=
  { s with applied := { s.applied with pulledUp := up } }

def step (s : Service) : Event → Service
  | .gadget .statement =>
      { s with
        applied := s.applied.statement L
        gaveUp := s.gaveUpAfter L
        target := s.targetAfter L }
  | .gadget (.call f A) =>
      if s.resetting then s else { s with applied := s.applied.step L (.call f A) }
  | .gadget e => { s with applied := s.applied.step L e }
  -- the gadget cannot be pulled down: `reset` answers with an error
  | .resetDown ok =>
      if s.applied.next.isIdle && !s.resetting && ok then
        { s.setPulledUp false with resetting := true }
      else s
  | .resetUp ok =>
      if s.resetting then { (if ok then s.setPulledUp true else s) with resetting := false } else s
  | .usb up => s.setPulledUp up

/-- Before the first call, with the VID and PID of these functions. -/
def initial (found : Found) (target : List String) : Service where
  applied := .initial found
  resetting := false
  gaveUp := found.linked ≠ [] && found.linked ≠ target
  target := target

/-! ### What is assumed, and what is promised -/

/-- A party outside the call writes the gadget's name to the node, and the kernel takes it. -/
def PullsUp (s : Service) : Event → Prop
  | .gadget .monitorPullUp => s.applied.monitor.isSome = true
  | .resetUp ok => s.resetting = true ∧ ok = true
  | .usb up => up = true
  | _ => False

/-- No gadget without functions is bound; a gadget that is still pulled up after `resetGadget` has
failed lost no function, since to unlink one unbinds it. -/
def Accepts (s : Service) : Statement → Prop
  | .pullUp _ A => A.pullUp = true → s.applied.linked ≠ []
  | .resetGadget _ A => A.resetGadget ≠ .success → A.leftPulledUp = true →
      s.applied.pulledUp = true ∧ A.leftLinked = s.applied.linked
  | _ => True

/-- What the kernel does in this step. -/
def Kernel (s : Service) : Event → Prop
  | .gadget .statement => s.Accepts s.applied.next
  | e => s.PullsUp e → s.applied.linked ≠ []

/-- Functions are being linked, or a call has given up. -/
def Partial (s : Service) : Prop := s.gaveUp = true ∨ s.applied.next.links = true

def Quiet (s : Service) (e : Event) : Prop := s.PullsUp e → ¬ s.Partial

/-- `setupFunctions` reads the vendor functions as `validateAndSetVidPid` has read them. -/
def Rereads : Statement → Prop
  | .addGenericAndroidFunctions _ A => A.setupVendorFunctions = A.vendorFunctions
  | _ => True

def Steady (s : Service) : Event → Prop
  | .gadget .statement => Rereads s.applied.next
  | _ => True

/-- The step is one that the kernel allows and that disturbs no call, between whose reads of the
vendor functions nothing changes them. -/
def Allowed (s : Service) (e : Event) : Prop := s.Kernel e ∧ s.Quiet e ∧ s.Steady e

/-- What is pulled up is a whole composition, with the VID and PID that are its own. -/
def Sane (s : Service) : Prop :=
  s.applied.pulledUp = true → s.applied.linked ≠ [] ∧ s.applied.linked = s.target

instance (s : Service) : (next : Statement) → Decidable (s.Accepts next)
  | .pullUp _ A => inferInstanceAs (Decidable (A.pullUp = true → s.applied.linked ≠ []))
  | .resetGadget _ A => inferInstanceAs (Decidable (A.resetGadget ≠ .success →
      A.leftPulledUp = true → s.applied.pulledUp = true ∧ A.leftLinked = s.applied.linked))
  | .idle | .clear .. | .resetMonitor .. | .validateAndSetVidPid ..
  | .addGenericAndroidFunctions .. | .linkVendor .. | .addAdb .. | .linkNcm ..
  | .startMonitor .. | .wait .. | .apply .. => isTrue trivial

instance (s : Service) : (e : Event) → Decidable (s.PullsUp e)
  | .gadget .monitorPullUp => inferInstanceAs (Decidable (s.applied.monitor.isSome = true))
  | .resetUp ok => inferInstanceAs (Decidable (s.resetting = true ∧ ok = true))
  | .usb up => inferInstanceAs (Decidable (up = true))
  | .gadget (.call ..) | .gadget .statement | .gadget .monitorApplied
  | .gadget (.monitorClosed _) | .resetDown _ => isFalse id

instance (s : Service) : (e : Event) → Decidable (s.Kernel e)
  | .gadget .statement => inferInstanceAs (Decidable (s.Accepts s.applied.next))
  | .gadget (.call f A) =>
      inferInstanceAs (Decidable (s.PullsUp (.gadget (.call f A)) → s.applied.linked ≠ []))
  | .gadget .monitorPullUp =>
      inferInstanceAs (Decidable (s.PullsUp (.gadget .monitorPullUp) → s.applied.linked ≠ []))
  | .gadget .monitorApplied =>
      inferInstanceAs (Decidable (s.PullsUp (.gadget .monitorApplied) → s.applied.linked ≠ []))
  | .gadget (.monitorClosed down) =>
      inferInstanceAs (Decidable (s.PullsUp (.gadget (.monitorClosed down)) →
        s.applied.linked ≠ []))
  | .resetDown ok => inferInstanceAs (Decidable (s.PullsUp (.resetDown ok) → s.applied.linked ≠ []))
  | .resetUp ok => inferInstanceAs (Decidable (s.PullsUp (.resetUp ok) → s.applied.linked ≠ []))
  | .usb up => inferInstanceAs (Decidable (s.PullsUp (.usb up) → s.applied.linked ≠ []))

instance : (next : Statement) → Decidable (Rereads next)
  | .addGenericAndroidFunctions _ A =>
      inferInstanceAs (Decidable (A.setupVendorFunctions = A.vendorFunctions))
  | .idle | .clear .. | .resetGadget .. | .resetMonitor .. | .validateAndSetVidPid ..
  | .linkVendor .. | .addAdb .. | .linkNcm .. | .pullUp .. | .startMonitor .. | .wait ..
  | .apply .. => isTrue trivial

instance (s : Service) : (e : Event) → Decidable (s.Steady e)
  | .gadget .statement => inferInstanceAs (Decidable (Rereads s.applied.next))
  | .gadget (.call ..) | .gadget .monitorPullUp | .gadget .monitorApplied
  | .gadget (.monitorClosed _) | .resetDown _ | .resetUp _ | .usb _ => isTrue trivial

instance (s : Service) (e : Event) : Decidable (s.Allowed e) :=
  inferInstanceAs (Decidable (s.Kernel e ∧
    (s.PullsUp e → ¬ (s.gaveUp = true ∨ s.applied.next.links = true)) ∧ s.Steady e))

/-! ### The invariant -/

/-- The call for `f` has linked this much, with the gadget pulled down, and the VID and PID of `f`
with these vendor functions. -/
structure Linked (s : Service) (f : Functions) (vendorFunctions : String) (linked : List String) :
    Prop where
  gaveUp : s.gaveUp = false
  pulledUp : s.applied.pulledUp = false
  linked : s.applied.linked = linked
  target : s.target = L.composed vendorFunctions f

/-- What holds before each statement. -/
def Phase (s : Service) : Statement → Prop
  | .idle | .clear _ _ | .resetGadget _ _ | .wait _ _ =>
      s.gaveUp = true ∨ s.applied.linked = [] ∨ s.applied.linked = s.target
  | .resetMonitor _ _ | .validateAndSetVidPid _ _ => s.gaveUp = false ∧ s.applied.linked = []
  | .addGenericAndroidFunctions f A => s.Linked L f A.vendorFunctions []
  | .linkVendor f A todo =>
      ∃ done, done ++ todo = vendorLinks A.setupVendorFunctions f ∧
        s.Linked L f A.setupVendorFunctions (L.generic f ++ done)
  | .addAdb f A =>
      Has f GadgetFunction.adb ∧ s.Linked L f A.setupVendorFunctions
        (L.generic f ++ vendorLinks A.setupVendorFunctions f)
  | .linkNcm f A =>
      s.Linked L f A.setupVendorFunctions (L.generic f ++ vendorLinks A.setupVendorFunctions f ++
        if Has f GadgetFunction.adb then L.adb else [])
  | .pullUp _ _ | .apply _ _ | .startMonitor _ _ =>
      s.gaveUp = false ∧ s.applied.linked = s.target

/-- What every reachable state satisfies. -/
structure Inv (s : Service) : Prop where
  sane : s.Sane
  phase : s.Phase L s.applied.next

variable {L} {s : Service}

/-- Where nothing is partial, what is linked is the whole composition, or nothing. -/
theorem Inv.whole (h : Inv L s) (hquiet : ¬ s.Partial) (hne : s.applied.linked ≠ []) :
    s.applied.linked = s.target := by
  have hphase := h.phase
  have hgave : s.gaveUp ≠ true := fun hg => hquiet (.inl hg)
  have hlinks : s.applied.next.links ≠ true := fun hl => hquiet (.inr hl)
  cases hn : s.applied.next <;> rw [hn] at hphase hlinks
  case idle => exact (hphase.resolve_left hgave).resolve_left hne
  case clear f A => exact (hphase.resolve_left hgave).resolve_left hne
  case resetGadget f A => exact (hphase.resolve_left hgave).resolve_left hne
  case wait f A => exact (hphase.resolve_left hgave).resolve_left hne
  case resetMonitor f A => exact absurd hphase.2 hne
  case validateAndSetVidPid f A => exact absurd hphase.2 hne
  case pullUp f A => exact hphase.2
  case apply f A => exact hphase.2
  case startMonitor f A => exact hphase.2
  all_goals exact absurd rfl hlinks

/-- The node and the monitor are the only things that change. -/
theorem phase_congr {s' : Service} (hgave : s'.gaveUp = s.gaveUp) (htarget : s'.target = s.target)
    (hlinked : s'.applied.linked = s.applied.linked) {next : Statement}
    (hup : next.links = true → s.applied.pulledUp = false → s'.applied.pulledUp = false)
    (h : s.Phase L next) : s'.Phase L next := by
  have hlinks : ∀ {f v l}, next.links = true → s.Linked L f v l → s'.Linked L f v l :=
    fun hl hs => ⟨hgave.trans hs.gaveUp, hup hl hs.pulledUp, hlinked.trans hs.linked,
      htarget.trans hs.target⟩
  cases next
  case addGenericAndroidFunctions f A => exact hlinks rfl h
  case linkVendor f A todo =>
    obtain ⟨done, hdone, hs⟩ := h
    exact ⟨done, hdone, hlinks rfl hs⟩
  case addAdb f A => exact ⟨h.1, hlinks rfl h.2⟩
  case linkNcm f A => exact hlinks rfl h
  all_goals
    simp only [Phase, hgave, htarget, hlinked] at h ⊢
    exact h

/-- The gadget is pulled up from outside the call. -/
theorem Inv.pullUp (h : Inv L s) (hne : s.applied.linked ≠ []) (hquiet : ¬ s.Partial)
    {s' : Service} (hgave : s'.gaveUp = s.gaveUp) (htarget : s'.target = s.target)
    (hlinked : s'.applied.linked = s.applied.linked) (hnext : s'.applied.next = s.applied.next) :
    Inv L s' := by
  refine ⟨fun _ => ?_, ?_⟩
  · rw [hlinked, htarget]
    exact ⟨hne, h.whole hquiet hne⟩
  · rw [hnext]
    exact phase_congr hgave htarget hlinked (fun hl => absurd (.inr hl) hquiet) h.phase

/-- The gadget is pulled down, or stays as it is. -/
theorem Inv.pullDown (h : Inv L s) {s' : Service} (hgave : s'.gaveUp = s.gaveUp)
    (htarget : s'.target = s.target) (hlinked : s'.applied.linked = s.applied.linked)
    (hnext : s'.applied.next = s.applied.next)
    (hup : s'.applied.pulledUp = true → s.applied.pulledUp = true) : Inv L s' := by
  refine ⟨fun hp => ?_, ?_⟩
  · rw [hlinked, htarget]
    exact h.sane (hup hp)
  · rw [hnext]
    refine phase_congr hgave htarget hlinked (fun _ hdown => ?_) h.phase
    cases hp : s'.applied.pulledUp with
    | true => exact absurd (hdown.symm.trans (hup hp)) Bool.false_ne_true
    | false => rfl

/-! ### One statement -/

section Statements

variable {f : Functions} {A : Answers} {v : String}

theorem gaveUpAfter_of_links (h : s.applied.next.links = true) :
    s.gaveUpAfter L = if (s.applied.statement L).next.isIdle then true else s.gaveUp := by
  unfold gaveUpAfter
  cases hn : s.applied.next <;> rw [hn] at h
  case addGenericAndroidFunctions | linkVendor | addAdb | linkNcm =>
    simp only [Statement.links, Bool.true_and]
  all_goals cases h

theorem targetAfter_of_links (h : s.applied.next.links = true) : s.targetAfter L = s.target := by
  unfold targetAfter
  cases hn : s.applied.next
  case validateAndSetVidPid =>
    rw [hn] at h
    cases h
  all_goals rfl

/-- The gadget is pulled down, so only the phase is to be kept. -/
theorem Inv.of_down (hdown : s.applied.pulledUp = false) (hphase : s.Phase L s.applied.next) :
    Inv L s :=
  ⟨fun hup => absurd (hdown.symm.trans hup) Bool.false_ne_true, hphase⟩

/-- A call that fails to link gives up, with the gadget pulled down. -/
theorem inv_giveUp (hlinks : s.applied.next.links = true) (hdown : s.applied.pulledUp = false)
    (hidle : (s.applied.statement L).next = .idle)
    (hup : (s.applied.statement L).pulledUp = s.applied.pulledUp) :
    Inv L (s.step L (.gadget .statement)) := by
  refine .of_down (hup.trans hdown) ?_
  show Phase L _ (s.applied.statement L).next
  rw [hidle]
  refine .inl ?_
  show s.gaveUpAfter L = true
  rw [gaveUpAfter_of_links hlinks, hidle]
  rfl

/-- A call that links these functions, and goes on with `next`. -/
theorem inv_link {linked : List String} (ok : Bool) (names : List String) (next : Statement)
    (hlinks : s.applied.next.links = true) (hs : s.Linked L f v linked)
    (hst : s.applied.statement L = s.applied.link ok names next) (hnext : next.isIdle = false)
    (hphase : ∀ s', Linked L s' f v (linked ++ names) → s'.Phase L next) :
    Inv L (s.step L (.gadget .statement)) := by
  cases ok with
  | false =>
    refine inv_giveUp hlinks hs.pulledUp ?_ ?_
    · rw [hst]; rfl
    · rw [hst]; rfl
  | true =>
    have hstate : s.step L (.gadget .statement) = { s with
        applied := { s.applied with linked := s.applied.linked ++ names, next := next } } := by
      simp only [step, gaveUpAfter_of_links hlinks, targetAfter_of_links hlinks, hst, Applied.link,
        if_true, hnext, Bool.false_eq_true, if_false]
    rw [hstate]
    refine .of_down hs.pulledUp (hphase _ ⟨hs.gaveUp, hs.pulledUp, ?_, hs.target⟩)
    show s.applied.linked ++ names = _
    rw [hs.linked]

/-- A statement between two links. -/
theorem inv_goto {linked : List String} (next : Statement) (hlinks : s.applied.next.links = true)
    (hs : s.Linked L f v linked) (hst : s.applied.statement L = s.applied.goto next)
    (hnext : next.isIdle = false) (hphase : ∀ s', Linked L s' f v linked → s'.Phase L next) :
    Inv L (s.step L (.gadget .statement)) := by
  have hstate : s.step L (.gadget .statement) = { s with applied := s.applied.goto next } := by
    simp only [step, gaveUpAfter_of_links hlinks, targetAfter_of_links hlinks, hst, Applied.goto,
      hnext, Bool.false_eq_true, if_false]
  rw [hstate]
  exact .of_down hs.pulledUp (hphase _ ⟨hs.gaveUp, hs.pulledUp, hs.linked, hs.target⟩)

/-- A failed `resetGadget` leaves a gadget that is pulled up as it was. -/
theorem inv_resetGadget (hn : s.applied.next = .resetGadget f A) (h : Inv L s)
    (hk : s.Kernel (.gadget .statement)) : Inv L (s.step L (.gadget .statement)) := by
  have hphase := h.phase
  simp only [Kernel, Accepts, hn] at hk hphase
  simp only [step, Applied.statement, gaveUpAfter, targetAfter, hn]
  by_cases hok : A.resetGadget = .success
  · simp only [hok, ne_eq, not_true_eq_false, if_false, if_true]
    exact .of_down rfl ⟨rfl, rfl⟩
  · simp only [ne_eq, hok, not_false_eq_true, if_true, if_false]
    refine ⟨fun hup => ?_, ?_⟩
    · obtain ⟨hpulled, hleft⟩ := hk hok hup
      show A.leftLinked ≠ [] ∧ A.leftLinked = s.target
      rw [hleft]
      exact h.sane hpulled
    · by_cases hleft : A.leftLinked = s.applied.linked
      · refine hphase.imp (fun hg => ?_) fun hl => ?_
        · simp only [hg, Bool.true_or]
        · show A.leftLinked = [] ∨ A.leftLinked = s.target
          rw [hleft]
          exact hl
      · refine .inl ?_
        simp only [hleft, not_false_eq_true, decide_true, Bool.or_true]

theorem inv_linkVendor {todo : List String} (hn : s.applied.next = .linkVendor f A todo)
    (h : Inv L s) : Inv L (s.step L (.gadget .statement)) := by
  have hphase := h.phase
  rw [hn] at hphase
  have hlinks : s.applied.next.links = true := by rw [hn]; rfl
  obtain ⟨done, hdone, hs⟩ := hphase
  cases todo with
  | nil =>
    rw [List.append_nil] at hdone
    subst hdone
    by_cases hadb : Has f GadgetFunction.adb
    · refine inv_goto (.addAdb f A) hlinks hs ?_ rfl fun s' hs' => ⟨hadb, hs'⟩
      simp only [Applied.statement, hn, if_pos hadb]
    · refine inv_goto (.linkNcm f A) hlinks hs ?_ rfl fun s' hs' => ?_
      · simp only [Applied.statement, hn, if_neg hadb]
      · show Linked L s' f _ (_ ++ if Has f GadgetFunction.adb then L.adb else [])
        rw [if_neg hadb, List.append_nil]
        exact hs'
  | cons name names =>
    refine inv_link (A.linkFunction name) [name] (.linkVendor f A names) hlinks hs ?_ rfl
      fun s' hs' => ⟨done ++ [name], ?_, ?_⟩
    · simp only [Applied.statement, hn]
    · rw [← hdone, List.append_assoc]; rfl
    · rw [← List.append_assoc]; exact hs'

theorem inv_addAdb (hn : s.applied.next = .addAdb f A) (h : Inv L s) :
    Inv L (s.step L (.gadget .statement)) := by
  have hphase := h.phase
  rw [hn] at hphase
  have hlinks : s.applied.next.links = true := by rw [hn]; rfl
  obtain ⟨hadb, hs⟩ := hphase
  by_cases hok : A.addAdb = .success
  · refine inv_link true L.adb (.linkNcm f A) hlinks hs ?_ rfl fun s' hs' => ?_
    · simp only [Applied.statement, hn, if_pos hok]
    · show Linked L s' f _ (_ ++ if Has f GadgetFunction.adb then L.adb else [])
      rw [if_pos hadb]
      exact hs'
  · refine inv_giveUp hlinks hs.pulledUp ?_ ?_
    · simp only [Applied.statement, hn, if_neg hok]
    · simp only [Applied.statement, hn, if_neg hok]

/-- With the last function the composition is whole. -/
theorem Linked.whole (hs : s.Linked L f v (L.composed v f)) (ffs : Bool) :
    s.Phase L (if ffs then .startMonitor f A else .pullUp f A) := by
  cases ffs <;> exact ⟨hs.gaveUp, hs.linked.trans hs.target.symm⟩

theorem inv_linkNcm (hn : s.applied.next = .linkNcm f A) (h : Inv L s) :
    Inv L (s.step L (.gadget .statement)) := by
  have hs : s.Linked L f A.setupVendorFunctions
      (L.generic f ++ vendorLinks A.setupVendorFunctions f ++
        if Has f GadgetFunction.adb then L.adb else []) := by
    have hphase := h.phase
    rw [hn] at hphase
    exact hphase
  have hlinks : s.applied.next.links = true := by rw [hn]; rfl
  have hnext : (if L.genericFfs f || decide (Has f GadgetFunction.adb) then
      Statement.startMonitor f A else .pullUp f A).isIdle = false := by
    split_ifs <;> rfl
  by_cases hncm : Has f GadgetFunction.ncm
  · refine inv_link (A.linkFunction "ncm.gs9") ["ncm.gs9"] _ hlinks hs ?_ hnext
      fun s' hs' => Linked.whole (v := A.setupVendorFunctions) ?_ _
    · simp only [Applied.statement, hn, if_pos hncm]
    · unfold PixelUsb.composed
      rw [if_pos hncm]
      exact hs'
  · refine inv_goto _ hlinks hs ?_ hnext fun s' hs' =>
      Linked.whole (v := A.setupVendorFunctions) ?_ _
    · simp only [Applied.statement, hn, if_neg hncm]
    · unfold PixelUsb.composed
      rw [if_neg hncm, List.append_nil]
      exact hs'

/-- The statement of a call keeps the invariant. -/
theorem inv_statement (h : Inv L s) (hk : s.Kernel (.gadget .statement))
    (hsteady : s.Steady (.gadget .statement)) : Inv L (s.step L (.gadget .statement)) := by
  have hphase := h.phase
  cases hn : s.applied.next <;> rw [hn] at hphase
  case idle =>
    simp only [step, Applied.statement, gaveUpAfter, targetAfter, hn]
    exact ⟨h.sane, by rw [hn]; exact hphase⟩
  case clear f A =>
    simp only [step, Applied.statement, gaveUpAfter, targetAfter, hn]
    exact ⟨h.sane, hphase⟩
  case resetGadget f A => exact inv_resetGadget hn h hk
  case resetMonitor f A =>
    simp only [step, Applied.statement, gaveUpAfter, targetAfter, hn]
    refine ⟨h.sane, ?_⟩
    by_cases hf : f = GadgetFunction.none
    · simp only [hf, if_true]
      exact .inr (.inl hphase.2)
    · simp only [hf, if_false]
      exact hphase
  case validateAndSetVidPid f A =>
    have hdown : s.applied.pulledUp = false := by
      cases hp : s.applied.pulledUp with
      | true => exact absurd hphase.2 (h.sane hp).1
      | false => rfl
    simp only [step, Applied.statement, Applied.goto, gaveUpAfter, targetAfter, hn]
    by_cases hok : Gadget.validateAndSetVidPid A f = .success
    · simp only [hok, if_true]
      exact .of_down hdown ⟨hphase.1, hdown, hphase.2, rfl⟩
    · simp only [hok, if_false]
      exact .of_down hdown (.inr (.inl hphase.2))
  case addGenericAndroidFunctions f A =>
    have hlinks : s.applied.next.links = true := by rw [hn]; rfl
    have hvendor : A.setupVendorFunctions = A.vendorFunctions := by
      simp only [Steady, hn] at hsteady
      exact hsteady
    by_cases hok : A.addGenericAndroidFunctions = .success
    · have hs : s.Linked L f A.setupVendorFunctions [] := by
        rw [hvendor]
        exact hphase
      refine inv_link true (L.generic f)
        (.linkVendor f A (vendorLinks A.setupVendorFunctions f)) hlinks hs ?_ rfl
        fun s' hs' => ⟨[], rfl, by simpa using hs'⟩
      simp only [Applied.statement, hn, if_pos hok]
    · refine inv_giveUp hlinks hphase.pulledUp ?_ ?_
      · simp only [Applied.statement, hn, if_neg hok]
      · simp only [Applied.statement, hn, if_neg hok]
  case linkVendor f A todo => exact inv_linkVendor hn h
  case addAdb f A => exact inv_addAdb hn h
  case linkNcm f A => exact inv_linkNcm hn h
  case pullUp f A =>
    simp only [Kernel, Accepts, hn] at hk
    simp only [step, Applied.statement, Applied.goto, gaveUpAfter, targetAfter, hn]
    cases hup : A.pullUp with
    | true => exact ⟨fun _ => ⟨hk hup, hphase.2⟩, hphase⟩
    | false => exact ⟨h.sane, .inr (.inr hphase.2)⟩
  case apply f A =>
    simp only [step, Applied.statement, gaveUpAfter, targetAfter, hn]
    exact ⟨h.sane, .inr (.inr hphase.2)⟩
  case startMonitor f A =>
    simp only [step, Applied.statement, gaveUpAfter, targetAfter, hn]
    exact ⟨h.sane, .inr (.inr hphase.2)⟩
  case wait f A =>
    simp only [step, Applied.statement, Applied.goto, gaveUpAfter, targetAfter, hn]
    exact ⟨h.sane, hphase⟩

end Statements

/-! ### The other parties -/

theorem inv_call (h : Inv L s) (f : Functions) (A : Answers) :
    Inv L (s.step L (.gadget (.call f A))) := by
  simp only [step, Applied.step]
  split_ifs
  · exact h
  split
  · case h_1 hidle =>
      have hphase := h.phase
      rw [hidle] at hphase
      exact ⟨h.sane, hphase⟩
  · exact h

theorem inv_monitor (h : Inv L s) {e : Gadget.Event}
    (he : e = .monitorPullUp ∨ e = .monitorApplied ∨ ∃ down, e = .monitorClosed down)
    (ha : s.Allowed (.gadget e)) : Inv L (s.step L (.gadget e)) := by
  obtain rfl | rfl | ⟨down, rfl⟩ := he
  · simp only [step, Applied.step]
    split
    case h_2 => exact h
    case h_1 m hm =>
      have hup : s.PullsUp (.gadget .monitorPullUp) := by
        show s.applied.monitor.isSome = true
        rw [hm]; rfl
      exact h.pullUp (ha.1 hup) (ha.2.1 hup) rfl rfl rfl rfl
  · simp only [step, Applied.step]
    split
    case h_2 => exact h
    case h_1 m hm =>
      split_ifs
      · exact h.pullDown rfl rfl rfl rfl id
      · exact h
  · simp only [step, Applied.step]
    split
    case h_2 => exact h
    case h_1 m hm =>
      refine h.pullDown rfl rfl rfl rfl fun hup => ?_
      exact (Bool.and_eq_true_iff.1 hup).1

/-- An event that is allowed keeps the invariant. -/
theorem inv_step (s : Service) (e : Event) (h : Inv L s) (ha : s.Allowed e) :
    Inv L (s.step L e) := by
  cases e with
  | gadget e =>
    cases e with
    | call f A => exact inv_call h f A
    | statement => exact inv_statement h ha.1 ha.2.2
    | monitorPullUp => exact inv_monitor h (.inl rfl) ha
    | monitorApplied => exact inv_monitor h (.inr (.inl rfl)) ha
    | monitorClosed down => exact inv_monitor h (.inr (.inr ⟨down, rfl⟩)) ha
  | resetDown ok =>
    simp only [step]
    split_ifs
    · exact h.pullDown rfl rfl rfl rfl nofun
    · exact h
  | resetUp ok =>
    simp only [step]
    split_ifs with hresetting hok
    · have hup : s.PullsUp (.resetUp ok) := ⟨hresetting, hok⟩
      exact h.pullUp (ha.1 hup) (ha.2.1 hup) rfl rfl rfl rfl
    · exact h.pullDown rfl rfl rfl rfl id
    · exact h
  | usb up =>
    cases up with
    | true => exact h.pullUp (ha.1 rfl) (ha.2.1 rfl) rfl rfl rfl rfl
    | false => exact h.pullDown rfl rfl rfl rfl nofun

/-- What was found is whole, or counts as given up. -/
theorem inv_initial {found : Found} {target : List String} (h : (initial found target).Sane) :
    Inv L (initial found target) := by
  refine ⟨h, ?_⟩
  show (found.linked ≠ [] && found.linked ≠ target) = true ∨ found.linked = [] ∨
    found.linked = target
  by_cases hnil : found.linked = []
  · exact .inr (.inl hnil)
  by_cases htarget : found.linked = target
  · exact .inr (.inr htarget)
  · exact .inl (by simp [hnil, htarget])

/-- **What is pulled up is a whole composition** in every state of a run in which no other party
pulls the gadget up while it is partial and the vendor functions do not change within a call, if
that is so of what the service has found. -/
theorem sane_always (L : PixelUsb) (found : Found) (target : List String)
    (hfound : (initial found target).Sane) (es : List Event)
    (h : Runs.Meets (step L) Allowed (initial found target) es) :
    Runs.Always (step L) Sane (initial found target) es :=
  fun pre hp => (Runs.always_of_meets inv_step (inv_initial hfound) h pre hp).sane

/-- ADB is set up and pulled up, and the host sees it again after a `reset`. -/
def adbReset : List Event :=
  Applied.adbSetUp.map .gadget ++
    [.gadget .monitorPullUp, .gadget .monitorApplied, .gadget .statement, .usb false, .usb true,
      .resetDown true, .resetUp true]

/-- An earlier service has left MTP pulled up. -/
def mtpFound : Found := ⟨GadgetFunction.none, false, true, ["ffs.mtp"]⟩

theorem adbReset_sane :
    Runs.Always (step Applied.adbOnly) Sane (initial mtpFound ["ffs.mtp"]) adbReset :=
  sane_always Applied.adbOnly mtpFound ["ffs.mtp"] (fun _ => ⟨by decide, rfl⟩) adbReset (by decide)

/-- ADB and NCM are set up; NCM cannot be linked, and `reset` is called. -/
def halfReset : List Event :=
  .gadget (.call (GadgetFunction.adb ||| GadgetFunction.ncm)
    { obliging with linkFunction := fun name => name ≠ "ncm.gs9" }) ::
    List.replicate 10 (.gadget .statement) ++ [.resetDown true, .resetUp true]

/-- ADB is pulled up alone, with the VID and PID of both: without `Quiet` a gadget that is pulled up
may be partial. -/
theorem halfReset_insane :
    ¬ Runs.Always (step Applied.adbOnly) Sane (initial Applied.blank []) halfReset := by
  intro h
  obtain ⟨-, htarget⟩ := h _ List.prefix_rfl rfl
  revert htarget
  decide

/-- ADB is set up, and the vendor functions are cleared between the two reads of them. -/
def vendorCleared : List Event :=
  .gadget (.call GadgetFunction.adb { obliging with vendorFunctions := "dm" }) ::
    List.replicate 9 (.gadget .statement) ++ [.gadget .monitorPullUp]

/-- ADB is pulled up alone, with the VID and PID of the debug functions: without `Steady` a gadget
that is pulled up may have the VID and PID of another. -/
theorem vendorCleared_insane :
    ¬ Runs.Always (step Applied.adbOnly) Sane (initial Applied.blank []) vendorCleared := by
  intro h
  obtain ⟨-, htarget⟩ := h _ List.prefix_rfl rfl
  revert htarget
  decide

end Service

end Gadget

end Gs101
