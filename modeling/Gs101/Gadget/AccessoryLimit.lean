import Gs101.Gadget.Results
import Gs101.Lib.Runs

/-!
# UsbGadget: the vote for the accessory current limit

A call that sets the accessory function may vote for a current limit, and a call that comes to its
end without it drops the vote.  The calls that leave earlier do neither.

* `Dropped`: the vote stands only if the functions of the last call include the accessory;
* `Completes`: every step of a call succeeds, so that it comes to its end;
* `Drops`: the call completes, or there is nothing to drop;
* `dropped_iff`: the vote is dropped after each call of a run if and only if each call drops it.

All of it is about calls that find the i2c client and can write its nodes: `Provided`.
-/

namespace Gs101

namespace Gadget

namespace AccessoryLimit

open GadgetFunction (accessory)

/-- A call of `setCurrentUsbFunctions`, and what the rest of the system answers in it. -/
structure Call where
  answers : Answers
  functions : Functions
  timeout : ℤ
  in_transactionId : ℤ

/-- The state after a call. -/
def step (g : UsbGadget) (c : Call) : UsbGadget :=
  (setCurrentUsbFunctions c.answers c.functions c.timeout c.in_transactionId g).1

/-- The i2c client's node that enables the limit. -/
def enableNode (i2cPath : String) : String := i2cPath ++ "/" ++ kAccessoryLimitCurrentEnable

/-- The vote stands only together with the accessory. -/
def Dropped (g : UsbGadget) : Prop :=
  g.files (enableNode g.mI2cClientPath) = "1" → Has g.mCurrentUsbFunctions accessory

/-- The i2c client is found, and its limit nodes can be written. -/
structure Provided (g : UsbGadget) (c : Call) : Prop where
  found : (getI2cClientPath c.answers g).2 ≠ ""
  current : c.answers.writes
    ((getI2cClientPath c.answers g).2 ++ "/" ++ kAccessoryLimitCurrent) = true
  enable : c.answers.writes (enableNode (getI2cClientPath c.answers g).2) = true

/-- The functions can be set up: everything is linked; without ffs functions the gadget is pulled
up, and with them the callback, if there is one, is reached. -/
structure SetsUp (A : Answers) (functions : Functions) : Prop where
  links : Links A functions
  pullUp : ¬ Ffs A functions → A.pullUp = true
  called : Ffs A functions → ∀ transaction, A.callback = some transaction → transaction 0 = true

/-- Nothing on the way to the end of the call fails. -/
structure Completes (A : Answers) (functions : Functions) : Prop where
  tornDown : A.resetGadget = .success
  nonempty : functions ≠ GadgetFunction.none
  valid : validateAndSetVidPid A functions = .success
  setUp : SetsUp A functions

/-- The call comes to its end; or it has nothing to drop, because its functions include the
accessory or nothing was voted for before. -/
def Drops (g : UsbGadget) (c : Call) : Prop :=
  Has c.functions accessory ∨ Completes c.answers c.functions ∨
    g.files (enableNode (getI2cClientPath c.answers g).2) ≠ "1"

variable (A : Answers)

/-! ### The fields that the vote depends on -/

/-- The functions and the path of the i2c client are the same. -/
structure Aligned (g g' : UsbGadget) : Prop where
  functions : g'.mCurrentUsbFunctions = g.mCurrentUsbFunctions
  path : g'.mI2cClientPath = g.mI2cClientPath

theorem Aligned.trans {g₁ g₂ g₃ : UsbGadget} (h : Aligned g₁ g₂) (h' : Aligned g₂ g₃) :
    Aligned g₁ g₃ :=
  ⟨h'.functions.trans h.functions, h'.path.trans h.path⟩

/-- So are the files. -/
structure Kept (g g' : UsbGadget) : Prop extends Aligned g g' where
  files : g'.files = g.files

theorem Kept.trans {g₁ g₂ g₃ : UsbGadget} (h : Kept g₁ g₂) (h' : Kept g₂ g₃) : Kept g₁ g₃ :=
  ⟨h.toAligned.trans h'.toAligned, h'.files.trans h.files⟩

theorem Kept.refl (g : UsbGadget) : Kept g g := ⟨⟨rfl, rfl⟩, rfl⟩

theorem kept_callback (transaction : ℕ → Bool) (cb : FunctionsCb) (g : UsbGadget) :
    Kept g (setCurrentUsbFunctionsCb transaction cb g).1 := ⟨⟨rfl, rfl⟩, rfl⟩

theorem kept_errorExit (functions : Functions) (in_transactionId : ℤ) (status : Status)
    (g : UsbGadget) : Kept g (errorExit A functions in_transactionId status g).1 := by
  unfold errorExit
  cases A.callback with
  | none => exact .refl g
  | some transaction => exact kept_callback transaction _ g

theorem kept_tearDownGadget (g : UsbGadget) : Kept g (tearDownGadget A g).1 := by
  unfold tearDownGadget
  split_ifs <;> exact ⟨⟨rfl, rfl⟩, rfl⟩

theorem kept_linkComposition (functions : Functions) (g : UsbGadget) :
    Kept g (linkComposition A functions g).1 := by
  obtain ⟨l, hl⟩ := linkComposition_keeps A functions g
  rw [hl]
  exact ⟨⟨rfl, rfl⟩, rfl⟩

theorem aligned_writeStringToFile (text path : String) (g : UsbGadget) :
    Aligned g (writeStringToFile A text path g) := by
  unfold writeStringToFile
  split_ifs <;> exact ⟨rfl, rfl⟩

/-- A path that has been found is not looked for again. -/
theorem getI2cClientPath_of_found {g : UsbGadget} (h : g.mI2cClientPath ≠ "") :
    getI2cClientPath A g = (g, g.mI2cClientPath) := if_pos h

theorem aligned_updateSdpEnumTimeout {g : UsbGadget} (h : g.mI2cClientPath ≠ "") :
    Aligned g (updateSdpEnumTimeout A g) := by
  simp only [updateSdpEnumTimeout, getI2cClientPath_of_found A h, if_neg h]
  exact aligned_writeStringToFile A _ _ g

theorem aligned_setIrqAffinity (functions : Functions) (g : UsbGadget) :
    Aligned g (setIrqAffinity A functions g) := by
  unfold setIrqAffinity
  split_ifs
  · exact ⟨rfl, rfl⟩
  · exact aligned_writeStringToFile A _ _ g
  · exact aligned_writeStringToFile A _ _ g

theorem aligned_setAccessoryLimit (functions : Functions) (i2cPath : String) (g : UsbGadget) :
    Aligned g (setAccessoryLimit A functions i2cPath g) := by
  have hw := aligned_writeStringToFile A
  simp only [setAccessoryLimit]
  split_ifs
  all_goals first
    | exact ⟨rfl, rfl⟩
    | exact hw _ _ g
    | exact (hw _ _ g).trans (hw _ _ _)

/-- Without the accessory the vote is dropped. -/
theorem files_setAccessoryLimit {functions : Functions} (hf : ¬ Has functions accessory)
    {i2cPath : String} (hpath : i2cPath ≠ "") (hwrite : A.writes (enableNode i2cPath) = true)
    (g : UsbGadget) :
    (setAccessoryLimit A functions i2cPath g).files (enableNode i2cPath) = "0" := by
  have hnode : enableNode i2cPath ≠ "" := by
    intro h
    have hlength := congrArg String.length h
    simp [enableNode, kAccessoryLimitCurrentEnable] at hlength
  have hnode' : ¬ i2cPath ++ "/" ++ kAccessoryLimitCurrentEnable = "" := hnode
  have hwrite' : A.writes (i2cPath ++ "/" ++ kAccessoryLimitCurrentEnable) = true := hwrite
  simp only [setAccessoryLimit, if_neg hpath, hf, false_and, if_false, if_neg hnode',
    writeStringToFile, if_pos hwrite']
  exact Function.update_self ..

/-! ### Setting up -/

/-- Without ffs functions, setting up succeeds once the gadget is pulled up. -/
theorem setUp_plain {functions : Functions} (timeout in_transactionId : ℤ) {g g₁ : UsbGadget}
    (hl : linkComposition A functions g = (g₁, some false)) (hkept : Kept g g₁)
    (hpath : g₁.mI2cClientPath ≠ "") :
    let r := setupFunctions A functions timeout in_transactionId g
    (r.2 = .success ∧ A.pullUp = true ∧ Aligned g r.1) ∨
      (r.2 = .error ∧ A.pullUp = false ∧ Kept g r.1) := by
  simp only [setupFunctions, hl]
  cases A.pullUp with
  | false => exact .inr ⟨rfl, rfl, hkept⟩
  | true =>
    refine .inl ⟨rfl, rfl, ?_⟩
    cases A.callback with
    | none =>
      have hup := aligned_updateSdpEnumTimeout A (g := { g₁ with
        pulledUp := true, mCurrentUsbFunctionsApplied := true }) hpath
      exact hkept.toAligned.trans ⟨hup.functions, hup.path⟩
    | some transaction =>
      have hup := aligned_updateSdpEnumTimeout A (g := { g₁ with
        pulledUp := true, mCurrentUsbFunctionsApplied := true,
        calls := g₁.calls ++ [⟨functions, .success, in_transactionId⟩] }) hpath
      exact hkept.toAligned.trans ⟨hup.functions, hup.path⟩

/-- With ffs functions, it succeeds once the callback is reached. -/
theorem setUp_ffs {functions : Functions} (timeout in_transactionId : ℤ) {g g₁ : UsbGadget}
    (hl : linkComposition A functions g = (g₁, some true)) (hkept : Kept g g₁)
    (hcalls : g₁.calls = []) :
    let r := setupFunctions A functions timeout in_transactionId g
    (r.2 = .success ∧ (∀ transaction, A.callback = some transaction → transaction 0 = true) ∧
        Kept g r.1) ∨
      (r.2 = .error ∧ (∃ transaction, A.callback = some transaction ∧ transaction 0 = false) ∧
        Kept g r.1) := by
  simp only [setupFunctions, hl]
  cases A.callback with
  | none =>
    refine .inl ⟨rfl, fun transaction h => ?_, ⟨hkept.functions, hkept.path⟩, hkept.files⟩
    cases h
  | some transaction =>
    have hkept' : ∀ calls, Kept g { g₁ with monitorRunning := true, calls := calls } := fun _ =>
      ⟨⟨hkept.functions, hkept.path⟩, hkept.files⟩
    simp only [setCurrentUsbFunctionsCb, hcalls, List.length_nil]
    cases ht : transaction 0 with
    | false => exact .inr ⟨rfl, ⟨transaction, rfl, ht⟩, hkept' _⟩
    | true => exact .inl ⟨rfl, fun _ he => Option.some.inj he ▸ ht, hkept' _⟩

/-- Setting up fails and changes no file, or it gets through with everything set up. -/
theorem setupFunctions_cases (functions : Functions) (timeout in_transactionId : ℤ)
    {g : UsbGadget} (hcalls : g.calls = []) (hpath : g.mI2cClientPath ≠ "") :
    let r := setupFunctions A functions timeout in_transactionId g
    (r.2 = .success ∧ SetsUp A functions ∧ Aligned g r.1) ∨
      (r.2 = .error ∧ ¬ SetsUp A functions ∧ Kept g r.1) := by
  intro r
  have hkept := kept_linkComposition A functions g
  have hnone := linkComposition_calls A functions g
  have hsnd := linkComposition_snd A functions g
  cases hl : linkComposition A functions g with
  | mk g₁ ffs =>
    rw [hl] at hkept hnone hsnd
    cases ffs with
    | none =>
      have hr : r = (g₁, .error) := by simp only [r, setupFunctions, hl]
      rw [hr]
      refine .inr ⟨rfl, fun h => ?_, hkept⟩
      exact absurd ((hsnd _).2 ⟨h.links, rfl⟩) (Option.some_ne_none _).symm
    | some ffs =>
      obtain ⟨hlinks, hffs⟩ := (hsnd ffs).1 rfl
      have hffs : ffs = true ↔ Ffs A functions := by
        rw [hffs, Bool.or_eq_true, decide_eq_true_eq]; rfl
      cases ffs with
      | false =>
        have hno : ¬ Ffs A functions := fun h => Bool.false_ne_true (hffs.2 h)
        rcases setUp_plain A timeout in_transactionId hl hkept (hkept.path ▸ hpath) with
          ⟨hr, hup, ha⟩ | ⟨hr, hup, hk⟩
        · exact .inl ⟨hr, ⟨hlinks, fun _ => hup, fun h => absurd h hno⟩, ha⟩
        · refine .inr ⟨hr, fun h => ?_, hk⟩
          exact Bool.false_ne_true (hup.symm.trans (h.pullUp hno))
      | true =>
        have hyes : Ffs A functions := hffs.1 rfl
        rcases setUp_ffs A timeout in_transactionId hl hkept (hnone.trans hcalls) with
          ⟨hr, hcalled, hk⟩ | ⟨hr, ⟨transaction, hcb, ht⟩, hk⟩
        · exact .inl ⟨hr, ⟨hlinks, fun h => absurd hyes h, fun _ => hcalled⟩, hk.toAligned⟩
        · refine .inr ⟨hr, fun h => ?_, hk⟩
          exact Bool.false_ne_true (ht.symm.trans (h.called hyes _ hcb))

/-! ### A call -/

/-- Where a call stands before the gadget is torn down. -/
theorem beforeTearDown_fields (functions : Functions) (g : UsbGadget) :
    (beforeTearDown A functions g).mCurrentUsbFunctions = functions ∧
      (beforeTearDown A functions g).mI2cClientPath = (getI2cClientPath A g).2 ∧
      (beforeTearDown A functions g).files = g.files := by
  simp only [beforeTearDown, getI2cClientPath]
  split_ifs <;> exact ⟨rfl, rfl, rfl⟩

/-- What holds of the state after a call, whether or not it completes. -/
structure Leaves (g : UsbGadget) (c : Call) (g' : UsbGadget) : Prop where
  functions : g'.mCurrentUsbFunctions = c.functions
  path : g'.mI2cClientPath = (getI2cClientPath c.answers g).2
  completed : Completes c.answers c.functions → ¬ Has c.functions accessory →
    g'.files (enableNode (getI2cClientPath c.answers g).2) = "0"
  left : ¬ Completes c.answers c.functions → g'.files = g.files

/-- A call that does not complete changes no file. -/
theorem Leaves.of_kept {g g₁ g' : UsbGadget} {c : Call}
    (hg₁ : Kept (beforeTearDown c.answers c.functions g) g₁) (h : Kept g₁ g')
    (hno : ¬ Completes c.answers c.functions) : Leaves g c g' := by
  obtain ⟨hfunctions, hpath, hfiles⟩ := beforeTearDown_fields c.answers c.functions g
  have hall := hg₁.trans h
  exact ⟨hall.functions.trans hfunctions, hall.path.trans hpath, fun hc => absurd hc hno,
    fun _ => hall.files.trans hfiles⟩

theorem leaves_step {g : UsbGadget} {c : Call} (h : Provided g c) : Leaves g c (step g c) := by
  obtain ⟨hfunctions, hpath, hfiles⟩ := beforeTearDown_fields c.answers c.functions g
  have hdown := kept_tearDownGadget c.answers (beforeTearDown c.answers c.functions g)
  by_cases ht : c.answers.resetGadget = .success
  swap
  · -- the gadget is not torn down
    rw [step, setCurrentUsbFunctions_of_failed c.answers ht]
    exact .of_kept hdown (kept_errorExit ..) fun hc => ht hc.tornDown
  have hcalls := (tearDownGadget_calls c.answers (beforeTearDown c.answers c.functions g)).trans
    (beforeTearDown_calls c.answers c.functions g)
  rw [step, setCurrentUsbFunctions_of_tornDown c.answers ht]
  generalize (tearDownGadget c.answers (beforeTearDown c.answers c.functions g)).1 = g₁ at *
  by_cases hn : c.functions = GadgetFunction.none
  · -- it stays torn down
    rw [if_pos hn]
    have hno : ¬ Completes c.answers c.functions := fun hc => hc.nonempty hn
    cases c.answers.callback with
    | none => exact .of_kept hdown (.refl g₁) hno
    | some transaction => exact .of_kept hdown (kept_callback transaction _ g₁) hno
  rw [if_neg hn]
  by_cases hv : validateAndSetVidPid c.answers c.functions = .success
  swap
  · -- there is no such composition
    rw [if_pos hv]
    exact .of_kept hdown (kept_errorExit ..) fun hc => hv hc.valid
  rw [if_neg (not_not_intro hv)]
  have hfound : g₁.mI2cClientPath ≠ "" := by
    rw [hdown.path, hpath]
    exact h.found
  have hsetup := setupFunctions_cases c.answers c.functions c.timeout c.in_transactionId hcalls
    hfound
  generalize setupFunctions c.answers c.functions c.timeout c.in_transactionId g₁ = r at hsetup ⊢
  obtain ⟨g₂, status⟩ := r
  rcases hsetup with ⟨rfl, hup, ha⟩ | ⟨rfl, hup, hk⟩
  · -- the call comes to its end
    have hend := (aligned_setIrqAffinity c.answers c.functions g₂).trans
      (aligned_setAccessoryLimit c.answers c.functions (getI2cClientPath c.answers g).2 _)
    have hall := (hdown.toAligned.trans ha).trans hend
    refine ⟨hall.functions.trans hfunctions, hall.path.trans hpath, fun _ hf => ?_, fun hno => ?_⟩
    · exact files_setAccessoryLimit c.answers hf h.found h.enable _
    · exact absurd ⟨ht, hn, hv, hup⟩ hno
  · -- it cannot be set up
    exact .of_kept hdown (hk.trans (kept_errorExit ..)) fun hc => hup hc.setUp

/-- One call. -/
theorem dropped_step_iff {g : UsbGadget} {c : Call} (h : Provided g c) :
    Dropped (step g c) ↔ Drops g c := by
  have hleaves := leaves_step h
  unfold Dropped Drops
  rw [hleaves.functions, hleaves.path]
  by_cases hf : Has c.functions accessory
  · exact iff_of_true (fun _ => hf) (.inl hf)
  by_cases hc : Completes c.answers c.functions
  · -- the node holds 0
    rw [hleaves.completed hc hf]
    exact iff_of_true nofun (.inr (.inl hc))
  · -- the node holds what it held before
    rw [hleaves.left hc]
    constructor
    · exact fun hd => .inr (.inr fun he => hf (hd he))
    · rintro (hf' | hc' | hne) he
      · exact absurd hf' hf
      · exact absurd hc' hc
      · exact absurd he hne

/-- **The vote is dropped with the accessory** after each call of a run if and only if each call
drops it. -/
theorem dropped_iff (g : UsbGadget) (calls : List Call) (h : Runs.Meets step Provided g calls) :
    Runs.Meets step (fun g c => Dropped (step g c)) g calls ↔ Runs.Meets step Drops g calls :=
  Runs.meets_congr_of_meets (fun _ _ hp => dropped_step_iff hp) h

/-- A charging port, and an i2c client whose nodes can be written. -/
def charging : Answers :=
  { obliging with
    i2cClientPath := "/i2c"
    reads := fun path =>
      if path = currentUsbTypePath then some "Unknown SDP [CDP] DCP\n"
      else if path = currentUsbPowerOperationModePath then some "1.5A\n"
      else none }

/-- The accessory is set, and then the functions are cleared. -/
def detach : List Call := [⟨charging, accessory, 0, 1⟩, ⟨charging, GadgetFunction.none, 0, 2⟩]

theorem provided_detach : Runs.Meets step Provided booted detach :=
  ⟨⟨by decide, rfl, rfl⟩, ⟨by decide, rfl, rfl⟩, trivial⟩

theorem dropped_detach : Runs.Meets step Provided booted detach ∧
    (Runs.Meets step (fun g c => Dropped (step g c)) booted detach ↔
      Runs.Meets step Drops booted detach) :=
  ⟨provided_detach, dropped_iff booted detach provided_detach⟩

/-- Clearing the functions leaves the vote for the accessory's limit. -/
theorem detach_not_dropped : Runs.Meets step Provided booted detach ∧
    ¬ Runs.Meets step (fun g c => Dropped (step g c)) booted detach := by
  refine ⟨provided_detach, ?_⟩
  rintro ⟨-, h, -⟩
  exact absurd (h (by decide)) (by decide)

end AccessoryLimit

end Gadget

end Gs101
