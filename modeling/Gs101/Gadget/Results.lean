import Gs101.Gadget.Functions

/-!
# UsbGadget: the two results of a call

`setCurrentUsbFunctions` answers twice: with a `Status` through the callback, and with the
`ScopedAStatus` it returns.

* `Agree`: the callback is invoked once, with the functions and the transaction id of the call, and
  the call returns ok exactly when the status is SUCCESS;
* `agree_iff`: which calls agree.  The others are those that clear the functions, which report an
  error after a SUCCESS, and those in which the ffs functions do not come up in time, which return
  ok after an ERROR.
-/

namespace Gs101

namespace Gadget

/-- The same answers, with a callback whose transactions succeed. -/
def Answers.answering (A : Answers) : Answers := { A with callback := some fun _ => true }

/-- The two results of a call agree. -/
def Agree (A : Answers) (functions : Functions) (timeout in_transactionId : ℤ) (g : UsbGadget) :
    Prop :=
  ∃ status, (setCurrentUsbFunctions A functions timeout in_transactionId g).1.calls =
      [⟨functions, status, in_transactionId⟩] ∧
    ((setCurrentUsbFunctions A functions timeout in_transactionId g).2 = .ok ↔ status = .success)

/-- Everything that `setupFunctions` links is linked. -/
structure Links (A : Answers) (functions : Functions) : Prop where
  generic : A.addGenericAndroidFunctions = .success
  vendor : ∀ name ∈ vendorLinks A.setupVendorFunctions functions, A.linkFunction name = true
  adb : Has functions GadgetFunction.adb → A.addAdb = .success
  ncm : Has functions GadgetFunction.ncm → A.linkFunction "ncm.gs9" = true

/-- The functions are cleared: the tear-down succeeds, and there is nothing to set up. -/
structure Clears (A : Answers) (functions : Functions) : Prop where
  cleared : functions = GadgetFunction.none
  tornDown : A.resetGadget = .success

/-- The composition has ffs functions, everything is set up, and they are not pulled up in time. -/
structure TimesOut (A : Answers) (functions : Functions) (timeout : ℤ) : Prop where
  nonempty : functions ≠ GadgetFunction.none
  tornDown : A.resetGadget = .success
  valid : validateAndSetVidPid A functions = .success
  links : Links A functions
  ffs : A.genericFfs = true ∨ Has functions GadgetFunction.adb
  late : A.waitForPullUp timeout = false

/-! ### What is linked -/

variable (A : Answers)

theorem linkFunctions_snd (names : List String) (g : UsbGadget) :
    (linkFunctions A names g).2 = true ↔ ∀ name ∈ names, A.linkFunction name = true := by
  induction names generalizing g with
  | nil => simp [linkFunctions]
  | cons name names ih =>
    unfold linkFunctions
    split_ifs with h
    · rw [ih, List.forall_mem_cons]
      exact (and_iff_right h).symm
    · exact iff_of_false nofun fun hn => h (hn name List.mem_cons_self)

/-- Linking changes nothing but what is linked. -/
theorem linkFunctions_keeps (names : List String) (g : UsbGadget) :
    ∃ l, (linkFunctions A names g).1 = { g with linked := l } := by
  induction names generalizing g with
  | nil => exact ⟨g.linked, rfl⟩
  | cons name names ih =>
    unfold linkFunctions
    split_ifs
    · obtain ⟨l, hl⟩ := ih { g with linked := g.linked ++ [name] }
      exact ⟨l, hl⟩
    · exact ⟨g.linked, rfl⟩

/-- Linking a composition changes nothing but what is linked. -/
theorem linkComposition_keeps (functions : Functions) (g : UsbGadget) :
    ∃ l, (linkComposition A functions g).1 = { g with linked := l } := by
  obtain ⟨l₁, h₁⟩ := linkFunctions_keeps A (vendorLinks A.setupVendorFunctions functions)
    { g with linked := g.linked ++ A.genericLinked }
  have hncm : ∀ l, ∃ l', (linkFunctions A ["ncm.gs9"] { g with linked := l }).1 =
      { g with linked := l' } := fun l => linkFunctions_keeps A _ { g with linked := l }
  unfold linkComposition
  dsimp only
  generalize linkFunctions A (vendorLinks A.setupVendorFunctions functions)
    { g with linked := g.linked ++ A.genericLinked } = r at h₁ ⊢
  obtain ⟨g₁, vendor⟩ := r
  obtain rfl : g₁ = { g with linked := l₁ } := h₁
  split_ifs
  all_goals first
    | exact ⟨_, rfl⟩
    | exact hncm _

theorem linkComposition_calls (functions : Functions) (g : UsbGadget) :
    (linkComposition A functions g).1.calls = g.calls := by
  obtain ⟨l, hl⟩ := linkComposition_keeps A functions g
  rw [hl]

/-- Setting up gets past the linking exactly when every step of it succeeds. -/
theorem linkComposition_snd (functions : Functions) (g : UsbGadget) (ffs : Bool) :
    (linkComposition A functions g).2 = some ffs ↔
      Links A functions ∧ ffs = (A.genericFfs || decide (Has functions GadgetFunction.adb)) := by
  unfold linkComposition
  by_cases hg : A.addGenericAndroidFunctions = .success
  swap
  · simp only [hg, ne_eq, not_false_eq_true, if_true, reduceCtorEq, false_iff]
    exact fun h => hg h.1.generic
  simp only [hg, ne_eq, not_true_eq_false, if_false]
  have hvendor := linkFunctions_snd A (vendorLinks A.setupVendorFunctions functions)
    { g with linked := g.linked ++ A.genericLinked }
  cases hv : (linkFunctions A (vendorLinks A.setupVendorFunctions functions)
      { g with linked := g.linked ++ A.genericLinked }).2 with
  | false =>
    simp only [Bool.not_false, if_true, reduceCtorEq, false_iff]
    intro h
    rw [hvendor.2 h.1.vendor] at hv
    cases hv
  | true =>
    have hvendor' := hvendor.1 hv
    simp only [Bool.not_true, Bool.false_eq_true, if_false]
    by_cases hadb : Has functions GadgetFunction.adb → A.addAdb = .success
    · have hstatus : ∀ g' : UsbGadget, (if Has functions GadgetFunction.adb then
          (({ g' with linked := g'.linked ++ A.adbLinked } : UsbGadget), A.addAdb)
          else (g', .success)).2 = .success := by
        intro g'
        split_ifs with h
        · exact hadb h
        · rfl
      simp only [hstatus, not_true_eq_false, if_false]
      by_cases hncm : Has functions GadgetFunction.ncm
      · have hlink := linkFunctions_snd A ["ncm.gs9"]
        simp only [List.mem_singleton, forall_eq] at hlink
        simp only [if_pos hncm]
        by_cases hl : A.linkFunction "ncm.gs9" = true
        · simp only [(hlink _).2 hl, Bool.not_true, Bool.false_eq_true, if_false,
            Option.some.injEq]
          have hlinks : Links A functions := ⟨hg, hvendor', hadb, fun _ => hl⟩
          exact ⟨fun h => ⟨hlinks, h.symm⟩, fun h => h.2.symm⟩
        · simp only [Bool.eq_false_iff.2 ((hlink _).not.2 hl), Bool.not_false, if_true,
            reduceCtorEq, false_iff]
          exact fun h => hl (h.1.ncm hncm)
      · simp only [if_neg hncm, Bool.not_true, Bool.false_eq_true, if_false, Option.some.injEq]
        have hlinks : Links A functions := ⟨hg, hvendor', hadb, fun h => absurd h hncm⟩
        exact ⟨fun h => ⟨hlinks, h.symm⟩, fun h => h.2.symm⟩
    · have hadb' := hadb
      push Not at hadb'
      simp only [if_pos hadb'.1, hadb'.2, not_false_eq_true, if_true, reduceCtorEq, false_iff]
      exact fun h => hadb h.1.adb

/-! ### What is called back -/

/-- The composition has functions that wait for user space. -/
def Ffs (functions : Functions) : Prop :=
  A.genericFfs = true ∨ Has functions GadgetFunction.adb

/-- With a callback that answers, setting up fails without a word, or calls back once and returns
SUCCESS. -/
theorem setupFunctions_answering (functions : Functions) (timeout in_transactionId : ℤ)
    (g : UsbGadget) :
    let r := setupFunctions A.answering functions timeout in_transactionId g
    (r.2 = .error ∧ r.1.calls = g.calls ∧ ¬ (Links A.answering functions ∧ Ffs A functions)) ∨
    ∃ status, r.2 = .success ∧ r.1.calls = g.calls ++ [⟨functions, status, in_transactionId⟩] ∧
      Links A.answering functions ∧
      (status = .success ↔ ¬ (Ffs A functions ∧ A.waitForPullUp timeout = false)) := by
  intro r
  have hcalls := linkComposition_calls A.answering functions g
  have hsnd := linkComposition_snd A.answering functions g
  cases hl : linkComposition A.answering functions g with
  | mk g₁ ffs =>
    rw [hl] at hcalls hsnd
    have hr : r = setupFunctions A.answering functions timeout in_transactionId g := rfl
    rw [setupFunctions, hl] at hr
    cases ffs with
    | none =>
      -- a link fails
      refine .inl ⟨by rw [hr], by rw [hr]; exact hcalls, fun ⟨hlinks, _⟩ => ?_⟩
      exact nomatch (hsnd _).2 ⟨hlinks, rfl⟩
    | some ffs =>
      obtain ⟨hlinks, hffs⟩ := (hsnd ffs).1 rfl
      have hffs : ffs = true ↔ Ffs A functions := by
        rw [hffs, Bool.or_eq_true, decide_eq_true_eq]; rfl
      cases ffs with
      | false =>
        have hno : ¬ Ffs A functions := fun h => nomatch hffs.2 h
        simp only at hr
        cases hp : A.pullUp with
        | false =>
          have hp' : A.answering.pullUp = false := hp
          simp only [hp', Bool.not_false, if_true] at hr
          exact .inl ⟨by rw [hr], by rw [hr]; exact hcalls, fun h => hno h.2⟩
        | true =>
          have hp' : A.answering.pullUp = true := hp
          simp only [hp', Bool.not_true, Bool.false_eq_true, if_false] at hr
          refine .inr ⟨.success, by rw [hr], ?_, hlinks, iff_of_true rfl fun h => hno h.1⟩
          rw [hr, (onlyFiles_updateSdpEnumTimeout ..).calls, ← hcalls]
          rfl
      | true =>
        have hyes : Ffs A functions := hffs.1 rfl
        refine .inr ⟨if A.waitForPullUp timeout then .success else .error, by rw [hr]; rfl, ?_,
          hlinks, ?_⟩
        · rw [hr, ← hcalls]
          rfl
        · cases hw : A.waitForPullUp timeout <;> simp [hyes]

/-! ### The two results -/

theorem timesOut_answering (functions : Functions) (timeout : ℤ) :
    TimesOut A.answering functions timeout ↔ TimesOut A functions timeout := by
  constructor
  · rintro ⟨hn, ht, hv, ⟨h₁, h₂, h₃, h₄⟩, hf, hw⟩
    exact ⟨hn, ht, hv, ⟨h₁, h₂, h₃, h₄⟩, hf, hw⟩
  · rintro ⟨hn, ht, hv, ⟨h₁, h₂, h₃, h₄⟩, hf, hw⟩
    exact ⟨hn, ht, hv, ⟨h₁, h₂, h₃, h₄⟩, hf, hw⟩

theorem errorExit_answering (functions : Functions) (in_transactionId : ℤ) (status : Status)
    (g : UsbGadget) :
    (errorExit A.answering functions in_transactionId status g).1.calls =
        g.calls ++ [⟨functions, status, in_transactionId⟩] ∧
      (errorExit A.answering functions in_transactionId status g).2 ≠ .ok :=
  ⟨rfl, nofun⟩

theorem tearDownGadget_calls (g : UsbGadget) : (tearDownGadget A g).1.calls = g.calls := by
  unfold tearDownGadget
  split_ifs <;> rfl

theorem tearDownGadget_snd (g : UsbGadget) :
    (tearDownGadget A g).2 = if A.resetGadget = .success then .success else .error := by
  unfold tearDownGadget
  by_cases h : A.resetGadget = .success <;> simp [h]

/-- The state in which `tearDownGadget` is called. -/
def beforeTearDown (functions : Functions) (g : UsbGadget) : UsbGadget :=
  let g := { g with mCurrentUsbFunctions := functions, mCurrentUsbFunctionsApplied := false,
                    calls := [] }
  let g := (getI2cClientPath A g).1
  if g.mGadgetIrqPath = "" then { g with mGadgetIrqPath := A.irqPath.getD "" } else g

theorem beforeTearDown_calls (functions : Functions) (g : UsbGadget) :
    (beforeTearDown A functions g).calls = [] := by
  simp only [beforeTearDown]
  split_ifs <;> exact (onlyFiles_getI2cClientPath A _).calls

theorem setCurrentUsbFunctions_of_failed (h : A.resetGadget ≠ .success) (functions : Functions)
    (timeout in_transactionId : ℤ) (g : UsbGadget) :
    setCurrentUsbFunctions A functions timeout in_transactionId g =
      errorExit A functions in_transactionId .error
        (tearDownGadget A (beforeTearDown A functions g)).1 := by
  have hsnd := tearDownGadget_snd A (beforeTearDown A functions g)
  rw [if_neg h] at hsnd
  cases ht : tearDownGadget A (beforeTearDown A functions g) with
  | mk g₁ status =>
    rw [ht] at hsnd
    subst hsnd
    have ht' := ht
    simp only [beforeTearDown] at ht'
    simp only [setCurrentUsbFunctions, ht']

/-- The path of the i2c client does not depend on what is to be set. -/
theorem getI2cClientPath_entered (functions : Functions) (g : UsbGadget) :
    (getI2cClientPath A { g with
      mCurrentUsbFunctions := functions, mCurrentUsbFunctionsApplied := false, calls := [] }).2 =
      (getI2cClientPath A g).2 := by
  unfold getI2cClientPath
  split_ifs <;> rfl

theorem setCurrentUsbFunctions_of_tornDown (h : A.resetGadget = .success) (functions : Functions)
    (timeout in_transactionId : ℤ) (g : UsbGadget) :
    let g₁ := (tearDownGadget A (beforeTearDown A functions g)).1
    setCurrentUsbFunctions A functions timeout in_transactionId g =
      if functions = GadgetFunction.none then
        match A.callback with
        | none => (g₁, noCallback)
        | some transaction =>
            ((setCurrentUsbFunctionsCb transaction ⟨functions, .success, in_transactionId⟩ g₁).1,
              errorWhileCalling)
      else
        if validateAndSetVidPid A functions ≠ .success then
          errorExit A functions in_transactionId (validateAndSetVidPid A functions) g₁
        else
          match setupFunctions A functions timeout in_transactionId g₁ with
          | (g₂, .success) =>
              (setAccessoryLimit A functions (getI2cClientPath A g).2
                (setIrqAffinity A functions g₂), .ok)
          | (g₂, status) => errorExit A functions in_transactionId status g₂ := by
  have hsnd := tearDownGadget_snd A (beforeTearDown A functions g)
  rw [if_pos h] at hsnd
  cases ht : tearDownGadget A (beforeTearDown A functions g) with
  | mk g₁ status =>
    rw [ht] at hsnd
    subst hsnd
    have ht' := ht
    simp only [beforeTearDown] at ht'
    simp only [setCurrentUsbFunctions, ht', getI2cClientPath_entered, -eq_self]
    rfl

/-- What a call leaves behind and returns agrees. -/
def AgreeIn (functions : Functions) (in_transactionId : ℤ) (r : UsbGadget × ScopedAStatus) : Prop :=
  ∃ status, r.1.calls = [⟨functions, status, in_transactionId⟩] ∧ (r.2 = .ok ↔ status = .success)

/-- An exit through an error agrees. -/
theorem agreeIn_errorExit (functions : Functions) (in_transactionId : ℤ) (status : Status)
    (hstatus : status ≠ .success) {g : UsbGadget} (hg : g.calls = []) :
    AgreeIn functions in_transactionId
      (errorExit A.answering functions in_transactionId status g) := by
  obtain ⟨hcalls, hret⟩ := errorExit_answering A functions in_transactionId status g
  rw [hg] at hcalls
  exact ⟨status, hcalls, iff_of_false hret hstatus⟩

/-- Clearing the functions calls back with SUCCESS and returns an error. -/
theorem not_agreeIn_clear (functions : Functions) (in_transactionId : ℤ)
    (transaction : ℕ → Bool) {g : UsbGadget} (hg : g.calls = []) :
    ¬ AgreeIn functions in_transactionId
      ((setCurrentUsbFunctionsCb transaction ⟨functions, .success, in_transactionId⟩ g).1,
        errorWhileCalling) := by
  rintro ⟨status, hcalls, hret⟩
  have hcalls : g.calls ++ [⟨functions, .success, in_transactionId⟩] =
    [⟨functions, status, in_transactionId⟩] := hcalls
  rw [hg] at hcalls
  have hstatus : Status.success = status := by simpa using hcalls
  exact nomatch hret.2 hstatus.symm

/-- From the set-up on, the results agree unless the ffs functions are waited for in vain. -/
theorem agreeIn_setUp (functions : Functions) (timeout in_transactionId : ℤ) (i2cPath : String)
    {g : UsbGadget} (hg : g.calls = []) :
    AgreeIn functions in_transactionId
        (match setupFunctions A.answering functions timeout in_transactionId g with
        | (g, .success) => (setAccessoryLimit A.answering functions i2cPath
            (setIrqAffinity A.answering functions g), .ok)
        | (g, status) => errorExit A.answering functions in_transactionId status g) ↔
      ¬ (Links A.answering functions ∧ Ffs A functions ∧ A.waitForPullUp timeout = false) := by
  have hsetup := setupFunctions_answering A functions timeout in_transactionId g
  cases hs : setupFunctions A.answering functions timeout in_transactionId g with
  | mk g₂ status =>
    rw [hs] at hsetup
    rcases hsetup with ⟨hst, hcalls, hno⟩ | ⟨called, hst, hcalls, hlinks, hiff⟩
    · -- a step of the set-up fails
      obtain rfl : status = .error := hst
      have hg₂ : g₂.calls = [] := hcalls.trans hg
      exact iff_of_true (agreeIn_errorExit A functions in_transactionId .error nofun hg₂)
        fun hto => hno ⟨hto.1, hto.2.1⟩
    · obtain rfl : status = .success := hst
      have hcalls : g₂.calls = g.calls ++ [⟨functions, called, in_transactionId⟩] := hcalls
      rw [hg, List.nil_append] at hcalls
      have hout : (setAccessoryLimit A.answering functions i2cPath
          (setIrqAffinity A.answering functions g₂)).calls = g₂.calls :=
        ((onlyFiles_setIrqAffinity ..).trans (onlyFiles_setAccessoryLimit ..)).calls
      rw [and_iff_right hlinks, ← hiff]
      constructor
      · rintro ⟨status, hcalls', hret⟩
        rw [hout, hcalls] at hcalls'
        have hstatus : called = status := by simpa using hcalls'
        exact hstatus.trans (hret.1 rfl)
      · intro hcalled
        exact ⟨called, hout.trans hcalls, iff_of_true rfl hcalled⟩

/-- **The two results of a call agree** if and only if it does not clear the functions, and does
not wait in vain for the ffs functions. -/
theorem agree_iff (functions : Functions) (timeout in_transactionId : ℤ) (g : UsbGadget) :
    Agree A.answering functions timeout in_transactionId g ↔
      ¬ Clears A functions ∧ ¬ TimesOut A functions timeout := by
  rw [← timesOut_answering]
  change AgreeIn functions in_transactionId
    (setCurrentUsbFunctions A.answering functions timeout in_transactionId g) ↔ _
  have hg₁ := tearDownGadget_calls A.answering (beforeTearDown A.answering functions g)
  rw [beforeTearDown_calls] at hg₁
  by_cases ht : A.resetGadget = .success
  swap
  · -- the tear-down fails
    rw [setCurrentUsbFunctions_of_failed A.answering ht functions timeout in_transactionId g]
    exact iff_of_true (agreeIn_errorExit A functions in_transactionId .error nofun hg₁)
      ⟨fun hc => ht hc.tornDown, fun hto => ht hto.tornDown⟩
  rw [setCurrentUsbFunctions_of_tornDown A.answering ht functions timeout in_transactionId g]
  by_cases hn : functions = GadgetFunction.none
  · -- nothing to set up: SUCCESS is called back, and an error returned
    rw [if_pos hn]
    exact iff_of_false (not_agreeIn_clear functions in_transactionId _ hg₁) fun h => h.1 ⟨hn, ht⟩
  rw [if_neg hn, and_iff_right fun hc : Clears A functions => hn hc.cleared]
  by_cases hv : validateAndSetVidPid A.answering functions = .success
  swap
  · -- the composition is not supported
    rw [if_pos hv]
    exact iff_of_true (agreeIn_errorExit A functions in_transactionId _ hv hg₁)
      fun hto => hv hto.valid
  rw [if_neg (not_not_intro hv), agreeIn_setUp A functions timeout in_transactionId _ hg₁]
  exact not_congr ⟨fun h => ⟨hn, ht, hv, h.1, h.2.1, h.2.2⟩,
    fun hto => ⟨hto.links, hto.ffs, hto.late⟩⟩

/-- The gadget after boot. -/
def booted : UsbGadget where
  mCurrentUsbFunctions := GadgetFunction.none
  mCurrentUsbFunctionsApplied := false
  mGadgetIrqPath := ""
  mI2cClientPath := ""
  monitorRunning := false
  pulledUp := false
  linked := []
  files _ := ""
  calls := []

/-- Clearing the functions calls back with SUCCESS, and returns an error. -/
theorem clear_disagrees : ¬ Agree obliging.answering GadgetFunction.none 0 7 booted := by
  rintro ⟨status, hcalls, hret⟩
  have hstatus : [FunctionsCb.mk GadgetFunction.none .success 7] = [⟨_, status, 7⟩] := hcalls
  have hreturned : errorWhileCalling = .ok := hret.2 (by simpa using hstatus.symm)
  exact nomatch hreturned

end Gadget

end Gs101
