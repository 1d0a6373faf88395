import Gs101.Gadget.Applied
import Gs101.Gadget.Results

/-!
# UsbGadget: the statements compute the call

A call that runs undisturbed, statement by statement, ends in the state that
`setCurrentUsbFunctions` computes at once: `call_leads`.  What libpixelusb links in the call is
then what `PixelUsb` says (`Faithful`).
-/

namespace Gs101

namespace Gadget

namespace Applied

open Runs (Leads)

/-- The two states have the same fields, and the monitor runs in both or in neither. -/
structure Shows (s : Applied) (g : UsbGadget) : Prop where
  functions : s.mCurrentUsbFunctions = g.mCurrentUsbFunctions
  applied : s.mCurrentUsbFunctionsApplied = g.mCurrentUsbFunctionsApplied
  pulledUp : s.pulledUp = g.pulledUp
  linked : s.linked = g.linked
  monitor : s.monitor.isSome = g.monitorRunning

/-- The answers of libpixelusb in a call that sets `functions`. -/
structure Faithful (L : PixelUsb) (A : Answers) (functions : Functions) : Prop where
  generic : A.addGenericAndroidFunctions = .success → A.genericLinked = L.generic functions
  genericFfs : A.genericFfs = L.genericFfs functions
  adb : A.addAdb = .success → A.adbLinked = L.adb

/-- The statements lead to this one, in a state that shows `g`. -/
def Gets (L : PixelUsb) (s : Applied) (next : Statement) (g : UsbGadget) : Prop :=
  Leads (step L) .statement s fun s' => s'.next = next ∧ Shows s' g

variable {L : PixelUsb} {A : Answers} {f : Functions} {s : Applied} {g : UsbGadget}

theorem Shows.onlyFiles {g' : UsbGadget} (h : Shows s g) (hg : OnlyFiles g g') : Shows s g' := by
  obtain ⟨files, path, rfl⟩ := hg
  exact ⟨h.functions, h.applied, h.pulledUp, h.linked, h.monitor⟩

theorem Shows.called (h : Shows s g) (transaction : ℕ → Bool) (cb : FunctionsCb) :
    Shows s (setCurrentUsbFunctionsCb transaction cb g).1 :=
  ⟨h.functions, h.applied, h.pulledUp, h.linked, h.monitor⟩

theorem Shows.errorExit (h : Shows s g) (in_transactionId : ℤ) (status : Status) :
    Shows s (errorExit A f in_transactionId status g).1 := by
  unfold Gadget.errorExit
  cases A.callback with
  | none => exact h
  | some transaction => exact h.called transaction _

theorem Gets.trans {next next' : Statement} {g' : UsbGadget} (h : Gets L s next g)
    (hs : ∀ s', s'.next = next → Shows s' g → Gets L s' next' g') : Gets L s next' g' :=
  Leads.trans h fun s' hs' => hs s' hs'.1 hs'.2

theorem Gets.of_statement {s' : Applied} {next : Statement} (hst : s.statement L = s')
    (h : Gets L s' next g) : Gets L s next g := by
  subst hst
  exact .next h

/-- A statement that only goes on. -/
theorem gets_goto {next : Statement} (hst : s.statement L = s.goto next) (hs : Shows s g) :
    Gets L s next g :=
  .of_statement hst
    (.here ⟨rfl, hs.functions, hs.applied, hs.pulledUp, hs.linked, hs.monitor⟩)

/-- A statement that links. -/
theorem gets_link {names : List String} {next : Statement}
    (hst : s.statement L = { s with linked := s.linked ++ names, next := next }) (hs : Shows s g) :
    Gets L s next { g with linked := g.linked ++ names } :=
  .of_statement hst
    (.here ⟨rfl, hs.functions, hs.applied, hs.pulledUp, congrArg (· ++ names) hs.linked, hs.monitor⟩)

/-- The vendor functions are linked up to the first that fails. -/
theorem linkVendor_gets (names : List String) (hn : s.next = .linkVendor f A names)
    (hs : Shows s g) :
    Gets L s (if (linkFunctions A names g).2 then .linkVendor f A [] else .idle)
      (linkFunctions A names g).1 := by
  induction names generalizing s g with
  | nil => exact .here ⟨hn, hs⟩
  | cons name names ih =>
    cases hl : A.linkFunction name with
    | true =>
      have hst : s.statement L =
          { s with linked := s.linked ++ [name], next := .linkVendor f A names } := by
        simp only [statement, hn, link, hl, if_true]
      simp only [linkFunctions, hl, if_true]
      exact (gets_link hst hs).trans fun s' hn' hs' => ih hn' hs'
    | false =>
      have hst : s.statement L = s.goto .idle := by
        simp only [statement, hn, link, hl, Bool.false_eq_true, if_false]
      simp only [linkFunctions, hl, Bool.false_eq_true, if_false]
      exact gets_goto hst hs

theorem addAdb_gets (hF : Faithful L A f) (hn : s.next = .linkVendor f A []) (hs : Shows s g) :
    let r := if Has f GadgetFunction.adb then
      (({ g with linked := g.linked ++ A.adbLinked } : UsbGadget), A.addAdb) else (g, .success)
    Gets L s (if r.2 = .success then .linkNcm f A else .idle) r.1 := by
  by_cases hadb : Has f GadgetFunction.adb
  · have hst : s.statement L = s.goto (.addAdb f A) := by
      simp only [statement, hn, if_pos hadb]
    simp only [if_pos hadb]
    refine (gets_goto hst hs).trans fun s' hn' hs' => ?_
    by_cases hok : A.addAdb = .success
    · rw [if_pos hok, hF.adb hok]
      refine gets_link ?_ hs'
      simp only [statement, hn', hok, link, if_true]
    · rw [if_neg hok]
      refine gets_link ?_ hs'
      simp only [statement, hn', hok, if_false]
  · simp only [if_neg hadb, if_true]
    refine gets_goto ?_ hs
    simp only [statement, hn, if_neg hadb]

/-- The statement after the last link. -/
def afterLinks (f : Functions) (A : Answers) (ffs : Bool) : Statement :=
  if ffs then .startMonitor f A else .pullUp f A

theorem linkNcm_gets (hF : Faithful L A f) (hn : s.next = .linkNcm f A) (hs : Shows s g) :
    let r := if Has f GadgetFunction.ncm then linkFunctions A ["ncm.gs9"] g else (g, true)
    Gets L s (if r.2 then afterLinks f A (A.genericFfs || decide (Has f GadgetFunction.adb))
      else .idle) r.1 := by
  by_cases hncm : Has f GadgetFunction.ncm
  · simp only [if_pos hncm, linkFunctions]
    cases hl : A.linkFunction "ncm.gs9" with
    | true =>
      refine gets_link ?_ hs
      simp only [statement, hn, if_pos hncm, link, hl, if_true, hF.genericFfs, afterLinks]
    | false =>
      refine gets_goto ?_ hs
      simp only [statement, hn, if_pos hncm, link, hl, Bool.false_eq_true, if_false]
  · simp only [if_neg hncm, if_true]
    refine gets_goto ?_ hs
    simp only [statement, hn, if_neg hncm, hF.genericFfs, afterLinks]

/-- The statements that link do what `linkComposition` does. -/
theorem linkComposition_gets (hF : Faithful L A f) (hn : s.next = .addGenericAndroidFunctions f A)
    (hs : Shows s g) :
    Gets L s ((linkComposition A f g).2.elim .idle (afterLinks f A)) (linkComposition A f g).1 := by
  unfold linkComposition
  by_cases hg : A.addGenericAndroidFunctions = .success
  swap
  · simp only [hg, ne_eq, not_false_eq_true, if_true, Option.elim]
    refine gets_link ?_ hs
    simp only [statement, hn, hg, if_false]
  simp only [hg, ne_eq, not_true_eq_false, if_false]
  have hgeneric : s.statement L = { s with
      linked := s.linked ++ A.genericLinked,
      next := .linkVendor f A (vendorLinks A.setupVendorFunctions f) } := by
    simp only [statement, hn, hg, link, if_true, hF.generic hg]
  refine (gets_link hgeneric hs).trans fun s₁ hn₁ hs₁ => ?_
  have hvendor := linkVendor_gets (L := L) _ hn₁ hs₁
  cases hv : linkFunctions A (vendorLinks A.setupVendorFunctions f)
      { g with linked := g.linked ++ A.genericLinked } with
  | mk g₁ vendor =>
    rw [hv] at hvendor
    cases vendor with
    | false => exact hvendor
    | true =>
      refine Gets.trans hvendor fun s₂ hn₂ hs₂ => ?_
      have hadb := addAdb_gets hF hn₂ hs₂
      simp only [Bool.not_true, Bool.false_eq_true, if_false]
      generalize (if Has f GadgetFunction.adb then
        (({ g₁ with linked := g₁.linked ++ A.adbLinked } : UsbGadget), A.addAdb)
        else (g₁, .success)) = r at hadb ⊢
      obtain ⟨g₂, adbStatus⟩ := r
      by_cases hok : adbStatus = .success
      · simp only [hok, if_true, not_true_eq_false, if_false] at hadb ⊢
        refine hadb.trans fun s₃ hn₃ hs₃ => ?_
        have hncm := linkNcm_gets hF hn₃ hs₃
        generalize (if Has f GadgetFunction.ncm then linkFunctions A ["ncm.gs9"] g₂
          else (g₂, true)) = r at hncm ⊢
        obtain ⟨g₃, ncmLinked⟩ := r
        cases ncmLinked <;> exact hncm
      · simp only [hok, if_false, not_false_eq_true, if_true] at hadb ⊢
        exact hadb

/-- From the set-up on, the statements do what `setupFunctions` does. -/
theorem setupFunctions_gets (hF : Faithful L A f) (timeout in_transactionId : ℤ)
    (hn : s.next = .addGenericAndroidFunctions f A) (hs : Shows s g) :
    Gets L s .idle (setupFunctions A f timeout in_transactionId g).1 := by
  have hlinks := linkComposition_gets hF hn hs
  unfold setupFunctions
  cases hl : linkComposition A f g with
  | mk g₁ ffs =>
    rw [hl] at hlinks
    cases ffs with
    | none => exact hlinks
    | some ffs =>
      refine Gets.trans hlinks fun s₁ hn₁ hs₁ => ?_
      cases ffs with
      | false =>
        have hn₁ : s₁.next = .pullUp f A := hn₁
        cases hp : A.pullUp with
        | false =>
          simp only [Bool.not_false, if_true]
          refine gets_goto ?_ hs₁
          simp only [statement, hn₁, hp, Bool.false_eq_true, if_false]
        | true =>
          simp only [Bool.not_true, Bool.false_eq_true, if_false]
          have hpull : s₁.statement L = { s₁ with pulledUp := true, next := .apply f A } := by
            simp only [statement, hn₁, hp, if_true]
          refine .of_statement hpull (.of_statement rfl (.here ⟨rfl, ?_⟩))
          refine Shows.onlyFiles ?_ (onlyFiles_updateSdpEnumTimeout A _)
          have hshows : Shows { s₁ with
              pulledUp := true, mCurrentUsbFunctionsApplied := true, next := .idle }
              { g₁ with pulledUp := true, mCurrentUsbFunctionsApplied := true } :=
            ⟨hs₁.functions, rfl, rfl, hs₁.linked, hs₁.monitor⟩
          cases A.callback with
          | none => exact hshows
          | some transaction => exact hshows.called transaction _
      | true =>
        have hn₁ : s₁.next = .startMonitor f A := hn₁
        have hstart : s₁.statement L =
            { s₁ with monitor := some ⟨false, false⟩, next := .wait f A } := by
          simp only [statement, hn₁]
        refine .of_statement hstart (.of_statement rfl (.here ⟨?_, ?_⟩))
        · rfl
        have hshows : Shows { s₁ with monitor := some ⟨false, false⟩, next := .idle }
            { g₁ with monitorRunning := true } :=
          ⟨hs₁.functions, hs₁.applied, hs₁.pulledUp, hs₁.linked, rfl⟩
        cases A.callback with
        | none => exact hshows
        | some transaction => exact hshows.called transaction _

/-- The call assigns the functions, clears the flag, and is about to tear down. -/
theorem call_gets (hidle : s.next = .idle) (hs : Shows s g) :
    Gets L (s.step L (.call f A)) (.resetGadget f A) (beforeTearDown A f g) := by
  have hcall : s.step L (.call f A) =
      { s with mCurrentUsbFunctions := f, next := .clear f A } := by
    simp only [step, hidle]
  have hclear : Gets L (s.step L (.call f A)) (.resetGadget f A)
      { g with mCurrentUsbFunctions := f, mCurrentUsbFunctionsApplied := false, calls := [] } := by
    rw [hcall]
    refine .of_statement rfl (.here ⟨rfl, rfl, rfl, hs.pulledUp, hs.linked, ?_⟩)
    show (s.monitor.map _).isSome = _
    rw [Option.isSome_map]
    exact hs.monitor
  refine hclear.trans fun s' hn' hs' => .here ⟨hn', ?_⟩
  have hi2c := hs'.onlyFiles (onlyFiles_getI2cClientPath A _)
  simp only [beforeTearDown]
  split_ifs
  · exact ⟨hi2c.functions, hi2c.applied, hi2c.pulledUp, hi2c.linked, hi2c.monitor⟩
  · exact hi2c

/-- **A call that is not disturbed** ends, and in the state that `setCurrentUsbFunctions`
computes. -/
theorem call_leads (hF : Faithful L A f) (timeout in_transactionId : ℤ) (hidle : s.next = .idle)
    (hs : Shows s g) :
    Gets L (s.step L (.call f A)) .idle
      (setCurrentUsbFunctions A f timeout in_transactionId g).1 := by
  refine (call_gets hidle hs).trans fun s₁ hn₁ hs₁ => ?_
  by_cases ht : A.resetGadget = .success
  swap
  · rw [setCurrentUsbFunctions_of_failed A ht]
    have hreset : s₁.statement L =
        { s₁ with pulledUp := A.leftPulledUp, linked := A.leftLinked, next := .idle } := by
      simp only [statement, hn₁, ne_eq, ht, not_false_eq_true, if_true]
    refine .of_statement hreset (.here ⟨rfl, Shows.errorExit ?_ _ _⟩)
    rw [tearDownGadget, if_pos ht]
    exact ⟨hs₁.functions, hs₁.applied, rfl, rfl, hs₁.monitor⟩
  · rw [setCurrentUsbFunctions_of_tornDown A ht f timeout in_transactionId g]
    have hreset : s₁.statement L =
        { s₁ with pulledUp := false, linked := [], next := .resetMonitor f A } := by
      simp only [statement, hn₁, ne_eq, ht, not_true_eq_false, if_false]
    have hdown : ∀ next, Shows
        { s₁ with pulledUp := false, linked := [], monitor := none, next := next }
        (tearDownGadget A (beforeTearDown A f g)).1 := by
      intro next
      rw [tearDownGadget, if_neg (not_not_intro ht)]
      exact ⟨hs₁.functions, hs₁.applied, rfl, rfl, rfl⟩
    by_cases hnone : f = GadgetFunction.none
    · rw [if_pos hnone]
      refine .of_statement hreset (.of_statement rfl (.here ⟨if_pos hnone, ?_⟩))
      cases A.callback with
      | none => exact hdown _
      | some transaction => exact (hdown _).called transaction _
    · rw [if_neg hnone]
      have hmonitor : Gets L s₁ (.validateAndSetVidPid f A)
          (tearDownGadget A (beforeTearDown A f g)).1 :=
        .of_statement hreset (.of_statement rfl (.here ⟨if_neg hnone, hdown _⟩))
      refine hmonitor.trans fun s₂ hn₂ hs₂ => ?_
      by_cases hv : Gadget.validateAndSetVidPid A f = .success
      swap
      · rw [if_pos hv]
        refine gets_goto ?_ (hs₂.errorExit _ _)
        simp only [statement, hn₂, hv, if_false]
      · rw [if_neg (not_not_intro hv)]
        have hvalid : s₂.statement L = s₂.goto (.addGenericAndroidFunctions f A) := by
          simp only [statement, hn₂, hv, if_true]
        refine (gets_goto hvalid hs₂).trans fun s₃ hn₃ hs₃ => ?_
        refine (setupFunctions_gets hF timeout in_transactionId hn₃ hs₃).trans
          fun s₄ hn₄ hs₄ => .here ⟨hn₄, ?_⟩
        generalize setupFunctions A f timeout in_transactionId
          (tearDownGadget A (beforeTearDown A f g)).1 = r at hs₄ ⊢
        obtain ⟨g₄, status⟩ := r
        cases status with
        | success =>
          exact hs₄.onlyFiles
            ((onlyFiles_setIrqAffinity ..).trans (onlyFiles_setAccessoryLimit ..))
        | _ => exact hs₄.errorExit _ _

end Applied

end Gadget

end Gs101
