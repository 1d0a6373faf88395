import Gs101.Gadget.Results

/-!
# UsbGadget: compositions with vendor functions

`validateAndSetVidPid` says which compositions there are, and `setupFunctions` links the vendor
functions; each asks for the vendor-function string by itself.

* `named`: the strings that the case of a composition names, with the ids it sets for them;
* `Guarded`: vendor functions are linked only in a composition that names them, and a string that
  is not named is rejected;
* `OnlyLogs`: the cases that log a string they do not name, and go on;
* `guarded_iff`: the strings and compositions that are guarded.
-/

namespace Gs101

namespace Gadget

namespace VendorFunctions

open GadgetFunction (adb accessory mtp midi ptp rndis audioSource uvc ncm)

/-- The functions that `setupFunctions` links for a vendor-function string. -/
def vendorNames : List String := ["acm.gs6", "dm.gs7", "etr_miu.gs11", "acm.uwb0"]

/-- The vendor-function strings that the case of these functions names, each with the VID and the
PID that the case then sets. -/
def named (functions : Functions) : List (String × String × String) :=
  if functions = adb ||| rndis ∨ functions = adb ||| rndis ||| ncm ∨ functions = adb ||| ncm then
    [("dm", "0x04e8", "0x6862")]
  else if functions = adb then
    [("dm", "0x04e8", "0x6862"), ("etr_miu", "0x18d1", "0x4ee2"), ("uwb_acm", "0x18d1", "0x4ee2")]
  else []

/-- The case of these functions names the string. -/
def Names (functions : Functions) (v : String) : Prop := ∃ ids, (v, ids) ∈ named functions

/-- The case of these functions only logs a string that it does not name. -/
def OnlyLogs (functions : Functions) : Prop :=
  functions = accessory ∨ functions = adb ||| accessory ∨ functions = audioSource ∨
    functions = adb ||| audioSource ∨ functions = accessory ||| audioSource ∨
    functions = adb ||| accessory ||| audioSource ∨ functions = ncm ∨ functions = adb ||| ncm

/-- Both helpers read this string, and what libpixelusb links is none of the vendor functions. -/
structure Reads (A : Answers) (v : String) : Prop where
  validate : A.vendorFunctions = v
  setup : A.setupVendorFunctions = v
  generic : ∀ name ∈ vendorNames, name ∉ A.genericLinked
  adb : ∀ name ∈ vendorNames, name ∉ A.adbLinked

/-- Vendor functions are linked only in a composition that names them, and a string that is not
named is rejected. -/
structure Guarded (functions : Functions) (v : String) : Prop where
  linked : ∀ (A : Answers) (g : UsbGadget) (timeout in_transactionId : ℤ), Reads A v →
    validateAndSetVidPid A functions = .success → ∀ name ∈ vendorNames, name ∉ g.linked →
    name ∈ (setupFunctions A functions timeout in_transactionId g).1.linked →
    ∃ ids, (v, ids) ∈ named functions ∧ composition A.uvcEnabled v functions = some ids
  rejected : ¬ Plain v → ¬ Names functions v →
    ∀ (A : Answers) (g : UsbGadget) (timeout in_transactionId : ℤ), Reads A v →
      validateAndSetVidPid A functions = .configurationNotSupported ∧
      (A.resetGadget = .success →
        (setCurrentUsbFunctions A functions timeout in_transactionId g).1.linked = [] ∧
          (setCurrentUsbFunctions A functions timeout in_transactionId g).1.pulledUp = false)

/-! ### The table of compositions -/

variable {functions : Functions} {v : String}

/-- What the case sets for a string that it names. -/
theorem composition_of_named (uvcEnabled : Bool) {ids : String × String}
    (h : (v, ids) ∈ named functions) : composition uvcEnabled v functions = some ids := by
  unfold named at h
  split_ifs at h with h₁ h₂
  · obtain ⟨rfl, rfl⟩ := Prod.mk.inj (List.mem_singleton.1 h)
    rcases h₁ with rfl | rfl | rfl <;> rfl
  · subst h₂
    simp only [List.mem_cons, Prod.mk.injEq, List.not_mem_nil, or_false] at h
    rcases h with ⟨rfl, rfl, rfl⟩ | ⟨rfl, rfl, rfl⟩ | ⟨rfl, rfl, rfl⟩ <;> rfl
  · cases h

theorem strict_of_not_plain (hv : ¬ Plain v) (vid pid : String) : strict v vid pid = none :=
  if_neg hv

theorem ifUvc_of_not_plain (hv : ¬ Plain v) (uvcEnabled : Bool) (vid pid : String) :
    ifUvc uvcEnabled v vid pid = none := if_pos hv

theorem names_iff : Names functions v ↔
    ((functions = adb ||| rndis ∨ functions = adb ||| rndis ||| ncm ∨ functions = adb ||| ncm) ∧
        v = "dm") ∨
      (functions = adb ∧ (v = "dm" ∨ v = "etr_miu" ∨ v = "uwb_acm")) := by
  unfold Names named
  split_ifs with h₁ h₂
  · have hne : functions ≠ adb := by
      rcases h₁ with rfl | rfl | rfl <;> decide
    simp [h₁, hne]
  · have hrndis : ¬ ((functions = adb ||| rndis ∨ functions = adb ||| rndis ||| ncm ∨
        functions = adb ||| ncm) ∧ v = "dm") := fun h => h₁ h.1
    simp only [List.mem_cons, Prod.mk.injEq, List.not_mem_nil, or_false, hrndis, false_or]
    rw [and_iff_right h₂]
    constructor
    · rintro ⟨ids, ⟨hv, -⟩ | ⟨hv, -⟩ | ⟨hv, -⟩⟩
      · exact .inl hv
      · exact .inr (.inl hv)
      · exact .inr (.inr hv)
    · rintro (hv | hv | hv)
      · exact ⟨_, .inl ⟨hv, rfl⟩⟩
      · exact ⟨_, .inr (.inl ⟨hv, rfl⟩)⟩
      · exact ⟨_, .inr (.inr ⟨hv, rfl⟩)⟩
  · simp [h₁, h₂]

/-- The cases that only log set ids whatever the string is. -/
theorem composition_of_onlyLogs (uvcEnabled : Bool) (h : OnlyLogs functions) (v : String) :
    composition uvcEnabled v functions ≠ none := by
  rcases h with rfl | rfl | rfl | rfl | rfl | rfl | rfl | rfl
  case inr.inr.inr.inr.inr.inr.inr =>
    have hncm : composition uvcEnabled v (adb ||| ncm) =
        if v = "dm" then some ("0x04e8", "0x6862") else lax v "0x18d1" "0x4eec" := rfl
    rw [hncm]
    split_ifs <;> nofun
  all_goals exact fun h => nomatch h

/-- The other cases reject a string that they do not name. -/
theorem composition_eq_none (uvcEnabled : Bool) (hv : ¬ Plain v) (hn : ¬ Names functions v)
    (hl : ¬ OnlyLogs functions) : composition uvcEnabled v functions = none := by
  rw [names_iff] at hn
  unfold OnlyLogs at hl
  push Not at hn hl
  obtain ⟨h₁, h₂, h₃, h₄, h₅, h₆, h₇, h₈⟩ := hl
  obtain ⟨hdm, hadb⟩ := hn
  -- in the two rows that name strings, this is none of them
  have hrndisRow : ∀ ids : String × String,
      (if functions = adb ||| rndis ∨ functions = adb ||| rndis ||| ncm then
        if v = "dm" then some ids else none else none) = none := by
    intro ids
    split_ifs with hr hv₁
    · exact absurd hv₁ (hdm (hr.elim .inl fun h => .inr (.inl h)))
    · rfl
    · rfl
  have hadbRow : ∀ ids₁ ids₂ ids₃ : String × String,
      (if functions = adb then if v = "dm" then some ids₁ else if v = "etr_miu" then some ids₂
        else if v = "uwb_acm" then some ids₃ else none else none) = none := by
    intro ids₁ ids₂ ids₃
    by_cases ha : functions = adb
    · obtain ⟨hv₁, hv₂, hv₃⟩ := hadb ha
      rw [if_pos ha, if_neg hv₁, if_neg hv₂, if_neg hv₃]
    · rw [if_neg ha]
  simp only [composition, strict_of_not_plain hv, ifUvc_of_not_plain hv, if_neg h₁, if_neg h₂,
    if_neg h₃, if_neg h₄, if_neg h₅, if_neg h₆, if_neg h₇, if_neg h₈, hrndisRow, hadbRow, ite_self]

/-! ### What is linked -/

variable {A : Answers}

/-- What holds of these names, and of all that is linked before, holds of all that is linked
afterwards. -/
theorem linkFunctions_forall {P : String → Prop} {names : List String} {g : UsbGadget}
    (hg : ∀ n ∈ g.linked, P n) (hnames : ∀ n ∈ names, P n) :
    ∀ n ∈ (linkFunctions A names g).1.linked, P n := by
  induction names generalizing g with
  | nil => exact hg
  | cons name names ih =>
    rw [List.forall_mem_cons] at hnames
    unfold linkFunctions
    split_ifs
    · refine ih (List.forall_mem_append.2 ⟨hg, ?_⟩) hnames.2
      exact List.forall_mem_singleton.2 hnames.1
    · exact hg

/-- Linked are the functions of libpixelusb, those for the vendor-function string, and ncm. -/
theorem linkComposition_forall {P : String → Prop} {g : UsbGadget} (hg : ∀ n ∈ g.linked, P n)
    (hgeneric : ∀ n ∈ A.genericLinked, P n)
    (hvendor : ∀ n ∈ vendorLinks A.setupVendorFunctions functions, P n)
    (hadb : ∀ n ∈ A.adbLinked, P n) (hncm : P "ncm.gs9") :
    ∀ n ∈ (linkComposition A functions g).1.linked, P n := by
  have hgeneric' : ∀ n ∈ g.linked ++ A.genericLinked, P n :=
    List.forall_mem_append.2 ⟨hg, hgeneric⟩
  have hlinked : ∀ n ∈ (linkFunctions A (vendorLinks A.setupVendorFunctions functions)
      { g with linked := g.linked ++ A.genericLinked }).1.linked, P n :=
    linkFunctions_forall hgeneric' hvendor
  unfold linkComposition
  dsimp only
  generalize linkFunctions A (vendorLinks A.setupVendorFunctions functions)
    { g with linked := g.linked ++ A.genericLinked } = r at hlinked ⊢
  obtain ⟨g₁, vendor⟩ := r
  have hadb' : ∀ n ∈ g₁.linked ++ A.adbLinked, P n := List.forall_mem_append.2 ⟨hlinked, hadb⟩
  have hncm' : ∀ n ∈ ["ncm.gs9"], P n := List.forall_mem_singleton.2 hncm
  split_ifs
  · exact hgeneric'
  all_goals first
    | exact hlinked
    | exact hadb'
    | exact linkFunctions_forall hadb' hncm'
    | exact linkFunctions_forall hlinked hncm'

/-- A vendor function that is linked is one for the string. -/
theorem mem_vendorLinks (hA : Reads A v) {name : String} (hname : name ∈ vendorNames)
    {g : UsbGadget} (hg : name ∉ g.linked)
    (h : name ∈ (linkComposition A functions g).1.linked) : name ∈ vendorLinks v functions := by
  refine linkComposition_forall (P := fun n => n = name → name ∈ vendorLinks v functions)
    ?_ ?_ ?_ ?_ ?_ name h rfl
  · rintro n hn rfl
    exact absurd hn hg
  · rintro n hn rfl
    exact absurd hn (hA.generic n hname)
  · rintro n hn rfl
    exact hA.setup ▸ hn
  · rintro n hn rfl
    exact absurd hn (hA.adb n hname)
  · rintro rfl
    exact absurd hname (by decide)

/-- Pulling up and calling back link nothing. -/
theorem linked_setupFunctions (timeout in_transactionId : ℤ) (g : UsbGadget) :
    (setupFunctions A functions timeout in_transactionId g).1.linked =
      (linkComposition A functions g).1.linked := by
  have hsdp : ∀ g', (updateSdpEnumTimeout A g').linked = g'.linked := by
    intro g'
    obtain ⟨files, path, hg'⟩ := onlyFiles_updateSdpEnumTimeout A g'
    rw [hg']
  unfold setupFunctions
  cases linkComposition A functions g with
  | mk g₁ ffs =>
    match ffs with
    | none => rfl
    | some true =>
      cases A.callback with
      | none => rfl
      | some transaction => rfl
    | some false =>
      cases A.pullUp with
      | false => rfl
      | true =>
        simp only [Bool.not_true, Bool.false_eq_true, if_false, hsdp]
        cases A.callback with
        | none => rfl
        | some transaction => rfl

/-- Nothing is linked for a string that no case names. -/
theorem eq_nil_of_plain (hv : Plain v) : vendorLinks v functions = [] := by
  rcases hv with rfl | rfl <;> rfl

/-! ### The guard -/

theorem composition_ne_none (hvalid : validateAndSetVidPid A functions = .success) :
    composition A.uvcEnabled A.vendorFunctions functions ≠ none := by
  intro h
  rw [validateAndSetVidPid, h] at hvalid
  cases hvalid

/-- A rejected composition leaves the gadget torn down. -/
theorem rejected_of_composition_eq_none (h : composition A.uvcEnabled A.vendorFunctions functions =
      none) (g : UsbGadget) (timeout in_transactionId : ℤ) :
    validateAndSetVidPid A functions = .configurationNotSupported ∧
      (A.resetGadget = .success →
        (setCurrentUsbFunctions A functions timeout in_transactionId g).1.linked = [] ∧
          (setCurrentUsbFunctions A functions timeout in_transactionId g).1.pulledUp = false) := by
  have hvalid : validateAndSetVidPid A functions = .configurationNotSupported := by
    rw [validateAndSetVidPid, h]
  refine ⟨hvalid, fun ht => ?_⟩
  have hdown : (tearDownGadget A (beforeTearDown A functions g)).1.linked = [] ∧
      (tearDownGadget A (beforeTearDown A functions g)).1.pulledUp = false := by
    rw [tearDownGadget, if_neg (not_not_intro ht)]
    exact ⟨rfl, rfl⟩
  rw [setCurrentUsbFunctions_of_tornDown A ht, hvalid]
  generalize (tearDownGadget A (beforeTearDown A functions g)).1 = g₁ at hdown ⊢
  split_ifs with hn hne
  · cases A.callback with
    | none => exact hdown
    | some transaction => exact hdown
  · unfold errorExit
    cases A.callback with
    | none => exact hdown
    | some transaction => exact hdown
  · exact absurd (by decide) hne

theorem reads_obliging (v : String) :
    Reads { obliging with vendorFunctions := v, setupVendorFunctions := v } v := by
  refine ⟨rfl, rfl, fun _ _ => List.not_mem_nil, ?_⟩
  show ∀ name ∈ vendorNames, name ∉ ["ffs.adb"]
  decide

/-- **No vendor function is linked in a composition that does not name it**, and no string passes
that its case does not name, if and only if the case does more than log such a string, or the
string is plain or named. -/
theorem guarded_iff (functions : Functions) (v : String) :
    Guarded functions v ↔ ¬ OnlyLogs functions ∨ Plain v ∨ Names functions v := by
  constructor
  · intro h
    by_contra! hno
    obtain ⟨hlogs, hv, hn⟩ := hno
    have hrejected := (h.rejected hv hn _ booted 0 0 (reads_obliging v)).1
    unfold validateAndSetVidPid at hrejected
    have hsome := composition_of_onlyLogs false hlogs v
    cases hc : composition false v functions with
    | none => exact hsome hc
    | some ids =>
      simp only [obliging, hc] at hrejected
      cases hrejected
  · intro hcond
    constructor
    · intro A g timeout in_transactionId hA hvalid name hname hg hm
      rw [linked_setupFunctions] at hm
      have hlinks := mem_vendorLinks hA hname hg hm
      have hv : ¬ Plain v := fun hv => by
        rw [eq_nil_of_plain hv] at hlinks
        cases hlinks
      have hn : Names functions v := by
        by_contra hn
        have hlogs : ¬ OnlyLogs functions :=
          hcond.resolve_right (not_or_intro hv hn)
        refine composition_ne_none hvalid ?_
        rw [hA.validate]
        exact composition_eq_none _ hv hn hlogs
      obtain ⟨ids, hids⟩ := hn
      exact ⟨ids, hids, composition_of_named _ hids⟩
    · intro hv hn A g timeout in_transactionId hA
      have hlogs : ¬ OnlyLogs functions := hcond.resolve_right (not_or_intro hv hn)
      refine rejected_of_composition_eq_none ?_ g timeout in_transactionId
      rw [hA.validate]
      exact composition_eq_none _ hv hn hlogs

/-- The accessory with the debug functions of the radio is logged as invalid, and set up. -/
theorem accessory_not_guarded : ¬ Guarded accessory "dm" := by
  intro h
  obtain ⟨ids, hids, -⟩ := h.linked _ booted 0 0 (reads_obliging "dm") rfl "dm.gs7" (by decide)
    List.not_mem_nil (by decide)
  exact absurd hids List.not_mem_nil

end VendorFunctions

end Gadget

end Gs101
