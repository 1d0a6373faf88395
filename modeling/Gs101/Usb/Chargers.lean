import Gs101.Usb.PortFaults

/-!
# Usb: the reasons why a charger is not compliant

The kernel prints the reasons of a port as a list in brackets.  `queryNonCompliantChargerStatus`
appends a warning for each reason to the status of the port, and takes a port without a power role
for a sink if there is a warning.

* `printed`: the text of a list of reasons;
* `warningOf`: the warning of a reason that is spelled out;
* `IsReason`: one of the five names, or a word that begins with none of them;
* `tokenize_printed`: the words of the text are the reasons;
* `chargerLoop`: the loops of the source, which share one string between the ports, and
  `chargerLoop_eq`: they compute `queryNonCompliantChargerStatus`;
* `query_reads`: each port gets the warnings of its own reasons.
-/

namespace Gs101

namespace Usb

open Fallible

namespace Chargers

/-- The delimiters; the literal ends at its NUL. -/
def delimiters : List Char := ['[', ']', ',', ' ', '\n']

def reasonsNode (portName : String) : String :=
  kTypecPath ++ "/" ++ portName ++ "/" ++ kComplianceWarningsPath

/-- `[r1, r2, ..., rn]` and a newline. -/
def printed (reasons : List String) : String := "[" ++ ", ".intercalate reasons ++ "]\n"

def reasonNames : List String :=
  [kComplianceWarningDebugAccessory, kComplianceWarningBC12, kComplianceWarningMissingRp,
    kComplianceWarningOther, kComplianceWarningInputPowerLimited]

/-- A word that the kernel may print in the list. -/
structure IsReason (word : String) : Prop where
  nonempty : word ≠ ""
  whole : ∀ c ∈ word.toList, c ∉ delimiters ∧ c ≠ '\x00'
  known : word ∈ reasonNames ∨ ∀ name ∈ reasonNames, CText.startsWith word name = false

/-- The warning of a reason, by its full name. -/
def warningOf (S : Setting) (word : String) : Option ComplianceWarning :=
  if word = kComplianceWarningDebugAccessory then some .debugAccessory
  else if word = kComplianceWarningBC12 then some .bc12
  else if word = kComplianceWarningMissingRp then some .missingRp
  else if word = kComplianceWarningOther ∨ word = kComplianceWarningInputPowerLimited then
    if S.enableUsbDataComplianceWarning && S.enableInputPowerLimitedWarning then
      some .inputPowerLimited
    else some .other
  else none

/-- The status of a port with these warnings. -/
def warned (p : PortStatus) (warnings : List ComplianceWarning) : PortStatus :=
  let p := { p with supportsComplianceWarnings := true, complianceWarnings := warnings }
  if warnings ≠ [] ∧ p.currentPowerRole = .none then
    { p with
      currentMode := .ufp
      currentPowerRole := .sink
      currentDataRole := .none
      powerBrickStatus := .connected }
  else p

/-! ### The words of a list -/

variable {S : Setting} {fs : FileSystem} {reasons : List String}

theorem complianceWarning_eq {word : String} (h : IsReason word) :
    complianceWarning S word = warningOf S word := by
  rcases h.known with hname | hother
  · simp only [reasonNames, List.mem_cons, List.not_mem_nil, or_false] at hname
    rcases hname with rfl | rfl | rfl | rfl | rfl <;> rfl
  · have hstarts : ∀ name ∈ reasonNames, word ≠ name := by
      rintro name hname rfl
      have hself : CText.startsWith word word = true :=
        List.isPrefixOf_iff_prefix.2 (List.prefix_refl _)
      rw [hother word hname] at hself
      cases hself
    simp only [reasonNames, List.forall_mem_cons] at hother hstarts
    obtain ⟨h₁, h₂, h₃, h₄, h₅, -⟩ := hother
    obtain ⟨g₁, g₂, g₃, g₄, g₅, -⟩ := hstarts
    simp [complianceWarning, warningOf, h₁, h₂, h₃, h₄, h₅, g₁, g₂, g₃, g₄, g₅]

/-- The words between the brackets. -/
theorem tokenize_intercalate (h : ∀ word ∈ reasons, IsReason word) :
    CText.tokenize (", ".intercalate reasons) delimiters = reasons := by
  induction reasons with
  | nil => exact CText.tokenize_empty delimiters
  | cons word rest ih =>
    obtain ⟨hword, hrest⟩ := List.forall_mem_cons.1 h
    have hone : CText.tokenize word delimiters = [word] :=
      CText.tokenize_word hword.nonempty fun c hc => (hword.whole c hc).1
    cases rest with
    | nil => rwa [String.intercalate_singleton]
    | cons next rest =>
      have htext : ", ".intercalate (word :: next :: rest) = String.ofList
          (word.toList ++ ',' :: ([] ++ ' ' :: (", ".intercalate (next :: rest)).toList)) := by
        have hcomma : ", ".toList = [',', ' '] := rfl
        rw [String.intercalate_cons_cons, ← String.toList_inj]
        simp only [String.toList_append, String.toList_ofList, hcomma, List.append_assoc,
          List.cons_append, List.nil_append]
      rw [htext, CText.tokenize_append_cons (by decide), CText.tokenize_append_cons (by decide),
        String.ofList_toList, String.ofList_toList, hone, ih hrest]
      rfl

theorem intercalate_ne_nul (h : ∀ word ∈ reasons, IsReason word) :
    ∀ c ∈ (", ".intercalate reasons).toList, c ≠ '\x00' := by
  induction reasons with
  | nil => exact fun c hc => absurd hc (by simp)
  | cons word rest ih =>
    obtain ⟨hword, hrest⟩ := List.forall_mem_cons.1 h
    cases rest with
    | nil =>
      rw [String.intercalate_singleton]
      exact fun c hc => (hword.whole c hc).2
    | cons next rest =>
      intro c hc
      rw [String.intercalate_cons_cons, String.toList_append, String.toList_append,
        List.mem_append, List.mem_append] at hc
      rcases hc with (hc | hc) | hc
      · exact (hword.whole c hc).2
      · exact fun he => absurd (he ▸ hc) (by decide)
      · exact ih hrest c hc

theorem tokenize_printed (h : ∀ word ∈ reasons, IsReason word) :
    CText.tokenize (CText.cString (printed reasons).toList) delimiters = reasons := by
  have hnul : ∀ c ∈ (printed reasons).toList, c ≠ '\x00' := by
    intro c hc
    simp only [printed, String.toList_append, List.mem_append] at hc
    rcases hc with (hc | hc) | hc
    · exact fun he => absurd (he ▸ hc) (by decide)
    · exact intercalate_ne_nul h c hc
    · exact fun he => absurd (he ▸ hc) (by decide)
  have htext : printed reasons = String.ofList ([] ++ '[' ::
      ((", ".intercalate reasons).toList ++ ']' :: ([] ++ '\n' :: []))) := by
    have hopen : "[".toList = ['['] := rfl
    have hclose : "]\n".toList = [']', '\n'] := rfl
    rw [printed, ← String.toList_inj]
    simp only [String.toList_append, String.toList_ofList, hopen, hclose, List.cons_append,
      List.nil_append]
  rw [CText.cString_eq hnul, htext]
  -- the brackets and the newline cut off empty pieces
  simp only [CText.tokenize_append_cons (show '[' ∈ delimiters by decide),
    CText.tokenize_append_cons (show ']' ∈ delimiters by decide),
    CText.tokenize_append_cons (show '\n' ∈ delimiters by decide), String.ofList_nil,
    CText.tokenize_empty, String.ofList_toList, tokenize_intercalate h]
  simp

/-! ### One port -/

variable {p : PortStatus}

theorem nonCompliantCharger_of_read {text : String}
    (h : fs.read (reasonsNode p.portName) = some text) :
    nonCompliantCharger S fs p = warned p (p.complianceWarnings ++
      (CText.tokenize (CText.cString text.toList) delimiters).filterMap (complianceWarning S)) := by
  rw [reasonsNode] at h
  simp only [nonCompliantCharger, h]
  rfl

theorem nonCompliantCharger_of_unread (h : fs.read (reasonsNode p.portName) = none) :
    nonCompliantCharger S fs p = { p with supportsComplianceWarnings := true } := by
  rw [reasonsNode] at h
  simp only [nonCompliantCharger, h]

theorem nonCompliantCharger_congr {fs' : FileSystem}
    (h : fs'.read (reasonsNode p.portName) = fs.read (reasonsNode p.portName)) :
    nonCompliantCharger S fs' p = nonCompliantCharger S fs p := by
  cases hread : fs.read (reasonsNode p.portName) with
  | none => rw [nonCompliantCharger_of_unread hread, nonCompliantCharger_of_unread (h.trans hread)]
  | some text => rw [nonCompliantCharger_of_read hread, nonCompliantCharger_of_read (h.trans hread)]

/-! ### The loops -/

/-- The body of the inner loop, on `currentPortStatus[i]`. -/
def pushWarning (S : Setting) (reason : String) (p : PortStatus) : PortStatus :=
  match complianceWarning S reason with
  | some warning => { p with complianceWarnings := p.complianceWarnings ++ [warning] }
  | none => p

/-- The override of the roles. -/
def asSink (p : PortStatus) : PortStatus :=
  { p with
    currentMode := .ufp
    currentPowerRole := .sink
    currentDataRole := .none
    powerBrickStatus := .connected }

/-- The body of the outer loop: `reasons` and the vector afterwards.  `ReadFileToString` empties the
string before it opens the file. -/
def chargerBody (S : Setting) (fs : FileSystem) (i : ℕ) (ps : List PortStatus) :
    Except Fault (String × List PortStatus) := do
  let ps ← setAt ps i fun p => { p with supportsComplianceWarnings := true }
  let p ← getAt ps i
  match fs.read (reasonsNode p.portName) with
  | none => return ("", ps)
  | some reasons => do
      let reasonsList := CText.tokenize (CText.cString reasons.toList) delimiters
      let ps ← reasonsList.foldlM (fun ps reason => setAt ps i (pushWarning S reason)) ps
      let p ← getAt ps i
      if p.complianceWarnings ≠ [] ∧ p.currentPowerRole = .none then
        let ps ← setAt ps i asSink
        return (reasons, ps)
      else return (reasons, ps)

/-- The outer loop, with `n` indices from `i` on still to come. -/
def chargerLoop (S : Setting) (fs : FileSystem) :
    ℕ → ℕ → String → List PortStatus → Except Fault (String × List PortStatus)
  | 0, _, reasons, ps => .ok (reasons, ps)
  | n + 1, i, _, ps => do
      let (reasons, ps) ← chargerBody S fs i ps
      chargerLoop S fs n (i + 1) reasons ps

variable {before after : List PortStatus}

theorem setAt_append (f : PortStatus → PortStatus) :
    setAt (before ++ p :: after) before.length f = .ok (before ++ f p :: after) := by
  have hmodify : (before ++ p :: after).modify before.length f = before ++ f p :: after := by
    induction before with
    | nil => rfl
    | cons b before ih => exact congrArg (b :: ·) ih
  rw [setAt, if_pos (by simp), hmodify]

theorem getAt_append : getAt (before ++ p :: after) before.length = .ok p := by
  simp [getAt]

theorem foldlM_pushWarning (reasons : List String) :
    reasons.foldlM (fun ps reason => setAt ps before.length (pushWarning S reason))
        (before ++ p :: after) =
      .ok (before ++ { p with
        complianceWarnings := p.complianceWarnings ++
          reasons.filterMap (complianceWarning S) } :: after) := by
  induction reasons generalizing p with
  | nil => simp; rfl
  | cons reason rest ih =>
    rw [List.foldlM_cons, setAt_append]
    refine (ih (p := pushWarning S reason p)).trans ?_
    cases hwarning : complianceWarning S reason <;> simp [pushWarning, hwarning]

theorem chargerBody_eq : ∃ reasons, chargerBody S fs before.length (before ++ p :: after) =
    .ok (reasons, before ++ nonCompliantCharger S fs p :: after) := by
  cases hread : fs.read (reasonsNode p.portName) with
  | none =>
    refine ⟨"", ?_⟩
    rw [nonCompliantCharger_of_unread hread, chargerBody, setAt_append, ok_bind, getAt_append,
      ok_bind, hread]
    rfl
  | some text =>
    refine ⟨text, ?_⟩
    rw [nonCompliantCharger_of_read hread, chargerBody, setAt_append, ok_bind, getAt_append,
      ok_bind, hread]
    dsimp only
    rw [foldlM_pushWarning, ok_bind, getAt_append, ok_bind, warned]
    split_ifs with h
    · rw [setAt_append, ok_bind]
      rfl
    · rfl

/-- The loops compute `queryNonCompliantChargerStatus`, whatever the shared string holds. -/
theorem chargerLoop_eq (ps : List PortStatus) (reasons : String) :
    ∃ reasons', chargerLoop S fs ps.length 0 reasons ps =
      .ok (reasons', queryNonCompliantChargerStatus S fs ps) := by
  -- the ports before the index are done
  have hloop : ∀ done todo : List PortStatus, ∀ reasons, ∃ reasons',
      chargerLoop S fs todo.length done.length reasons (done ++ todo) =
        .ok (reasons', done ++ todo.map (nonCompliantCharger S fs)) := by
    intro done todo
    induction todo generalizing done with
    | nil => exact fun reasons => ⟨reasons, rfl⟩
    | cons p todo ih =>
      intro reasons
      obtain ⟨read, hbody⟩ : ∃ read, chargerBody S fs done.length (done ++ p :: todo) =
          .ok (read, done ++ nonCompliantCharger S fs p :: todo) := chargerBody_eq
      obtain ⟨reasons', hrest⟩ := ih (done ++ [nonCompliantCharger S fs p]) read
      refine ⟨reasons', ?_⟩
      rw [List.length_cons, chargerLoop, hbody]
      simp only [List.length_append, List.length_singleton, List.append_assoc,
        List.singleton_append] at hrest
      exact hrest
  exact hloop [] ps reasons

/-! ### All ports -/

/-- **The reasons of a port are read without loss**: its warnings are those of its own reasons, in
their order. -/
theorem query_reads (S : Setting) (fs : FileSystem) {ps : List PortStatus}
    (hempty : ∀ p ∈ ps, p.complianceWarnings = []) {i : ℕ} {p : PortStatus} (hp : ps[i]? = some p) :
    (∀ reasons, (∀ word ∈ reasons, IsReason word) →
      fs.read (reasonsNode p.portName) = some (printed reasons) →
      (queryNonCompliantChargerStatus S fs ps)[i]? =
        some (warned p (reasons.filterMap (warningOf S)))) ∧
    (fs.read (reasonsNode p.portName) = none →
      (queryNonCompliantChargerStatus S fs ps)[i]? = some (warned p [])) ∧
    ∀ fs' : FileSystem, fs'.read (reasonsNode p.portName) = fs.read (reasonsNode p.portName) →
      (queryNonCompliantChargerStatus S fs' ps)[i]? =
        (queryNonCompliantChargerStatus S fs ps)[i]? := by
  have hnil := hempty p (List.mem_of_getElem? hp)
  have hport : ∀ fs : FileSystem, (queryNonCompliantChargerStatus S fs ps)[i]? =
      some (nonCompliantCharger S fs p) := fun fs => by
    rw [queryNonCompliantChargerStatus, List.getElem?_map, hp, Option.map_some]
  refine ⟨fun reasons hreasons hread => ?_, fun hread => ?_, fun fs' hread => ?_⟩
  · rw [hport, nonCompliantCharger_of_read hread, tokenize_printed hreasons, hnil, List.nil_append,
      List.filterMap_congr fun word hword => complianceWarning_eq (hreasons word hword)]
  · rw [hport, nonCompliantCharger_of_unread hread, warned, if_neg (by simp), hnil]
  · rw [hport, hport, nonCompliantCharger_congr hread]

/-- A port that gives its reasons twice, with one that is not known. -/
def repeatedReasons : List String := ["bc12", "missing_rp", "weak", "bc12"]

theorem repeatedReasons_read :
    (queryNonCompliantChargerStatus .plain ⟨fun _ => some (printed repeatedReasons), fun _ => none⟩
      [Setting.plain.freshPortStatus])[0]? =
        some (warned Setting.plain.freshPortStatus [.bc12, .missingRp, .bc12]) := by
  refine (query_reads .plain _ (p := Setting.plain.freshPortStatus) ?_ rfl).1 repeatedReasons
    ?_ rfl
  · exact List.forall_mem_singleton.2 rfl
  · have hwhole : ∀ word ∈ repeatedReasons, word ≠ "" ∧
        word.toList.all (fun c => decide (c ∉ delimiters ∧ c ≠ '\x00')) = true := by decide
    have hknown : ∀ word ∈ repeatedReasons, word ∈ reasonNames ∨
        ∀ name ∈ reasonNames, CText.startsWith word name = false := by decide
    intro word hword
    refine ⟨(hwhole word hword).1, fun c hc => ?_, hknown word hword⟩
    exact of_decide_eq_true (List.all_eq_true.1 (hwhole word hword).2 c hc)

end Chargers

end Usb

end Gs101
