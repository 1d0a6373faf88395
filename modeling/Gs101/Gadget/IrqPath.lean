import Gs101.Gadget.Results
import Gs101.Lib.Shell

/-!
# UsbGadget: the path of the gadget's IRQ

`getUsbGadgetIrqPath` walks through the lines of `/proc/interrupts` up to the first that names the
controller, and takes the text before its colon for the number of the IRQ.

* `pass`: one pass through the loop; `loop`: at most so many passes;
* `Locates`: the loop ends, with the directory of the IRQ that the line of the controller names,
  or with ERROR and the path left alone;
* `Plainly`: what the line has to be like;
* `locates_iff`: the path is located if and only if the line is like that.

`parseUint` stands for `ParseUint` of libbase.
-/

namespace Gs101

namespace Gadget

open Shell (lines lines_append lines_unterminated)

def kProcIrqPath : String := "/proc/irq/"
def kSmpAffinityList : String := "/smp_affinity_list"

/-- The affinity node of an IRQ. -/
def irqNode (irq : List Char) : String := kProcIrqPath ++ String.ofList irq ++ kSmpAffinityList

namespace IrqPath

/-- How a pass through the loop ends: with a result and the path in `mGadgetIrqPath`, or at the
next line. -/
inductive Pass
  | returns (result : Status) (mGadgetIrqPath : String)
  | again (read_pos : ℕ)

/-- `irqs.find_first_of("\n", read_pos)`; `none` is `npos`. -/
def findNewline (irqs : List Char) (read_pos : ℕ) : Option ℕ :=
  ((irqs.drop read_pos).idxOf? '\n').map (read_pos + ·)

/-- `single_irq.substr(0, dwc3_pos)`: without a colon, the whole line. -/
def irqColumn (single_irq : List Char) : List Char := single_irq.takeWhile (· ≠ ':')

/-- The line is one of the controller. -/
def Dwc3 (single_irq : List Char) : Prop :=
  CText.contains (String.ofList single_irq) "dwc3" = true

instance : DecidablePred Dwc3 := fun _ => inferInstanceAs (Decidable (_ = _))

variable (parseUint : String → Option ℕ)

/-- What is made of the line of the controller. -/
def takeLine (mGadgetIrqPath : String) (single_irq : List Char) : Status × String :=
  match parseUint (String.ofList (irqColumn single_irq)) with
  | none => (.error, mGadgetIrqPath)
  | some _ => (.success, irqNode (irqColumn single_irq))

/-- The body of the loop.  Its last test, of `found_pos` against `npos`, is never met. -/
def pass (irqs : List Char) (mGadgetIrqPath : String) (read_pos : ℕ) : Pass :=
  match findNewline irqs read_pos with
  | none => .returns .error mGadgetIrqPath
  | some found_pos =>
      let single_irq := (irqs.drop read_pos).take (found_pos - read_pos)
      if Dwc3 single_irq then
        let (result, mGadgetIrqPath) := takeLine parseUint mGadgetIrqPath single_irq
        .returns result mGadgetIrqPath
      else .again (found_pos + 1)

/-- At most `n` passes; `none` if the loop has not ended by then. -/
def loop (irqs : List Char) (mGadgetIrqPath : String) : ℕ → ℕ → Option (Status × String)
  | 0, _ => none
  | n + 1, read_pos =>
      match pass parseUint irqs mGadgetIrqPath read_pos with
      | .returns result mGadgetIrqPath => some (result, mGadgetIrqPath)
      | .again read_pos => loop irqs mGadgetIrqPath n read_pos

/-- `getUsbGadgetIrqPath` with at most `n` passes, and what it leaves in `mGadgetIrqPath`;
`interrupts` is the content of `/proc/interrupts`, `none` if it cannot be read. -/
def getUsbGadgetIrqPath (n : ℕ) (interrupts : Option String) (mGadgetIrqPath : String) :
    Option (Status × String) :=
  match interrupts with
  | none => some (.error, mGadgetIrqPath)
  | some irqs => loop parseUint irqs.toList mGadgetIrqPath n 0

/-! ### The result that is looked for -/

/-- A decimal number. -/
def IsNumber (irq : List Char) : Prop := irq ≠ [] ∧ ∀ c ∈ irq, c.isDigit = true

/-- The line begins with this number, behind spaces, and a colon. -/
def Names (single_irq irq : List Char) : Prop :=
  IsNumber irq ∧ ∃ spaces rest, (∀ c ∈ spaces, c = ' ') ∧ single_irq = spaces ++ irq ++ ':' :: rest

/-- The first line of the controller. -/
def dwc3Line (irqs : String) : Option (List Char) := (lines irqs.toList).find? (Dwc3 ·)

/-- The directory of the IRQ that the controller's line names, or else ERROR. -/
structure Right (irqs mGadgetIrqPath : String) (r : Status × String) : Prop where
  named : ∀ line irq, dwc3Line irqs = some line → Names line irq → r = (.success, irqNode irq)
  unnamed : (∀ line irq, dwc3Line irqs = some line → ¬ Names line irq) →
    r = (.error, mGadgetIrqPath)

/-- The loop ends, with the right result. -/
def Locates (irqs mGadgetIrqPath : String) : Prop :=
  ∃ r, (∃ n, ∀ m, n ≤ m → getUsbGadgetIrqPath parseUint m (some irqs) mGadgetIrqPath = some r) ∧
    Right irqs mGadgetIrqPath r

/-- No space stands before the number of the IRQ, and `ParseUint` takes the text before the colon
for a number exactly when it is one. -/
structure Plainly (line : List Char) : Prop where
  parsed : (parseUint (String.ofList (irqColumn line))).isSome = true ↔ ∃ irq, Names line irq
  unpadded : (∃ irq, Names line irq) → line.head? ≠ some ' '

/-! ### The loop -/

variable {parseUint}

theorem findNewline_append {a : List Char} (h : '\n' ∉ a) (pre b : List Char) :
    findNewline (pre ++ (a ++ '\n' :: b)) pre.length = some (pre.length + a.length) := by
  rw [findNewline, List.drop_left, CText.idxOf?_append_cons h, Option.map_some]

theorem findNewline_none {a : List Char} (h : '\n' ∉ a) (pre : List Char) :
    findNewline (pre ++ a) pre.length = none := by
  rw [findNewline, List.drop_left, List.idxOf?_eq_none_iff.2 h, Option.map_none]

/-- What a pass makes of a line. -/
theorem pass_line {a : List Char} (h : '\n' ∉ a) (mGadgetIrqPath : String) (pre b : List Char) :
    pass parseUint (pre ++ (a ++ '\n' :: b)) mGadgetIrqPath pre.length =
      if Dwc3 a then
        .returns (takeLine parseUint mGadgetIrqPath a).1 (takeLine parseUint mGadgetIrqPath a).2
      else .again (pre.length + a.length + 1) := by
  have hline : ((pre ++ (a ++ '\n' :: b)).drop pre.length).take
      (pre.length + a.length - pre.length) = a := by
    rw [List.drop_left, Nat.add_sub_cancel_left, List.take_left]
  simp only [pass, findNewline_append h, hline]

variable (parseUint) in
/-- The result of the loop over these lines. -/
def found (mGadgetIrqPath : String) (lines : List (List Char)) : Status × String :=
  match lines.find? (Dwc3 ·) with
  | none => (.error, mGadgetIrqPath)
  | some line => takeLine parseUint mGadgetIrqPath line

theorem found_cons (mGadgetIrqPath : String) (a : List Char) (ls : List (List Char)) :
    found parseUint mGadgetIrqPath (a :: ls) =
      if Dwc3 a then takeLine parseUint mGadgetIrqPath a
      else found parseUint mGadgetIrqPath ls := by
  unfold found
  rw [List.find?_cons]
  split_ifs with h <;> simp only [h, decide_true, decide_false]

/-- From any line on, the loop ends, after at most one pass for each line and one more. -/
theorem loop_eq (mGadgetIrqPath : String) (pre rest : List Char) {n : ℕ}
    (hn : rest.count '\n' < n) :
    loop parseUint (pre ++ rest) mGadgetIrqPath n pre.length =
      some (found parseUint mGadgetIrqPath (lines rest)) := by
  -- on the passes, with `read_pos` at the end of what has been read
  induction n generalizing pre rest with
  | zero => exact absurd hn (Nat.not_lt_zero _)
  | succ n ih =>
    by_cases hmem : '\n' ∈ rest
    · obtain ⟨a, b, rfl, ha⟩ := List.eq_append_cons_of_mem hmem
      rw [lines_append ha]
      by_cases hd : Dwc3 a
      · rw [loop, pass_line ha, if_pos hd, found_cons, if_pos hd]
      · have hcount : b.count '\n' < n := by
          rw [List.count_append, List.count_cons_self] at hn
          omega
        have hnext := ih (pre ++ (a ++ ['\n'])) b hcount
        simp only [List.length_append, List.length_singleton, List.append_assoc,
          List.singleton_append, ← Nat.add_assoc] at hnext
        rw [loop, pass_line ha, if_neg hd, found_cons, if_neg hd]
        exact hnext
    · rw [lines_unterminated hmem]
      simp only [loop, pass, findNewline_none hmem, found, List.find?_nil]

/-- `getUsbGadgetIrqPath` ends, with what it makes of the lines. -/
theorem getUsbGadgetIrqPath_eq (irqs mGadgetIrqPath : String) {n : ℕ}
    (hn : irqs.toList.count '\n' < n) :
    getUsbGadgetIrqPath parseUint n (some irqs) mGadgetIrqPath =
      some (found parseUint mGadgetIrqPath (lines irqs.toList)) :=
  loop_eq mGadgetIrqPath [] irqs.toList hn

theorem locates_iff_right (irqs mGadgetIrqPath : String) :
    Locates parseUint irqs mGadgetIrqPath ↔
      Right irqs mGadgetIrqPath (found parseUint mGadgetIrqPath (lines irqs.toList)) := by
  constructor
  · rintro ⟨r, ⟨n, hn⟩, hr⟩
    have heq := hn (max n (irqs.toList.count '\n' + 1)) (le_max_left _ _)
    rw [getUsbGadgetIrqPath_eq irqs mGadgetIrqPath
      (Nat.lt_of_lt_of_le (Nat.lt_succ_self _) (le_max_right _ _))] at heq
    rwa [Option.some.inj heq]
  · intro hr
    exact ⟨_, ⟨irqs.toList.count '\n' + 1, fun m hm => getUsbGadgetIrqPath_eq _ _ hm⟩, hr⟩

/-! ### The line of the controller -/

theorem colon_not_mem {irq : List Char} (h : IsNumber irq) : ':' ∉ irq := fun hm =>
  absurd (h.2 ':' hm) (by decide)

/-- The text before the colon is the number with the spaces before it. -/
theorem irqColumn_of_names {spaces irq rest : List Char} (hs : ∀ c ∈ spaces, c = ' ')
    (hn : IsNumber irq) : irqColumn (spaces ++ irq ++ ':' :: rest) = spaces ++ irq := by
  have hcolon : ':' ∉ spaces ++ irq := by
    intro hm
    rcases List.mem_append.1 hm with hm | hm
    · exact absurd (hs ':' hm) (by decide)
    · exact colon_not_mem hn hm
  exact CText.takeWhile_ne_append hcolon rest

theorem irqNode_inj {a b : List Char} : irqNode a = irqNode b ↔ a = b := by
  constructor
  · intro h
    have hlist := congrArg String.toList h
    simpa [irqNode, String.toList_append] using hlist
  · rintro rfl
    rfl

/-- Without spaces before it, the number is all that stands before the colon. -/
theorem Names.eq_irqColumn {line irq : List Char} (h : Names line irq)
    (hline : line.head? ≠ some ' ') : irqColumn line = irq := by
  obtain ⟨hirq, spaces, rest, hs, rfl⟩ := h
  rw [irqColumn_of_names hs hirq]
  cases spaces with
  | nil => rfl
  | cons c spaces => exact absurd (congrArg some (hs c List.mem_cons_self)) hline

/-- With spaces before it, it is not. -/
theorem Names.ne_irqColumn {line irq : List Char} (h : Names line irq)
    (hline : line.head? = some ' ') : irqColumn line ≠ irq := by
  obtain ⟨hirq, spaces, rest, hs, rfl⟩ := h
  rw [irqColumn_of_names hs hirq]
  cases spaces with
  | nil =>
    cases irq with
    | nil => exact absurd rfl hirq.1
    | cons c irq =>
      obtain rfl : c = ' ' := Option.some.inj hline
      exact absurd (hirq.2 ' ' List.mem_cons_self) (by decide)
  | cons c spaces =>
    intro he
    have hlength := congrArg List.length he
    simp only [List.cons_append, List.length_cons, List.length_append] at hlength
    omega

/-- The line of the controller gives the right result if and only if it is plain. -/
theorem right_iff {irqs mGadgetIrqPath : String} {line : List Char}
    (hline : dwc3Line irqs = some line) :
    Right irqs mGadgetIrqPath (takeLine parseUint mGadgetIrqPath line) ↔
      Plainly parseUint line := by
  have htake : takeLine parseUint mGadgetIrqPath line =
      if (parseUint (String.ofList (irqColumn line))).isSome = true then
        (.success, irqNode (irqColumn line)) else (.error, mGadgetIrqPath) := by
    unfold takeLine
    cases parseUint (String.ofList (irqColumn line)) <;> rfl
  rw [htake]
  constructor
  · intro h
    refine ⟨⟨fun hp => ?_, fun ⟨irq, hirq⟩ => ?_⟩, fun ⟨irq, hirq⟩ hspace => ?_⟩
    · -- a line that is parsed names an IRQ
      by_contra hno
      have herror := h.unnamed fun l irq hl hirq => by
        obtain rfl : line = l := Option.some.inj (hline.symm.trans hl)
        exact hno ⟨irq, hirq⟩
      rw [if_pos hp] at herror
      exact nomatch congrArg Prod.fst herror
    · -- a line that names an IRQ is parsed
      by_contra hp
      have hsuccess := h.named line irq hline hirq
      rw [if_neg hp] at hsuccess
      exact nomatch congrArg Prod.fst hsuccess
    · -- behind a space the path is not that of the IRQ
      have hsuccess := h.named line irq hline hirq
      split_ifs at hsuccess
      · exact hirq.ne_irqColumn hspace (irqNode_inj.1 (congrArg Prod.snd hsuccess))
      · exact nomatch congrArg Prod.fst hsuccess
  · intro h
    refine ⟨fun l irq hl hirq => ?_, fun hno => ?_⟩
    · obtain rfl : line = l := Option.some.inj (hline.symm.trans hl)
      rw [if_pos (h.parsed.2 ⟨irq, hirq⟩), hirq.eq_irqColumn (h.unpadded ⟨irq, hirq⟩)]
    · rw [if_neg fun hp => ?_]
      obtain ⟨irq, hirq⟩ := h.parsed.1 hp
      exact hno line irq hline hirq

/-- **The path of the gadget's IRQ is located** if and only if the first line of the controller, if
there is one, is plain. -/
theorem locates_iff (irqs mGadgetIrqPath : String) :
    Locates parseUint irqs mGadgetIrqPath ↔
      ∀ line, dwc3Line irqs = some line → Plainly parseUint line := by
  rw [locates_iff_right]
  cases hline : dwc3Line irqs with
  | none =>
    have hfound : found parseUint mGadgetIrqPath (lines irqs.toList) =
        (.error, mGadgetIrqPath) := by
      unfold dwc3Line at hline
      rw [found, hline]
    rw [hfound]
    refine iff_of_true ⟨fun l irq hl => ?_, fun _ => rfl⟩ nofun
    rw [hline] at hl
    exact nomatch hl
  | some line =>
    have hfound : found parseUint mGadgetIrqPath (lines irqs.toList) =
        takeLine parseUint mGadgetIrqPath line := by
      have hline' := hline
      unfold dwc3Line at hline'
      rw [found, hline']
    rw [hfound, right_iff hline]
    exact ⟨fun h l hl => Option.some.inj hl ▸ h, fun h => h line rfl⟩

theorem found_of_ne_success {mGadgetIrqPath : String} {ls : List (List Char)}
    (h : (found parseUint mGadgetIrqPath ls).1 ≠ .success) :
    (found parseUint mGadgetIrqPath ls).2 = mGadgetIrqPath := by
  cases hf : ls.find? (Dwc3 ·) with
  | none => rw [found, hf]
  | some line =>
    rw [found, hf] at h ⊢
    cases hp : parseUint (String.ofList (irqColumn line)) with
    | none => simp only [takeLine, hp]
    | some n => exact absurd (by simp only [takeLine, hp]) h

/-- What a call of `setCurrentUsbFunctions` that still looks for the path takes for it. -/
theorem mGadgetIrqPath_beforeTearDown (A : Answers) (functions : Functions) (g : UsbGadget)
    {irqs : String} {n : ℕ} {r : Status × String} (hn : irqs.toList.count '\n' < n)
    (hr : getUsbGadgetIrqPath parseUint n (some irqs) "" = some r)
    (hA : A.irqPath = if r.1 = .success then some r.2 else none) :
    (beforeTearDown A functions g).mGadgetIrqPath =
      if g.mGadgetIrqPath = "" then r.2 else g.mGadgetIrqPath := by
  rw [getUsbGadgetIrqPath_eq irqs "" hn] at hr
  obtain rfl := Option.some.inj hr
  have hpath : A.irqPath.getD "" = (found parseUint "" (lines irqs.toList)).2 := by
    rw [hA]
    split_ifs with hs
    · rfl
    · exact (found_of_ne_success hs).symm
  obtain ⟨files, path, hg⟩ := onlyFiles_getI2cClientPath A { g with
    mCurrentUsbFunctions := functions, mCurrentUsbFunctionsApplied := false, calls := [] }
  simp only [beforeTearDown, hg, hpath]
  split_ifs <;> rfl

/-- `ParseUint` of decimal texts. -/
def parseDecimal (s : String) : Option ℕ :=
  let digits := s.toList.dropWhile CText.isSpace
  if digits ≠ [] ∧ digits.all Char.isDigit = true ∧ CText.ofDigits digits < 2 ^ 32 then
    some (CText.ofDigits digits)
  else none

/-- The kernel pads the numbers to one width: the space is taken for a part of the path. -/
theorem padded_not_located : ¬ Locates parseDecimal " 45: dwc3\n" "" := by
  intro h
  have hline : dwc3Line " 45: dwc3\n" = some " 45: dwc3".toList := by decide
  have hnames : Names " 45: dwc3".toList "45".toList :=
    ⟨⟨nofun, List.all_eq_true.1 (by decide)⟩, [' '], " dwc3".toList,
      List.forall_mem_singleton.2 rfl, by decide⟩
  have hresult := ((locates_iff_right _ _).1 h).named _ _ hline hnames
  exact absurd hresult (by decide)

end IrqPath

end Gadget

end Gs101
