import Gs101.Uwb.Calib
import Mathlib.Logic.Function.Iterate

/-!
# UWB factory calibration: killed and started again

A run of a script in file steps: test that the output file exists, create it, set its mode, open
the input file, and then append for one line after the other.

* `Job.step`, `Job.killed`, `Job.complete`: one step, the output file of a run that is killed after
  some steps, and that of a run that is not;
* `killed_opened`, `complete_none`: what they are when there is no output file at first;
* `Script.Calls`, `Script.Fails`: a line calls for an entry, or ends the script, told by its key and
  value; `handleLine_of_calls` and `handleLine_eq_none` say that the loop does so;
* `Script.Silent`: the loop comes to no line that calls for one;
* `restarts_iff`: when a second run repairs what a killed run has left.  The output file exists from
  the first step on that writes, and a file that exists is taken for complete: so no line that the
  killed run has not come to may call for an entry.
-/

namespace Gs101

namespace Uwb

open Shell

/-- The output file. -/
structure Output where
  mode : ℕ
  entries : List Text
  deriving DecidableEq

/-- What does not change in a run. -/
structure Job where
  shell : Shell
  script : Script
  /-- The content of the input file, if there is one. -/
  input : Option Text
  /-- The mode that `touch` gives a new file. -/
  newMode : ℕ

/-- Where a run is. -/
inductive Pc
  | test
  | touch
  | chmod
  | openInput
  | loop (rest : List Text)
  | done
  deriving DecidableEq

/-- A run with the output file as it is, if it exists. -/
structure Run where
  pc : Pc
  output : Option Output
  deriving DecidableEq

/-- The lines of the input file. -/
def inputLines (input : Option Text) : List Text := input.elim [] lines

namespace Job

variable (J : Job)

/-- `>>`: the file is created if it does not exist. -/
def append (entries : List Text) (output : Option Output) : Option Output :=
  if entries = [] then output
  else
    let o := output.getD ⟨J.newMode, []⟩
    some { o with entries := o.entries ++ entries }

/-- One step. A run that is done stays as it is. -/
def step (r : Run) : Run :=
  match r.pc with
  | .test => { r with pc := if r.output.isSome then .done else .touch }
  | .touch => ⟨.chmod, some (r.output.getD ⟨J.newMode, []⟩)⟩
  | .chmod => ⟨.openInput, r.output.map fun o => { o with mode := J.script.mode }⟩
  -- without an input file the redirection of the loop fails, and the script goes on behind it
  | .openInput =>
      match J.input with
      | some content => { r with pc := .loop (lines content) }
      | none => { r with pc := .done }
  | .loop [] => { r with pc := .done }
  | .loop (line :: rest) =>
      match J.script.handleLine J.shell line with
      | some entries => ⟨.loop rest, J.append entries r.output⟩
      | none => { r with pc := .done }
  | .done => r

/-- The run after some steps. -/
def after (steps : ℕ) (output : Option Output) : Run := J.step^[steps] ⟨.test, output⟩

/-- The output file of a run that is killed after some steps. -/
def killed (steps : ℕ) (output : Option Output) : Option Output := (J.after steps output).output

/-- The output file of a run that is not killed: it is done after these steps. -/
def complete (output : Option Output) : Option Output :=
  J.killed ((inputLines J.input).length + 5) output

/-! ### The loop -/

variable {J}

theorem append_some (es : List Text) (o : Output) :
    J.append es (some o) = some { o with entries := o.entries ++ es } := by
  unfold append
  split_ifs with h
  · rw [h, List.append_nil]
  · rfl

theorem iterate_done (n : ℕ) (output : Option Output) :
    J.step^[n] ⟨.done, output⟩ = ⟨.done, output⟩ := Function.iterate_fixed rfl n

theorem step_loop_some {line : Text} {es rest : List Text} (output : Option Output)
    (h : J.script.handleLine J.shell line = some es) :
    J.step ⟨.loop (line :: rest), output⟩ = ⟨.loop rest, J.append es output⟩ := by
  simp only [step, h]

theorem step_loop_none {line : Text} {rest : List Text} (output : Option Output)
    (h : J.script.handleLine J.shell line = none) :
    J.step ⟨.loop (line :: rest), output⟩ = ⟨.done, output⟩ := by
  simp only [step, h]

theorem step_openInput_some {content : Text} (output : Option Output)
    (h : J.input = some content) :
    J.step ⟨.openInput, output⟩ = ⟨.loop (lines content), output⟩ := by
  simp only [step, h]

theorem step_openInput_none (output : Option Output) (h : J.input = none) :
    J.step ⟨.openInput, output⟩ = ⟨.done, output⟩ := by
  simp only [step, h]

/-- The output file after some passes through the loop. -/
theorem output_iterate_loop (n : ℕ) (ls : List Text) (o : Output) :
    (J.step^[n] ⟨.loop ls, some o⟩).output =
      some { o with entries := o.entries ++ J.script.entries J.shell (ls.take n) } := by
  induction ls generalizing n o with
  | nil =>
    cases n with
    | zero => simp [Script.entries]
    | succ n =>
      rw [Function.iterate_succ_apply]
      show (J.step^[n] ⟨.done, some o⟩).output = _
      rw [iterate_done]
      simp [Script.entries]
  | cons line ls ih =>
    cases n with
    | zero => simp [Script.entries]
    | succ n =>
      rw [Function.iterate_succ_apply, List.take_succ_cons, Script.entries]
      cases h : J.script.handleLine J.shell line with
      | none =>
        rw [step_loop_none _ h, iterate_done]
        simp
      | some es =>
        rw [step_loop_some _ h, append_some, ih]
        simp

/-- After a pass for every line, and one more, the loop is done. -/
theorem pc_iterate_loop (ls : List Text) (output : Option Output) :
    (J.step^[ls.length + 1] ⟨.loop ls, output⟩).pc = .done := by
  induction ls generalizing output with
  | nil => rfl
  | cons line ls ih =>
    rw [List.length_cons, Function.iterate_succ_apply]
    cases h : J.script.handleLine J.shell line with
    | none => rw [step_loop_none _ h, iterate_done]
    | some es => rw [step_loop_some _ h, ih]

/-! ### Whole runs -/

variable (J)

/-- A run stops at an output file that exists. -/
theorem killed_some (steps : ℕ) (o : Output) : J.killed steps (some o) = some o := by
  cases steps with
  | zero => rfl
  | succ n =>
    unfold killed after
    rw [Function.iterate_succ_apply]
    show (J.step^[n] ⟨.done, some o⟩).output = _
    rw [iterate_done]

/-- The output file after the input file was to be opened. -/
theorem killed_opened (n : ℕ) :
    J.killed (n + 4) none =
      some ⟨J.script.mode, J.script.entries J.shell ((inputLines J.input).take n)⟩ := by
  have hopen : J.after (n + 4) none = J.step^[n] (J.step ⟨.openInput, some ⟨J.script.mode, []⟩⟩) :=
    rfl
  unfold killed inputLines
  rw [hopen]
  cases h : J.input with
  | none =>
    rw [step_openInput_none _ h, iterate_done]
    simp [Script.entries]
  | some content =>
    rw [step_openInput_some _ h, output_iterate_loop]
    rfl

theorem complete_some (o : Output) : J.complete (some o) = some o := J.killed_some _ o

theorem complete_none :
    J.complete none = some ⟨J.script.mode, J.script.entries J.shell (inputLines J.input)⟩ := by
  have h := J.killed_opened ((inputLines J.input).length + 1)
  rwa [List.take_of_length_le (Nat.le_succ _)] at h

/-- A run that is not killed is done. -/
theorem pc_complete (output : Option Output) :
    (J.after ((inputLines J.input).length + 5) output).pc = .done := by
  cases output with
  | some o =>
    have hfirst : J.after ((inputLines J.input).length + 5) (some o) =
        J.step^[(inputLines J.input).length + 4] ⟨.done, some o⟩ := rfl
    rw [hfirst, iterate_done]
  | none =>
    have hopen : J.after ((inputLines J.input).length + 5) none =
        J.step^[(inputLines J.input).length + 1]
          (J.step ⟨.openInput, some ⟨J.script.mode, []⟩⟩) := rfl
    rw [hopen]
    unfold inputLines
    cases h : J.input with
    | none => rw [step_openInput_none _ h, iterate_done]
    | some content =>
      rw [step_openInput_some _ h]
      exact pc_iterate_loop _ _

end Job

/-! ### What a line calls for -/

/-- The recognised keys, each with the text in front of the value in the output file. -/
def outputKeys : List (Text × Text) :=
  [(kXtal, xtalTrim), (kCh5Tx, ant0Ch5), (kCh5Rx, ant1Ch5), (kCh9Tx, ant0Ch9), (kCh9Rx, ant1Ch9),
    (kCh5Pdoa, pdoaCh5), (kCh9Pdoa, pdoaCh9)]

def outputKey (key : Text) : Option Text := outputKeys.lookup key

def IsPdoa (key : Text) : Prop := key = kCh5Pdoa ∨ key = kCh9Pdoa

instance (key : Text) : Decidable (IsPdoa key) :=
  inferInstanceAs (Decidable (key = kCh5Pdoa ∨ key = kCh9Pdoa))

/-- The crystal trim that the script takes. -/
def trimOf (S : Shell) (f2 : Text) : Text :=
  (S.arith ("0x".toList ++ f2)).elim f2 fun value => if value > 63 then "63".toList else f2

/-- The offset that the script takes, if there is no arithmetic error. -/
def offsetOf (S : Shell) (f2 : Text) : Option ℤ := do
  let ones ← S.arith (beforeDot f2 ++ '*' :: "2048".toList)
  let dec ← S.arith (afterDot f2 ++ '*' :: "2048".toList ++ '/' :: "100".toList)
  S.arith (decimal ones ++ '+' :: decimal dec)

/-- There is an arithmetic error in the value of this key. -/
def Unreadable (S : Shell) (a : Text × Text) : Prop :=
  a.1 = kXtal ∧ S.arith ("0x".toList ++ a.2) = none ∨
    IsPdoa a.1 ∧ (S.arith (beforeDot a.2 ++ '*' :: "2048".toList) = none ∨
      (afterDot a.2).length = 2 ∧ offsetOf S a.2 = none)

instance (S : Shell) (a : Text × Text) : Decidable (Unreadable S a) :=
  inferInstanceAs (Decidable (_ ∧ _ ∨ _ ∧ (_ ∨ _ ∧ _)))

/-- The keys and values of two lines say the same. -/
def Alike (S : Shell) (a b : Text × Text) : Prop :=
  a.1 = b.1 ∧
    if a.1 = kXtal then S.words (trimOf S a.2) = S.words (trimOf S b.2)
    else if IsPdoa a.1 then offsetOf S a.2 = offsetOf S b.2
    else S.words a.2 = S.words b.2

namespace Script

/-- The keys that the `case` has a branch for. -/
def keys : Script → List Text
  | calib => outputKeys.map Prod.fst
  | calibXtal => [kXtal]

variable (S : Shell) (script : Script)

/-- The line calls for an entry: its key is recognised, and a PDoA offset has two characters behind
the point. -/
def Calls (line : Text) : Prop :=
  (S.readFields line).1 ∈ script.keys ∧
    (IsPdoa (S.readFields line).1 → (afterDot (S.readFields line).2).length = 2)

/-- An arithmetic error in the line ends the script. -/
def Fails (line : Text) : Prop :=
  (S.readFields line).1 ∈ script.keys ∧ Unreadable S (S.readFields line)

instance (line : Text) : Decidable (script.Calls S line) :=
  inferInstanceAs (Decidable (_ ∧ (_ → _)))

instance (line : Text) : Decidable (script.Fails S line) :=
  inferInstanceAs (Decidable (_ ∧ _))

/-- No line calls for an entry, up to one that ends the script. -/
def Silent : List Text → Prop
  | [] => True
  | line :: ls => script.Fails S line ∨ ¬ script.Calls S line ∧ Silent ls

/-- The keys and values of the lines that call for an entry, up to one that ends the script. -/
def calling : List Text → List (Text × Text)
  | [] => []
  | line :: ls =>
      if script.Fails S line then []
      else if script.Calls S line then S.readFields line :: calling ls
      else calling ls

end Script

/-! ### The entry of a line -/

/-- The entry that a line with this key and value calls for. -/
def entryOf (S : Shell) (a : Text × Text) : Text :=
  (outputKey a.1).getD [] ++
    if a.1 = kXtal then S.words (trimOf S a.2)
    else if IsPdoa a.1 then (offsetOf S a.2).elim [] decimal
    else S.words a.2

section Entries

variable {S : Shell} {script : Script} {line : Text} {ls ms : List Text}

theorem decimal_ne_nil (x : ℤ) : decimal x ≠ [] := by
  intro h
  have hnumber := number_decimal x
  rw [h] at hnumber
  cases hnumber

theorem offset_inj {x y : Option ℤ} : x.elim [] decimal = y.elim [] decimal ↔ x = y := by
  cases x <;> cases y
  · simp
  · simpa using (decimal_ne_nil _).symm
  · simpa using decimal_ne_nil _
  · simp [decimal_injective.eq_iff]

/-- A key has its text in the output file if and only if it is recognised. -/
theorem isSome_outputKey {key : Text} :
    (outputKey key).isSome = true ↔ key ∈ outputKeys.map Prod.fst := by
  rw [outputKey, List.lookup_isSome_iff, List.mem_map]
  exact exists_congr fun p => and_congr_right fun _ => by rw [beq_iff_eq, eq_comm]

theorem mem_of_outputKey {key out : Text} (h : outputKey key = some out) :
    (key, out) ∈ outputKeys := by
  obtain ⟨before, after, hsplit, -⟩ := List.lookup_eq_some_iff.1 h
  rw [hsplit]
  exact List.mem_append_right before List.mem_cons_self

/-- No text in front of a value begins another. -/
theorem outputKeys_begin : ∀ p ∈ outputKeys, ∀ q ∈ outputKeys, p.2 <+: q.2 → p.1 = q.1 := by
  decide

/-- Entries are the same if and only if the lines are alike. -/
theorem entryOf_inj {a b : Text × Text} (ha : a.1 ∈ outputKeys.map Prod.fst)
    (hb : b.1 ∈ outputKeys.map Prod.fst) : entryOf S a = entryOf S b ↔ Alike S a b := by
  obtain ⟨outA, houtA⟩ := Option.isSome_iff_exists.1 (isSome_outputKey.2 ha)
  obtain ⟨outB, houtB⟩ := Option.isSome_iff_exists.1 (isSome_outputKey.2 hb)
  have hkey : entryOf S a = entryOf S b → a.1 = b.1 := by
    intro h
    unfold entryOf at h
    rw [houtA, houtB] at h
    rcases List.prefix_or_prefix_of_prefix (List.prefix_append outA _)
      (h ▸ List.prefix_append outB _) with hp | hp
    · exact outputKeys_begin (a.1, outA) (mem_of_outputKey houtA) (b.1, outB)
        (mem_of_outputKey houtB) hp
    · exact (outputKeys_begin (b.1, outB) (mem_of_outputKey houtB) (a.1, outA)
        (mem_of_outputKey houtA) hp).symm
  unfold Alike
  refine ⟨fun h => ⟨hkey h, ?_⟩, fun ⟨h, hvalue⟩ => ?_⟩
  · have hsame := hkey h
    unfold entryOf at h
    rw [hsame, List.append_cancel_left_eq] at h
    rw [hsame]
    split_ifs at h ⊢
    · exact h
    · exact offset_inj.1 h
    · exact h
  · unfold entryOf
    rw [h] at hvalue ⊢
    rw [List.append_cancel_left_eq]
    split_ifs at hvalue ⊢
    · exact hvalue
    · exact offset_inj.2 hvalue
    · exact hvalue

namespace Script

/-- What a branch of the `case` does. -/
theorem handle_of_mem {key : Text} (h : key ∈ script.keys) (f2 : Text) :
    script.handle S key f2 =
      if key = kXtal then handleXtal S f2
      else if IsPdoa key then handlePdoa S ((outputKey key).getD []) f2
      else handleDelay S ((outputKey key).getD []) f2 := by
  cases script with
  | calib =>
    simp only [keys, outputKeys, List.map_cons, List.map_nil, List.mem_cons, List.not_mem_nil,
      or_false] at h
    rcases h with rfl | rfl | rfl | rfl | rfl | rfl | rfl <;> rfl
  | calibXtal =>
    obtain rfl := List.mem_singleton.1 h
    rfl

theorem handle_of_not_mem {key : Text} (h : key ∉ script.keys) (f2 : Text) :
    script.handle S key f2 = some [] := by
  cases script with
  | calib =>
    simp only [keys, outputKeys, List.map_cons, List.map_nil, List.mem_cons, List.not_mem_nil,
      or_false, not_or] at h
    obtain ⟨h₁, h₂, h₃, h₄, h₅, h₆, h₇⟩ := h
    rw [handle, if_neg h₁, if_neg h₂, if_neg h₃, if_neg h₄, if_neg h₅, if_neg h₆, if_neg h₇]
  | calibXtal => exact if_neg fun hk => h (List.mem_singleton.2 hk)

theorem mem_outputKeys {key : Text} (h : key ∈ script.keys) : key ∈ outputKeys.map Prod.fst := by
  cases script with
  | calib => exact h
  | calibXtal =>
    obtain rfl := List.mem_singleton.1 h
    exact List.mem_cons_self

theorem not_isPdoa_xtal : ¬ IsPdoa kXtal := by decide

theorem handlePdoa_eq_none {entry f2 : Text} : handlePdoa S entry f2 = none ↔
    S.arith (beforeDot f2 ++ '*' :: "2048".toList) = none ∨
      (afterDot f2).length = 2 ∧ offsetOf S f2 = none := by
  unfold handlePdoa offsetOf
  dsimp only
  generalize S.arith (beforeDot f2 ++ '*' :: "2048".toList) = ones
  generalize S.arith (afterDot f2 ++ '*' :: "2048".toList ++ '/' :: "100".toList) = dec
  by_cases htwo : (afterDot f2).length = 2
  swap
  · cases ones <;> simp [htwo]
  cases ones with
  | none => simp
  | some ones =>
    cases dec with
    | none => simp [htwo]
    | some dec => cases h : S.arith (decimal ones ++ '+' :: decimal dec) <;> simp [htwo, h]

/-- A line ends the script if and only if there is an arithmetic error in it. -/
theorem handleLine_eq_none : script.handleLine S line = none ↔ script.Fails S line := by
  unfold handleLine Fails Unreadable
  generalize S.readFields line = fields
  by_cases hkey : fields.1 ∈ script.keys
  swap
  · rw [handle_of_not_mem hkey]
    exact iff_of_false nofun fun h => hkey h.1
  rw [handle_of_mem hkey, and_iff_right hkey]
  by_cases hxtal : fields.1 = kXtal
  · have hpdoa : ¬ IsPdoa fields.1 := hxtal ▸ not_isPdoa_xtal
    rw [if_pos hxtal, and_iff_right hxtal, or_iff_left fun h => hpdoa h.1]
    unfold handleXtal
    cases S.arith ("0x".toList ++ fields.2) <;> simp
  rw [if_neg hxtal, or_iff_right fun h => hxtal h.1]
  by_cases hpdoa : IsPdoa fields.1
  · rw [if_pos hpdoa, handlePdoa_eq_none, and_iff_right hpdoa]
  · rw [if_neg hpdoa]
    exact iff_of_false nofun fun h => hpdoa h.1

/-- A line that calls for an entry has it. -/
theorem handleLine_of_calls (hfails : ¬ script.Fails S line) (h : script.Calls S line) :
    script.handleLine S line = some [entryOf S (S.readFields line)] := by
  obtain ⟨hkey, htwo⟩ := h
  obtain ⟨es, hes⟩ := Option.ne_none_iff_exists'.1 (mt handleLine_eq_none.1 hfails)
  rw [hes]
  unfold handleLine at hes
  unfold entryOf
  generalize S.readFields line = fields at hkey htwo hes ⊢
  rw [handle_of_mem hkey] at hes
  split_ifs at hes ⊢ with hxtal hpdoa
  · obtain ⟨value, hvalue, h⟩ := Option.bind_eq_some_iff.1 hes
    rw [← Option.some.inj h, trimOf, hvalue, hxtal]
    rfl
  · obtain ⟨ones, hones, h⟩ := Option.bind_eq_some_iff.1 hes
    rw [if_pos (htwo hpdoa)] at h
    obtain ⟨dec, hdec, h⟩ := Option.bind_eq_some_iff.1 h
    obtain ⟨offset, hoffset, h⟩ := Option.bind_eq_some_iff.1 h
    have hvalue : offsetOf S fields.2 = some offset := by
      simp only [offsetOf, hones, hdec, hoffset, Option.bind_eq_bind, Option.bind_some]
    rw [← Option.some.inj h, hvalue]
    rfl
  · rw [← Option.some.inj hes]

theorem handleLine_of_not_calls (hfails : ¬ script.Fails S line) (h : ¬ script.Calls S line) :
    script.handleLine S line = some [] := by
  obtain ⟨es, hes⟩ := Option.ne_none_iff_exists'.1 (mt handleLine_eq_none.1 hfails)
  rw [hes]
  unfold handleLine at hes
  by_cases hkey : (S.readFields line).1 ∈ script.keys
  swap
  · rw [handle_of_not_mem hkey] at hes
    exact hes.symm
  obtain ⟨hpdoa, htwo⟩ := Classical.not_imp.1 fun htwo => h ⟨hkey, htwo⟩
  have hxtal : (S.readFields line).1 ≠ kXtal := fun heq => not_isPdoa_xtal (heq ▸ hpdoa)
  rw [handle_of_mem hkey, if_neg hxtal, if_pos hpdoa] at hes
  obtain ⟨ones, -, hes⟩ := Option.bind_eq_some_iff.1 hes
  rw [if_neg htwo] at hes
  exact hes.symm

/-! ### The entries of all lines -/

/-- The entries are those of the lines that call for one. -/
theorem entries_eq_map (ls : List Text) :
    script.entries S ls = (script.calling S ls).map (entryOf S) := by
  induction ls with
  | nil => rfl
  | cons line ls ih =>
    rw [entries, calling]
    split_ifs with hfails hcalls
    · rw [handleLine_eq_none.2 hfails]
      rfl
    · rw [handleLine_of_calls hfails hcalls, List.map_cons, ← ih]
      rfl
    · rw [handleLine_of_not_calls hfails hcalls, ih]
      rfl

theorem key_of_calling {a : Text × Text} (h : a ∈ script.calling S ls) :
    a.1 ∈ outputKeys.map Prod.fst := by
  induction ls with
  | nil => cases h
  | cons line ls ih =>
    rw [calling] at h
    split_ifs at h with hfails hcalls
    · cases h
    · rcases List.mem_cons.1 h with rfl | h
      · exact mem_outputKeys hcalls.1
      · exact ih h
    · exact ih h

theorem calling_eq_nil : script.calling S ls = [] ↔ script.Silent S ls := by
  induction ls with
  | nil => exact iff_of_true rfl trivial
  | cons line ls ih =>
    rw [calling, Silent]
    by_cases hfails : script.Fails S line
    · rw [if_pos hfails]
      exact iff_of_true rfl (.inl hfails)
    rw [if_neg hfails, or_iff_right hfails]
    by_cases hcalls : script.Calls S line
    · rw [if_pos hcalls]
      exact iff_of_false (List.cons_ne_nil _ _) fun h => h.1 hcalls
    · rw [if_neg hcalls, ih, and_iff_right hcalls]

/-- Nothing comes of what stands behind a line that ends the script. -/
theorem calling_append (ls ms : List Text) :
    script.calling S (ls ++ ms) =
      script.calling S ls ++
        if ∃ line ∈ ls, script.Fails S line then [] else script.calling S ms := by
  induction ls with
  | nil => simp [calling]
  | cons line ls ih =>
    rw [List.cons_append, calling, calling]
    simp only [List.exists_mem_cons_iff]
    by_cases hfails : script.Fails S line
    · simp only [hfails, if_true, true_or, List.append_nil]
    · simp only [hfails, if_false, false_or, ih]
      split_ifs <;> rfl

theorem map_entryOf_inj {as bs : List (Text × Text)} (has : ∀ a ∈ as, a.1 ∈ outputKeys.map Prod.fst)
    (hbs : ∀ b ∈ bs, b.1 ∈ outputKeys.map Prod.fst) :
    as.map (entryOf S) = bs.map (entryOf S) ↔ List.Forall₂ (Alike S) as bs := by
  induction as generalizing bs with
  | nil => cases bs <;> simp
  | cons a as ih =>
    cases bs with
    | nil => simp
    | cons b bs =>
      obtain ⟨ha, has⟩ := List.forall_mem_cons.1 has
      obtain ⟨hb, hbs⟩ := List.forall_mem_cons.1 hbs
      rw [List.map_cons, List.map_cons, List.cons.injEq, List.forall₂_cons, entryOf_inj ha hb,
        ih has hbs]

/-- Two files give the same entries if and only if their lines that call for one are alike. -/
theorem entries_inj :
    script.entries S ls = script.entries S ms ↔
      List.Forall₂ (Alike S) (script.calling S ls) (script.calling S ms) := by
  rw [entries_eq_map, entries_eq_map]
  exact map_entryOf_inj (fun a => key_of_calling) fun b => key_of_calling

/-- The first lines of a file give all its entries if and only if one of them ends the script, or
none of the others calls for an entry. -/
theorem entries_firstLines (h : ls <+: ms) :
    script.entries S ls = script.entries S ms ↔
      (∃ line ∈ ls, script.Fails S line) ∨ script.Silent S (ms.drop ls.length) := by
  obtain ⟨rest, rfl⟩ := h
  rw [List.drop_left, entries_eq_map, entries_eq_map, calling_append, List.map_append,
    List.self_eq_append_right, List.map_eq_nil_iff, ← calling_eq_nil]
  split_ifs with hfails
  · exact iff_of_true rfl (.inl hfails)
  · rw [or_iff_right hfails]

end Script

end Entries

/-! ### The second run -/

/-- Run the script again after it was killed: the output file is that of one run, on the input file
as it now is. -/
def Restarts (J : Job) (later : Option Text) (steps : ℕ) (output : Option Output) : Prop :=
  { J with input := later }.complete (J.killed steps output) =
    { J with input := later }.complete output

/-- The lines that a run has handled when it is killed. -/
def Job.handled (J : Job) (steps : ℕ) : List Text := (inputLines J.input).take (steps - 4)

/-- What a run leaves that is killed behind `chmod`. -/
theorem Job.killed_chmod (J : Job) {steps : ℕ} (h : 3 ≤ steps) :
    J.killed steps none = some ⟨J.script.mode, J.script.entries J.shell (J.handled steps)⟩ := by
  obtain ⟨n, rfl⟩ := Nat.exists_eq_add_of_le' h
  cases n with
  | zero => rfl
  | succ n => exact J.killed_opened n

/-- Of a file that was missing, or is as it was, the first lines were handled. -/
theorem Job.handled_firstLines (J : Job) {later : Option Text}
    (h : J.input = none ∨ J.input = later) (steps : ℕ) :
    J.handled steps <+: inputLines later := by
  unfold Job.handled
  rcases h with h | h
  · rw [h, inputLines, Option.elim_none, List.take_nil]
    exact List.nil_prefix
  · rw [h]
    exact List.take_prefix _ _

/-- What the killed run has left does no harm. -/
def Harmless (J : Job) (later : Option Text) (steps : ℕ) : Prop :=
  if steps ≤ 1 then True
  -- the mode is not set yet
  else if steps = 2 then
    J.newMode = J.script.mode ∧ J.script.Silent J.shell (inputLines later)
  -- the input file is as it was, or was missing: the lines that were handled are its first ones
  else if J.input = none ∨ J.input = later then
    (∃ line ∈ J.handled steps, J.script.Fails J.shell line) ∨
      J.script.Silent J.shell ((inputLines later).drop (J.handled steps).length)
  -- it was replaced
  else List.Forall₂ (Alike J.shell) (J.script.calling J.shell (J.handled steps))
    (J.script.calling J.shell (inputLines later))

/-- **A second run repairs** what a killed run has left, if and only if there was an output file
before, or the killed run has done no harm. -/
theorem restarts_iff (J : Job) (later : Option Text) (steps : ℕ) (output : Option Output) :
    Restarts J later steps output ↔ output.isSome = true ∨ Harmless J later steps := by
  unfold Restarts
  cases output with
  | some o =>
    rw [Job.killed_some]
    simp
  | none =>
    simp only [Option.isSome_none, Bool.false_eq_true, false_or, Harmless]
    split_ifs with hone htwo hinput
    · obtain rfl | rfl : steps = 0 ∨ steps = 1 := by omega
      · exact iff_of_true rfl trivial
      · exact iff_of_true rfl trivial
    · have hkilled : J.killed 2 none = some ⟨J.newMode, []⟩ := rfl
      rw [htwo, hkilled, Job.complete_some, Job.complete_none, Option.some.injEq,
        Output.mk.injEq, eq_comm (a := []), Script.entries_eq_map, List.map_eq_nil_iff,
        Script.calling_eq_nil]
    · rw [J.killed_chmod (by omega), Job.complete_some, Job.complete_none, Option.some.injEq,
        Output.mk.injEq, and_iff_right rfl]
      exact Script.entries_firstLines (J.handled_firstLines hinput steps)
    · rw [J.killed_chmod (by omega), Job.complete_some, Job.complete_none, Option.some.injEq,
        Output.mk.injEq, and_iff_right rfl]
      exact Script.entries_inj

/-- A calibration file with a crystal trim. -/
def trimFile : Text := "UWB_cal_tx_xtal_reg_final_value,20\n".toList

/-- Killed behind `chmod`, the script leaves an empty output file for good. -/
theorem trimFile_not_restarts :
    ¬ Restarts ⟨.narrow, .calib, some trimFile, 0o600⟩ (some trimFile) 3 none := by
  unfold Restarts
  decide

end Uwb

end Gs101
