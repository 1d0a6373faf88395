import Gs101.Uwb.Restart

/-!
# UWB factory calibration: only the crystal trim

`init.uwb.calib.xtal.sh` is there to use the crystal trim of the factory calibration and nothing
else.  It is run beside `init.uwb.calib.sh`, on the same input file and without an output file.

* `trims`: those of some entries that set the crystal trim;
* `Script.rest`: the lines from the first on at which arithmetic fails;
* `entries_xtal`: the entries of the shorter script are the trims of the longer one, and then what
  the shorter one finds in the lines that the longer one does not reach;
* `killed_xtal`: so it is when the two are killed, after any number of steps.
-/

namespace Gs101

namespace Uwb

open Shell Script

/-- The entry sets the crystal trim. -/
def isTrim (entry : Text) : Bool := xtalTrim.isPrefixOf entry

def trims (entries : List Text) : List Text := entries.filter isTrim

/-- The lines from the first on at which arithmetic fails. -/
def Script.rest (S : Shell) (script : Script) : List Text → List Text
  | [] => []
  | line :: ls =>
      match script.handleLine S line with
      | some _ => rest S script ls
      | none => line :: ls

/-- What a run without an output file has written when it is killed. -/
def written (J : Job) (steps : ℕ) : Option (List Text) :=
  (J.killed steps none).map Output.entries

variable {S : Shell}

/-! ### One line -/

theorem trims_append (es es' : List Text) : trims (es ++ es') = trims es ++ trims es' :=
  List.filter_append es es'

theorem isTrim_xtalTrim (value : Text) : isTrim (xtalTrim ++ value) = true :=
  List.isPrefixOf_iff_prefix.2 (List.prefix_append xtalTrim value)

/-- An entry that begins otherwise is none. -/
theorem isTrim_of_head {c : Char} {out : Text} (h : c ≠ 'x') : isTrim (c :: out) = false := by
  have hx : xtalTrim = 'x' :: xtalTrim.tail := by decide
  rw [isTrim, hx, List.isPrefixOf_cons_cons, beq_false_of_ne (Ne.symm h), Bool.false_and]

theorem trims_handleXtal {f2 : Text} {es : List Text} (h : handleXtal S f2 = some es) :
    trims es = es := by
  obtain ⟨value, -, h⟩ := Option.bind_eq_some_iff.1 h
  obtain rfl := Option.some.inj h
  exact List.filter_cons_of_pos (isTrim_xtalTrim _)

theorem trims_handleDelay {c : Char} {out f2 : Text} {es : List Text} (hc : c ≠ 'x')
    (h : handleDelay S (c :: out) f2 = some es) : trims es = [] := by
  obtain rfl := Option.some.inj h
  exact List.filter_cons_of_neg (by rw [List.cons_append, isTrim_of_head hc]; decide)

theorem trims_handlePdoa {c : Char} {out f2 : Text} {es : List Text} (hc : c ≠ 'x')
    (h : handlePdoa S (c :: out) f2 = some es) : trims es = [] := by
  obtain ⟨ones, -, h⟩ := Option.bind_eq_some_iff.1 h
  split_ifs at h
  · obtain ⟨dec, -, h⟩ := Option.bind_eq_some_iff.1 h
    obtain ⟨offset, -, h⟩ := Option.bind_eq_some_iff.1 h
    obtain rfl := Option.some.inj h
    exact List.filter_cons_of_neg (by rw [List.cons_append, isTrim_of_head hc]; decide)
  · obtain rfl := Option.some.inj h
    rfl

/-- A case of `init.uwb.calib.sh` that does not fail, as `init.uwb.calib.xtal.sh` has it. -/
theorem handle_xtal {f1 f2 : Text} {es : List Text} (h : calib.handle S f1 f2 = some es) :
    calibXtal.handle S f1 f2 = some (trims es) := by
  unfold Script.handle at h ⊢
  split_ifs at h ⊢
  · rw [trims_handleXtal h, h]
  · rw [trims_handleDelay (by decide) h]
  · rw [trims_handleDelay (by decide) h]
  · rw [trims_handleDelay (by decide) h]
  · rw [trims_handleDelay (by decide) h]
  · rw [trims_handlePdoa (by decide) h]
  · rw [trims_handlePdoa (by decide) h]
  · obtain rfl := Option.some.inj h
    rfl

theorem handleLine_xtal_of_some {line : Text} {es : List Text}
    (h : calib.handleLine S line = some es) : calibXtal.handleLine S line = some (trims es) :=
  handle_xtal h

/-! ### All lines -/

/-- The shorter script has the trims of the longer one, and goes on where that one has failed. -/
theorem entries_xtal (S : Shell) (ls : List Text) :
    calibXtal.entries S ls =
      trims (calib.entries S ls) ++ calibXtal.entries S (calib.rest S ls) := by
  induction ls with
  | nil => rfl
  | cons line ls ih =>
    cases h : calib.handleLine S line with
    | none =>
      have hentries : calib.entries S (line :: ls) = [] := by simp only [entries, h]
      have hrest : calib.rest S (line :: ls) = line :: ls := by simp only [rest, h]
      rw [hentries, hrest]
      rfl
    | some es =>
      have hentries : calib.entries S (line :: ls) = es ++ calib.entries S ls := by
        simp only [entries, h]
      have hrest : calib.rest S (line :: ls) = calib.rest S ls := by simp only [rest, h]
      have hxtal : calibXtal.entries S (line :: ls) = trims es ++ calibXtal.entries S ls := by
        simp only [entries, handleLine_xtal_of_some h]
      rw [hentries, hrest, hxtal, ih, trims_append, List.append_assoc]

/-! ### Whole runs -/

/-- The output file is there from the second step on, and empty for two more. -/
theorem written_eq (J : Job) (steps : ℕ) :
    written J steps =
      if steps ≤ 1 then none
      else some (J.script.entries J.shell ((inputLines J.input).take (steps - 4))) := by
  unfold written
  match steps with
  | 0 => rfl
  | 1 => rfl
  | 2 => rfl
  | 3 => rfl
  | n + 4 =>
    rw [Job.killed_opened, if_neg (by omega)]
    rfl

/-- **Only the crystal trim**: killed after the same number of steps, the shorter script has written
the trims of the longer one, in order, and behind them the trims that it has found from the line on
at which the longer one has failed. -/
theorem killed_xtal (S : Shell) (input : Option Text) (newMode newMode' steps : ℕ) :
    written ⟨S, calibXtal, input, newMode⟩ steps =
      (written ⟨S, calib, input, newMode'⟩ steps).map fun entries =>
        trims entries ++
          calibXtal.entries S (calib.rest S ((inputLines input).take (steps - 4))) := by
  rw [written_eq, written_eq]
  split_ifs
  · rfl
  · rw [Option.map_some, ← entries_xtal]

/-- A calibration file whose first line is not a decimal. -/
def badOffsetFile : Text :=
  "UWB_RX2_CH5_cal_pdoa_data,x\nUWB_cal_tx_xtal_reg_final_value,20\n".toList

/-- The longer script ends at the offset, and the shorter one sets the trim behind it. -/
example :
    written ⟨.narrow, calib, some badOffsetFile, 0o600⟩ 7 = some [] ∧
      written ⟨.narrow, calibXtal, some badOffsetFile, 0o600⟩ 7 =
        some ["xtal_trim=0x20".toList] := by
  decide

end Uwb

end Gs101
