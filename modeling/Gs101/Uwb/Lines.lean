import Gs101.Uwb.Restart

/-!
# UWB factory calibration: no line lost

A well-formed calibration file is a sequence of lines `key,value`, the last of which may lack its
newline.

* `CalibLine`: a line, with a value of the right kind if the key is recognised;
* `Kept`: `init.uwb.calib.sh` appends one entry for each line whose key is recognised, in order,
  and nothing else;
* `kept_iff`: it does so if and only if the last line ends with a newline or is of no interest:
  `read` fails on a line without a newline, and the loop ends before its body.
-/

namespace Gs101

namespace Uwb

open Shell

/-- The value is of the kind that the key calls for: a decimal with two digits behind the point, or
hexadecimal digits. -/
def WellFormed (key value : Text) : Prop :=
  if key = kCh5Pdoa ∨ key = kCh9Pdoa then ∃ v : DecimalText, v.text = value
  else (outputKey key).isSome = true → IsHex value

/-- A line of a well-formed file. -/
structure CalibLine where
  key : Text
  value : Text
  noComma : ',' ∉ key
  oneLineKey : '\n' ∉ key
  oneLineValue : '\n' ∉ value
  wellFormed : WellFormed key value

namespace CalibLine

def text (l : CalibLine) : Text := l.key ++ ',' :: l.value

/-- The key is recognised. -/
def recognised (l : CalibLine) : Bool := (outputKey l.key).isSome

end CalibLine

/-- The content of a file with these lines, with or without the last newline. -/
def fileContent (ls : List CalibLine) (terminated : Bool) : Text :=
  let content := ls.flatMap fun l => l.text ++ ['\n']
  if terminated then content else content.dropLast

/-- The entry is one for the line. -/
def EntryOf (l : CalibLine) (entry : Text) : Prop :=
  ∃ out, outputKey l.key = some out ∧ out <+: entry

/-- The script makes one entry for each line whose key is recognised, in order, and no other. -/
def Kept (S : Shell) (newMode : ℕ) (ls : List CalibLine) (terminated : Bool) : Prop :=
  ∃ entries, (Job.mk S .calib (some (fileContent ls terminated)) newMode).complete none =
      some ⟨Script.calib.mode, entries⟩ ∧
    List.Forall₂ EntryOf (ls.filter CalibLine.recognised) entries

/-! ### One line -/

variable {S : Shell}

theorem handleDelay_prefix (out : Text) (value : Text) :
    ∃ rest, handleDelay S out value = some [out ++ rest] := ⟨_, rfl⟩

theorem handleXtal_prefix {value : Text} (h : IsHex value) :
    ∃ rest, handleXtal S value = some [xtalTrim ++ rest] := ⟨_, handleXtal_hex h⟩

theorem handlePdoa_prefix (out : Text) (v : DecimalText) :
    ∃ rest, handlePdoa S out v.text = some [out ++ rest] := ⟨_, handlePdoa_decimal out v⟩

/-- A recognised key with a value of its kind has one entry. -/
theorem handle_recognised {key value out : Text} (h : outputKey key = some out)
    (hv : WellFormed key value) : ∃ rest, Script.calib.handle S key value = some [out ++ rest] := by
  have hmem : key ∈ Script.calib.keys := isSome_outputKey.1 (Option.isSome_of_eq_some h)
  rw [Script.handle_of_mem hmem, h, Option.getD_some]
  unfold WellFormed at hv
  split_ifs with hxtal hpdoa
  · subst hxtal
    obtain rfl : xtalTrim = out := Option.some.inj h
    rw [if_neg (by decide)] at hv
    exact handleXtal_prefix (hv rfl)
  · obtain ⟨v, rfl⟩ := (if_pos hpdoa).mp hv
    exact handlePdoa_prefix out v
  · exact handleDelay_prefix out value

/-- Any other key has none. -/
theorem handle_unrecognised {key : Text} (h : outputKey key = none) (value : Text) :
    Script.calib.handle S key value = some [] := by
  refine Script.handle_of_not_mem (fun hmem => ?_) value
  have hsome := isSome_outputKey.2 hmem
  rw [h] at hsome
  cases hsome

/-- A value of its kind holds no comma. -/
theorem comma_not_mem_of_wellFormed {key value : Text} (h : (outputKey key).isSome = true)
    (hv : WellFormed key value) : ',' ∉ value := by
  unfold WellFormed at hv
  split_ifs at hv with hpdoa
  · obtain ⟨v, rfl⟩ := hv
    exact v.comma_not_mem_text
  · exact comma_not_mem (hv h).isAlphanum

theorem CalibLine.handleLine_text (l : CalibLine) :
    (l.recognised = true ∧ ∃ entry, Script.calib.handleLine S l.text = some [entry] ∧
      EntryOf l entry) ∨
    (l.recognised = false ∧ Script.calib.handleLine S l.text = some []) := by
  unfold CalibLine.recognised
  cases h : outputKey l.key with
  | some out =>
    have hcomma : ',' ∉ l.value :=
      comma_not_mem_of_wellFormed (by rw [h, Option.isSome_some]) l.wellFormed
    obtain ⟨rest, hrest⟩ := handle_recognised (S := S) h l.wellFormed
    refine .inl ⟨rfl, out ++ rest, ?_, out, h, List.prefix_append _ _⟩
    unfold Script.handleLine CalibLine.text
    rw [readFields_append l.noComma hcomma]
    exact hrest
  | none =>
    refine .inr ⟨rfl, ?_⟩
    unfold Script.handleLine CalibLine.text
    rw [readFields_fst l.noComma]
    exact handle_unrecognised h _

/-! ### All lines -/

/-- The lines that are read have their entries. -/
theorem forall₂_entries (ls : List CalibLine) :
    List.Forall₂ EntryOf (ls.filter CalibLine.recognised)
      (Script.calib.entries S (ls.map CalibLine.text)) := by
  induction ls with
  | nil => exact .nil
  | cons l ls ih =>
    rw [List.map_cons, Script.entries]
    rcases l.handleLine_text (S := S) with ⟨hr, entry, hline, hentry⟩ | ⟨hr, hline⟩
    · rw [List.filter_cons_of_pos hr, hline]
      exact .cons hentry ih
    · rw [List.filter_cons_of_neg (by rw [hr]; decide), hline]
      exact ih

theorem CalibLine.newline_not_mem (l : CalibLine) : '\n' ∉ l.text := by
  unfold CalibLine.text
  rw [List.mem_append, List.mem_cons, not_or, not_or]
  exact ⟨l.oneLineKey, by decide, l.oneLineValue⟩

/-- The lines that are read: without the last newline the last one is lost. -/
theorem lines_fileContent (ls : List CalibLine) (terminated : Bool) :
    lines (fileContent ls terminated) =
      (if terminated then ls else ls.dropLast).map CalibLine.text :=
  lines_flatMap (fun l _ => l.newline_not_mem) terminated

/-- The script makes the entries of the lines that are read. -/
theorem complete_fileContent (newMode : ℕ) (ls : List CalibLine) (terminated : Bool) :
    (Job.mk S .calib (some (fileContent ls terminated)) newMode).complete none =
      some ⟨Script.calib.mode, Script.calib.entries S
        ((if terminated then ls else ls.dropLast).map CalibLine.text)⟩ := by
  rw [Job.complete_none, ← lines_fileContent]
  rfl

/-- **No line is lost** if and only if the last line ends with a newline, or its key is not
recognised. -/
theorem kept_iff (S : Shell) (newMode : ℕ) (ls : List CalibLine) (terminated : Bool) :
    Kept S newMode ls terminated ↔
      terminated = true ∨ ∀ l ∈ ls.getLast?, l.recognised = false := by
  have hkept : Kept S newMode ls terminated ↔
      List.Forall₂ EntryOf (ls.filter CalibLine.recognised) (Script.calib.entries S
        ((if terminated then ls else ls.dropLast).map CalibLine.text)) := by
    unfold Kept
    rw [complete_fileContent]
    simp
  rw [hkept]
  cases terminated with
  | true => exact iff_of_true (forall₂_entries ls) (.inl rfl)
  | false =>
    simp only [Bool.false_eq_true, if_false, false_or]
    rcases List.eq_nil_or_concat' ls with rfl | ⟨init, l, rfl⟩
    · exact iff_of_true .nil (by simp)
    · have hread := forall₂_entries (S := S) init
      simp only [List.dropLast_concat, List.getLast?_concat, Option.mem_some_iff, forall_eq',
        List.filter_append]
      constructor
      · intro h
        -- as many entries as lines that are read, so the last line has none
        have hlength := hread.length_eq.trans h.length_eq.symm
        rw [List.length_append, left_eq_add, List.length_eq_zero_iff] at hlength
        exact Bool.eq_false_iff.2 fun hr =>
          List.cons_ne_nil l [] ((List.filter_cons_of_pos hr).symm.trans hlength)
      · intro hr
        rw [List.filter_cons_of_neg (by rw [hr]; decide), List.filter_nil, List.append_nil]
        exact hread

/-- The line with the crystal trim. -/
def trimLine : CalibLine where
  key := kXtal
  value := "20".toList
  noComma := by decide
  oneLineKey := by decide
  oneLineValue := by decide
  wellFormed := by
    rw [WellFormed, if_neg (by decide)]
    decide

/-- A file of one line without a newline: its entry is lost. -/
theorem trimLine_lost : ¬ Kept .narrow 0o600 [trimLine] false := by
  rintro ⟨entries, hcomplete, hentries⟩
  rw [complete_fileContent] at hcomplete
  obtain rfl : [] = entries := (Output.mk.inj (Option.some.inj hcomplete)).2
  exact absurd hentries.length_eq (by decide)

end Uwb

end Gs101
