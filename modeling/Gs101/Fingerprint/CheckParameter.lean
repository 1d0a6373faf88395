import Gs101.Lib.Buffer
import Mathlib.Data.Int.Notation

/-!
# fp_test: the command line

`checkParameter` copies its argument into a buffer of `STRING_SIZE` bytes, and compares it with each
of the options, the NUL included.

* `checkParameter`: the function, with a log of the bytes that it writes into `parameter`;
* `matchOption_within`: the chain of comparisons tells the options apart exactly;
* `checked_iff`: the answer is right and the copy stays in the buffer unless the argument has just
  `STRING_SIZE` characters.
-/

namespace Gs101

namespace Fingerprint

open Buffer Logged

def STRING_SIZE : ℕ := 32

def ERROR : ℤ := 1

/-- A string of the program's arguments, without its NUL. -/
abbrev CString := {text : List Char // nul ∉ text}

/-- The chain of `strncmp`s: each option with the command that it stands for. -/
def options : List (List Char × Char) :=
  [("-a".toList, 'a'), ("-n".toList, 'n'), ("-i".toList, 'n'), ("-e".toList, 'e'),
    ("-d".toList, 'd')]

/-- `strncmp(parameter, option, sizeof(option))` with one option after the other. -/
def matchOption (parameter : List Char) : List (List Char × Char) → Reads ℤ
  | [] => return -ERROR
  | (option, command) :: rest => do
      let same ← sameBytes ⟨0, parameter⟩ (option ++ [nul])
      if same then return (command.toNat : ℤ) else matchOption parameter rest

/-- `checkParameter`; `past` is what the stack holds behind `parameter`. -/
def checkParameter (past : List Char) (num : ℤ) (strArray : ℕ → CString) : Writes ℤ :=
  let parameter := List.replicate STRING_SIZE nul
  if num ≠ 2 ∨ (strArray 1).val.length > STRING_SIZE then return -ERROR
  else do
    let memory ← strcpy (parameter ++ past) (strArray 1).val
    peek (matchOption memory options)

/-- One argument, which is an option. -/
def IsCommand (num : ℤ) (strArray : ℕ → CString) : Prop :=
  num = 2 ∧ (strArray 1).val ∈ options.map Prod.fst

/-- A command is returned for an option and for nothing else, and at most `STRING_SIZE` bytes are
written into `parameter`. -/
def Checked (past : List Char) (num : ℤ) (strArray : ℕ → CString) : Prop :=
  Ends (checkParameter past num strArray) fun log ret =>
    (ret ≠ -ERROR ↔ IsCommand num strArray) ∧ log.length ≤ STRING_SIZE

variable {past : List Char} {num : ℤ} {strArray : ℕ → CString}

/-- The comparison includes the NUL, so that only an option is found. -/
theorem matchOption_within {a b : List Char} (ha : nul ∉ a) {l : List (List Char × Char)}
    (hl : ∀ o ∈ l, nul ∉ o.1) :
    Within a.length (matchOption (a ++ nul :: b) l) fun ret =>
      ret ≠ -ERROR ↔ a ∈ l.map Prod.fst := by
  induction l with
  | nil => exact within_pure.2 (iff_of_false (not_not.2 rfl) List.not_mem_nil)
  | cons o l ih =>
    obtain ⟨ho, hl⟩ := List.forall_mem_cons.1 hl
    refine (compareBytes_nul_within ha ho (Nat.zero_add _).le).bind_eq ?_
    rw [List.map_cons, List.mem_cons]
    by_cases hsame : a = o.1
    · rw [if_pos (decide_eq_true hsame)]
      have hret : (o.2.toNat : ℤ) ≠ -ERROR := by
        show (o.2.toNat : ℤ) ≠ -1
        omega
      exact within_pure.2 (iff_of_true hret (.inl hsame))
    · rw [if_neg (by simpa using hsame)]
      simpa only [hsame, false_or] using ih hl

theorem options_length : ∀ text ∈ options.map Prod.fst, text.length < STRING_SIZE := by decide

/-- An argument that fills the buffer passes the guard, and its NUL is written behind the buffer. -/
theorem not_checked_of_full (hnum : num = 2) (hfull : (strArray 1).val.length = STRING_SIZE) :
    ¬ Checked past num strArray := by
  have hguard : ¬ (num ≠ 2 ∨ (strArray 1).val.length > STRING_SIZE) := by omega
  have hcopy : (strcpy (List.replicate STRING_SIZE nul ++ past) (strArray 1).val).log.length =
      (strArray 1).val.length + 1 := by
    refine length_log_copyBytes ?_
    rw [List.length_append, List.length_replicate]
    omega
  rw [Checked, checkParameter, if_neg hguard]
  rintro ⟨ret, -, -, hlog⟩
  have hle := (log_prefix_bind (strcpy (List.replicate STRING_SIZE nul ++ past)
    (strArray 1).val) fun memory => peek (matchOption memory options)).length_le
  omega

/-- **The parameter is checked** unless the argument has as many characters as the buffer has
bytes. -/
theorem checked_iff (past : List Char) (num : ℤ) (strArray : ℕ → CString) :
    Checked past num strArray ↔ ¬ (num = 2 ∧ (strArray 1).val.length = STRING_SIZE) := by
  by_cases hguard : num ≠ 2 ∨ (strArray 1).val.length > STRING_SIZE
  · -- the guard returns
    have hcommand : ¬ IsCommand num strArray := by
      rintro ⟨hnum, hoption⟩
      have hlength := options_length _ hoption
      omega
    refine iff_of_true ?_ (by omega)
    rw [Checked, checkParameter, if_pos hguard]
    exact ends_pure.2 ⟨iff_of_false (not_not.2 rfl) hcommand, Nat.zero_le _⟩
  · obtain ⟨hnum, hlength⟩ := not_or.1 hguard
    have hnum : num = 2 := not_not.1 hnum
    constructor
    · rintro h ⟨-, hfull⟩
      exact not_checked_of_full hnum hfull h
    · intro hfull
      have hcopy : Ends (strcpy (List.replicate STRING_SIZE nul ++ past) (strArray 1).val)
          fun log copied => log.length = (strArray 1).val.length + 1 ∧
            ∃ rest, copied = (strArray 1).val ++ nul :: rest := by
        refine copyBytes_ends ?_
        rw [List.length_append, List.length_replicate]
        omega
      rw [Checked, checkParameter, if_neg hguard]
      refine ends_bind.2 (hcopy.mono ?_)
      rintro log copied ⟨hlog, rest, rfl⟩
      refine (ends_peek (matchOption_within (strArray 1).prop (by decide))).mono ?_
      rintro log' ret ⟨rfl, hret⟩
      refine ⟨hret.trans (and_iff_right hnum).symm, ?_⟩
      rw [List.append_nil, hlog]
      omega

/-- Thirty-two characters pass the guard, and thirty-three bytes are written. -/
theorem fullParameter_not_checked :
    ¬ Checked (List.replicate 8 nul) 2 fun _ => ⟨List.replicate 32 'x', by decide⟩ :=
  not_checked_of_full rfl List.length_replicate

end Fingerprint

end Gs101
