import Gs101.Lib.Bash
import Gs101.Lib.Runs
import Mathlib.Logic.Function.Basic

/-!
# UWB calibration: the files of the countries

`country_conf_gen.sh` turns `uwb_country.conf` into one file for each country, and prints the lines
that copy these files.

* `ConfLine`, `CountryConf`: the lines of a file of the described form, the last of which may lack
  its newline;
* `Gen`, `codeOf`, `body`, `readLine`, `countryConfGen`: the script, line by line;
* `codeOf_row`: the code that the script takes from a row;
* `readLine_cases`: what a line can do.

The array `country` and the counter are left out: nothing reads the one, and the other numbers the
codes in the order of their lines.
-/

namespace Gs101

namespace Uwb

open Shell Bash

/-! ### The file -/

/-- A line of `uwb_country.conf`. -/
inductive ConfLine
  | header (text : Text)
  | blank (text : Text)
  | row (name code : Text) (comma : Bool)

namespace ConfLine

def text : ConfLine → Text
  | header t => '*' :: t
  | blank t => t
  | row name code comma =>
      '"' :: name ++ ['"', ':'] ++ ' ' :: '"' :: code ++ '"' :: if comma then [','] else []

def WellFormed : ConfLine → Prop
  | header t => '\n' ∉ t ∧ '\x00' ∉ t
  | blank t => ∀ c ∈ t, c = ' ' ∨ c = '\t'
  | row name code _ => ('"' ∉ name ∧ '\\' ∉ name ∧ '\n' ∉ name ∧ '\x00' ∉ name) ∧
      code ≠ [] ∧ ∀ c ∈ code, c.isAlpha = true

def code? : ConfLine → Option Text
  | row _ code _ => some code
  | _ => none

end ConfLine

structure CountryConf where
  lines : List ConfLine
  /-- The last line ends with a newline. -/
  terminated : Bool
  wellFormed : ∀ l ∈ lines, l.WellFormed
  nodup : (lines.filterMap ConfLine.code?).Nodup

def CountryConf.content (conf : CountryConf) : Text :=
  let content := conf.lines.flatMap fun l => l.text ++ ['\n']
  if conf.terminated then content else content.dropLast

/-! ### The script -/

/-- The variables of the script, and the files that it has written.  `pending` is what `read` has
taken from lines that the next one continues. -/
@[ext] structure Gen where
  pending : List (Char × Bool)
  header : Text
  code : List Text
  files : Text → Option Text

namespace Gen

def start : Gen := ⟨[], [], [], fun _ => none⟩

def written (s : Gen) (file : Text) : Bool := (s.files file).isSome

/-- `> file`; `none` is a redirection that fails. -/
def overwrite (s : Gen) (file : Option Text) (content : Text) : Gen :=
  match file with
  | none => s
  | some file => { s with files := Function.update s.files file (some content) }

/-- `>> file`. -/
def append (s : Gen) (file : Option Text) (content : Text) : Gen :=
  match file with
  | none => s
  | some file =>
      { s with files := Function.update s.files file (some ((s.files file).getD [] ++ content)) }

end Gen

def restricted : Text := "restricted_channels=0x20".toList

def alternate : Text := "alternate_pulse_shape=0x01".toList

def fileName (code : Text) : Text := "UWB-calibration-".toList ++ code ++ ".conf".toList

variable (B : Bash) (files : Text → Bool)

/-- The code that the script takes from a line. -/
def codeOf (line : Text) : Text :=
  let line := delete '"' (B.echoWords files (line.erase ','))
  delete ' ' (cutSecond ':' (B.echoWords files line))

/-- The file that `UWB-calibration-${code[$count]}.conf` names; a target of several words, or in
a directory that is not there, is an error. -/
def target (code : Text) : Option Text :=
  match B.expand files (fileName code) with
  | [file] => if '/' ∈ file then none else some file
  | _ => none

/-- The file of a country. -/
def writeFile (s : Gen) (code : Text) : Gen :=
  if s.header = restricted then
    let s := s.overwrite (target B s.written code) (echo [alternate])
    s.append (target B s.written code) (echo [s.header])
  else s.overwrite (target B s.written code) (echo [s.header])

/-- The body of the loop. -/
def body (s : Gen) (line : Text) : Gen :=
  if line.head? = some '*' then { s with header := line.drop 1 }
  else if line.head? = some '"' then
    let code := codeOf B s.written line
    writeFile B { s with code := s.code ++ [code] } code
  else s

/-- `while read line`, for one more line of the file. -/
def readLine (s : Gen) (line : Text) : Gen :=
  if (unescape line).2 then { s with pending := s.pending ++ (unescape line).1 }
  else body B { s with pending := [] } (strip (s.pending ++ (unescape line).1))

def countryConfGen (content : Text) : Gen := Runs.run (readLine B) Gen.start (lines content)

/-- The line that copies the file with this code. -/
def copyFile (code : Text) : Text :=
  "$(LOCAL_UWB_CAL_DIR)/".toList ++ fileName code ++ ":$(TARGET_COPY_OUT_VENDOR)/etc/".toList ++
    fileName code ++ " \\".toList

/-- `$var` is not set. -/
def banner : Text := "==============    ==============".toList

/-- The lines that the script prints. -/
def output (s : Gen) : List Text :=
  banner :: (s.code.flatMap (B.expand s.written)).map copyFile

/-! ### A row -/

/-- The name as the shell expands it twice, before and behind `tr`, without the colon that
follows it. -/
def shownName (name : Text) : Text :=
  (B.echoWords files
    (delete '"' (B.echoWords files ('"' :: name.erase ',' ++ ['"', ':'])))).dropLast

/-- The code of a row comes through: the name shows no colon, and no comma before a trailing one;
or what it shows behind its first colon, up to the next, is the code, blanks apart. -/
def CodeShown (name code : Text) (comma : Bool) : Prop :=
  (':' ∉ shownName B files name ∧ ¬ (',' ∈ name ∧ comma = true)) ∨
    (':' ∈ shownName B files name ∧ delete ' ' (cutSecond ':' (shownName B files name)) = code)

variable {B files} {name code : Text} {comma : Bool}

theorem ne_of_isAlpha {c d : Char} (hc : c.isAlpha = true) (hd : d.isAlpha = false) : c ≠ d := by
  rintro rfl
  exact Bool.false_ne_true (hd.symm.trans hc)

theorem notMem_of_isAlpha {d : Char} (hcode : ∀ c ∈ code, c.isAlpha = true)
    (hd : d.isAlpha = false) : d ∉ code :=
  fun h => ne_of_isAlpha (hcode d h) hd rfl

/-- Behind the code there may be a comma. -/
theorem notMem_code_append {d : Char} {t : Text} (hcode : ∀ c ∈ code, c.isAlpha = true)
    (ht : ∀ c ∈ t, c = ',') (hd : d.isAlpha = false) (hcomma : d ≠ ',') : d ∉ code ++ t := by
  intro h
  rcases List.mem_append.1 h with h | h
  · exact notMem_of_isAlpha hcode hd h
  · exact hcomma (ht d h)

/-- The comma that is deleted is the first one: a comma of the name, or else the trailing one. -/
theorem erase_text (hcode : ∀ c ∈ code, c.isAlpha = true) :
    (ConfLine.text (.row name code comma)).erase ',' =
      '"' :: name.erase ',' ++ ['"'] ++ [':'] ++
        ' ' :: ('"' :: code ++ '"' :: if ',' ∈ name ∧ comma = true then [','] else []) := by
  have hcomma : ',' ∉ code := notMem_of_isAlpha hcode rfl
  by_cases hname : ',' ∈ name
  · simp [ConfLine.text, List.erase_append_left _ hname, hname]
  · cases comma with
    | false => simp [ConfLine.text, List.erase_of_not_mem, hname, hcomma]
    | true => simp [ConfLine.text, List.erase_append, List.erase_of_not_mem, hname, hcomma]

/-- A word of letters, and other characters that are neither blanks nor patterns. -/
theorem isPlain_and_unblank {w : Text}
    (h : ∀ c ∈ w, c.isAlpha = true ∨ (isPlain [c] && !isBlank c) = true) :
    isPlain w = true ∧ ∀ c ∈ w, isBlank c = false := by
  have hchar : ∀ c ∈ w, (isPlain [c] && !isBlank c) = true := by
    intro c hc
    refine (h c hc).elim (fun halpha => ?_) id
    have hpattern : c ≠ '*' ∧ c ≠ '?' ∧ c ≠ '[' ∧ c ≠ '\\' :=
      ⟨ne_of_isAlpha halpha rfl, ne_of_isAlpha halpha rfl, ne_of_isAlpha halpha rfl,
        ne_of_isAlpha halpha rfl⟩
    have hblank : c ≠ ' ' ∧ c ≠ '\t' ∧ c ≠ '\n' :=
      ⟨ne_of_isAlpha halpha rfl, ne_of_isAlpha halpha rfl, ne_of_isAlpha halpha rfl⟩
    simp [isPlain, isBlank, hpattern, hblank]
  constructor
  · refine List.all_eq_true.2 fun c hc => ?_
    have hplain := (Bool.and_eq_true_iff.1 (hchar c hc)).1
    rwa [isPlain, List.all_cons, List.all_nil, Bool.and_true] at hplain
  · intro c hc
    have hblank := (Bool.and_eq_true_iff.1 (hchar c hc)).2
    rwa [Bool.not_eq_true'] at hblank

/-- What the line of a row shows in the end: the name, a colon, and the code with the comma that is
left. -/
theorem echoWords_row (hcode : ∀ c ∈ code, c.isAlpha = true) (hne : code ≠ []) :
    B.echoWords files (delete '"' (B.echoWords files
        ((ConfLine.text (.row name code comma)).erase ','))) =
      shownName B files name ++
        ':' :: ' ' :: (code ++ if ',' ∈ name ∧ comma = true then [','] else []) := by
  generalize ht : (if ',' ∈ name ∧ comma = true then [','] else []) = t
  have ht' : ∀ c ∈ t, c = ',' := by
    intro c hc
    rw [← ht] at hc
    split_ifs at hc
    · exact List.mem_singleton.1 hc
    · exact absurd hc List.not_mem_nil
  have hquoted : ∀ c ∈ '"' :: code ++ '"' :: t,
      c.isAlpha = true ∨ (isPlain [c] && !isBlank c) = true := by
    intro c hc
    simp only [List.cons_append, List.mem_cons, List.mem_append] at hc
    rcases hc with rfl | h | rfl | h
    · exact .inr rfl
    · exact .inl (hcode c h)
    · exact .inr rfl
    · exact .inr (ht' c h ▸ rfl)
  have hbare : ∀ c ∈ code ++ t, c.isAlpha = true ∨ (isPlain [c] && !isBlank c) = true :=
    fun c hc => (List.mem_append.1 hc).imp (hcode c) fun h => ht' c h ▸ rfl
  have hdelete : delete '"' ('"' :: code ++ '"' :: t) = code ++ t := by
    rw [List.cons_append, delete_cons_self, delete_append, delete_cons_self, ← delete_append,
      delete_of_notMem (notMem_code_append hcode ht' rfl (by decide))]
  -- the first time, with the quotes
  obtain ⟨u, hu⟩ : ∃ u, B.echoWords files ('"' :: name.erase ',' ++ ['"'] ++ [':']) = u ++ [':'] :=
    echoWords_concat rfl _
  have hfirst : delete '"' (B.echoWords files ((ConfLine.text (.row name code comma)).erase ',')) =
      delete '"' u ++ [':'] ++ ' ' :: (code ++ t) := by
    rw [erase_text hcode, ht, echoWords_append rfl (by simp) (isPlain_and_unblank hquoted).2
      (isPlain_and_unblank hquoted).1, hu, ← hdelete, delete_append, delete_append]
    rfl
  -- the second time, without
  obtain ⟨v, hv⟩ : ∃ v, B.echoWords files (delete '"' u ++ [':']) = v ++ [':'] :=
    echoWords_concat rfl _
  have hshown : shownName B files name = v := by
    have hu' : delete '"' (u ++ [':']) = delete '"' u ++ [':'] := delete_append _ _ _
    rw [shownName, show ['"', ':'] = ['"'] ++ [':'] from rfl, ← List.append_assoc, hu, hu', hv,
      List.dropLast_concat]
  rw [hfirst, echoWords_append rfl (by simp [hne]) (isPlain_and_unblank hbare).2
    (isPlain_and_unblank hbare).1, hv, hshown, List.append_assoc, List.singleton_append]

/-- **A row's code comes through** if and only if the shell shows its name so. -/
theorem codeOf_row (hcode : ∀ c ∈ code, c.isAlpha = true) (hne : code ≠ []) :
    codeOf B files (ConfLine.text (.row name code comma)) = code ↔
      CodeShown B files name code comma := by
  unfold codeOf CodeShown
  dsimp only
  rw [echoWords_row hcode hne]
  by_cases hcolon : ':' ∈ shownName B files name
  · rw [cutSecond_of_mem hcolon]
    simp [hcolon]
  · have hlast : ∀ t : Text, (∀ c ∈ t, c = ',') →
        delete ' ' (cutSecond ':' (shownName B files name ++ ':' :: ' ' :: (code ++ t))) =
          code ++ t := by
      intro t ht
      have hbehind : ':' ∉ ' ' :: (code ++ t) :=
        List.mem_cons.not.2 (not_or.2 ⟨by decide, notMem_code_append hcode ht rfl (by decide)⟩)
      rw [cutSecond_append hcolon, CText.takeWhile_ne_of_notMem hbehind, delete_cons_self,
        delete_of_notMem (notMem_code_append hcode ht rfl (by decide))]
    split_ifs with hcomma
    · rw [hlast [','] (by simp)]
      simp [hcolon, hcomma]
    · rw [hlast [] (by simp), List.append_nil]
      simp [hcolon, hcomma]

example : codeOf Bash.matchless (fun _ => false) "\"Solomon Islands\": \"sb\",".toList =
    "sb".toList := by decide

/-! ### Codes and targets -/

/-- A code that came from a line without backslashes has no blanks, and no backslashes. -/
theorem isClean_of_mem_codeOf (hfiles : ∀ v, files v = true → IsPath v) {line : Text}
    (hline : '\\' ∉ line) {c : Char} (hc : c ∈ codeOf B files line) : isClean c = true := by
  have hfirst : '\\' ∉ delete '"' (B.echoWords files (line.erase ',')) := by
    intro h
    rcases isClean_of_mem_echoWords hfiles (mt (fun h => List.mem_of_mem_erase h) hline)
      (List.mem_of_mem_filter h) with h | h
    · exact absurd h (by decide)
    · exact absurd h (by decide)
  have hcut := List.mem_filter.1 hc
  have hsecond := isClean_of_mem_echoWords hfiles hfirst (mem_of_mem_cutSecond hcut.1)
  exact hsecond.resolve_left (of_decide_eq_true hcut.2)

theorem isClean_of_isAlpha {c : Char} (hc : c.isAlpha = true) : isClean c = true := by
  have hne : c ≠ ' ' ∧ c ≠ '\t' ∧ c ≠ '\n' ∧ c ≠ '\\' :=
    ⟨ne_of_isAlpha hc rfl, ne_of_isAlpha hc rfl, ne_of_isAlpha hc rfl, ne_of_isAlpha hc rfl⟩
  simp [isClean, isBlank, hne]

theorem fileName_eq (code : Text) :
    fileName code = "UWB-calibration-".toList ++ (code ++ ".conf".toList) :=
  List.append_assoc _ _ _

theorem isPath_fileName (hcode : ∀ c ∈ code, isClean c = true) : IsPath (fileName code) := by
  have hdot : '.' ∈ ".conf".toList := by decide
  have hbefore : "UWB-calibration-".toList.all isClean = true := by decide
  have hbehind : ".conf".toList.all isClean = true := by decide
  rw [fileName_eq]
  refine ⟨.inl (List.mem_append_right _ (List.mem_append_right _ hdot)), ?_⟩
  rw [List.all_append, List.all_append, hbefore, List.all_eq_true.2 hcode, hbehind]
  rfl

theorem expand_fileName (hcode : ∀ c ∈ code, isClean c = true) :
    B.expand files (fileName code) = B.glob files (fileName code) := by
  refine expand_word ?_ fun c hc => ?_
  · rw [fileName_eq]
    simp
  · have hclean : isClean c = true := List.all_eq_true.1 (isPath_fileName hcode).2 c hc
    rw [isClean, Bool.and_eq_true, Bool.not_eq_true'] at hclean
    exact hclean.1

/-- A file that is written has a dot in its name, or a directory. -/
theorem isPath_of_target (hfiles : ∀ v, files v = true → IsPath v)
    (hcode : ∀ c ∈ code, isClean c = true) {file : Text}
    (h : target B files code = some file) : IsPath file := by
  unfold target at h
  rw [expand_fileName hcode] at h
  split at h
  · rename_i file' hglob
    split_ifs at h with hslash
    cases h
    rcases B.glob_eq files (fileName code) with hsame | hpaths
    · rw [hsame] at hglob
      cases hglob
      exact isPath_fileName hcode
    · have hfile := hpaths file (hglob ▸ List.mem_singleton_self file)
      exact hfile.elim id (hfiles file)
  · cases h

/-- The file that a code of letters names. -/
theorem target_letters (hcode : ∀ c ∈ code, c.isAlpha = true) :
    target B files code = some (fileName code) := by
  have hbefore : "UWB-calibration-".toList.all (fun c => (isPlain [c] && !isBlank c) && c ≠ '/') =
      true := by decide
  have hbehind : ".conf".toList.all (fun c => (isPlain [c] && !isBlank c) && c ≠ '/') = true := by
    decide
  have hchars : ∀ c ∈ fileName code,
      (c.isAlpha = true ∨ (isPlain [c] && !isBlank c) = true) ∧ c ≠ '/' := by
    intro c hc
    rw [fileName_eq, List.mem_append, List.mem_append] at hc
    rcases hc with hc | hc | hc
    · have h := Bool.and_eq_true_iff.1 (List.all_eq_true.1 hbefore c hc)
      exact ⟨.inr h.1, of_decide_eq_true h.2⟩
    · exact ⟨.inl (hcode c hc), ne_of_isAlpha (hcode c hc) rfl⟩
    · have h := Bool.and_eq_true_iff.1 (List.all_eq_true.1 hbehind c hc)
      exact ⟨.inr h.1, of_decide_eq_true h.2⟩
  have hplain : isPlain (fileName code) = true :=
    (isPlain_and_unblank fun c hc => (hchars c hc).1).1
  unfold target
  rw [expand_fileName fun c hc => isClean_of_isAlpha (hcode c hc), B.glob_plain files _ hplain]
  exact if_neg fun hslash => (hchars _ hslash).2 rfl

theorem fileName_injective : Function.Injective fileName := by
  intro a b h
  rw [fileName_eq, fileName_eq] at h
  exact List.append_cancel_right (List.append_cancel_left h)

theorem copyFile_injective : Function.Injective copyFile := by
  intro a b h
  unfold copyFile at h
  simp only [List.append_assoc, List.append_cancel_left_eq] at h
  have hlength := congrArg List.length h
  simp only [List.length_append] at hlength
  exact fileName_injective (List.append_inj_left h (by omega))

/-! ### One line -/

variable {s : Gen} {t : Text} {m : List (Char × Bool)}

/-- A line that goes on with `*` is a header, with whatever it was joined from. -/
theorem readLine_star (hends : (unescape t).2 = false)
    (hm : s.pending ++ (unescape t).1 = ('*', false) :: m) :
    readLine B s t =
      { s with pending := [], header := (m.rdropWhile isSeparator).map Prod.fst } := by
  rw [readLine, if_neg (by simp [hends]), hm, strip_cons rfl]
  rfl

theorem readLine_continued (hends : (unescape t).2 = true) :
    readLine B s t = { s with pending := s.pending ++ (unescape t).1 } := by
  rw [readLine, if_pos hends]

theorem unescape_blank (ht : ∀ c ∈ t, c = ' ' ∨ c = '\t') :
    (∀ m ∈ (unescape t).1, isSeparator m = true) ∧ (unescape t).2 = false := by
  have hunescape : unescape t = (t.map fun c => (c, false), false) :=
    unescape_of_notMem fun h => (ht _ h).elim (by decide) (by decide)
  rw [hunescape]
  refine ⟨fun m hm => ?_, rfl⟩
  obtain ⟨c, hc, rfl⟩ := List.mem_map.1 hm
  rcases ht c hc with rfl | rfl
  · rfl
  · rfl

theorem readLine_blank (hpending : s.pending = []) (ht : ∀ c ∈ t, c = ' ' ∨ c = '\t') :
    readLine B s t = s := by
  rw [readLine, if_neg (by simp [unescape_blank ht]), hpending, List.nil_append,
    strip_eq_nil (unescape_blank ht).1]
  show ({ s with pending := [] } : Gen) = s
  rw [← hpending]

theorem backslash_notMem_row (h : ConfLine.WellFormed (.row name code comma)) :
    '\\' ∉ ConfLine.text (.row name code comma) := by
  obtain ⟨⟨-, hname, -⟩, -, hcode⟩ := h
  have hletters : '\\' ∉ code := notMem_of_isAlpha hcode rfl
  cases comma with
  | false => simp [ConfLine.text, hname, hletters]
  | true => simp [ConfLine.text, hname, hletters]

theorem readLine_row (hpending : s.pending = []) (h : ConfLine.WellFormed (.row name code comma)) :
    readLine B s (ConfLine.text (.row name code comma)) =
      let code := codeOf B s.written (ConfLine.text (.row name code comma))
      writeFile B { s with code := s.code ++ [code] } code := by
  have hunescape := unescape_of_notMem (backslash_notMem_row h)
  obtain ⟨r, d, hd, htext⟩ : ∃ r d, isBlank d = false ∧
      ConfLine.text (.row name code comma) = '"' :: (r ++ [d]) := by
    cases comma with
    | false => exact ⟨name ++ ['"', ':'] ++ ' ' :: '"' :: code, '"', rfl, by simp [ConfLine.text]⟩
    | true =>
      exact ⟨name ++ ['"', ':'] ++ ' ' :: '"' :: code ++ ['"'], ',', rfl, by simp [ConfLine.text]⟩
  rw [readLine, if_neg (by simp [hunescape]), hpending, List.nil_append, hunescape, htext,
    strip_unmarked rfl hd, ← hpending]
  rfl

/-! ### What is written -/

/-- What the script writes for a row under this header. -/
def contentOf (header : Text) : Text :=
  if header = restricted then echo [alternate] ++ echo [header] else echo [header]

section Redirections

variable (s : Gen) (file : Option Text) (content : Text)

@[simp] theorem Gen.overwrite_pending : (s.overwrite file content).pending = s.pending := by
  cases file <;> rfl

@[simp] theorem Gen.overwrite_header : (s.overwrite file content).header = s.header := by
  cases file <;> rfl

@[simp] theorem Gen.overwrite_code : (s.overwrite file content).code = s.code := by
  cases file <;> rfl

@[simp] theorem Gen.append_pending : (s.append file content).pending = s.pending := by
  cases file <;> rfl

@[simp] theorem Gen.append_header : (s.append file content).header = s.header := by
  cases file <;> rfl

@[simp] theorem Gen.append_code : (s.append file content).code = s.code := by
  cases file <;> rfl

variable {s file content} {v : Text}

theorem Gen.written_update {content : Option Text} {f : Text}
    (h : (Function.update s.files f content v).isSome = true) : s.written v = true ∨ v = f := by
  by_cases hv : v = f
  · exact .inr hv
  · rw [Function.update_of_ne hv] at h
    exact .inl h

theorem Gen.written_overwrite (h : (s.overwrite file content).written v = true) :
    s.written v = true ∨ file = some v := by
  cases file with
  | none => exact .inl h
  | some f => exact (Gen.written_update h).imp_right fun hv => congrArg some hv.symm

theorem Gen.written_append (h : (s.append file content).written v = true) :
    s.written v = true ∨ file = some v := by
  cases file with
  | none => exact .inl h
  | some f => exact (Gen.written_update h).imp_right fun hv => congrArg some hv.symm

end Redirections

/-- Nothing but files is changed. -/
theorem writeFile_eq (s : Gen) (code : Text) :
    writeFile B s code = { s with files := (writeFile B s code).files } := by
  unfold writeFile
  split_ifs <;> simp [Gen.ext_iff]

theorem files_writeFile (hcode : ∀ c ∈ code, c.isAlpha = true) (s : Gen) :
    (writeFile B s code).files =
      Function.update s.files (fileName code) (some (contentOf s.header)) := by
  unfold writeFile contentOf
  dsimp only
  rw [target_letters hcode, target_letters hcode]
  split_ifs
  · simp [Gen.overwrite, Gen.append]
  · rfl

/-- Whatever the code, the file that is written has a dot in its name, or a directory. -/
theorem isPath_of_written_writeFile (hfiles : ∀ v, s.written v = true → IsPath v)
    (hcode : ∀ c ∈ code, isClean c = true) :
    ∀ v, (writeFile B s code).written v = true → IsPath v := by
  have hfirst : ∀ content v,
      (s.overwrite (target B s.written code) content).written v = true → IsPath v :=
    fun content v hv => (Gen.written_overwrite hv).elim (hfiles v) (isPath_of_target hfiles hcode)
  intro v hv
  unfold writeFile at hv
  split_ifs at hv
  · exact (Gen.written_append hv).elim (hfirst _ v) (isPath_of_target (hfirst _) hcode)
  · exact hfirst _ v hv

theorem ConfLine.newline_notMem {l : ConfLine} (hl : l.WellFormed) : '\n' ∉ l.text := by
  cases l with
  | header t => simp [ConfLine.text, hl.1]
  | blank t => exact fun h => (hl _ h).elim (by decide) (by decide)
  | row name code comma =>
    obtain ⟨⟨-, -, hname, -⟩, -, hcode⟩ := hl
    have hletters : '\n' ∉ code := notMem_of_isAlpha hcode rfl
    cases comma with
    | false => simp [ConfLine.text, hname, hletters]
    | true => simp [ConfLine.text, hname, hletters]

/-- **What a line can do**: it joins a header that the next line continues, or it completes one (or
is blank), or it is a row on its own. -/
theorem readLine_cases {l : ConfLine} (hl : l.WellFormed)
    (hpending : s.pending = [] ∨ ∃ m, s.pending = ('*', false) :: m) :
    (∃ m, readLine B s l.text = { s with pending := ('*', false) :: m }) ∨
      (∃ header, readLine B s l.text = { s with pending := [], header := header }) ∨
        ∃ name code comma, l = .row name code comma ∧ s.pending = [] ∧
          readLine B s l.text = writeFile B
            { s with code := s.code ++ [codeOf B s.written l.text] }
            (codeOf B s.written l.text) := by
  by_cases hjoined : ∃ m, s.pending ++ (unescape l.text).1 = ('*', false) :: m
  · obtain ⟨m, hm⟩ := hjoined
    cases hends : (unescape l.text).2 with
    | true =>
      refine .inl ⟨m, ?_⟩
      rw [readLine_continued hends, hm]
    | false => exact .inr (.inl ⟨_, readLine_star hends hm⟩)
  · have hnil : s.pending = [] := by
      refine hpending.resolve_right ?_
      rintro ⟨m, hm⟩
      exact hjoined ⟨m ++ (unescape l.text).1, by rw [hm, List.cons_append]⟩
    cases l with
    | header t => exact absurd ⟨_, by rw [hnil]; rfl⟩ hjoined
    | blank t =>
      refine .inr (.inl ⟨s.header, ?_⟩)
      rw [ConfLine.text, readLine_blank hnil hl, ← hnil]
    | row name code comma => exact .inr (.inr ⟨name, code, comma, rfl, hnil, readLine_row hnil hl⟩)

end Uwb

end Gs101
