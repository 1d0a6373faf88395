import Gs101.Uwb.CountryConf

/-!
# UWB calibration: one right file for each country

* `Plan`: what `uwb_country.conf` says, line by line: each country, with the header in force there;
* `Right`: every country has its file, with that header in it, and there are no other files; and
  the countries are listed in their order;
* `generates_iff`: the script does so if and only if its last line is complete, or is no row, and
  every row is `Fine`: it is not joined to a line that ends in a backslash, its header comes
  through `read` and `echo`, and its name does not hide its code: with `cd,` for the code of
  "Congo, Democratic Republic of the" it does not.
-/

namespace Gs101

namespace Uwb

open Shell Bash

/-! ### What the file says -/

/-- The header in force, and the rows so far, each with the header in force there.  `joined` and
`pending`: a backslash at the end of the line before joins the line of the header, or the next
line, to it. -/
structure Plan where
  header : Text
  joined : Bool
  pending : Bool
  rows : List (Text × Text)

namespace Plan

def start : Plan := ⟨[], false, false, []⟩

def step (p : Plan) : ConfLine → Plan
  | .header t => { p with header := t, joined := p.pending, pending := (unescape t).2 }
  | .blank _ => { p with pending := false }
  | .row _ code _ => { p with pending := false, rows := p.rows ++ [(p.header, code)] }

/-- The files of the rows so far. -/
def written (p : Plan) (file : Text) : Bool := p.rows.any fun r => fileName r.2 = file

/-- The header in force comes through `read` and `echo`. -/
def HeaderKept (p : Plan) : Prop :=
  p.joined = false ∧ '\\' ∉ p.header ∧ (∀ c ∈ p.header.getLast?, isBlank c = false) ∧
    isOption p.header = false

end Plan

def CountryConf.rows (conf : CountryConf) : List (Text × Text) :=
  (Runs.run Plan.step Plan.start conf.lines).rows

/-- The file of a country where this header is in force. -/
def countryFile (header : Text) : Text :=
  (if header = restricted then alternate ++ ['\n'] else []) ++ (header ++ ['\n'])

variable (B : Bash)

/-- The files and the lines that belong to some rows. -/
structure Right (rows : List (Text × Text)) (s : Gen) : Prop where
  files : ∀ r ∈ rows, s.files (fileName r.2) = some (countryFile r.1)
  only : ∀ file, s.written file = true → ∃ r ∈ rows, file = fileName r.2
  listed : output B s = banner :: rows.map fun r => copyFile r.2

/-- The script does what the file says. -/
def Generates (conf : CountryConf) : Prop := Right B conf.rows (countryConfGen B conf.content)

/-- A row that the script takes apart. -/
def Shown (p : Plan) : ConfLine → Prop
  | .row name code comma => p.pending = false ∧ CodeShown B p.written name code comma
  | _ => True

/-- A row whose header is kept. -/
def UnderHeader (p : Plan) : ConfLine → Prop
  | .row _ _ _ => p.HeaderKept
  | _ => True

/-- A row with which the script makes no mistake. -/
def Fine (p : Plan) (l : ConfLine) : Prop := Shown B p l ∧ UnderHeader p l

variable {B}

/-! ### A header -/

/-- The text that is stored of a header, behind `m`, and behind the star that is its first
character. -/
def stored (m : List (Char × Bool)) (header : Text) : Text :=
  ((m ++ (unescape header).1).rdropWhile isSeparator).map Prod.fst

theorem count_rdropWhile {c : Char} (hc : isBlank c = false) (m : List (Char × Bool)) :
    ((m.rdropWhile isSeparator).map Prod.fst).count c = (m.map Prod.fst).count c := by
  induction m using List.reverseRecOn with
  | nil => rfl
  | append_singleton m d ih =>
    rw [List.rdropWhile_concat]
    split_ifs with hsep
    · have hd : d.1 ≠ c := by
        rintro rfl
        rw [isSeparator, Bool.and_eq_true] at hsep
        exact Bool.false_ne_true (hc.symm.trans hsep.2)
      rw [ih, List.map_append, List.count_append]
      simp [hd]
    · rfl

/-- A header that was joined to another has a star more. -/
theorem count_stored {m : List (Char × Bool)} {h : Text} :
    (stored m h).count '*' = (m.map Prod.fst).count '*' + h.count '*' := by
  rw [stored, count_rdropWhile rfl, List.map_append, List.count_append,
    count_unescape (by decide)]

/-- A header is stored as it stands, if it has no backslashes, and no blank at its end. -/
theorem stored_eq_self_iff {h : Text} :
    stored [] h = h ↔ '\\' ∉ h ∧ ∀ c ∈ h.getLast?, isBlank c = false := by
  have hlast : h.rdropWhile isBlank = h ↔ ∀ c ∈ h.getLast?, isBlank c = false := by
    rw [List.rdropWhile_eq_self_iff]
    cases h using List.reverseRecOn with
    | nil => simp
    | append_singleton t c => simp
  have hplain : '\\' ∉ h → stored [] h = h.rdropWhile isBlank := by
    intro hbackslash
    rw [stored, unescape_of_notMem hbackslash, List.nil_append, List.rdropWhile, List.rdropWhile,
      ← List.map_reverse, List.dropWhile_map]
    simp [Function.comp_def, isSeparator]
  constructor
  · intro heq
    have hbackslash : '\\' ∉ h := by
      intro hmem
      have hlt := length_unescape_lt hmem
      have hle : (stored [] h).length ≤ (unescape h).1.length := by
        rw [stored, List.length_map, List.nil_append]
        exact (List.rdropWhile_prefix (p := isSeparator) _).length_le
      rw [heq] at hle
      omega
    exact ⟨hbackslash, hlast.1 ((hplain hbackslash).symm.trans heq)⟩
  · rintro ⟨hbackslash, hblank⟩
    exact (hplain hbackslash).trans (hlast.2 hblank)

theorem echo_of_isOption {x : Text} (hx : isOption x = true) :
    echo [x] = [] ∨ echo [x] = ['\n'] := by
  have hline : echoLine [x] = [] := by simp [echoLine, hx, unwords]
  rw [echo, hline, List.nil_append]
  split_ifs
  · exact .inl rfl
  · exact .inr rfl

theorem echo_of_not_isOption {x : Text} (hx : isOption x = false) : echo [x] = x ++ ['\n'] := by
  simp [echo, echoLine, hx, unwords]

/-- No option holds such a character. -/
theorem isOption_of_mem {x : Text} {c : Char} (hc : c ∈ x)
    (h : c ≠ '-' ∧ c ≠ 'n' ∧ c ≠ 'e' ∧ c ≠ 'E') : isOption x = false := by
  refine Bool.eq_false_iff.2 fun hx => ?_
  unfold isOption at hx
  split at hx
  · rcases List.mem_cons.1 hc with hc | hc
    · exact h.1 hc
    · simpa [h.2] using List.all_eq_true.1 hx c hc
  · cases hx

theorem contentOf_of_ne {x : Text} (hx : x ≠ restricted) : contentOf x = echo [x] := if_neg hx

theorem contentOf_restricted : contentOf restricted = countryFile restricted := by
  have halternate : isOption alternate = false := by decide
  have hrestricted : isOption restricted = false := by decide
  rw [contentOf, if_pos rfl, countryFile, if_pos rfl, echo_of_not_isOption halternate,
    echo_of_not_isOption hrestricted]

theorem countryFile_of_ne {h : Text} (hh : h ≠ restricted) : countryFile h = h ++ ['\n'] := by
  rw [countryFile, if_neg hh, List.nil_append]

theorem count_countryFile (h : Text) : (countryFile h).count '*' = h.count '*' := by
  have halternate : (alternate ++ ['\n']).count '*' = 0 := by decide
  rw [countryFile, List.count_append, List.count_append]
  split_ifs
  · simp [halternate]
  · simp

theorem newline_mem_contentOf_restricted {h : Text} (heq : contentOf restricted = h ++ ['\n']) :
    '\n' ∈ h := by
  rw [contentOf_restricted, countryFile, if_pos rfl, ← List.append_assoc] at heq
  rw [← List.append_cancel_right heq]
  simp

/-- The content of a country's file whose header is joined to another is never right. -/
theorem contentOf_ne_of_joined {m : List (Char × Bool)} {h : Text} (hm : ('*', false) ∈ m) :
    contentOf (stored m h) ≠ countryFile h := by
  intro heq
  have hstars : 0 < (m.map Prod.fst).count '*' :=
    List.count_pos_iff.2 (List.mem_map_of_mem (f := Prod.fst) hm)
  have hcount : (stored m h).count '*' = (m.map Prod.fst).count '*' + h.count '*' := count_stored
  have hstar : '*' ∈ stored m h := List.count_pos_iff.1 (by omega)
  have hrestricted : stored m h ≠ restricted := by
    intro hx
    rw [hx] at hstar
    exact absurd hstar (by decide)
  have hcontent := congrArg (List.count '*') heq
  rw [contentOf_of_ne hrestricted, echo_of_not_isOption (isOption_of_mem hstar (by decide)),
    List.count_append, count_countryFile, hcount] at hcontent
  omega

/-- **The content of a country's file** is right if and only if the header comes through `read` and
`echo`. -/
theorem contentOf_stored_iff {h : Text} (hnewline : '\n' ∉ h) :
    contentOf (stored [] h) = countryFile h ↔
      '\\' ∉ h ∧ (∀ c ∈ h.getLast?, isBlank c = false) ∧ isOption h = false := by
  by_cases hrestricted : h = restricted
  · have hlast : restricted.getLast? = some '0' := by decide
    have hkept : '\\' ∉ restricted ∧ (∀ c ∈ restricted.getLast?, isBlank c = false) ∧
        isOption restricted = false := by
      refine ⟨by decide, fun c hc => ?_, by decide⟩
      rw [hlast] at hc
      cases hc
      rfl
    rw [hrestricted, stored_eq_self_iff.2 ⟨hkept.1, hkept.2.1⟩]
    exact iff_of_true contentOf_restricted hkept
  · rw [countryFile_of_ne hrestricted, ← and_assoc, ← stored_eq_self_iff]
    constructor
    · intro heq
      have hx : stored [] h ≠ restricted := by
        intro hx
        rw [hx] at heq
        exact hnewline (newline_mem_contentOf_restricted heq)
      rw [contentOf_of_ne hx] at heq
      have hoption : isOption (stored [] h) = false := by
        refine Bool.eq_false_iff.2 fun hoption => ?_
        have hnil : h = [] := by
          rcases echo_of_isOption hoption with hecho | hecho
          · rw [hecho] at heq
            simp at heq
          · rw [hecho] at heq
            simpa using heq
        rw [hnil] at hoption
        exact Bool.false_ne_true hoption
      rw [echo_of_not_isOption hoption] at heq
      have hself : stored [] h = h := List.append_cancel_right heq
      exact ⟨hself, hself ▸ hoption⟩
    · rintro ⟨hself, hoption⟩
      rw [hself, contentOf_of_ne hrestricted, echo_of_not_isOption hoption]

/-! ### The script follows the file -/

/-- The script as the lines so far have left it, if every row was taken apart. -/
structure Follows (p : Plan) (s : Gen) : Prop where
  oneLine : '\n' ∉ p.header
  header : ∃ m, (p.joined = true → ('*', false) ∈ m) ∧ (p.joined = false → m = []) ∧
    (if p.pending then (unescape p.header).2 = true ∧
        s.pending = ('*', false) :: (m ++ (unescape p.header).1)
      else s.pending = [] ∧ s.header = stored m p.header)
  code : s.code = p.rows.map Prod.snd
  written : s.written = p.written

theorem follows_start : Follows Plan.start Gen.start where
  oneLine := List.not_mem_nil
  header := ⟨[], by decide, fun _ => rfl, rfl, rfl⟩
  code := rfl
  written := rfl

variable {p : Plan} {s : Gen} {l : ConfLine}

theorem follows_header (h : Follows p s) {t : Text} (ht : ConfLine.WellFormed (.header t)) :
    Follows (p.step (.header t)) (readLine B s (ConfLine.text (.header t))) := by
  obtain ⟨m, hm, hjoined, hend⟩ : ∃ m, (p.pending = true → ('*', false) ∈ m) ∧
      (p.pending = false → m = []) ∧
      s.pending ++ (unescape ('*' :: t)).1 = ('*', false) :: (m ++ (unescape t).1) := by
    obtain ⟨m, -, -, hm⟩ := h.header
    cases hpending : p.pending with
    | true =>
      rw [hpending, if_pos rfl] at hm
      refine ⟨m ++ (unescape p.header).1 ++ [('*', false)], fun _ => by simp, by simp, ?_⟩
      rw [hm.2]
      simp [unescape]
    | false =>
      rw [hpending, if_neg Bool.false_ne_true] at hm
      refine ⟨[], by simp, fun _ => rfl, ?_⟩
      rw [hm.1]
      rfl
  have hcontinued : (unescape ('*' :: t)).2 = (unescape t).2 := rfl
  cases hends : (unescape t).2 with
  | true =>
    rw [ConfLine.text, readLine_continued (hcontinued.trans hends), hend]
    refine ⟨ht.1, ⟨m, hm, hjoined, ?_⟩, h.code, h.written⟩
    show if (unescape t).2 = true then _ else _
    rw [if_pos hends]
    exact ⟨hends, rfl⟩
  | false =>
    rw [ConfLine.text, readLine_star (hcontinued.trans hends) hend]
    refine ⟨ht.1, ⟨m, hm, hjoined, ?_⟩, h.code, h.written⟩
    show if (unescape t).2 = true then _ else _
    rw [if_neg (by simp [hends])]
    exact ⟨rfl, rfl⟩

theorem stored_append_blank {m n : List (Char × Bool)} (hn : ∀ c ∈ n, isSeparator c = true)
    (h : Text) :
    ((m ++ (unescape h).1 ++ n).rdropWhile isSeparator).map Prod.fst = stored m h := by
  rw [stored, List.rdropWhile, List.rdropWhile, List.reverse_append,
    List.dropWhile_append_of_pos fun c hc => hn c (List.mem_reverse.1 hc)]

theorem follows_blank (h : Follows p s) {t : Text} (ht : ConfLine.WellFormed (.blank t)) :
    Follows (p.step (.blank t)) (readLine B s (ConfLine.text (.blank t))) := by
  obtain ⟨m, hm, hjoined, hheader⟩ := h.header
  obtain ⟨hblank, hends⟩ := unescape_blank ht
  cases hpending : p.pending with
  | true =>
    rw [hpending, if_pos rfl] at hheader
    have hend : s.pending ++ (unescape t).1 =
        ('*', false) :: (m ++ (unescape p.header).1 ++ (unescape t).1) := by
      rw [hheader.2, List.cons_append]
    rw [ConfLine.text, readLine_star hends hend, stored_append_blank hblank]
    exact ⟨h.oneLine, ⟨m, hm, hjoined, rfl, rfl⟩, h.code, h.written⟩
  | false =>
    rw [hpending, if_neg Bool.false_ne_true] at hheader
    rw [ConfLine.text, readLine_blank hheader.1 ht]
    exact ⟨h.oneLine, ⟨m, hm, hjoined, hheader⟩, h.code, h.written⟩

theorem Follows.pending_eq_nil (h : Follows p s) (hpending : p.pending = false) :
    s.pending = [] := by
  obtain ⟨m, -, -, hheader⟩ := h.header
  rw [hpending, if_neg Bool.false_ne_true] at hheader
  exact hheader.1

theorem Follows.pending_cases (h : Follows p s) :
    s.pending = [] ∨ ∃ m, s.pending = ('*', false) :: m := by
  obtain ⟨m, -, -, hheader⟩ := h.header
  split_ifs at hheader with hpending
  · exact .inr ⟨_, hheader.2⟩
  · exact .inl hheader.1

theorem Plan.written_row (p : Plan) (name code : Text) (comma : Bool) (v : Text) :
    (p.step (.row name code comma)).written v = (p.written v || decide (fileName code = v)) := by
  unfold Plan.written Plan.step
  rw [List.any_append, List.any_cons, List.any_nil, Bool.or_false]

theorem readLine_shown (h : Follows p s) {name code : Text} {comma : Bool}
    (hrow : ConfLine.WellFormed (.row name code comma))
    (hshown : Shown B p (.row name code comma)) :
    readLine B s (ConfLine.text (.row name code comma)) = { s with
      code := s.code ++ [code]
      files := Function.update s.files (fileName code) (some (contentOf s.header)) } := by
  obtain ⟨hpending, hcodeShown⟩ :
      p.pending = false ∧ CodeShown B p.written name code comma := hshown
  have hcode : codeOf B s.written (ConfLine.text (.row name code comma)) = code := by
    rw [h.written, codeOf_row hrow.2.2 hrow.2.1]
    exact hcodeShown
  rw [readLine_row (h.pending_eq_nil hpending) hrow, hcode]
  dsimp only
  rw [writeFile_eq, files_writeFile hrow.2.2]

theorem follows_row (h : Follows p s) {name code : Text} {comma : Bool}
    (hrow : ConfLine.WellFormed (.row name code comma))
    (hshown : Shown B p (.row name code comma)) :
    Follows (p.step (.row name code comma))
      (readLine B s (ConfLine.text (.row name code comma))) := by
  rw [readLine_shown h hrow hshown]
  obtain ⟨m, hm, hjoined, hheader⟩ := h.header
  rw [hshown.1] at hheader
  refine ⟨h.oneLine, ⟨m, hm, hjoined, hheader⟩, ?_, ?_⟩
  · show s.code ++ [code] = (p.rows ++ [(p.header, code)]).map Prod.snd
    rw [h.code, List.map_append]
    rfl
  · funext v
    rw [Plan.written_row, ← h.written]
    unfold Gen.written
    dsimp only
    by_cases hv : v = fileName code
    · rw [hv, Function.update_self, decide_eq_true rfl, Bool.or_true]
      rfl
    · rw [Function.update_of_ne hv, decide_eq_false (Ne.symm hv), Bool.or_false]

/-- **One line**: the script goes on as the file does, if the line is no row, or is taken apart. -/
theorem follows_step (h : Follows p s) (hl : l.WellFormed) (hshown : Shown B p l) :
    Follows (p.step l) (readLine B s l.text) := by
  cases l with
  | header t => exact follows_header h hl
  | blank t => exact follows_blank h hl
  | row name code comma => exact follows_row h hl hshown

/-- **All lines**: the script goes on as the file does, as long as it takes the rows apart. -/
theorem follows_run {ls : List ConfLine} (h : Follows p s) (hls : ∀ l ∈ ls, l.WellFormed)
    (hshown : Runs.Meets Plan.step (Shown B) p ls) :
    Follows (Runs.run Plan.step p ls) (Runs.run (readLine B) s (ls.map ConfLine.text)) := by
  induction ls generalizing p s with
  | nil => exact h
  | cons l ls ih =>
    obtain ⟨hl, hls⟩ := List.forall_mem_cons.1 hls
    exact ih (follows_step h hl hshown.1) hls hshown.2

/-! ### The files -/

/-- The rows have their files. -/
def Written (p : Plan) (s : Gen) : Prop :=
  ∀ r ∈ p.rows, s.files (fileName r.2) = some (countryFile r.1)

/-- Where the script follows, it writes the right content under the headers that are kept. -/
theorem contentOf_iff (h : Follows p s) (hpending : p.pending = false) :
    contentOf s.header = countryFile p.header ↔ p.HeaderKept := by
  obtain ⟨m, hm, hjoined, hheader⟩ := h.header
  rw [hpending, if_neg Bool.false_ne_true] at hheader
  rw [hheader.2, Plan.HeaderKept]
  cases hj : p.joined with
  | true => exact iff_of_false (contentOf_ne_of_joined (hm hj)) fun hkept => by cases hkept.1
  | false =>
    rw [hjoined hj, contentOf_stored_iff h.oneLine]
    exact (and_iff_right rfl).symm

/-- **One row** gets its file if and only if its header is kept; the other files stay. -/
theorem written_row_iff (h : Follows p s) {name code : Text} {comma : Bool}
    (hrow : ConfLine.WellFormed (.row name code comma))
    (hshown : Shown B p (.row name code comma)) (hnew : code ∉ p.rows.map Prod.snd) :
    Written (p.step (.row name code comma)) (readLine B s (ConfLine.text (.row name code comma))) ↔
      p.HeaderKept ∧ Written p s := by
  have hkept : contentOf s.header = countryFile p.header ↔ p.HeaderKept :=
    contentOf_iff h hshown.1
  have hold : ∀ r ∈ p.rows, Function.update s.files (fileName code) (some (contentOf s.header))
      (fileName r.2) = s.files (fileName r.2) := by
    intro r hr
    refine Function.update_of_ne (fun hfile => hnew ?_) _ _
    exact List.mem_map.2 ⟨r, hr, fileName_injective hfile⟩
  rw [readLine_shown h hrow hshown, ← hkept, and_comm]
  unfold Written Plan.step
  dsimp only
  rw [List.forall_mem_append, List.forall_mem_singleton, Function.update_self, Option.some_inj]
  exact and_congr_left' (forall₂_congr fun r hr => by rw [hold r hr])

theorem files_readLine (h : Follows p s) (hl : l.WellFormed) (hnone : l.code? = none) :
    (readLine B s l.text).files = s.files := by
  rcases readLine_cases (B := B) hl h.pending_cases with ⟨_, hs⟩ | ⟨_, hs⟩ | ⟨_, _, _, hrow, -⟩
  · rw [hs]
  · rw [hs]
  · rw [hrow] at hnone
    cases hnone

/-- **One line**: the files stay right if and only if a row's header is kept. -/
theorem written_step_iff (h : Follows p s) (hl : l.WellFormed) (hshown : Shown B p l)
    (hnew : ∀ code ∈ l.code?, code ∉ p.rows.map Prod.snd) :
    Written (p.step l) (readLine B s l.text) ↔ UnderHeader p l ∧ Written p s := by
  cases l with
  | header t =>
    unfold Written
    rw [files_readLine h hl rfl]
    exact (and_iff_right trivial).symm
  | blank t =>
    unfold Written
    rw [files_readLine h hl rfl]
    exact (and_iff_right trivial).symm
  | row name code comma => exact written_row_iff h hl hshown (hnew code rfl)

theorem rows_run (p : Plan) (ls : List ConfLine) :
    (Runs.run Plan.step p ls).rows.map Prod.snd =
      p.rows.map Prod.snd ++ ls.filterMap ConfLine.code? := by
  induction ls generalizing p with
  | nil => simp
  | cons l ls ih =>
    rw [Runs.run_cons, ih]
    cases l with
    | header t => rfl
    | blank t => rfl
    | row name code comma => simp [Plan.step, ConfLine.code?]

/-- **All lines**: where the rows are taken apart, their files are right if and only if all their
headers are kept. -/
theorem written_run_iff {ls : List ConfLine} (h : Follows p s) (hls : ∀ l ∈ ls, l.WellFormed)
    (hshown : Runs.Meets Plan.step (Shown B) p ls)
    (hnodup : (p.rows.map Prod.snd ++ ls.filterMap ConfLine.code?).Nodup) :
    Written (Runs.run Plan.step p ls) (Runs.run (readLine B) s (ls.map ConfLine.text)) ↔
      Runs.Meets Plan.step UnderHeader p ls ∧ Written p s := by
  induction ls generalizing p s with
  | nil => exact (and_iff_right trivial).symm
  | cons l ls ih =>
    obtain ⟨hl, hls⟩ := List.forall_mem_cons.1 hls
    have hrows : (p.step l).rows.map Prod.snd ++ ls.filterMap ConfLine.code? =
        p.rows.map Prod.snd ++ (l :: ls).filterMap ConfLine.code? := by
      rw [← rows_run, ← rows_run]
      rfl
    have hnew : ∀ code ∈ l.code?, code ∉ p.rows.map Prod.snd := by
      intro code hcode hmem
      have hall : code ∈ (l :: ls).filterMap ConfLine.code? :=
        List.mem_filterMap.2 ⟨l, List.mem_cons_self, hcode⟩
      exact (List.nodup_append.1 hnodup).2.2 code hmem code hall rfl
    rw [List.map_cons, Runs.run_cons, Runs.run_cons,
      ih (follows_step h hl hshown.1) hls hshown.2 (by rw [hrows]; exact hnodup),
      written_step_iff h hl hshown.1 hnew, Runs.Meets]
    exact and_left_comm.trans and_assoc.symm

/-! ### The codes -/

/-- The script after any lines, at most `n` of which are rows. -/
structure Tidy (s : Gen) (n : ℕ) : Prop where
  pending : s.pending = [] ∨ ∃ m, s.pending = ('*', false) :: m
  files : ∀ file, s.written file = true → IsPath file
  code : ∀ code ∈ s.code, ∀ c ∈ code, isClean c = true
  length : s.code.length ≤ n

theorem tidy_start : Tidy Gen.start 0 :=
  ⟨.inl rfl, fun _ h => absurd h Bool.false_ne_true, fun _ h => absurd h List.not_mem_nil, le_rfl⟩

theorem tidy_step {n : ℕ} (h : Tidy s n) (hl : l.WellFormed) :
    Tidy (readLine B s l.text) (n + l.code?.toList.length) ∧
      ∃ more, (readLine B s l.text).code = s.code ++ more := by
  have hlength := h.length
  rcases readLine_cases (B := B) hl h.pending with
    ⟨m, hs⟩ | ⟨header, hs⟩ | ⟨name, code, comma, rfl, hp, hs⟩
  · rw [hs]
    exact ⟨⟨.inr ⟨m, rfl⟩, h.files, h.code, hlength.trans (Nat.le_add_right _ _)⟩,
      [], (List.append_nil _).symm⟩
  · rw [hs]
    exact ⟨⟨.inl rfl, h.files, h.code, hlength.trans (Nat.le_add_right _ _)⟩,
      [], (List.append_nil _).symm⟩
  · have hclean : ∀ c ∈ codeOf B s.written (ConfLine.text (.row name code comma)),
        isClean c = true := fun c hc => isClean_of_mem_codeOf h.files (backslash_notMem_row hl) hc
    rw [hs]
    refine ⟨⟨?_, isPath_of_written_writeFile h.files hclean, ?_, ?_⟩,
      [codeOf B s.written (ConfLine.text (.row name code comma))], ?_⟩
    · rw [writeFile_eq]
      exact .inl hp
    · rw [writeFile_eq]
      intro code' hcode'
      rcases List.mem_append.1 hcode' with hcode' | hcode'
      · exact h.code code' hcode'
      · rw [List.mem_singleton.1 hcode']
        exact hclean
    · rw [writeFile_eq]
      show (s.code ++ [_]).length ≤ n + 1
      rw [List.length_append]
      exact Nat.add_le_add_right hlength 1
    · rw [writeFile_eq]

theorem tidy_run {n : ℕ} {ls : List ConfLine} (h : Tidy s n) (hls : ∀ l ∈ ls, l.WellFormed) :
    Tidy (Runs.run (readLine B) s (ls.map ConfLine.text))
        (n + (ls.filterMap ConfLine.code?).length) ∧
      ∃ more, (Runs.run (readLine B) s (ls.map ConfLine.text)).code = s.code ++ more := by
  induction ls generalizing s n with
  | nil => exact ⟨h, [], (List.append_nil _).symm⟩
  | cons l ls ih =>
    obtain ⟨hl, hls⟩ := List.forall_mem_cons.1 hls
    obtain ⟨hstep, first, hfirst⟩ := tidy_step (B := B) h hl
    obtain ⟨hrun, rest, hrest⟩ := ih hstep hls
    have hlength : (List.filterMap ConfLine.code? (l :: ls)).length =
        l.code?.toList.length + (ls.filterMap ConfLine.code?).length := by
      rw [List.filterMap_cons]
      cases l.code? with
      | none => simp
      | some code => simp [Nat.add_comm]
    refine ⟨?_, first ++ rest, ?_⟩
    · rw [hlength, ← Nat.add_assoc]
      exact hrun
    · rw [List.map_cons, Runs.run_cons, hrest, hfirst, List.append_assoc]

/-- A row is taken apart if its code comes next, and there are not too few codes behind it. -/
theorem shown_row_of_code {name code : Text} {comma : Bool} {more rest : List Text}
    (h : Follows p s) (hrow : ConfLine.WellFormed (.row name code comma))
    (hmore : more.length ≤ rest.length)
    (hall : (readLine B s (ConfLine.text (.row name code comma))).code ++ more =
      s.code ++ code :: rest) : Shown B p (.row name code comma) := by
  have hpending : p.pending = false := by
    refine Bool.eq_false_iff.2 fun hpending => ?_
    -- the row is lost in the header: there is a code too few
    have hsame : (readLine B s (ConfLine.text (.row name code comma))).code = s.code := by
      rcases readLine_cases (B := B) hrow h.pending_cases with
        ⟨_, hs⟩ | ⟨_, hs⟩ | ⟨_, _, _, -, hnil, -⟩
      · rw [hs]
      · rw [hs]
      · obtain ⟨m, -, -, hheader⟩ := h.header
        rw [if_pos hpending, hnil] at hheader
        cases hheader.2
    rw [hsame, List.append_cancel_left_eq] at hall
    rw [hall, List.length_cons] at hmore
    omega
  refine ⟨hpending, ?_⟩
  have hsame : (readLine B s (ConfLine.text (.row name code comma))).code =
      s.code ++ [codeOf B s.written (ConfLine.text (.row name code comma))] := by
    rw [readLine_row (h.pending_eq_nil hpending) hrow]
    dsimp only
    rw [writeFile_eq]
  rw [hsame, List.append_assoc, List.append_cancel_left_eq, List.singleton_append] at hall
  rw [← h.written, ← codeOf_row hrow.2.2 hrow.2.1]
  exact (List.cons.inj hall).1

/-- **The codes tell**: the script has taken every row apart if it has all the codes in the end. -/
theorem shown_of_code {ls : List ConfLine} (h : Follows p s) (ht : Tidy s s.code.length)
    (hls : ∀ l ∈ ls, l.WellFormed)
    (hcode : (Runs.run (readLine B) s (ls.map ConfLine.text)).code =
      (Runs.run Plan.step p ls).rows.map Prod.snd) :
    Runs.Meets Plan.step (Shown B) p ls := by
  induction ls generalizing p s with
  | nil => trivial
  | cons l ls ih =>
    obtain ⟨hl, hls⟩ := List.forall_mem_cons.1 hls
    have hstep : Tidy (readLine B s l.text) (readLine B s l.text).code.length :=
      { (tidy_step ht hl).1 with length := le_rfl }
    obtain ⟨hrun, more, hmore⟩ := tidy_run (B := B) hstep hls
    have hlength : more.length ≤ (ls.filterMap ConfLine.code?).length := by
      have htotal := hrun.length
      rw [hmore, List.length_append] at htotal
      omega
    have hall : (readLine B s l.text).code ++ more =
        p.rows.map Prod.snd ++ (l :: ls).filterMap ConfLine.code? := by
      rw [← hmore, ← rows_run]
      exact hcode
    have hshown : Shown B p l := by
      cases l with
      | header t => trivial
      | blank t => trivial
      | row name code comma =>
        rw [← h.code] at hall
        exact shown_row_of_code h hl hlength hall
    exact ⟨hshown, ih (follows_step h hl hshown) hstep hls hcode⟩

/-- The codes can be read off the lines that the script prints. -/
theorem code_of_output {codes : List Text} {n : ℕ} (ht : Tidy s n) (hn : n ≤ codes.length)
    (hcodes : ∀ code ∈ codes, ∀ c ∈ code, c.isAlpha = true)
    (hout : output B s = banner :: codes.map copyFile) : s.code = codes := by
  have hexpand : s.code.flatMap (B.expand s.written) = codes :=
    List.map_injective_iff.2 copyFile_injective (List.cons.inj hout).2
  refine eq_of_flatMap_expand ht.files ?_ ?_ (ht.length.trans hn) hexpand
  · intro code hcode c hc
    have hclean := ht.code code hcode c hc
    rw [isClean, Bool.and_eq_true, Bool.not_eq_true'] at hclean
    exact hclean.1
  · rintro code hcode ⟨hpath, -⟩
    rcases hpath with hdot | hslash
    · exact notMem_of_isAlpha (hcodes code hcode) rfl hdot
    · exact notMem_of_isAlpha (hcodes code hcode) rfl hslash

theorem output_of_code {codes : List Text} (hcode : s.code = codes)
    (hcodes : ∀ code ∈ codes, code ≠ [] ∧ ∀ c ∈ code, c.isAlpha = true) :
    output B s = banner :: codes.map copyFile := by
  have hword : ∀ code ∈ codes, B.expand s.written code = if code = [] then [] else [code] := by
    intro code hmem
    obtain ⟨hne, hletters⟩ := hcodes code hmem
    obtain ⟨hplain, hblank⟩ := isPlain_and_unblank fun c hc => .inl (hletters c hc)
    rw [if_neg hne, expand_word hne hblank, B.glob_plain _ _ hplain]
  have hexpand : codes.flatMap (B.expand s.written) = codes := by
    rw [flatMap_eq_filter hword]
    exact List.filter_eq_self.2 fun code hmem => decide_eq_true (hcodes code hmem).1
  rw [output, hcode, hexpand]

/-! ### The whole file -/

theorem letters_of_mem {ls : List ConfLine} (hls : ∀ l ∈ ls, l.WellFormed) {code : Text}
    (hcode : code ∈ ls.filterMap ConfLine.code?) :
    code ≠ [] ∧ ∀ c ∈ code, c.isAlpha = true := by
  obtain ⟨l, hl, hlcode⟩ := List.mem_filterMap.1 hcode
  cases l with
  | header t => cases hlcode
  | blank t => cases hlcode
  | row name code' comma =>
    cases hlcode
    exact (hls _ hl).2

/-- **Lines that are all read** lead to the right files, and to the right list, if and only if every
row is fine. -/
theorem right_iff {ls : List ConfLine} (hls : ∀ l ∈ ls, l.WellFormed)
    (hnodup : (ls.filterMap ConfLine.code?).Nodup) :
    Right B (Runs.run Plan.step Plan.start ls).rows
        (Runs.run (readLine B) Gen.start (ls.map ConfLine.text)) ↔
      Runs.Meets Plan.step (Fine B) Plan.start ls := by
  have hcodes : (Runs.run Plan.step Plan.start ls).rows.map Prod.snd =
      ls.filterMap ConfLine.code? := rows_run Plan.start ls
  have hletters : ∀ code ∈ (Runs.run Plan.step Plan.start ls).rows.map Prod.snd,
      code ≠ [] ∧ ∀ c ∈ code, c.isAlpha = true := by
    rw [hcodes]
    exact fun code hcode => letters_of_mem hls hcode
  have hwritten := fun hshown : Runs.Meets Plan.step (Shown B) Plan.start ls =>
    written_run_iff follows_start hls hshown hnodup
  have hempty : Written Plan.start Gen.start := fun r hr => absurd hr List.not_mem_nil
  constructor
  · intro hright
    have hlisted := hright.listed
    rw [← Function.comp_def, ← List.map_map] at hlisted
    have hcode := code_of_output (tidy_run (B := B) tidy_start hls).1
      (by rw [hcodes, Nat.zero_add]) (fun code hmem => (hletters code hmem).2) hlisted
    have hshown : Runs.Meets Plan.step (Shown B) Plan.start ls :=
      shown_of_code follows_start tidy_start hls hcode
    exact Runs.meets_and.2 ⟨hshown, ((hwritten hshown).1 hright.files).1⟩
  · intro hfine
    obtain ⟨hshown, hheader⟩ := Runs.meets_and.1 hfine
    have hfollows := follows_run follows_start hls hshown
    refine ⟨(hwritten hshown).2 ⟨hheader, hempty⟩, fun file hfile => ?_, ?_⟩
    · rw [hfollows.written, Plan.written, List.any_eq_true] at hfile
      obtain ⟨r, hr, hname⟩ := hfile
      exact ⟨r, hr, (of_decide_eq_true hname).symm⟩
    · rw [output_of_code hfollows.code hletters, List.map_map]
      rfl

theorem countryConfGen_content (conf : CountryConf) :
    countryConfGen B conf.content = Runs.run (readLine B) Gen.start
      ((if conf.terminated then conf.lines else conf.lines.dropLast).map ConfLine.text) := by
  rw [countryConfGen, CountryConf.content,
    lines_flatMap (fun l hl => ConfLine.newline_notMem (conf.wellFormed l hl))]

/-- A row that is not read is missing from the list. -/
theorem not_right_of_unread {ls : List ConfLine} {name code : Text} {comma : Bool}
    (hls : ∀ l ∈ ls ++ [ConfLine.row name code comma], l.WellFormed) :
    ¬ Right B (Runs.run Plan.step Plan.start (ls ++ [.row name code comma])).rows
      (Runs.run (readLine B) Gen.start (ls.map ConfLine.text)) := by
  intro hright
  have hread : ∀ l ∈ ls, l.WellFormed := fun l hl => hls l (List.mem_append_left _ hl)
  have htidy := (tidy_run (B := B) tidy_start hread).1
  have hlength := htidy.length
  have hlisted := hright.listed
  rw [← Function.comp_def, ← List.map_map, rows_run] at hlisted
  rw [code_of_output htidy (by simp) (fun c hc => (letters_of_mem hls hc).2)
    hlisted] at hlength
  have hlast : ([ConfLine.row name code comma].filterMap ConfLine.code?).length = 1 := rfl
  rw [List.filterMap_append, List.length_append, hlast] at hlength
  omega

/-- **Every country has its file** if and only if the last line ends with a newline, or is no row;
and the script makes no mistake in any row. -/
theorem generates_iff (B : Bash) (conf : CountryConf) :
    Generates B conf ↔
      (conf.terminated = true ∨ ∀ l ∈ conf.lines.getLast?, l.code? = none) ∧
        Runs.Meets Plan.step (Fine B) Plan.start conf.lines := by
  rw [Generates, countryConfGen_content, CountryConf.rows]
  cases hterminated : conf.terminated with
  | true => exact (right_iff conf.wellFormed conf.nodup).trans (and_iff_right (.inl rfl)).symm
  | false =>
    have hwf := conf.wellFormed
    have hnodup := conf.nodup
    generalize conf.lines = ls at hwf hnodup
    cases ls using List.reverseRecOn with
    | nil => exact (right_iff hwf hnodup).trans (and_iff_right (.inr (by simp))).symm
    | append_singleton init l =>
      rw [List.filterMap_append] at hnodup
      have hright := right_iff (B := B) (fun l hl => hwf l (List.mem_append_left _ hl))
        (List.nodup_append.1 hnodup).1
      simp only [Bool.false_eq_true, if_false, false_or, List.dropLast_concat,
        List.getLast?_concat, Option.mem_some_iff, forall_eq', Runs.meets_concat]
      cases l with
      | header t =>
        rw [Runs.run_append]
        exact hright.trans (by simp [ConfLine.code?, Fine, Shown, UnderHeader])
      | blank t =>
        rw [Runs.run_append]
        exact hright.trans (by simp [ConfLine.code?, Fine, Shown, UnderHeader])
      | row name code comma =>
        exact iff_of_false (not_right_of_unread hwf) fun h => by cases h.1

/-- A row with a comma in its name, and another at its end. -/
def congoConf : CountryConf where
  lines := [.header "restricted_channels=0xffff".toList,
    .row "Congo, Democratic Republic of the".toList "cd".toList true]
  terminated := true
  wellFormed := List.forall_mem_cons.2
    ⟨(by decide : _ ∧ _), List.forall_mem_singleton.2
      ⟨(by decide : _ ∧ _ ∧ _ ∧ _), by decide, List.all_eq_true.1 (by decide)⟩⟩
  nodup := by decide

/-- The file that the script writes is `UWB-calibration-cd,.conf`. -/
theorem congoConf_misnamed : ¬ Generates Bash.matchless congoConf := by
  intro h
  have hfile := h.files ("restricted_channels=0xffff".toList, "cd".toList) (by decide)
  have hnone : (countryConfGen Bash.matchless congoConf.content).files (fileName "cd".toList) =
      none := by
    decide +kernel
  rw [hnone] at hfile
  cases hfile

end Uwb

end Gs101
