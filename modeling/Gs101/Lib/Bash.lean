import Gs101.Lib.CText
import Gs101.Lib.Shell
import Mathlib.Data.List.DropRight

/-!
# Words, expansions and pipelines of bash

What bash makes of unquoted expansions, of `read` without `-r`, and of `echo`, `cut` and `tr` in a
command substitution.

* `words`, `unwords`: the words between blanks, and words with one blank between them;
* `Bash`: what pathname expansion makes of a word;
* `Bash.expand`, `Bash.echoWords`: an unquoted expansion, and what `echo` prints of it;
* `echo`, `cutSecond`, `delete`: `echo`, `cut -f2` and `tr -d`;
* `unescape`, `strip`: the characters of a line as `read` takes them, each with a mark if a
  backslash stands before it, and the text that `read` stores;
* `echoWords_append`, `echoWords_concat`: a plain last word stays, and so does the last character;
* `eq_of_flatMap_expand`: words that are no paths were there before the expansion.
-/

namespace Gs101

namespace Bash

open Shell (Text)

/-- The characters of the default `IFS`. -/
def isBlank (c : Char) : Bool := c = ' ' || c = '\t' || c = '\n'

/-- The words between blanks. -/
def words (t : Text) : List Text := (t.splitOnP isBlank).filter (· ≠ [])

def unwords (ws : List Text) : Text := List.intercalate [' '] ws

/-- A character of a path: no blank, and no backslash. -/
def isClean (c : Char) : Bool := !isBlank c && c ≠ '\\'

/-- What may be the path of a file: its directory is named, or its name has a dot. -/
def IsPath (t : Text) : Prop := ('.' ∈ t ∨ '/' ∈ t) ∧ t.all isClean = true

/-- No pattern. -/
def isPlain (t : Text) : Bool := t.all fun c => c ≠ '*' && c ≠ '?' && c ≠ '[' && c ≠ '\\'

/-- At the end of a word, such a character is neither a blank nor a part of a pattern, and the word
is no option of `echo`. -/
def isEnd (c : Char) : Bool :=
  !isBlank c && c ≠ '*' && c ≠ '?' && c ≠ ']' && c ≠ 'n' && c ≠ 'e' && c ≠ 'E'

/-! ### Commands -/

/-- An option of `echo`. -/
def isOption : Text → Bool
  | '-' :: c :: cs => (c :: cs).all fun d => d = 'n' || d = 'e' || d = 'E'
  | _ => false

/-- The line that `echo` prints.  With `-e` no argument may hold a backslash. -/
def echoLine (args : List Text) : Text := unwords (args.dropWhile isOption)

/-- What `echo` prints. -/
def echo (args : List Text) : Text :=
  echoLine args ++ if (args.takeWhile isOption).any (·.contains 'n') then [] else ['\n']

/-- `cut -d d -f2`, of one line. -/
def cutSecond (d : Char) (line : Text) : Text :=
  if d ∈ line then ((line.dropWhile (· ≠ d)).drop 1).takeWhile (· ≠ d) else line

/-- `tr -d c`. -/
def delete (c : Char) (t : Text) : Text := t.filter (· ≠ c)

/-! ### Lines, as `read` takes them -/

/-- The characters of a line, each with a mark if a backslash stands before it; and whether the line
ends in a backslash, so that the next one continues it. -/
def unescape : Text → List (Char × Bool) × Bool
  | [] => ([], false)
  | ['\\'] => ([], true)
  | '\\' :: c :: t => ((c, true) :: (unescape t).1, (unescape t).2)
  | c :: t => ((c, false) :: (unescape t).1, (unescape t).2)

/-- A blank without a backslash. -/
def isSeparator (m : Char × Bool) : Bool := !m.2 && isBlank m.1

/-- The text that `read` stores. -/
def strip (marks : List (Char × Bool)) : Text :=
  ((marks.dropWhile isSeparator).rdropWhile isSeparator).map Prod.fst

end Bash

/-- A shell: what pathname expansion makes of a word, where these files were written so far. -/
structure Bash where
  glob : (Shell.Text → Bool) → Shell.Text → List Shell.Text
  glob_ne_nil : ∀ files w, glob files w ≠ []
  /-- The word stays, or is replaced by paths. -/
  glob_eq : ∀ files w, glob files w = [w] ∨
    ∀ v ∈ glob files w, Bash.IsPath v ∨ files v = true
  glob_plain : ∀ files w, Bash.isPlain w = true → glob files w = [w]
  /-- A path that is matched ends as its pattern does. -/
  glob_end : ∀ files w c, Bash.isEnd c = true →
    ∀ v ∈ glob files (w ++ [c]), ∃ u, v = u ++ [c]

namespace Bash

open Shell (Text)

/-- Where no file matches a pattern. -/
def matchless : Bash where
  glob _ w := [w]
  glob_ne_nil _ w := List.cons_ne_nil w []
  glob_eq _ _ := .inl rfl
  glob_plain _ _ _ := rfl
  glob_end _ w _ _ _ hv := ⟨w, List.mem_singleton.1 hv⟩

variable (B : Bash) (files : Text → Bool)

/-- An unquoted expansion. -/
def expand (t : Text) : List Text := (words t).flatMap (B.glob files)

/-- The line that `echo` prints of an unquoted expansion. -/
def echoWords (t : Text) : Text := echoLine (B.expand files t)

/-! ### Words -/

variable {B files} {a b t w : Text} {c : Char}

theorem words_append (hc : isBlank c = true) (a b : Text) :
    words (a ++ c :: b) = words a ++ words b := by
  rw [words, List.splitOnP_append_cons a b hc, List.filter_append]
  rfl

theorem words_word (hne : t ≠ []) (h : ∀ c ∈ t, isBlank c = false) : words t = [t] := by
  rw [words, List.splitOnP_eq_singleton h]
  simp [hne]

theorem words_nil : words [] = [] := rfl

theorem words_append_word (hne : b ≠ []) (h : ∀ c ∈ b, isBlank c = false) (a : Text) :
    words (a ++ ' ' :: b) = words a ++ [b] := by
  rw [words_append rfl, words_word hne h]

/-- Induction over the blanks of a text. -/
theorem blank_induction {P : Text → Prop} (hword : ∀ t, (∀ c ∈ t, isBlank c = false) → P t)
    (happend : ∀ a c b, isBlank c = true → P a → P b → P (a ++ c :: b)) (t : Text) : P t := by
  induction hn : t.length using Nat.strong_induction_on generalizing t with
  | _ n ih =>
    by_cases h : ∀ d ∈ t, isBlank d = false
    · exact hword t h
    · obtain ⟨d, hd, hblank⟩ : ∃ d ∈ t, isBlank d = true := by simpa using h
      obtain ⟨a, b, rfl⟩ := List.append_of_mem hd
      rw [List.length_append, List.length_cons] at hn
      exact happend a d b hblank (ih a.length (by omega) a rfl) (ih b.length (by omega) b rfl)

/-- The last word ends as the text does. -/
theorem words_concat (hc : isBlank c = false) (t : Text) :
    ∃ ws w, words (t ++ [c]) = ws ++ [w ++ [c]] := by
  induction t using blank_induction with
  | hword t h =>
    refine ⟨[], t, words_word (by simp) fun d hd => ?_⟩
    rcases List.mem_append.1 hd with hd | hd
    · exact h d hd
    · rw [List.mem_singleton.1 hd]
      exact hc
  | happend a d b hblank _ ih =>
    obtain ⟨ws, w, hw⟩ := ih
    refine ⟨words a ++ ws, w, ?_⟩
    rw [List.append_assoc, List.cons_append, words_append hblank, hw, List.append_assoc]

/-- A word is a nonempty part of the text without blanks. -/
theorem mem_words (h : w ∈ words t) : w ≠ [] ∧ ∀ c ∈ w, isBlank c = false ∧ c ∈ t := by
  induction t using blank_induction with
  | hword t hword =>
    by_cases hne : t = []
    · rw [hne, words_nil] at h
      exact absurd h List.not_mem_nil
    · rw [words_word hne hword, List.mem_singleton] at h
      subst h
      exact ⟨hne, fun c hc => ⟨hword c hc, hc⟩⟩
  | happend a d b hblank iha ihb =>
    rw [words_append hblank, List.mem_append] at h
    rcases h with h | h
    · obtain ⟨hne, hchars⟩ := iha h
      exact ⟨hne, fun c hc => ⟨(hchars c hc).1, List.mem_append_left _ (hchars c hc).2⟩⟩
    · obtain ⟨hne, hchars⟩ := ihb h
      exact ⟨hne, fun c hc =>
        ⟨(hchars c hc).1, List.mem_append_right _ (List.mem_cons_of_mem d (hchars c hc).2)⟩⟩

theorem unwords_concat {ws : List Text} (hws : ws ≠ []) (w : Text) :
    unwords (ws ++ [w]) = unwords ws ++ ' ' :: w := by
  induction ws with
  | nil => exact absurd rfl hws
  | cons v ws ih =>
    cases ws with
    | nil => simp [unwords, List.intercalate]
    | cons v' ws =>
      have hrest := ih (List.cons_ne_nil _ _)
      simp only [unwords, List.cons_append, List.intercalate_cons_cons] at hrest ⊢
      rw [hrest]
      simp

theorem mem_unwords {ws : List Text} (h : c ∈ unwords ws) : c = ' ' ∨ ∃ w ∈ ws, c ∈ w := by
  rw [unwords] at h
  induction ws with
  | nil => exact absurd h List.not_mem_nil
  | cons v ws ih =>
    cases ws with
    | nil =>
      rw [List.intercalate_singleton] at h
      exact .inr ⟨v, List.mem_singleton_self v, h⟩
    | cons v' ws =>
      rw [List.intercalate_cons_cons, List.mem_append, List.mem_append, List.mem_singleton] at h
      rcases h with (h | h) | h
      · exact .inr ⟨v, List.mem_cons_self, h⟩
      · exact .inl h
      · obtain hblank | ⟨w, hw, hc⟩ := ih h
        · exact .inl hblank
        · exact .inr ⟨w, List.mem_cons_of_mem v hw, hc⟩

/-! ### Fields -/

theorem delete_append (c : Char) (a b : Text) : delete c (a ++ b) = delete c a ++ delete c b :=
  List.filter_append a b

theorem delete_cons_self (c : Char) (t : Text) : delete c (c :: t) = delete c t :=
  List.filter_cons_of_neg (by simp)

theorem delete_of_notMem (h : c ∉ t) : delete c t = t :=
  List.filter_eq_self.2 fun _ hd => decide_eq_true fun he => h (he ▸ hd)

theorem cutSecond_append (h : c ∉ a) (b : Text) :
    cutSecond c (a ++ c :: b) = b.takeWhile (· ≠ c) := by
  have hmem : c ∈ a ++ c :: b := List.mem_append_right a List.mem_cons_self
  rw [cutSecond, if_pos hmem, CText.dropWhile_ne_append h, List.drop_one, List.tail_cons]

/-- A separator behind a text that holds one has no effect. -/
theorem cutSecond_of_mem (h : c ∈ a) (b : Text) : cutSecond c (a ++ c :: b) = cutSecond c a := by
  obtain ⟨u, v, rfl, hu⟩ := List.eq_append_cons_of_mem h
  rw [List.append_assoc, List.cons_append, cutSecond_append hu, cutSecond_append hu,
    List.takeWhile_append]
  split_ifs with hlength
  · rw [List.takeWhile_cons_of_neg (by simp), List.append_nil]
    exact ((List.takeWhile_prefix _).eq_of_length hlength).symm
  · rfl

theorem mem_of_mem_cutSecond {d : Char} (h : c ∈ cutSecond d t) : c ∈ t := by
  unfold cutSecond at h
  split_ifs at h
  · exact (List.dropWhile_suffix _).subset
      ((List.drop_suffix _ _).subset ((List.takeWhile_prefix _).subset h))
  · exact h

/-! ### Expansions -/

theorem isBlank_of_isEnd (hc : isEnd c = true) : isBlank c = false := by
  simp only [isEnd, Bool.and_eq_true, Bool.not_eq_true'] at hc
  exact hc.1.1.1.1.1.1

/-- No option ends so. -/
theorem isOption_concat (hc : isEnd c = true) (w : Text) : isOption (w ++ [c]) = false := by
  refine Bool.eq_false_iff.2 fun h => ?_
  unfold isOption at h
  split at h
  · rename_i d ds ht
    cases w with
    | nil => cases ht
    | cons x w =>
      have hmem : c ∈ d :: ds := by
        rw [← (List.cons.inj ht).2]
        exact List.mem_append_right w (List.mem_singleton_self c)
      have hoption := List.all_eq_true.1 h c hmem
      simp only [isEnd, Bool.and_eq_true, decide_eq_true_eq] at hc
      simp only [Bool.or_eq_true, decide_eq_true_eq] at hoption
      rcases hoption with (hn | he) | hE
      · exact hc.1.1.2 hn
      · exact hc.1.2 he
      · exact hc.2 hE
  · cases h

/-- The last word of an expansion ends as the text does. -/
theorem expand_concat (hc : isEnd c = true) (t : Text) :
    ∃ ws w, B.expand files (t ++ [c]) = ws ++ [w ++ [c]] := by
  obtain ⟨ws, w, hw⟩ := words_concat (isBlank_of_isEnd hc) t
  have hne := B.glob_ne_nil files (w ++ [c])
  obtain ⟨u, hu⟩ := B.glob_end files w c hc _ (List.getLast_mem hne)
  refine ⟨ws.flatMap (B.glob files) ++ (B.glob files (w ++ [c])).dropLast, u, ?_⟩
  rw [expand, hw, List.flatMap_append, List.flatMap_singleton, List.append_assoc, ← hu,
    List.dropLast_append_getLast]

theorem expand_word (hne : t ≠ []) (h : ∀ c ∈ t, isBlank c = false) :
    B.expand files t = B.glob files t := by
  rw [expand, words_word hne h, List.flatMap_singleton]

/-- A plain word at the end stays there. -/
theorem expand_append_word (hne : b ≠ []) (h : ∀ c ∈ b, isBlank c = false)
    (hplain : isPlain b = true) (a : Text) :
    B.expand files (a ++ ' ' :: b) = B.expand files a ++ [b] := by
  rw [expand, expand, words_append_word hne h, List.flatMap_append, List.flatMap_singleton,
    B.glob_plain files b hplain]

theorem dropWhile_concat {p : Text → Bool} (h : p w = false) (ws : List Text) :
    (ws ++ [w]).dropWhile p = ws.dropWhile p ++ [w] := by
  induction ws with
  | nil => exact List.dropWhile_cons_of_neg (Bool.eq_false_iff.1 h)
  | cons v ws ih =>
    rw [List.cons_append, List.dropWhile_cons, List.dropWhile_cons, ih]
    split_ifs <;> rfl

/-- What `echo` prints ends in a word that is no option. -/
theorem echoWords_eq (hc : isEnd c = true) (t : Text) : ∃ ws w,
    (B.expand files (t ++ [c])).dropWhile isOption = ws ++ [w ++ [c]] := by
  obtain ⟨ws, w, hw⟩ : ∃ ws w, B.expand files (t ++ [c]) = ws ++ [w ++ [c]] := expand_concat hc t
  exact ⟨ws.dropWhile isOption, w, by rw [hw, dropWhile_concat (isOption_concat hc w)]⟩

/-- What `echo` prints of a text with a plain word at the end. -/
theorem echoWords_append (hc : isEnd c = true) (hne : b ≠ []) (h : ∀ c ∈ b, isBlank c = false)
    (hplain : isPlain b = true) (a : Text) :
    B.echoWords files (a ++ [c] ++ ' ' :: b) = B.echoWords files (a ++ [c]) ++ ' ' :: b := by
  obtain ⟨ws, w, hw⟩ : ∃ ws w,
      (B.expand files (a ++ [c])).dropWhile isOption = ws ++ [w ++ [c]] := echoWords_eq hc a
  have hrest : ws ++ [w ++ [c]] ≠ [] := by simp
  rw [echoWords, echoWords, expand_append_word hne h hplain, echoLine, echoLine,
    List.dropWhile_append, hw, if_neg (by simp), unwords_concat hrest]

theorem echoWords_concat (hc : isEnd c = true) (t : Text) :
    ∃ u, B.echoWords files (t ++ [c]) = u ++ [c] := by
  obtain ⟨ws, w, hw⟩ : ∃ ws w,
      (B.expand files (t ++ [c])).dropWhile isOption = ws ++ [w ++ [c]] := echoWords_eq hc t
  rw [echoWords, echoLine, hw]
  by_cases hws : ws = []
  · exact ⟨w, by rw [hws, List.nil_append, unwords, List.intercalate_singleton]⟩
  · refine ⟨unwords ws ++ ' ' :: w, ?_⟩
    rw [unwords_concat hws, List.append_assoc, List.cons_append]

/-- Every other character than a single blank is clean, if there was no backslash. -/
theorem isClean_of_mem_echoWords (hfiles : ∀ v, files v = true → IsPath v) (ht : '\\' ∉ t)
    (hc : c ∈ B.echoWords files t) : c = ' ' ∨ isClean c = true := by
  refine (mem_unwords hc).imp_right ?_
  rintro ⟨v, hv, hcv⟩
  obtain ⟨w, hw, hvw⟩ := List.mem_flatMap.1 ((List.dropWhile_suffix isOption).subset hv)
  rcases B.glob_eq files w with hglob | hglob
  · -- a word of the text
    rw [hglob, List.mem_singleton] at hvw
    subst hvw
    obtain ⟨hblank, hct⟩ := (mem_words hw).2 c hcv
    rw [isClean, hblank, Bool.not_false, Bool.true_and, decide_eq_true_eq]
    exact fun hbackslash => ht (hbackslash ▸ hct)
  · -- a path
    have hpath : IsPath v := (hglob v hvw).elim id (hfiles v)
    exact List.all_eq_true.1 hpath.2 c hcv

theorem flatMap_eq_filter {f : Text → List Text} {ts : List Text}
    (h : ∀ t ∈ ts, f t = if t = [] then [] else [t]) : ts.flatMap f = ts.filter (· ≠ []) := by
  induction ts with
  | nil => rfl
  | cons t ts ih =>
    rw [List.flatMap_cons, h t List.mem_cons_self,
      ih fun u hu => h u (List.mem_cons_of_mem t hu), List.filter_cons]
    by_cases ht : t = [] <;> simp [ht]

/-- **Words that are no paths** have come from no pattern: as many texts that expand to them are
these words themselves. -/
theorem eq_of_flatMap_expand {ts us : List Text} (hfiles : ∀ v, files v = true → IsPath v)
    (hts : ∀ t ∈ ts, ∀ c ∈ t, isBlank c = false) (hus : ∀ u ∈ us, ¬ IsPath u)
    (hlength : ts.length ≤ us.length) (h : ts.flatMap (B.expand files) = us) : ts = us := by
  have hexpand : ∀ t ∈ ts, B.expand files t = if t = [] then [] else [t] := by
    intro t ht
    split_ifs with hempty
    · rw [hempty, expand, words_nil, List.flatMap_nil]
    · have hglob : B.expand files t = B.glob files t := expand_word hempty (hts t ht)
      rw [hglob]
      refine (B.glob_eq files t).resolve_right fun hpaths => ?_
      obtain ⟨v, hv⟩ := List.exists_mem_of_ne_nil _ (B.glob_ne_nil files t)
      have hmem : v ∈ us := by
        rw [← h]
        exact List.mem_flatMap.2 ⟨t, ht, hglob ▸ hv⟩
      exact hus v hmem ((hpaths v hv).elim id (hfiles v))
  rw [flatMap_eq_filter hexpand] at h
  have hfilter : (ts.filter (· ≠ [])).length = ts.length :=
    le_antisymm (List.length_filter_le _ _) (by rw [h]; exact hlength)
  rw [← h, List.filter_eq_self.2 (List.length_filter_eq_length_iff.1 hfilter)]

/-! ### Lines -/

/-- A line without backslashes has no marks, and is not continued. -/
theorem unescape_of_notMem (h : '\\' ∉ t) : unescape t = (t.map fun c => (c, false), false) := by
  fun_induction unescape t with
  | case1 => rfl
  | case2 => exact absurd (List.mem_singleton_self _) h
  | case3 c t ih => exact absurd List.mem_cons_self h
  | case4 c t _ _ ih =>
    rw [ih (mt (List.mem_cons_of_mem c) h), List.map_cons]

theorem length_unescape_le (t : Text) : (unescape t).1.length ≤ t.length := by
  fun_induction unescape t with
  | case1 => exact le_rfl
  | case2 => exact Nat.zero_le _
  | case3 c t ih =>
    rw [List.length_cons, List.length_cons, List.length_cons]
    omega
  | case4 c t _ _ ih => exact Nat.succ_le_succ ih

/-- With a backslash the marks are fewer than the characters. -/
theorem length_unescape_lt (h : '\\' ∈ t) : (unescape t).1.length < t.length := by
  fun_induction unescape t with
  | case1 => exact absurd h List.not_mem_nil
  | case2 => exact Nat.zero_lt_one
  | case3 c t ih =>
    have hle := length_unescape_le t
    rw [List.length_cons, List.length_cons, List.length_cons]
    omega
  | case4 c t hsingle hpair ih =>
    refine Nat.succ_lt_succ (ih ((List.mem_cons.1 h).resolve_left fun hc => ?_))
    subst hc
    cases t with
    | nil => exact hsingle rfl rfl
    | cons d t => exact hpair d t rfl rfl

/-- Characters other than backslashes are kept. -/
theorem count_unescape (hc : c ≠ '\\') (t : Text) :
    ((unescape t).1.map Prod.fst).count c = t.count c := by
  fun_induction unescape t with
  | case1 => rfl
  | case2 => simp [Ne.symm hc]
  | case3 d t ih => simp [List.count_cons, ih, Ne.symm hc]
  | case4 d t _ _ ih => simp [List.count_cons, ih]

/-- A character that is no blank, at the begin of a line. -/
theorem strip_cons (hc : isBlank c = false) (marks : List (Char × Bool)) :
    strip ((c, false) :: marks) = c :: (marks.rdropWhile isSeparator).map Prod.fst := by
  have hsep : isSeparator (c, false) = false := hc
  have hmarks : ((c, false) :: marks).rdropWhile isSeparator =
      (c, false) :: marks.rdropWhile isSeparator := by
    induction marks using List.reverseRecOn with
    | nil => rw [List.rdropWhile_singleton, if_neg (by simp [hsep]), List.rdropWhile_nil]
    | append_singleton marks m ih =>
      rw [← List.cons_append, List.rdropWhile_concat, List.rdropWhile_concat, ih]
      split_ifs <;> rfl
  rw [strip, List.dropWhile_cons_of_neg (by simp [hsep]), hmarks, List.map_cons]

/-- Without backslashes a line is stored as it is, if it neither begins nor ends with a blank. -/
theorem strip_unmarked {d : Char} (hc : isBlank c = false) (hd : isBlank d = false) (t : Text) :
    strip ((c :: (t ++ [d])).map fun c => (c, false)) = c :: (t ++ [d]) := by
  have hsep : ¬ isSeparator (d, false) = true := by simp [isSeparator, hd]
  rw [List.map_cons, strip_cons hc, List.map_append, List.map_singleton,
    List.rdropWhile_concat_neg _ _ _ hsep]
  simp [Function.comp_def]

theorem strip_eq_nil {marks : List (Char × Bool)} (h : ∀ m ∈ marks, isSeparator m = true) :
    strip marks = [] := by
  rw [strip, List.dropWhile_eq_nil_iff.2 h, List.rdropWhile_nil, List.map_nil]

end Bash

end Gs101
