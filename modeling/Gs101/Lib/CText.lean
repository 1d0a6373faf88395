import Mathlib.Algebra.Group.Int.Defs
import Mathlib.Algebra.Group.Nat.Defs
import Mathlib.Data.List.DropRight
import Mathlib.Data.List.Infix
import Mathlib.Data.List.TakeWhile
import Mathlib.Tactic.Common

/-!
# Texts as C and libbase see them

A file content, a name or a message is a `String`; each byte is the character with that code.

* `cString`, `bufferAfterRead`: a fixed buffer filled by `read`, and the text up to its first NUL;
* `isSpace`, `trim`: `isspace` of the C locale and `android::base::Trim`;
* `stoi`, `scanUnsigned`: the numbers that `std::stoi` and `sscanf` find in a text;
* `tokenize`, `strtok`: the parts of a text between delimiters;
* `idxOf?_append_cons`, `takeWhile_ne_append`, `dropWhile_ne_append`: what stands at the first
  place of a character, before it and behind it;
* `length_takeWhile_ne_lt_iff`: when a string ends inside a buffer.
-/

namespace Gs101

namespace CText

/-- The text that starts at a buffer: everything up to the first NUL. -/
def cString (buffer : List Char) : String :=
  String.ofList (buffer.takeWhile (· ≠ '\x00'))

/-- A zeroed buffer of `n` bytes after `read(fd, buffer, n)` on a file with this content, followed
by the bytes that lie past the buffer. -/
def bufferAfterRead (n : ℕ) (content past : List Char) : List Char :=
  content.take n ++ List.replicate (n - content.length) '\x00' ++ past

/-- `isspace` in the C locale. -/
def isSpace (c : Char) : Bool :=
  c = ' ' || c = '\t' || c = '\n' || c = '\x0b' || c = '\x0c' || c = '\x0d'

/-- `android::base::Trim`: the text without leading and trailing white space. -/
def trim (s : String) : String :=
  String.ofList ((s.toList.dropWhile isSpace).rdropWhile isSpace)

example : trim "  none\n" = "none" := by decide

theorem length_trim_le (s : String) : (trim s).length ≤ s.length := by
  simp only [trim, String.length_ofList]
  exact (List.rdropWhile_prefix isSpace _).length_le.trans (List.dropWhile_suffix isSpace).length_le

/-- The number that decimal digits denote. -/
def ofDigits (digits : List Char) : ℕ :=
  digits.foldl (fun n c => 10 * n + (c.toNat - '0'.toNat)) 0

/-- The subject sequence of `strtol` in base 10: white space, an optional sign, then digits; `none`
if there is no digit. -/
def strtol (s : List Char) : Option ℤ :=
  let (sign, rest) : ℤ × List Char := match s.dropWhile isSpace with
    | '-' :: rest => (-1, rest)
    | '+' :: rest => (1, rest)
    | rest => (1, rest)
  let digits := rest.takeWhile Char.isDigit
  if digits = [] then none else some (sign * ofDigits digits)

/-- `std::stoi`; `none` is the exception, `std::invalid_argument` if the text does not start with a
number and `std::out_of_range` if the number is not an `int`. -/
def stoi (s : String) : Option ℤ :=
  (strtol s.toList).filter fun n => -2 ^ 31 ≤ n ∧ n < 2 ^ 31

example : stoi "1\n" = some 1 ∧ stoi "" = none ∧ stoi "2147483648" = none := by decide

/-- `sscanf(text, lit "%u", &n)`: a literal without white space or `%`, then an `unsigned int`. -/
def scanUnsigned (lit : String) (text : String) : Option ℕ :=
  if lit.toList <+: text.toList then
    (strtol (text.toList.drop lit.length)).map fun n => (n % 2 ^ 32).toNat
  else none

/-- `android::base::Tokenize`: the nonempty parts between delimiters. -/
def tokenize (s : String) (delimiters : List Char) : List String :=
  ((s.toList.splitOnP (· ∈ delimiters)).filter (· ≠ [])).map String.ofList

/-- The first token of `strtok` with one delimiter, for a text that holds another character. -/
def strtok (s : String) (delimiter : Char) : String :=
  String.ofList ((s.toList.dropWhile (· = delimiter)).takeWhile (· ≠ delimiter))

/-- `strncmp(s, word, strlen(word)) == 0`. -/
def startsWith (s word : String) : Bool := word.toList.isPrefixOf s.toList

/-- `strstr(s, word) != NULL`, or `find(word) != npos`. -/
def contains (s word : String) : Bool := decide (word.toList <:+: s.toList)

/-- A delimiter separates the parts before it from those behind it. -/
theorem tokenize_append_cons {delimiters : List Char} {c : Char} (hc : c ∈ delimiters)
    (a b : List Char) :
    tokenize (String.ofList (a ++ c :: b)) delimiters =
      tokenize (String.ofList a) delimiters ++ tokenize (String.ofList b) delimiters := by
  simp only [tokenize, String.toList_ofList]
  rw [List.splitOnP_append_cons a b (decide_eq_true hc), List.filter_append, List.map_append]

theorem tokenize_empty (delimiters : List Char) : tokenize "" delimiters = [] := rfl

theorem tokenize_word {delimiters : List Char} {word : String} (hne : word ≠ "")
    (h : ∀ c ∈ word.toList, c ∉ delimiters) : tokenize word delimiters = [word] := by
  have hsplit := List.splitOnP_eq_singleton (p := fun c => decide (c ∈ delimiters))
    fun c hc => decide_eq_false (h c hc)
  have hlist : word.toList ≠ [] := fun he => hne (String.toList_eq_nil_iff.1 he)
  rw [tokenize, hsplit]
  simp [hlist]

/-- A text without NUL is read as a whole. -/
theorem cString_eq {s : String} (h : ∀ c ∈ s.toList, c ≠ '\x00') : cString s.toList = s := by
  rw [cString, List.takeWhile_eq_self_iff.2 fun c hc => decide_eq_true (h c hc),
    String.ofList_toList]

/-- `find` of a character that stands behind a text without it. -/
theorem idxOf?_append_cons {c : Char} {a : List Char} (h : c ∉ a) (b : List Char) :
    (a ++ c :: b).idxOf? c = some a.length := by
  induction a with
  | nil => simp [List.idxOf?_cons]
  | cons d a ih =>
    have hd : ¬ d = c := fun hd => h (hd ▸ List.mem_cons_self)
    rw [List.cons_append, List.idxOf?_cons, if_neg (by simpa using hd),
      ih fun ha => h (List.mem_cons_of_mem d ha)]
    rfl

theorem takeWhile_ne_of_notMem {c : Char} {s : List Char} (h : c ∉ s) :
    s.takeWhile (· ≠ c) = s :=
  List.takeWhile_eq_self_iff.2 fun _ hd => decide_eq_true fun he => h (he ▸ hd)

theorem takeWhile_ne_append {c : Char} {a : List Char} (h : c ∉ a) (b : List Char) :
    (a ++ c :: b).takeWhile (· ≠ c) = a := by
  have hall : ∀ d ∈ a, decide (d ≠ c) = true := fun d hd =>
    decide_eq_true fun he => h (he ▸ hd)
  rw [List.takeWhile_append_of_pos hall]
  simp

theorem dropWhile_ne_append {c : Char} {a : List Char} (h : c ∉ a) (b : List Char) :
    (a ++ c :: b).dropWhile (· ≠ c) = c :: b := by
  have hall : ∀ d ∈ a, decide (d ≠ c) = true := fun d hd =>
    decide_eq_true fun he => h (he ▸ hd)
  rw [List.dropWhile_append_of_pos hall]
  simp

theorem notMem_takeWhile_ne (c : Char) (s : List Char) : c ∉ s.takeWhile (· ≠ c) := by
  intro h
  have hne : decide (c ≠ c) = true := List.mem_takeWhile_imp (p := fun d => decide (d ≠ c)) h
  exact of_decide_eq_true hne rfl

/-- Some bytes that a NUL ends hold a string, its NUL, and something behind. -/
theorem exists_eq_takeWhile_ne (c : Char) (s : List Char) :
    ∃ b, s ++ [c] = s.takeWhile (· ≠ c) ++ c :: b := by
  by_cases hc : c ∈ s
  · obtain ⟨a, b, rfl, ha⟩ := List.eq_append_cons_of_mem hc
    refine ⟨b ++ [c], ?_⟩
    rw [takeWhile_ne_append ha, List.append_assoc, List.cons_append]
  · exact ⟨[], by rw [takeWhile_ne_of_notMem hc]⟩

/-- A string ends inside a buffer if and only if the buffer holds a NUL. -/
theorem length_takeWhile_ne_lt_iff {c : Char} {buffer : List Char} (past : List Char) :
    ((buffer ++ past).takeWhile (· ≠ c)).length < buffer.length ↔ c ∈ buffer := by
  constructor
  · intro hlt
    by_contra hc
    have hall : ∀ d ∈ buffer, decide (d ≠ c) = true := fun d hd =>
      decide_eq_true fun he => hc (he ▸ hd)
    rw [List.takeWhile_append_of_pos hall, List.length_append] at hlt
    omega
  · intro hc
    obtain ⟨a, b, rfl, ha⟩ := List.eq_append_cons_of_mem hc
    rw [List.append_assoc, List.cons_append, takeWhile_ne_append ha]
    simp

end CText

end Gs101
