import Gs101.Lib.CText

/-!
# Numbers from a file, with `std::ifstream`

A stream is the text that is still to come, `none` once its fail bit is set.  A stream that cannot
be opened has the fail bit from the start.

* `numGetInteger`, `numGetUnsigned`: `std::num_get` for a signed type in base 10, and for an
  unsigned type where the text tells the base;
* `scan`: what `>>` finds after white space;
* `Cell`, `extract`: a variable that remembers which call read its value from a file, and `>>` into
  it;
* `extract_source`: what the memory is worth;
* `extractAll`, `extractAll_source_iff`: a chain of extractions fills all its variables if and only
  if it finds a number each time.
-/

namespace Gs101

namespace FileStream

/-- What `std::num_get` makes of a text. -/
inductive NumGet (α : Type)
  /-- A number of the type, and what follows it. -/
  | number (v : α) (rest : List Char)
  /-- The fail bit is set, and this is stored: zero for what is no number, the limit of the type for
  a number that is too big. -/
  | failure (stored : α)

/-- The value of a digit, in base 16 at most. -/
def digitValue (c : Char) : ℕ :=
  if '0' ≤ c ∧ c ≤ '9' then c.toNat - '0'.toNat
  else if 'a' ≤ c ∧ c ≤ 'f' then c.toNat - 'a'.toNat + 10
  else if 'A' ≤ c ∧ c ≤ 'F' then c.toNat - 'A'.toNat + 10
  else 16

/-- The number that digits of a base denote, if all of them are such digits. -/
def ofDigits (base : ℕ) (digits : List Char) : Option ℕ :=
  if digits.all fun c => digitValue c < base then
    some (digits.foldl (fun n c => base * n + digitValue c) 0)
  else none

/-- `strtoull` in base 0, where it takes the whole text. -/
def strtoull : List Char → Option ℕ
  | [] => none
  | '0' :: 'x' :: digits | '0' :: 'X' :: digits =>
      if digits = [] then none else ofDigits 16 digits
  | '0' :: digits => ofDigits 8 digits
  | digits => ofDigits 10 digits

/-- A leading sign, and what follows it. -/
def takeSign : List Char → Bool × List Char
  | '-' :: rest => (true, rest)
  | '+' :: rest => (false, rest)
  | rest => (false, rest)

/-- For an unsigned type of this many bits, without a base: the characters that may stand in a
number of some base are taken, and must be a number as a whole. -/
def numGetUnsigned (bits : ℕ) (text : List Char) : NumGet ℕ :=
  let isAtom (c : Char) : Bool := digitValue c < 16 || c = 'x' || c = 'X'
  let (negative, rest) := takeSign text
  match strtoull (rest.takeWhile isAtom) with
  | none => .failure 0
  | some v =>
      if v ≥ 2 ^ bits then .failure (2 ^ bits - 1)
      else .number (if negative then (2 ^ bits - v) % 2 ^ bits else v) (rest.dropWhile isAtom)

example : strtoull "0x310".toList = some 784 ∧ strtoull "12".toList = some 12 ∧
    strtoull "12ab".toList = none := by
  decide

/-- For a signed type of this many bits, in base 10. -/
def numGetInteger (bits : ℕ) (text : List Char) : NumGet ℤ :=
  let (negative, rest) := takeSign text
  let digits := rest.takeWhile Char.isDigit
  if digits = [] then .failure 0
  else
    let v : ℤ := if negative then -CText.ofDigits digits else CText.ofDigits digits
    if v ≥ 2 ^ (bits - 1) then .failure (2 ^ (bits - 1) - 1)
    else if v < -2 ^ (bits - 1) then .failure (-2 ^ (bits - 1))
    else .number v (rest.dropWhile Char.isDigit)

/-- What `>>` finds. -/
inductive Scan (α : Type)
  | number (v : α) (rest : List Char)
  | failure (stored : α)
  /-- The fail bit, or the end of the file behind white space: nothing is stored. -/
  | nothing

section

variable {α : Type} (numGet : List Char → NumGet α)

def scan : Option (List Char) → Scan α
  | none => .nothing
  | some text =>
      match text.dropWhile CText.isSpace with
      | [] => .nothing
      | c :: rest =>
          match numGet (c :: rest) with
          | .number v rest => .number v rest
          | .failure stored => .failure stored

/-- The number that is found. -/
def Scan.number? : Scan α → Option α
  | .number v _ => some v
  | _ => none

/-- Something is found that is not a number of the type. -/
def Scan.isFailure : Scan α → Bool
  | .failure _ => true
  | _ => false

/-- A variable, with the number of the call in which its value was read from a file; `none` for
every other value. -/
structure Cell (α : Type) where
  value : α
  source : Option ℕ
  deriving DecidableEq

/-- `stream >> field`, in call `k`. -/
def extract (k : ℕ) (stream : Option (List Char)) (field : Cell α) :
    Option (List Char) × Cell α :=
  match scan numGet stream with
  | .number v rest => (some rest, ⟨v, some k⟩)
  | .failure stored => (none, ⟨stored, none⟩)
  | .nothing => (none, field)

/-- `stream >> fields a >> fields b >> ...`. -/
def extractAll {ι : Type} [DecidableEq ι] (k : ℕ) :
    List ι → Option (List Char) → (ι → Cell α) → ι → Cell α
  | [], _, fields => fields
  | a :: as, stream, fields =>
      extractAll k as (extract numGet k stream (fields a)).1
        (Function.update fields a (extract numGet k stream (fields a)).2)

/-- The numbers that follow one another, at most so many. -/
def numbers : ℕ → Option (List Char) → List α
  | 0, _ => []
  | n + 1, stream =>
      match scan numGet stream with
      | .number v rest => v :: numbers n (some rest)
      | _ => []

/-! ### What is read from a file -/

variable {numGet} {ι : Type} [DecidableEq ι] {k : ℕ} {stream : Option (List Char)} {field : Cell α}

/-- A value that call `j` read from a file was there already, or is the number that is found now. -/
theorem extract_source {j : ℕ} (h : (extract numGet k stream field).2.source = some j) :
    (j = k ∧ (scan numGet stream).number? = some (extract numGet k stream field).2.value) ∨
      (extract numGet k stream field).2 = field := by
  unfold extract at h ⊢
  cases hscan : scan numGet stream with
  | number v rest =>
    rw [hscan] at h
    exact .inl ⟨(Option.some.inj h).symm, rfl⟩
  | failure stored =>
    rw [hscan] at h
    cases h
  | nothing => exact .inr rfl

theorem extract_source_of_number (h : (scan numGet stream).number?.isSome = true) :
    (extract numGet k stream field).2.source = some k := by
  unfold extract
  cases hscan : scan numGet stream with
  | number v rest => rfl
  | failure stored =>
    rw [hscan] at h
    cases h
  | nothing =>
    rw [hscan] at h
    cases h

/-- A value is from a file if a number is found, or nothing and it was from a file before. -/
theorem isSome_extract_source :
    (extract numGet k stream field).2.source.isSome = true ↔
      (scan numGet stream).number?.isSome = true ∨
        (scan numGet stream).isFailure = false ∧ field.source.isSome = true := by
  unfold extract
  cases scan numGet stream with
  | number v rest => exact iff_of_true rfl (.inl rfl)
  | failure stored =>
    refine iff_of_false Bool.false_ne_true ?_
    rintro (h | ⟨h, -⟩) <;> cases h
  | nothing => simp [Scan.number?, Scan.isFailure]

theorem extractAll_of_notMem {a : ι} {as : List ι} (ha : a ∉ as) (fields : ι → Cell α) :
    extractAll numGet k as stream fields a = fields a := by
  induction as generalizing stream fields with
  | nil => rfl
  | cons b as ih =>
    obtain ⟨hab, ha⟩ := not_or.1 (mt List.mem_cons.2 ha)
    rw [extractAll, ih ha, Function.update_of_ne hab]

theorem extractAll_cons_self {a : ι} {as : List ι} (ha : a ∉ as) (fields : ι → Cell α) :
    extractAll numGet k (a :: as) stream fields a = (extract numGet k stream (fields a)).2 := by
  rw [extractAll, extractAll_of_notMem ha, Function.update_self]

/-- **A chain of extractions** fills all its variables if and only if it finds a number for each. -/
theorem extractAll_source_iff {as : List ι} (has : as.Nodup) {fields : ι → Cell α}
    (hfields : ∀ a ∈ as, (fields a).source = none) :
    (∀ a ∈ as, (extractAll numGet k as stream fields a).source = some k) ↔
      (numbers numGet as.length stream).length = as.length := by
  induction as generalizing stream fields with
  | nil => exact iff_of_true (List.forall_mem_nil _) rfl
  | cons a as ih =>
    obtain ⟨ha, has⟩ := List.nodup_cons.1 has
    have hself : extractAll numGet k (a :: as) stream fields a =
        (extract numGet k stream (fields a)).2 := extractAll_cons_self ha fields
    rw [List.forall_mem_cons, hself, List.length_cons, numbers]
    unfold extractAll
    have hrest : ∀ (stream : Option (List Char)) (field : Cell α),
        (∀ b ∈ as, (extractAll numGet k as stream (Function.update fields a field) b).source =
          some k) ↔ (numbers numGet as.length stream).length = as.length := by
      refine fun stream field => ih has fun b hb => ?_
      rw [Function.update_of_ne fun hab : b = a => ha (hab ▸ hb)]
      exact hfields b (List.mem_cons_of_mem a hb)
    rw [hrest]
    cases hscan : scan numGet stream with
    | number v rest => simp [extract, hscan]
    | failure stored => simp [extract, hscan]
    | nothing => simp [extract, hscan, hfields a List.mem_cons_self]

/-- The numbers go to the variables in their order. -/
theorem map_extractAll {as : List ι} (has : as.Nodup) (fields : ι → Cell α)
    (h : (numbers numGet as.length stream).length = as.length) :
    as.map (fun a => (extractAll numGet k as stream fields a).value) =
      numbers numGet as.length stream := by
  induction as generalizing stream fields with
  | nil => rfl
  | cons a as ih =>
    obtain ⟨ha, has⟩ := List.nodup_cons.1 has
    rw [List.length_cons, numbers] at h ⊢
    cases hscan : scan numGet stream with
    | number v rest =>
      rw [hscan, List.length_cons] at h
      rw [List.map_cons, extractAll_cons_self ha]
      unfold extractAll
      simp only [extract, hscan]
      rw [ih has _ (Nat.succ.inj h)]
    | failure stored =>
      rw [hscan] at h
      cases h
    | nothing =>
      rw [hscan] at h
      cases h

end

end FileStream

end Gs101
