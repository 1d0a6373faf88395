import Mathlib.Algebra.Order.GroupWithZero.Basic
import Mathlib.Algebra.Order.Ring.Int
import Mathlib.Data.List.Induction
import Mathlib.Tactic.Common

/-!
# Texts in a shell script

What a script does with texts: `read`, parameter expansion, and arithmetic expansion.

* `number`: a decimal or hexadecimal constant, perhaps with a minus sign;
* `Shell`: the width of the shell's integers, and what it makes of texts that the rest does not
  cover;
* `Shell.arith`: `$((...))` of a number, a product, a product divided by a number, or a sum of two
  of these; a text is evaluated after the parameters in it were expanded;
* `lines`: the lines for which `while read` runs its body;
* `Shell.readFields`: `IFS=, read -r f1 f2`.

Constants with leading zeros are decimal, and integers wrap around.
-/

namespace Gs101

namespace Shell

/-- A text of the shell. -/
abbrev Text := List Char

/-! ### Constants -/

def hexDigit (c : Char) : ℕ :=
  if c.isDigit then c.toNat - '0'.toNat
  else if c.isLower then c.toNat - 'a'.toNat + 10 else c.toNat - 'A'.toNat + 10

def hexValue (digits : Text) : ℕ := digits.foldl (fun n c => 16 * n + hexDigit c) 0

def decValue (digits : Text) : ℕ := Nat.ofDigitChars 10 digits 0

/-- A nonempty text of hexadecimal digits. -/
def IsHex (t : Text) : Prop := t ≠ [] ∧ ∀ c ∈ t, c.isHexDigit = true

/-- A nonempty text of decimal digits. -/
def IsDec (t : Text) : Prop := t ≠ [] ∧ ∀ c ∈ t, c.isDigit = true

instance (t : Text) : Decidable (IsHex t) :=
  decidable_of_iff (t ≠ [] ∧ t.all Char.isHexDigit = true) (and_congr_right' List.all_eq_true)

instance (t : Text) : Decidable (IsDec t) :=
  decidable_of_iff (t ≠ [] ∧ t.all Char.isDigit = true) (and_congr_right' List.all_eq_true)

/-- A constant without a sign. -/
def unsigned : Text → Option ℕ
  | '0' :: 'x' :: digits => if IsHex digits then some (hexValue digits) else none
  | digits => if IsDec digits then some (decValue digits) else none

/-- A constant, perhaps with a minus sign. -/
def number : Text → Option ℤ
  | '-' :: t => (unsigned t).map fun n : ℕ => -(n : ℤ)
  | t => (unsigned t).map fun n : ℕ => (n : ℤ)

/-- The decimal text of an integer. -/
def decimal (x : ℤ) : Text := (toString x).toList

end Shell

/-- A shell: the width of its integers, and what it makes of texts that are not described here. -/
structure Shell where
  bits : ℕ
  thirtyTwo : 32 ≤ bits
  /-- `$((...))` of another text; `none` is an error, which ends a script. -/
  otherArith : Shell.Text → Option ℤ
  /-- What `read` stores in its last variable when the rest of the line holds more separators. -/
  otherRest : Shell.Text → Shell.Text
  /-- What `echo` prints of an unquoted expansion that holds other characters than letters and
  digits. -/
  otherWords : Shell.Text → Shell.Text

namespace Shell

/-- A shell with 32-bit integers, where nothing else is arithmetic. -/
def narrow : Shell where
  bits := 32
  thirtyTwo := le_rfl
  otherArith _ := none
  otherRest := id
  otherWords := id

variable (S : Shell)

/-! ### Arithmetic expansion -/

/-- An integer as the shell stores it. -/
def wrap (x : ℤ) : ℤ := Int.bmod x (2 ^ S.bits)

def constant (t : Text) : Option ℤ := (number t).map S.wrap

/-- `a`, `a*b` or `a*b/c`. -/
def product (t : Text) : Option ℤ :=
  match t.splitOn '*' with
  | [a] => S.constant a
  | [a, b] =>
      match b.splitOn '/' with
      | [b] => do
          let x ← S.constant a
          let y ← S.constant b
          return S.wrap (x * y)
      | [b, c] => do
          let x ← S.constant a
          let y ← S.constant b
          let z ← S.constant c
          if z = 0 then none else return S.wrap ((S.wrap (x * y)).tdiv z)
      | _ => none
  | _ => none

/-- A product, or a sum of two. -/
def sum (t : Text) : Option ℤ :=
  match t.splitOn '+' with
  | [a] => S.product a
  | [a, b] => do
      let x ← S.product a
      let y ← S.product b
      return S.wrap (x + y)
  | _ => none

/-- `$((t))`. -/
def arith (t : Text) : Option ℤ := (S.sum t).or (S.otherArith t)

/-! ### Lines, fields and parameters -/

/-- The lines for which `while read` runs its body: `read` fails on the text behind the last
newline. -/
def lines (content : Text) : List Text := (content.splitOn '\n').dropLast

/-- `IFS=, read -r f1 f2`. -/
def readFields (line : Text) : Text × Text :=
  match line.splitOn ',' with
  | [] => ([], [])
  | [f1] => (f1, [])
  | [f1, f2] => (f1, f2)
  | f1 :: rest => (f1, S.otherRest (List.intercalate [','] rest))

/-- `${t%%.*}`. -/
def beforeDot (t : Text) : Text := (t.splitOn '.').headD []

/-- `${t#*.}`. -/
def afterDot (t : Text) : Text :=
  match t.splitOn '.' with
  | [] => []
  | [a] => a
  | _ :: rest => List.intercalate ['.'] rest

/-- An unquoted expansion, as `echo` prints it. -/
def words (t : Text) : Text := if t.all Char.isAlphanum then t else S.otherWords t

example : narrow.arith "-07*2048".toList = some (-14336) := by decide

example : lines "a,1\nb,2".toList = ["a,1".toList] := by decide

/-! ### What constants are made of -/

theorem isAlphanum_of_isHexDigit {c : Char} (h : c.isHexDigit = true) : c.isAlphanum = true := by
  have halpha : c.isAlphanum =
      (decide (c.val ≥ 'A'.val ∧ c.val ≤ 'Z'.val) || (c.val ≥ 'a'.val && c.val ≤ 'z'.val) ||
        c.isDigit) := rfl
  rw [halpha]
  simp only [Char.isHexDigit, Char.isDigit, Bool.or_eq_true, Bool.and_eq_true, decide_eq_true_eq,
    ge_iff_le, UInt32.le_iff_toNat_le] at h ⊢
  have hF : 'F'.val.toNat = 70 := rfl
  have hZ : 'Z'.val.toNat = 90 := rfl
  have hf : 'f'.val.toNat = 102 := rfl
  have hz : 'z'.val.toNat = 122 := rfl
  omega

theorem isAlphanum_of_isDigit {c : Char} (h : c.isDigit = true) : c.isAlphanum = true := by
  simp [Char.isAlphanum, h]

theorem IsHex.isAlphanum {t : Text} (h : IsHex t) : ∀ c ∈ t, c.isAlphanum = true :=
  fun c hc => isAlphanum_of_isHexDigit (h.2 c hc)

theorem IsDec.isAlphanum {t : Text} (h : IsDec t) : ∀ c ∈ t, c.isAlphanum = true :=
  fun c hc => isAlphanum_of_isDigit (h.2 c hc)

theorem unsigned_hex {t : Text} (h : IsHex t) : unsigned ('0' :: 'x' :: t) = some (hexValue t) :=
  if_pos h

theorem unsigned_dec {t : Text} (h : IsDec t) : unsigned t = some (decValue t) := by
  unfold unsigned
  split
  · exact absurd (h.2 'x' (by simp)) (by decide)
  · exact if_pos h

/-- A constant holds letters and digits. -/
theorem isAlphanum_of_unsigned {t : Text} {n : ℕ} (h : unsigned t = some n) :
    ∀ c ∈ t, c.isAlphanum = true := by
  unfold unsigned at h
  split at h
  · split_ifs at h with ht
    exact List.forall_mem_cons.2 ⟨rfl, List.forall_mem_cons.2 ⟨rfl, ht.isAlphanum⟩⟩
  · split_ifs at h with ht
    exact ht.isAlphanum

/-- Besides letters and digits there is only the sign. -/
theorem not_mem_of_number {t : Text} {x : ℤ} (h : number t = some x) {c : Char}
    (hc : c.isAlphanum = false) (hsign : c ≠ '-') : c ∉ t := by
  have key : ∀ {s : Text} {n : ℕ}, unsigned s = some n → c ∉ s := by
    intro s n hs hm
    exact absurd (isAlphanum_of_unsigned hs c hm) (by rw [hc]; decide)
  unfold number at h
  split at h
  · obtain ⟨n, hn, -⟩ := Option.map_eq_some_iff.1 h
    exact List.mem_cons.not.2 (not_or.2 ⟨hsign, key hn⟩)
  · obtain ⟨n, hn, -⟩ := Option.map_eq_some_iff.1 h
    exact key hn

/-! ### Arithmetic on constants -/

variable {S} {a b c : Text} {x y z : ℤ}

theorem constant_of_number (ha : number a = some x) : S.constant a = some (S.wrap x) := by
  rw [constant, ha, Option.map_some]

theorem product_number (ha : number a = some x) : S.product a = some (S.wrap x) := by
  unfold product
  rw [List.splitOn_eq_singleton (not_mem_of_number ha (by decide) (by decide))]
  exact constant_of_number ha

theorem product_mul (ha : number a = some x) (hb : number b = some y) :
    S.product (a ++ '*' :: b) = some (S.wrap (S.wrap x * S.wrap y)) := by
  unfold product
  rw [List.splitOn_append_cons_self_of_not_mem (not_mem_of_number ha (by decide) (by decide)),
    List.splitOn_eq_singleton (not_mem_of_number hb (by decide) (by decide))]
  simp only [List.splitOn_eq_singleton (not_mem_of_number hb (c := '/') (by decide) (by decide)),
    constant_of_number ha, constant_of_number hb, Option.bind_eq_bind, Option.bind_some,
    Option.pure_def]

theorem product_mul_div (ha : number a = some x) (hb : number b = some y) (hc : number c = some z)
    (hz : S.wrap z ≠ 0) :
    S.product (a ++ '*' :: b ++ '/' :: c) =
      some (S.wrap ((S.wrap (S.wrap x * S.wrap y)).tdiv (S.wrap z))) := by
  have hrest : '*' ∉ b ++ '/' :: c := by
    rw [List.mem_append, List.mem_cons, not_or, not_or]
    exact ⟨not_mem_of_number hb (by decide) (by decide), by decide,
      not_mem_of_number hc (by decide) (by decide)⟩
  unfold product
  rw [List.append_assoc, List.cons_append,
    List.splitOn_append_cons_self_of_not_mem (not_mem_of_number ha (by decide) (by decide)),
    List.splitOn_eq_singleton hrest]
  simp only [List.splitOn_append_cons_self_of_not_mem
      (not_mem_of_number hb (c := '/') (by decide) (by decide)),
    List.splitOn_eq_singleton (not_mem_of_number hc (c := '/') (by decide) (by decide)),
    constant_of_number ha, constant_of_number hb, constant_of_number hc, Option.bind_eq_bind,
    Option.bind_some, Option.pure_def, if_neg hz]

/-- A text without a sum in it. -/
theorem arith_product {t : Text} (ht : '+' ∉ t) (h : S.product t = some x) :
    S.arith t = some x := by
  rw [arith, sum, List.splitOn_eq_singleton ht]
  simp only [h, Option.some_or]

theorem arith_number (ha : number a = some x) : S.arith a = some (S.wrap x) :=
  arith_product (not_mem_of_number ha (by decide) (by decide)) (product_number ha)

theorem arith_mul (ha : number a = some x) (hb : number b = some y) :
    S.arith (a ++ '*' :: b) = some (S.wrap (S.wrap x * S.wrap y)) := by
  refine arith_product ?_ (product_mul ha hb)
  rw [List.mem_append, List.mem_cons, not_or, not_or]
  exact ⟨not_mem_of_number ha (by decide) (by decide), by decide,
    not_mem_of_number hb (by decide) (by decide)⟩

theorem arith_mul_div (ha : number a = some x) (hb : number b = some y) (hc : number c = some z)
    (hz : S.wrap z ≠ 0) :
    S.arith (a ++ '*' :: b ++ '/' :: c) =
      some (S.wrap ((S.wrap (S.wrap x * S.wrap y)).tdiv (S.wrap z))) := by
  refine arith_product ?_ (product_mul_div ha hb hc hz)
  simp only [List.mem_append, List.mem_cons, not_or]
  exact ⟨⟨not_mem_of_number ha (by decide) (by decide), by decide,
    not_mem_of_number hb (by decide) (by decide)⟩, by decide,
    not_mem_of_number hc (by decide) (by decide)⟩

theorem arith_add (ha : number a = some x) (hb : number b = some y) :
    S.arith (a ++ '+' :: b) = some (S.wrap (S.wrap x + S.wrap y)) := by
  rw [arith, sum,
    List.splitOn_append_cons_self_of_not_mem (not_mem_of_number ha (by decide) (by decide)),
    List.splitOn_eq_singleton (not_mem_of_number hb (by decide) (by decide))]
  simp only [product_number ha, product_number hb, Option.bind_eq_bind, Option.bind_some,
    Option.pure_def, Option.some_or]

/-! ### Numbers and their texts -/

theorem number_hex (h : IsHex a) : number ('0' :: 'x' :: a) = some (hexValue a : ℤ) := by
  show (unsigned ('0' :: 'x' :: a)).map (fun n : ℕ => (n : ℤ)) = _
  rw [unsigned_hex h, Option.map_some]

theorem number_dec (h : IsDec a) : number a = some (decValue a : ℤ) := by
  unfold number
  split
  · exact absurd (h.2 '-' (by simp)) (by decide)
  · rw [unsigned_dec h, Option.map_some]

theorem number_neg (h : IsDec a) : number ('-' :: a) = some (-(decValue a : ℤ)) := by
  simp only [number, unsigned_dec h, Option.map_some]

theorem isDec_toDigits (n : ℕ) : IsDec (Nat.toDigits 10 n) :=
  ⟨Nat.toDigits_ne_nil, fun _ hc => Nat.isDigit_of_mem_toDigits (by decide) (by decide) hc⟩

theorem decValue_toDigits (n : ℕ) : decValue (Nat.toDigits 10 n) = n :=
  Nat.ofDigitChars_ten_toDigits

theorem toNat_sub_lt_of_isDigit {d : Char} (h : d.isDigit = true) : d.toNat - '0'.toNat < 10 := by
  simp only [Char.isDigit, Bool.and_eq_true, decide_eq_true_eq, ge_iff_le,
    UInt32.le_iff_toNat_le] at h
  have hnine : '9'.val.toNat = 57 := rfl
  have hzero : '0'.toNat = 48 := rfl
  have hval : d.toNat = d.val.toNat := rfl
  omega

/-- `n` digits denote less than `10 ^ n`. -/
theorem decValue_lt (h : ∀ c ∈ a, c.isDigit = true) : decValue a < 10 ^ a.length := by
  have hinit : ∀ n, Nat.ofDigitChars 10 a n < 10 ^ a.length * (n + 1) := by
    induction a with
    | nil => intro n; simp [Nat.ofDigitChars]
    | cons c a ih =>
      intro n
      obtain ⟨hc, ha⟩ := List.forall_mem_cons.1 h
      have hdigit := toNat_sub_lt_of_isDigit hc
      rw [Nat.ofDigitChars_cons, List.length_cons, pow_succ, mul_assoc]
      refine (ih ha _).trans_le (Nat.mul_le_mul_left _ ?_)
      omega
  have hzero := hinit 0
  rw [zero_add, mul_one] at hzero
  exact hzero

/-- The decimal text of an integer is a constant with its value. -/
theorem number_decimal (x : ℤ) : number (decimal x) = some x := by
  unfold decimal
  rw [Int.toString_eq_repr, Int.repr_eq_if]
  split_ifs with hx
  · rw [Nat.toList_repr, number_dec (isDec_toDigits _), decValue_toDigits, Int.toNat_of_nonneg hx]
  · have hneg : 0 ≤ -x := by omega
    rw [String.toList_append, Nat.toList_repr]
    show number ('-' :: Nat.toDigits 10 (-x).toNat) = some x
    rw [number_neg (isDec_toDigits _), decValue_toDigits, Int.toNat_of_nonneg hneg, neg_neg]

theorem decimal_injective : Function.Injective decimal := by
  intro x y h
  have hxy := number_decimal x
  rw [h, number_decimal y] at hxy
  exact (Option.some.inj hxy).symm

/-! ### Integers that fit -/

/-- The shell can store the integer. -/
def Fits (S : Shell) (x : ℤ) : Prop := -(2 ^ S.bits) ≤ x * 2 ∧ x * 2 < 2 ^ S.bits

theorem wrap_of_fits (h : S.Fits x) : S.wrap x = x := by
  obtain ⟨hle, hlt⟩ := h
  exact Int.bmod_eq_of_le_mul_two (by push_cast; exact hle) (by push_cast; exact hlt)

theorem two_pow_le (S : Shell) : (2 : ℤ) ^ 32 ≤ 2 ^ S.bits :=
  pow_le_pow_right₀ (by decide) S.thirtyTwo

/-- Every shell stores the integers of 32 bits. -/
theorem fits_of_lt (h : -(2 ^ 31) ≤ x) (h' : x < 2 ^ 31) : S.Fits x := by
  have hpow := two_pow_le S
  unfold Fits
  constructor
  · omega
  · omega

@[simp] theorem wrap_wrap_mul_wrap (x y : ℤ) : S.wrap (S.wrap x * S.wrap y) = S.wrap (x * y) := by
  unfold wrap
  rw [Int.bmod_mul_bmod, Int.mul_bmod_bmod]

@[simp] theorem wrap_wrap (x : ℤ) : S.wrap (S.wrap x) = S.wrap x := Int.bmod_bmod ..

/-! ### Lines, fields and parameters of well-formed texts -/

theorem lines_append (h : '\n' ∉ a) (b : Text) : lines (a ++ '\n' :: b) = a :: lines b := by
  unfold lines
  rw [List.splitOn_append_cons_self_of_not_mem h,
    List.dropLast_cons_of_ne_nil (List.splitOn_ne_nil _ _)]

theorem lines_unterminated (h : '\n' ∉ a) : lines a = [] := by
  unfold lines
  rw [List.splitOn_eq_singleton h, List.dropLast_singleton]

/-- The lines that are read: without the last newline the last one is lost. -/
theorem lines_flatMap {α : Type*} {text : α → Text} {ls : List α} (h : ∀ l ∈ ls, '\n' ∉ text l)
    (terminated : Bool) :
    lines (let content := ls.flatMap fun l => text l ++ ['\n']
      if terminated then content else content.dropLast) =
      (if terminated then ls else ls.dropLast).map text := by
  have happend : ∀ (ls : List α) (rest : Text), (∀ l ∈ ls, '\n' ∉ text l) →
      lines ((ls.flatMap fun l => text l ++ ['\n']) ++ rest) = ls.map text ++ lines rest := by
    intro ls rest h
    induction ls with
    | nil => rfl
    | cons l ls ih =>
      rw [List.flatMap_cons, List.append_assoc, List.append_assoc, List.singleton_append,
        lines_append (h l List.mem_cons_self), ih fun l hl => h l (List.mem_cons_of_mem _ hl)]
      rfl
  cases terminated with
  | true =>
    have hlines := happend ls [] h
    rwa [List.append_nil, lines_unterminated List.not_mem_nil, List.append_nil] at hlines
  | false =>
    induction ls using List.reverseRecOn with
    | nil => rfl
    | append_singleton init l _ =>
      have hcontent : ((init ++ [l]).flatMap fun l => text l ++ ['\n']).dropLast =
          (init.flatMap fun l => text l ++ ['\n']) ++ text l := by
        rw [List.flatMap_append, List.flatMap_singleton, ← List.append_assoc, List.dropLast_concat]
      show lines ((init ++ [l]).flatMap fun l => text l ++ ['\n']).dropLast = _
      rw [hcontent, happend init _ fun l hl => h l (List.mem_append_left _ hl),
        lines_unterminated (h l (List.mem_append_right _ (List.mem_singleton_self l)))]
      simp

theorem readFields_fst (h : ',' ∉ a) (b : Text) : (S.readFields (a ++ ',' :: b)).1 = a := by
  unfold readFields
  rw [List.splitOn_append_cons_self_of_not_mem h]
  generalize b.splitOn ',' = rest
  match rest with
  | [] => rfl
  | [_] => rfl
  | _ :: _ :: _ => rfl

theorem readFields_append (ha : ',' ∉ a) (hb : ',' ∉ b) :
    S.readFields (a ++ ',' :: b) = (a, b) := by
  unfold readFields
  rw [List.splitOn_append_cons_self_of_not_mem ha, List.splitOn_eq_singleton hb]

theorem beforeDot_append (ha : '.' ∉ a) (b : Text) : beforeDot (a ++ '.' :: b) = a := by
  unfold beforeDot
  rw [List.splitOn_append_cons_self_of_not_mem ha, List.headD_cons]

theorem afterDot_append (ha : '.' ∉ a) (hb : '.' ∉ b) : afterDot (a ++ '.' :: b) = b := by
  unfold afterDot
  rw [List.splitOn_append_cons_self_of_not_mem ha, List.splitOn_eq_singleton hb]
  simp

theorem words_of_isAlphanum (h : ∀ c ∈ a, c.isAlphanum = true) : S.words a = a :=
  if_pos (List.all_eq_true.2 h)

end Shell

end Gs101
