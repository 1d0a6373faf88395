import Mathlib.Data.List.Basic
import Mathlib.Data.List.Forall2
import Mathlib.Data.List.Infix
import Mathlib.Tactic.Common

/-!
# Regular expressions without repetition

The part of the ECMAScript grammar in which a pattern is a sequence of plain characters, dots and
classes with one range, and what a search with such a pattern finds.

* `Atom`: one place of a pattern, with the characters that it accepts;
* `parse`: the atoms of a pattern, or `none` if it has any other special character;
* `Found`: some part of the text is accepted, atom by atom;
* `startsWith`, `search`: the same as a computation, and `search_iff`;
* `EcmaScript`: a search function does what the grammar says of these patterns.

A character that occurs once in a text fixes the place of the match: `search_anchored`.
-/

namespace Gs101

namespace Regex

inductive Atom
  | char (c : Char)
  /-- A dot. -/
  | any
  | range (a b : Char)
  deriving DecidableEq

/-- A dot accepts everything but the end of a line. -/
def Atom.accepts : Atom → Char → Bool
  | .char a, c => c = a
  | .any, c => c ≠ '\n' && c ≠ '\r'
  | .range a b, c => a ≤ c && c ≤ b

/-- The characters that do not stand for themselves; the dot is apart. -/
def special : List Char := ['^', '$', '\\', '*', '+', '?', '(', ')', '[', ']', '{', '}', '|']

/-- Only dots are special here. -/
def isPlain (text : List Char) : Bool := text.all fun c => decide (c ∉ special)

def parse : List Char → Option (List Atom)
  | [] => some []
  | '.' :: p => (parse p).map (Atom.any :: ·)
  | '[' :: a :: '-' :: b :: ']' :: p =>
      if a ∉ special ∧ b ∉ special ∧ a ≤ b then (parse p).map (Atom.range a b :: ·) else none
  | c :: p => if c ∈ special then none else (parse p).map (Atom.char c :: ·)

/-- Some part of the text is accepted. -/
def Found (atoms : List Atom) (text : List Char) : Prop :=
  ∃ part, part <:+: text ∧ List.Forall₂ (fun a c => a.accepts c = true) atoms part

/-- A search function that follows the grammar, as far as `parse` covers it. -/
def EcmaScript (regexSearch : String → String → Bool) : Prop :=
  ∀ text pattern atoms, parse pattern.toList = some atoms →
    (regexSearch text pattern = true ↔ Found atoms text.toList)

/-! ### The search -/

/-- The text starts with a part that is accepted. -/
def startsWith : List Atom → List Char → Bool
  | [], _ => true
  | _ :: _, [] => false
  | a :: as, c :: cs => a.accepts c && startsWith as cs

def search (atoms : List Atom) (text : List Char) : Bool := text.tails.any (startsWith atoms)

/-- A search that finds nothing with a pattern that `parse` does not cover. -/
def regexSearch (text pattern : String) : Bool :=
  match parse pattern.toList with
  | some atoms => search atoms text.toList
  | none => false

@[simp] theorem startsWith_nil (text : List Char) : startsWith [] text = true := rfl

@[simp] theorem startsWith_cons_cons (a : Atom) (as : List Atom) (c : Char) (cs : List Char) :
    startsWith (a :: as) (c :: cs) = (a.accepts c && startsWith as cs) := rfl

theorem startsWith_iff {atoms : List Atom} {text : List Char} :
    startsWith atoms text = true ↔
      ∃ part, part <+: text ∧ List.Forall₂ (fun a c => a.accepts c = true) atoms part := by
  induction atoms generalizing text with
  | nil => exact iff_of_true rfl ⟨[], List.nil_prefix, .nil⟩
  | cons a as ih =>
    cases text with
    | nil =>
      refine iff_of_false (by nofun) ?_
      rintro ⟨part, hpart, haccepts⟩
      rw [List.prefix_nil.1 hpart] at haccepts
      cases haccepts
    | cons c cs =>
      rw [startsWith_cons_cons, Bool.and_eq_true, ih]
      constructor
      · rintro ⟨ha, part, hpart, haccepts⟩
        exact ⟨c :: part, List.cons_prefix_cons.2 ⟨rfl, hpart⟩, .cons ha haccepts⟩
      · rintro ⟨part, hpart, haccepts⟩
        cases haccepts with
        | cons ha haccepts =>
          obtain ⟨rfl, hrest⟩ := List.cons_prefix_cons.1 hpart
          exact ⟨ha, _, hrest, haccepts⟩

theorem search_iff_suffix {atoms : List Atom} {text : List Char} :
    search atoms text = true ↔ ∃ rest, rest <:+ text ∧ startsWith atoms rest = true := by
  simp only [search, List.any_eq_true, List.mem_tails]

theorem search_iff {atoms : List Atom} {text : List Char} :
    search atoms text = true ↔ Found atoms text := by
  rw [search_iff_suffix]
  constructor
  · rintro ⟨rest, hrest, hstarts⟩
    obtain ⟨part, hpart, haccepts⟩ := startsWith_iff.1 hstarts
    exact ⟨part, hpart.isInfix.trans hrest.isInfix, haccepts⟩
  · rintro ⟨part, ⟨a, b, rfl⟩, haccepts⟩
    refine ⟨part ++ b, ?_, startsWith_iff.2 ⟨part, List.prefix_append part b, haccepts⟩⟩
    rw [List.append_assoc]
    exact List.suffix_append a (part ++ b)

theorem regexSearch_ecmaScript : EcmaScript regexSearch := by
  intro text pattern atoms h
  simp only [regexSearch, h, search_iff]

/-! ### Parts of a pattern -/

theorem startsWith_append {as bs : List Atom} {text : List Char} :
    startsWith (as ++ bs) text = true ↔
      ∃ a b, text = a ++ b ∧ a.length = as.length ∧ startsWith as a = true ∧
        startsWith bs b = true := by
  induction as generalizing text with
  | nil =>
    constructor
    · intro h
      exact ⟨[], text, rfl, rfl, rfl, h⟩
    · rintro ⟨a, b, rfl, ha, -, h⟩
      rwa [List.length_eq_zero_iff.1 ha]
  | cons x as ih =>
    constructor
    · intro h
      cases text with
      | nil => cases h
      | cons c cs =>
        rw [List.cons_append, startsWith_cons_cons, Bool.and_eq_true, ih] at h
        obtain ⟨hx, a, b, rfl, ha, hstarts, hb⟩ := h
        refine ⟨c :: a, b, rfl, congrArg (· + 1) ha, ?_, hb⟩
        rw [startsWith_cons_cons, hx, hstarts]
        rfl
    · rintro ⟨a, b, rfl, ha, hstarts, hb⟩
      cases a with
      | nil => cases hstarts
      | cons c a =>
        rw [startsWith_cons_cons, Bool.and_eq_true] at hstarts
        rw [List.cons_append, List.cons_append, startsWith_cons_cons, hstarts.1, Bool.true_and]
        exact ih.2 ⟨a, b, rfl, Nat.succ_injective ha, hstarts.2, hb⟩

/-- The atoms of a text in which only the dots are special. -/
def literal (text : List Char) : List Atom := text.map fun c => if c = '.' then .any else .char c

theorem parse_append {a : List Char} (h : isPlain a = true) (p : List Char) :
    parse (a ++ p) = (parse p).map (literal a ++ ·) := by
  induction a with
  | nil => simp [literal]
  | cons c a ih =>
    rw [isPlain, List.all_cons, Bool.and_eq_true, decide_eq_true_iff] at h
    obtain ⟨hc, ha⟩ := h
    have hopen : c ≠ '[' := fun he => hc (he ▸ by decide)
    by_cases hdot : c = '.'
    · subst hdot
      rw [List.cons_append, parse, ih ha, Option.map_map]
      rfl
    · rw [List.cons_append, parse, if_neg hc, ih ha, Option.map_map]
      · simp [literal, hdot, Function.comp_def]
      · exact hdot
      · intro x y z he
        exact absurd he hopen

theorem parse_range {a b : Char} (ha : a ∉ special) (hb : b ∉ special) (h : a ≤ b)
    (p : List Char) :
    parse ('[' :: a :: '-' :: b :: ']' :: p) = (parse p).map (Atom.range a b :: ·) := by
  rw [parse, if_pos ⟨ha, hb, h⟩]

theorem startsWith_literal_append (as : List Atom) {a : List Char} (hn : '\n' ∉ a) (hr : '\r' ∉ a)
    (b : List Char) : startsWith (literal a ++ as) (a ++ b) = startsWith as b := by
  induction a with
  | nil => rfl
  | cons c a ih =>
    obtain ⟨hcn, hn⟩ := not_or.1 (mt List.mem_cons.2 hn)
    obtain ⟨hcr, hr⟩ := not_or.1 (mt List.mem_cons.2 hr)
    have hc : (if c = '.' then Atom.any else .char c).accepts c = true := by
      split_ifs <;> simp [Atom.accepts, Ne.symm hcn, Ne.symm hcr]
    have h := ih hn hr
    rw [literal] at h
    rw [literal, List.map_cons, List.cons_append, List.cons_append, startsWith_cons_cons, hc, h,
      Bool.true_and]

/-- Where a character of the pattern occurs once in the text, there is one place to match. -/
theorem search_anchored {as bs : List Atom} {c : Char} {a b : List Char} (ha : c ∉ a) (hb : c ∉ b) :
    search (as ++ .char c :: bs) (a ++ c :: b) = true ↔
      (∃ z, z <:+ a ∧ z.length = as.length ∧ startsWith as z = true) ∧
        startsWith bs b = true := by
  rw [search_iff_suffix]
  constructor
  · rintro ⟨rest, ⟨pre, hrest⟩, hstarts⟩
    obtain ⟨z, w, rfl, hz, haz, hw⟩ := startsWith_append.1 hstarts
    cases w with
    | nil => cases hw
    | cons d w =>
      rw [startsWith_cons_cons, Bool.and_eq_true] at hw
      have hd : d = c := of_decide_eq_true hw.1
      rw [hd, ← List.append_assoc] at hrest
      obtain ⟨hz', -, hw'⟩ := (List.append_cons_inj_of_notMem ha hb).1 hrest.symm
      exact ⟨⟨z, ⟨pre, hz'.symm⟩, hz, haz⟩, hw' ▸ hw.2⟩
  · rintro ⟨⟨z, ⟨pre, rfl⟩, hz, haz⟩, hb'⟩
    refine ⟨z ++ c :: b, ⟨pre, (List.append_assoc pre z (c :: b)).symm⟩,
      startsWith_append.2 ⟨z, c :: b, rfl, hz, haz, ?_⟩⟩
    rw [startsWith_cons_cons, hb', Bool.and_true]
    exact decide_eq_true rfl

end Regex

end Gs101
