import Mathlib.Tactic.Common

/-!
# Cutting a log into segments

Some entries of a log open a segment; `mark` says which, and with what data.  A segment is what
follows such an entry, up to the next one.

* `segments mark l`: the segments of `l`, the latest one first; entries before the first opening
  entry belong to none;
* `segments_append`: appending entries that open nothing extends the latest segment;
* `segments_open`: what an opening entry and the entries after it make of the segments before.
-/

namespace Gs101

/-- What opened a segment, and the entries since. -/
structure Segment (α β : Type*) where
  opening : β
  body : List α

namespace Segment

variable {α β : Type*} (mark : α → Option β)

/-- Add an entry to the segments so far. -/
def push : List (Segment α β) → α → List (Segment α β)
  | segs, a =>
      match mark a, segs with
      | some b, segs => ⟨b, []⟩ :: segs
      | none, [] => []
      | none, s :: segs => ⟨s.opening, s.body ++ [a]⟩ :: segs

/-- The segments of a log, the latest one first. -/
def segments (l : List α) : List (Segment α β) := l.foldl (push mark) []

/-- Extend the latest segment, if there is one. -/
def extend (l : List α) : List (Segment α β) → List (Segment α β)
  | [] => []
  | s :: segs => ⟨s.opening, s.body ++ l⟩ :: segs

@[simp] theorem extend_nil (segs : List (Segment α β)) : extend [] segs = segs := by
  cases segs <;> simp [extend]

theorem extend_extend (l l' : List α) (segs : List (Segment α β)) :
    extend l' (extend l segs) = extend (l ++ l') segs := by
  cases segs <;> simp [extend]

@[simp] theorem extend_eq_nil {l : List α} {segs : List (Segment α β)} :
    extend l segs = [] ↔ segs = [] := by
  cases segs <;> simp [extend]

variable {mark}

theorem push_of_none {a : α} (h : mark a = none) (segs : List (Segment α β)) :
    push mark segs a = extend [a] segs := by
  cases segs <;> simp [push, extend, h]

theorem push_of_some {a : α} {b : β} (h : mark a = some b) (segs : List (Segment α β)) :
    push mark segs a = ⟨b, []⟩ :: segs := by
  simp [push, h]

/-- Entries that open nothing extend the latest segment. -/
theorem foldl_push {l : List α} (h : ∀ a ∈ l, mark a = none) (segs : List (Segment α β)) :
    l.foldl (push mark) segs = extend l segs := by
  induction l generalizing segs with
  | nil => simp
  | cons a l ih =>
    have ha : mark a = none := h a List.mem_cons_self
    rw [List.foldl_cons, push_of_none ha, ih fun c hc => h c (List.mem_cons_of_mem a hc),
      extend_extend]
    rfl

theorem segments_append {l l' : List α} (h : ∀ a ∈ l', mark a = none) :
    segments mark (l ++ l') = extend l' (segments mark l) := by
  rw [segments, List.foldl_append]
  exact foldl_push h _

/-- An opening entry begins a segment, which the plain entries after it fill. -/
theorem segments_open {l body : List α} {a : α} {b : β} (ha : mark a = some b)
    (h : ∀ c ∈ body, mark c = none) :
    segments mark (l ++ a :: body) = ⟨b, body⟩ :: segments mark l := by
  rw [segments, List.foldl_append, List.foldl_cons, push_of_some ha, foldl_push h]
  rfl

theorem push_ne_nil {segs : List (Segment α β)} (h : segs ≠ []) (a : α) :
    push mark segs a ≠ [] := by
  cases ha : mark a with
  | none => rw [push_of_none ha]; simpa using h
  | some b => rw [push_of_some ha]; exact List.cons_ne_nil _ _

theorem foldl_push_ne_nil {segs : List (Segment α β)} (h : segs ≠ []) (l : List α) :
    l.foldl (push mark) segs ≠ [] := by
  induction l generalizing segs with
  | nil => exact h
  | cons a l ih => exact ih (push_ne_nil h a)

/-- There is no segment as long as nothing has opened one. -/
theorem segments_eq_nil_iff {l : List α} : segments mark l = [] ↔ ∀ a ∈ l, mark a = none := by
  constructor
  · intro h a ha
    by_contra hm
    obtain ⟨b, hb⟩ := Option.ne_none_iff_exists'.1 hm
    obtain ⟨l₁, l₂, rfl⟩ := List.append_of_mem ha
    rw [segments, List.foldl_append, List.foldl_cons, push_of_some hb] at h
    exact foldl_push_ne_nil (List.cons_ne_nil _ _) l₂ h
  · intro h
    exact foldl_push h []

/-- A log that has a segment keeps having one. -/
theorem segments_ne_nil_of_prefix {l l' : List α} (hp : l <+: l') (h : segments mark l ≠ []) :
    segments mark l' ≠ [] := by
  obtain ⟨t, rfl⟩ := hp
  rw [segments, List.foldl_append]
  exact foldl_push_ne_nil h t

end Segment

end Gs101
