import Gs101.Lib.Logged
import Mathlib.Data.List.Basic
import Mathlib.Data.List.Infix
import Mathlib.Tactic.Common

/-!
# C strings in memory

A pointer is the index of a byte, counted from the start of a buffer, with the bytes from there to
the end of the memory.  What reads memory logs the index of each byte that it reads, and faults at
the end of the memory.

* `load`, `readText`, `skip`, `sameBytes`: one byte; a whole C string; `while (*cp++) {}`; `strncmp`
  with a word;
* `walk`: `while (*cp) { ...; while (*cp++) {} }`, for any body that may break;
* `Within m x Q`: `x` ends without a fault, reads no byte behind the index `m`, and `Q` holds of its
  value;
* `pieces`: the parts of a text between NULs, up to the first that is empty; `located` gives each
  the index of its first byte;
* `walk_within`: a walk visits the pieces of a text that two NULs end.
-/

namespace Gs101

namespace Buffer

open Logged

/-- Why a computation does not end. -/
inductive Fault
  | endOfMemory
  /-- A loop has used up its bound. -/
  | unfinished
  deriving DecidableEq

structure Pointer where
  index : ℕ
  bytes : List Char

abbrev Reads (α : Type) := Logged ℕ Fault α

/-- The character that ends a string. -/
def nul : Char := '\x00'

/-- The byte with this index is not there. -/
def overrun {α : Type} (i : ℕ) : Reads α := ⟨[i], .error .endOfMemory⟩

/-- `*cp`. -/
def load (cp : Pointer) : Reads Char :=
  match cp.bytes with
  | [] => overrun cp.index
  | c :: _ => emit cp.index c

/-- The string that begins with these bytes, the first of which has this index. -/
def readBytes : ℕ → List Char → Reads (List Char)
  | i, [] => overrun i
  | i, c :: rest => do
      let c ← emit i c
      if c = nul then return []
      else
        let text ← readBytes (i + 1) rest
        return c :: text

def readText (cp : Pointer) : Reads (List Char) := readBytes cp.index cp.bytes

def skipBytes : ℕ → List Char → Reads Pointer
  | i, [] => overrun i
  | i, c :: rest => do
      let c ← emit i c
      if c = nul then return ⟨i + 1, rest⟩ else skipBytes (i + 1) rest

/-- `while (*cp++) {}`. -/
def skip (cp : Pointer) : Reads Pointer := skipBytes cp.index cp.bytes

def compareBytes : List Char → ℕ → List Char → Reads Bool
  | [], _, _ => pure true
  | _ :: _, i, [] => overrun i
  | w :: word, i, c :: rest => do
      let c ← emit i c
      if c = w then compareBytes word (i + 1) rest else return false

/-- `strncmp(cp, word, n) == 0`, where `word` is the first `n` bytes of the other string. -/
def sameBytes (cp : Pointer) (word : List Char) : Reads Bool :=
  compareBytes word cp.index cp.bytes

/-- `strncmp` with each of these words, up to the first that is there. -/
def sameAsAny (cp : Pointer) : List (List Char) → Reads Bool
  | [] => pure false
  | word :: words => do
      let same ← sameBytes cp word
      if same then return true else sameAsAny cp words

/-- A computation that logs the index of each byte that it writes. -/
abbrev Writes (α : Type) := Logged ℕ Fault α

/-- The bytes of a string and its NUL, written over these bytes, the first of which has this
index. -/
def copyBytes : ℕ → List Char → List Char → Writes (List Char)
  | i, [], _ => overrun i
  | i, _ :: memory, [] => emit i (nul :: memory)
  | i, _ :: memory, c :: text => do
      let c ← emit i c
      let memory ← copyBytes (i + 1) memory text
      return c :: memory

/-- `strcpy`, of a string without its NUL into the memory that begins with the destination. -/
def strcpy (memory text : List Char) : Writes (List Char) := copyBytes 0 memory text

/-- The value of a computation that writes nothing. -/
def peek {α : Type} (x : Reads α) : Writes α := ⟨[], x.outcome⟩

/-- `cp + n`. -/
def Pointer.advance (cp : Pointer) (n : ℕ) : Pointer := ⟨cp.index + n, cp.bytes.drop n⟩

/-- The loop over the strings from `cp` on, with a bound on its passes; the body answers what it
does and whether it breaks.  The value is the pointers to the strings, each with what was done. -/
def walk {α : Type} (body : Pointer → Reads (α × Bool)) : ℕ → Pointer → Reads (List (Pointer × α))
  | 0, _ => ⟨[], .error .unfinished⟩
  | n + 1, cp => do
      let c ← load cp
      if c = nul then return []
      else
        let (a, breaks) ← body cp
        if breaks then return [(cp, a)]
        else
          let next ← skip cp
          let visited ← walk body n next
          return (cp, a) :: visited

/-! ### What is read, and where -/

variable {α β : Type} {m i : ℕ} {a b : List Char}

/-- The computation ends, and reads no byte behind the index `m`. -/
def Within (m : ℕ) (x : Reads α) (Q : α → Prop) : Prop :=
  Ends x fun log v => (∀ j ∈ log, j ≤ m) ∧ Q v

theorem within_pure {v : α} {Q : α → Prop} : Within m (pure v) Q ↔ Q v := by
  rw [Within, ends_pure]
  exact and_iff_right (List.forall_mem_nil _)

/-- The rule of composition. -/
theorem Within.bind {x : Reads α} {f : α → Reads β} {P : α → Prop} {Q : β → Prop}
    (h : Within m x P) (hf : ∀ v, P v → Within m (f v) Q) : Within m (x >>= f) Q := by
  refine ends_bind.2 (Ends.mono h fun log v hv => ?_)
  refine Ends.mono (hf v hv.2) fun log' w hw => ⟨?_, hw.2⟩
  exact List.forall_mem_append.2 ⟨hv.1, hw.1⟩

/-- The rule of composition, where the first value is known. -/
theorem Within.bind_eq {x : Reads α} {f : α → Reads β} {v : α} {Q : β → Prop}
    (h : Within m x (· = v)) (hf : Within m (f v) Q) : Within m (x >>= f) Q :=
  h.bind fun _ hw => hw ▸ hf

theorem Within.mono {x : Reads α} {P Q : α → Prop} (h : Within m x P) (hpq : ∀ v, P v → Q v) :
    Within m x Q :=
  Ends.mono h fun _ v hv => ⟨hv.1, hpq v hv.2⟩

theorem within_emit {v : α} {Q : α → Prop} (h : i ≤ m) (hv : Q v) : Within m (emit i v) Q :=
  ends_emit.2 ⟨List.forall_mem_singleton.2 h, hv⟩

/-- A byte is read, and then the rest. -/
theorem within_emit_bind {v : α} {f : α → Reads β} {Q : β → Prop} (h : i ≤ m)
    (hf : Within m (f v) Q) : Within m (emit i v >>= f) Q := by
  have hemit : Within m (emit i v) (· = v) := within_emit h rfl
  exact hemit.bind_eq hf

/-- A string ends at its first NUL. -/
theorem readBytes_within (ha : nul ∉ a) (h : i + a.length ≤ m) :
    Within m (readBytes i (a ++ nul :: b)) (· = a) := by
  induction a generalizing i with
  | nil =>
    refine within_emit_bind h ?_
    rw [if_pos rfl]
    exact within_pure.2 rfl
  | cons c a ih =>
    obtain ⟨hc, ha⟩ := not_or.1 (mt List.mem_cons.2 ha)
    rw [List.length_cons] at h
    refine within_emit_bind (by omega) ?_
    rw [if_neg (Ne.symm hc)]
    exact (ih ha (by omega)).bind_eq (within_pure.2 rfl)

theorem skipBytes_within (ha : nul ∉ a) (h : i + a.length ≤ m) :
    Within m (skipBytes i (a ++ nul :: b)) (· = ⟨i + a.length + 1, b⟩) := by
  induction a generalizing i with
  | nil =>
    refine within_emit_bind h ?_
    rw [if_pos rfl]
    exact within_pure.2 rfl
  | cons c a ih =>
    obtain ⟨hc, ha⟩ := not_or.1 (mt List.mem_cons.2 ha)
    rw [List.length_cons] at h ⊢
    refine within_emit_bind (by omega) ?_
    rw [if_neg (Ne.symm hc), ← Nat.add_assoc, Nat.add_right_comm i]
    exact ih ha (by omega)

/-- A comparison with a word tells whether the string begins with it. -/
theorem compareBytes_within {word : List Char} (hword : nul ∉ word) (h : i + a.length ≤ m) :
    Within m (compareBytes word i (a ++ nul :: b)) (· = word.isPrefixOf a) := by
  induction word generalizing i a with
  | nil => exact within_pure.2 rfl
  | cons w word ih =>
    obtain ⟨hw, hword⟩ := not_or.1 (mt List.mem_cons.2 hword)
    cases a with
    | nil =>
      refine within_emit_bind h ?_
      rw [if_neg hw]
      exact within_pure.2 rfl
    | cons c a =>
      rw [List.length_cons] at h
      refine within_emit_bind (by omega) ?_
      by_cases hcw : c = w
      · rw [if_pos hcw, hcw, List.isPrefixOf_cons_cons_self]
        exact ih hword (by omega)
      · rw [if_neg hcw]
        exact within_pure.2 (by simp [List.isPrefixOf, Ne.symm hcw])

/-- With its NUL, the word is compared as a whole. -/
theorem compareBytes_nul_within {word : List Char} (ha : nul ∉ a) (hword : nul ∉ word)
    (h : i + a.length ≤ m) :
    Within m (compareBytes (word ++ [nul]) i (a ++ nul :: b)) (· = decide (a = word)) := by
  induction word generalizing i a with
  | nil =>
    cases a with
    | nil =>
      refine within_emit_bind h ?_
      rw [if_pos rfl]
      exact within_pure.2 rfl
    | cons c a =>
      rw [List.length_cons] at h
      refine within_emit_bind (by omega) ?_
      rw [if_neg fun hc : c = nul => ha (hc ▸ List.mem_cons_self)]
      exact within_pure.2 (by simp)
  | cons w word ih =>
    obtain ⟨hw, hword⟩ := not_or.1 (mt List.mem_cons.2 hword)
    cases a with
    | nil =>
      refine within_emit_bind h ?_
      rw [if_neg hw]
      exact within_pure.2 (by simp)
    | cons c a =>
      obtain ⟨-, ha⟩ := not_or.1 (mt List.mem_cons.2 ha)
      rw [List.length_cons] at h
      refine within_emit_bind (by omega) ?_
      by_cases hcw : c = w
      · rw [if_pos hcw]
        simp only [hcw, List.cons.injEq, true_and]
        exact ih ha hword (by omega)
      · rw [if_neg hcw]
        exact within_pure.2 (by simp [hcw])

theorem sameAsAny_within {words : List (List Char)} (hwords : ∀ word ∈ words, nul ∉ word)
    (h : i + a.length ≤ m) :
    Within m (sameAsAny ⟨i, a ++ nul :: b⟩ words) (· = words.any (·.isPrefixOf a)) := by
  induction words with
  | nil => exact within_pure.2 rfl
  | cons word words ih =>
    obtain ⟨hword, hwords⟩ := List.forall_mem_cons.1 hwords
    refine (compareBytes_within hword h).bind fun same hsame => ?_
    rw [List.any_cons, ← hsame]
    cases same with
    | true => exact within_pure.2 rfl
    | false => exact ih hwords

/-- The string behind a word with which it begins. -/
theorem readText_advance_within {word : List Char} (ha : nul ∉ a) (h : i + a.length ≤ m)
    (hword : word <+: a) :
    Within m (readText (Pointer.advance ⟨i, a ++ nul :: b⟩ word.length))
      (· = a.drop word.length) := by
  obtain ⟨tail, rfl⟩ := hword
  rw [List.length_append] at h
  rw [readText, Pointer.advance, List.append_assoc, List.drop_left, List.drop_left]
  exact readBytes_within (mt (List.mem_append_right word) ha) (by rwa [Nat.add_assoc])

/-- The byte behind a text without NUL is read too. -/
theorem mem_log_readBytes (ha : nul ∉ a) (b : List Char) :
    i + a.length ∈ (readBytes i (a ++ b)).log := by
  induction a generalizing i with
  | nil =>
    cases b with
    | nil => exact List.mem_singleton_self i
    | cons c b => exact mem_log_bind (List.mem_singleton_self i) _
  | cons c a ih =>
    obtain ⟨hc, ha⟩ := not_or.1 (mt List.mem_cons.2 ha)
    have hrest := ih (i := i + 1) ha
    rw [List.cons_append, readBytes, bind_of_ok rfl, if_neg (Ne.symm hc), List.length_cons,
      Nat.add_comm a.length, ← Nat.add_assoc]
    exact List.mem_append_right _ (mem_log_bind hrest _)

/-! ### What is written -/

/-- The copy writes the string and its NUL. -/
theorem copyBytes_ends {memory text : List Char} (h : text.length < memory.length) :
    Ends (copyBytes i memory text) fun log copied =>
      log.length = text.length + 1 ∧ ∃ rest, copied = text ++ nul :: rest := by
  induction text generalizing i memory with
  | nil =>
    cases memory with
    | nil => exact absurd h (Nat.not_lt_zero _)
    | cons _ memory => exact ends_emit.2 ⟨rfl, memory, rfl⟩
  | cons c text ih =>
    cases memory with
    | nil => exact absurd h (Nat.not_lt_zero _)
    | cons _ memory =>
      refine ends_bind.2 (ends_emit.2 (ends_bind.2 ((ih (Nat.lt_of_succ_lt_succ h)).mono ?_)))
      rintro log copied ⟨hlog, rest, rfl⟩
      refine ends_pure.2 ⟨?_, rest, rfl⟩
      rw [List.append_nil, List.length_append, hlog, List.length_singleton, List.length_cons,
        Nat.add_comm]

/-- Where the string fills the memory, the NUL is written past it. -/
theorem length_log_copyBytes {memory text : List Char} (h : text.length ≤ memory.length) :
    (copyBytes i memory text).log.length = text.length + 1 := by
  induction text generalizing i memory with
  | nil => cases memory <;> rfl
  | cons c text ih =>
    cases memory with
    | nil => exact absurd h (Nat.not_succ_le_zero _)
    | cons _ memory =>
      have hrest := ih (i := i + 1) (Nat.le_of_succ_le_succ h)
      rw [copyBytes, bind_of_ok rfl, log_bind_pure, List.length_append, hrest, List.length_cons,
        Nat.add_comm]
      rfl

theorem ends_peek {x : Reads α} {Q : α → Prop} (h : Within m x Q) :
    Ends (peek x) fun log v => log = [] ∧ Q v := by
  obtain ⟨v, hv, -, hq⟩ := h
  exact ⟨v, hv, rfl, hq⟩

/-! ### The strings of a buffer -/

/-- The parts between NULs, up to the first that is empty. -/
def pieces (data : List Char) : List (List Char) := (data.splitOn nul).takeWhile (· ≠ [])

/-- Each piece with the index of its first byte, if the first of them has the index `i`. -/
def located : ℕ → List (List Char) → List (ℕ × List Char)
  | _, [] => []
  | i, a :: as => (i, a) :: located (i + a.length + 1) as

/-- The elements up to the first at which `stop` holds, that one included. -/
def upTo (stop : β → Bool) : List β → List β
  | [] => []
  | v :: vs => if stop v then [v] else v :: upTo stop vs

theorem upTo_never (vs : List β) : upTo (fun _ => false) vs = vs := by
  induction vs with
  | nil => rfl
  | cons v vs ih => rw [upTo, if_neg Bool.false_ne_true, ih]

theorem upTo_map {γ : Type} (stop : γ → Bool) (g : β → γ) (vs : List β) :
    upTo stop (vs.map g) = (upTo (fun v => stop (g v)) vs).map g := by
  induction vs with
  | nil => rfl
  | cons v vs ih =>
    rw [List.map_cons, upTo, upTo, ih]
    split_ifs <;> rfl

/-- The string at a pointer. -/
def Pointer.text (cp : Pointer) : List Char := cp.bytes.takeWhile (· ≠ nul)

theorem text_append (ha : nul ∉ a) : Pointer.text ⟨i, a ++ nul :: b⟩ = a := by
  have hall : ∀ c ∈ a, decide (c ≠ nul) = true := fun c hc =>
    decide_eq_true fun he => ha (he ▸ hc)
  rw [Pointer.text, List.takeWhile_append_of_pos hall]
  simp

theorem pieces_nil : pieces [] = [] := by
  simp [pieces]

theorem pieces_append (ha : nul ∉ a) (hne : a ≠ []) : pieces (a ++ nul :: b) = a :: pieces b := by
  rw [pieces, List.splitOn_append_cons_self_of_not_mem ha, List.takeWhile_cons_of_pos (by simpa)]
  rfl

theorem pieces_nul (b : List Char) : pieces (nul :: b) = [] := by
  have hsplit : ([] ++ nul :: b).splitOn nul = [] :: b.splitOn nul :=
    List.splitOn_append_cons_self_of_not_mem List.not_mem_nil b
  rw [List.nil_append] at hsplit
  rw [pieces, hsplit]
  rfl

theorem pieces_last (ha : nul ∉ a) (hne : a ≠ []) : pieces a = [a] := by
  rw [pieces, List.splitOn_eq_singleton ha, List.takeWhile_cons_of_pos (by simpa),
    List.takeWhile_nil]

theorem located_map_snd (i : ℕ) (as : List (List Char)) : (located i as).map Prod.snd = as := by
  induction as generalizing i with
  | nil => rfl
  | cons a as ih => rw [located, List.map_cons, ih]

theorem located_upTo_cons (stop : List Char → Bool) (as : List (List Char)) :
    located i (upTo stop (a :: as)) =
      (i, a) :: if stop a then [] else located (i + a.length + 1) (upTo stop as) := by
  rw [upTo]
  split_ifs <;> rfl

/-! ### The walk -/

variable {body : Pointer → Reads (α × Bool)}

theorem walk_nul {n : ℕ} (h : i ≤ m) : Within m (walk body (n + 1) ⟨i, nul :: b⟩) (· = []) := by
  refine within_emit_bind h ?_
  rw [if_pos rfl]
  exact within_pure.2 rfl

/-- One pass, at a string that is not empty. -/
theorem walk_within_cons {n : ℕ} {v : α} {stop : Bool} {Q : List (Pointer × α) → Prop}
    (ha : nul ∉ a) (hne : a ≠ []) (h : i + a.length ≤ m)
    (hbody : Within m (body ⟨i, a ++ nul :: b⟩) (· = (v, stop)))
    (hstop : stop = true → Q [(⟨i, a ++ nul :: b⟩, v)])
    (hgo : stop = false → Within m (walk body n ⟨i + a.length + 1, b⟩) fun visited =>
      Q ((⟨i, a ++ nul :: b⟩, v) :: visited)) :
    Within m (walk body (n + 1) ⟨i, a ++ nul :: b⟩) Q := by
  have hload : Within m (load ⟨i, a ++ nul :: b⟩) (· ≠ nul) := by
    cases a with
    | nil => exact absurd rfl hne
    | cons c a =>
      exact within_emit (le_trans (Nat.le_add_right _ _) h) fun hc =>
        ha (hc ▸ List.mem_cons_self)
  refine hload.bind fun c hc => ?_
  rw [if_neg hc]
  refine hbody.bind_eq ?_
  cases stop with
  | true => exact within_pure.2 (hstop rfl)
  | false =>
    refine (skipBytes_within ha h).bind_eq ?_
    exact (hgo rfl).bind fun visited hvisited => within_pure.2 hvisited

/-- A string that was visited, with its index, and what was done there. -/
def seen (v : Pointer × α) : (ℕ × List Char) × α := ((v.1.index, v.1.text), v.2)

/-- **A walk visits the pieces** of a text that two NULs end, up to the first at which the body
breaks, and reads nothing behind the second NUL.  What the body does may depend on the piece and on
its index. -/
theorem walk_within {act : ℕ → List Char → α} {stop : List Char → Bool}
    (hbody : ∀ i a b, nul ∉ a → i + a.length ≤ m →
      Within m (body ⟨i, a ++ nul :: b⟩) (· = (act i a, stop a)))
    (data rest : List Char) {n : ℕ} (hn : data.length < n) (h : i + data.length + 1 ≤ m) :
    Within m (walk body n ⟨i, data ++ nul :: nul :: rest⟩) fun visited =>
      visited.map seen =
        (located i (upTo stop (pieces data))).map fun field => (field, act field.1 field.2) := by
  induction n generalizing data i with
  | zero => exact absurd hn (Nat.not_lt_zero _)
  | succ n ih =>
    by_cases hnul : nul ∈ data
    · -- a string of the data
      obtain ⟨a, b, rfl, ha⟩ := List.eq_append_cons_of_mem hnul
      rw [List.append_assoc, List.cons_append]
      rw [List.length_append, List.length_cons] at hn h
      by_cases hne : a = []
      · subst hne
        rw [List.nil_append, List.nil_append, pieces_nul]
        refine (walk_nul (by omega)).mono fun visited hvisited => ?_
        rw [hvisited]
        rfl
      · rw [pieces_append ha hne, located_upTo_cons]
        refine walk_within_cons ha hne (by omega) (hbody i a _ ha (by omega)) (fun hstop => ?_)
          fun hgo => ?_
        · rw [if_pos hstop, List.map_singleton, List.map_singleton, seen, text_append ha]
        · refine (ih b (by omega) (by omega)).mono fun visited hvisited => ?_
          rw [if_neg (by simp [hgo]), List.map_cons, List.map_cons, hvisited, seen, text_append ha]
    · -- the last string, or none
      by_cases hne : data = []
      · subst hne
        rw [List.nil_append, pieces_nil]
        refine (walk_nul (by omega)).mono fun visited hvisited => ?_
        rw [hvisited]
        rfl
      · rw [pieces_last hnul hne, located_upTo_cons]
        refine walk_within_cons hnul hne (by omega) (hbody i data _ hnul (by omega))
          (fun hstop => ?_) fun hgo => ?_
        · rw [if_pos hstop, List.map_singleton, List.map_singleton, seen, text_append hnul]
        · obtain ⟨k, rfl⟩ : ∃ k, n = k + 1 := Nat.exists_eq_succ_of_ne_zero fun h0 => by
            rw [h0, Nat.lt_one_iff, List.length_eq_zero_iff] at hn
            exact hne hn
          refine (walk_nul (by omega)).mono fun visited hvisited => ?_
          rw [if_neg (by simp [hgo]), hvisited, List.map_singleton, seen, text_append hnul]
          rfl

end Buffer

end Gs101
