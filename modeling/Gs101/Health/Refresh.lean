import Gs101.Health.Measured
import Mathlib.Data.Int.Order.Basic

/-!
# The health HAL: how old the UFS health may be

The interval between two queries is taken from the system clock, which may be set in either
direction between two calls.

* `Call`: a call of `getStorageInfo` that finds its files readable, with its real time;
* `Fresh`: what a call reports was read after every call at least a day before it;
* `Prompt`: a call that comes a day after the last query finds a day on the system clock;
* `tracks_run`: what is known of the last query;
* `fresh_iff`: a run is fresh if and only if its calls are prompt.
-/

namespace Gs101

namespace Health

/-- A call of `getStorageInfo`, with all files readable. -/
structure Call where
  /-- On a clock that is never set, in microseconds. -/
  real : ℤ
  time_now : ℤ
  files : UfsFiles
  value : ℕ
  version_readable : IsNumber 64 files.version
  readable : ∀ f : UfsField, IsNumber 16 (f.file files)

/-- The static variables, with the real time of the last query, or of the first call before there
was one. -/
structure Timed where
  health : Health
  since : Option ℤ

namespace Timed

/-- `kUfsQueryIntervalHours` in microseconds. -/
def interval : ℤ := kUfsQueryIntervalHours * 3600000000

def start : Timed := ⟨initial, none⟩

def step (s : Timed) (c : Call) : Timed where
  health := s.health.step (.getStorageInfo c.time_now c.files c.value)
  since := if s.health.QueryDue c.time_now then some c.real else some (s.since.getD c.real)

/-- What a call reports. -/
def reply (s : Timed) (c : Call) : List StorageInfo :=
  (getStorageInfo s.health c.time_now c.files c.value).2.2

/-- The values that `d` reports were all read after every call at least the interval before it. -/
def FreshAt (earlier : List Call) (d : Call) : Prop :=
  ∀ before c between, earlier = before ++ c :: between → c.real + interval ≤ d.real →
    ∀ info ∈ (Runs.run step start earlier).reply d, ∀ f : UfsField,
      ∃ k, (f.reported info).source = some k ∧ before.length < k

def Fresh (calls : List Call) : Prop :=
  ∀ earlier d later, calls = earlier ++ d :: later → FreshAt earlier d

/-- If the interval has passed in real time since the last query, or since the first call before
there was one, it has passed on the system clock since `ufs_last_query_time`. -/
def Prompt (s : Timed) (c : Call) : Prop :=
  ∀ t, s.since = some t → t + interval ≤ c.real → s.health.QueryDue c.time_now

/-! ### The last query -/

/-- The values of the state were read by call `q`, which came at the time `t`; or `q` is the first
call, and there was no query yet. -/
def LastQuery (calls : List Call) (s : Timed) (t : ℤ) (q : ℕ) : Prop :=
  (∃ c, calls[q]? = some c ∧ c.real = t) ∧ ∀ f : UfsField,
    (f.cell s.health).source = some q ∨ (q = 0 ∧ (f.cell s.health).source = none)

/-- What is known after these calls. -/
def Tracks (calls : List Call) (s : Timed) : Prop :=
  s.health.calls = calls.length ∧
    (s.since = none → calls = [] ∧ ∀ f : UfsField, (f.cell s.health).source = none) ∧
    ∀ t, s.since = some t → ∃ q, LastQuery calls s t q

variable {s : Timed} {c d : Call} {calls earlier : List Call} {f : UfsField}

/-- A query reads the values now. -/
theorem source_queried (h : s.health.QueryDue c.time_now) :
    (queried s.health c.time_now c.files f).source = some s.health.calls := by
  rw [queried, if_pos h]
  exact FileStream.extract_source_of_number (c.readable f)

theorem cell_step_of_not_due (h : ¬ s.health.QueryDue c.time_now) :
    f.cell (s.step c).health = f.cell s.health :=
  (cell_step _ _ _ _ _).trans (if_neg h)

theorem tracks_start : Tracks [] start := by
  refine ⟨rfl, fun _ => ⟨rfl, fun f => by cases f <;> rfl⟩, fun t ht => ?_⟩
  cases ht

theorem tracks_step (h : Tracks calls s) (c : Call) : Tracks (calls ++ [c]) (s.step c) := by
  obtain ⟨hcalls, hnone, hsome⟩ := h
  refine ⟨?_, fun hsince => ?_, fun t ht => ?_⟩
  · rw [List.length_append, List.length_singleton, ← hcalls]
    exact calls_step _ _
  · rw [step] at hsince
    split_ifs at hsince
  · by_cases hdue : s.health.QueryDue c.time_now
    · -- the query is now
      rw [step, if_pos hdue] at ht
      refine ⟨calls.length, ⟨c, List.getElem?_concat_length, Option.some.inj ht⟩, fun f => .inl ?_⟩
      rw [← hcalls]
      exact (congrArg _ (cell_step _ _ _ _ _)).trans (source_queried hdue)
    · rw [step, if_neg hdue] at ht
      have hcell : ∀ f : UfsField, f.cell (s.step c).health = f.cell s.health :=
        fun f => cell_step_of_not_due hdue
      cases hs : s.since with
      | none =>
        -- the first call
        obtain ⟨rfl, hcells⟩ := hnone hs
        rw [hs] at ht
        refine ⟨0, ⟨c, rfl, Option.some.inj ht⟩, fun f => .inr ⟨rfl, ?_⟩⟩
        rw [hcell]
        exact hcells f
      | some t₀ =>
        rw [hs] at ht
        obtain ⟨q, ⟨b, hb, hreal⟩, hcells⟩ := hsome t₀ hs
        have hlt : q < calls.length := (List.getElem?_eq_some_iff.1 hb).1
        refine ⟨q, ⟨b, ?_, hreal.trans (Option.some.inj ht)⟩, fun f => ?_⟩
        · rw [List.getElem?_append_left hlt, hb]
        · rw [hcell]
          exact hcells f

theorem tracks_run (calls : List Call) : Tracks calls (Runs.run step start calls) := by
  induction calls using List.reverseRecOn with
  | nil => exact tracks_start
  | append_singleton calls c ih =>
    rw [Runs.run_append]
    exact tracks_step ih c

/-! ### Freshness -/

theorem freshAt_iff_queried : FreshAt earlier d ↔
    ∀ before c between, earlier = before ++ c :: between → c.real + interval ≤ d.real →
      ∀ f : UfsField, ∃ k,
        (queried (Runs.run step start earlier).health d.time_now d.files f).source = some k ∧
          before.length < k := by
  simp only [FreshAt, reply, getStorageInfo_eq, List.mem_singleton, forall_eq, reported_stored]

/-- Nobody who comes later comes before a call. -/
theorem real_le {before between : List Call} (hsorted : calls.Pairwise fun a b => a.real ≤ b.real)
    (hcalls : calls = before ++ c :: between) {q : ℕ} (hq : q ≤ before.length)
    (hd : calls[q]? = some d) : d.real ≤ c.real := by
  subst hcalls
  obtain ⟨-, -, hbefore⟩ := List.pairwise_append.1 hsorted
  rcases hq.eq_or_lt with rfl | hlt
  · rw [List.getElem?_append_right le_rfl, Nat.sub_self, List.getElem?_cons_zero] at hd
    exact (congrArg Call.real (Option.some.inj hd)).ge
  · rw [List.getElem?_append_left hlt] at hd
    exact hbefore d (List.mem_of_getElem? hd) c List.mem_cons_self

/-- One call, after calls whose real times did not go back. -/
theorem freshAt_iff (hsorted : earlier.Pairwise fun a b => a.real ≤ b.real) :
    FreshAt earlier d ↔ Prompt (Runs.run step start earlier) d := by
  obtain ⟨hcalls, hnone, hsome⟩ := tracks_run earlier
  rw [freshAt_iff_queried]
  constructor
  · intro hfresh t ht hlate
    obtain ⟨q, ⟨c, hc, rfl⟩, hcells⟩ := hsome t ht
    by_contra hdue
    -- the values were read by call `q`, or never
    have hsplit : earlier = earlier.take q ++ c :: earlier.drop (q + 1) := by
      obtain ⟨hlt, rfl⟩ := List.getElem?_eq_some_iff.1 hc
      rw [List.getElem_cons_drop, List.take_append_drop]
    obtain ⟨k, hk, hlt⟩ := hfresh _ c _ hsplit hlate .eol
    have hlength : (earlier.take q).length = q :=
      List.length_take_of_le (List.getElem?_eq_some_iff.1 hc).1.le
    rw [queried, if_neg hdue] at hk
    rcases hcells .eol with hsource | ⟨-, hsource⟩
    · rw [hsource, Option.some.injEq] at hk
      omega
    · rw [hsource] at hk
      cases hk
  · intro hprompt before c between hsplit hlate f
    by_cases hdue : (Runs.run step start earlier).health.QueryDue d.time_now
    · refine ⟨_, source_queried hdue, ?_⟩
      rw [hcalls, hsplit, List.length_append, List.length_cons]
      omega
    · -- the last query came after `c`
      cases hs : (Runs.run step start earlier).since with
      | none =>
        rw [(hnone hs).1] at hsplit
        cases before <;> cases hsplit
      | some t =>
        obtain ⟨q, ⟨b, hb, rfl⟩, hcells⟩ := hsome t hs
        have hnot : ¬ b.real + interval ≤ d.real := fun hlate => hdue (hprompt _ hs hlate)
        have hq : before.length < q := by
          by_contra hq
          have hle := real_le hsorted hsplit (Nat.not_lt.1 hq) hb
          omega
        rw [queried, if_neg hdue]
        refine ⟨q, (hcells f).resolve_right ?_, hq⟩
        rintro ⟨rfl, -⟩
        exact absurd hq (Nat.not_lt_zero _)

/-- **The UFS health is refreshed** if and only if every call is prompt: the system clock must show
a day where a day has passed. -/
theorem fresh_iff (calls : List Call) (hsorted : calls.Pairwise fun a b => a.real ≤ b.real) :
    Fresh calls ↔ Runs.Meets step Prompt start calls := by
  rw [Runs.meets_iff]
  refine forall_congr' fun earlier => forall_congr' fun d => forall_congr' fun later =>
    forall_congr' fun hcalls => freshAt_iff ?_
  rw [hcalls] at hsorted
  exact (List.pairwise_append.1 hsorted).1

/-- Files that hold one number each. -/
def readableFiles : UfsFiles :=
  ⟨some "0x310\n".toList, some "0x01\n".toList, some "0x01\n".toList, some "0x01\n".toList⟩

/-- A call that finds them, at these times. -/
def callAt (real time_now : ℤ) : Call :=
  ⟨real, time_now, readableFiles, 0, by decide, fun f => by cases f <;> decide⟩

/-- With a steady clock the second call, a day later, queries again. -/
theorem steadyClock_fresh :
    Fresh [callAt 0 1700000000000000, callAt interval (1700000000000000 + interval)] := by
  have hdue : (start.step (callAt 0 1700000000000000)).health.QueryDue
      (1700000000000000 + interval) := by decide
  refine (fresh_iff _ (by decide)).2 ⟨fun t ht => ?_, fun t ht hlate => hdue, trivial⟩
  cases ht

/-- The system clock is set back by a day: a day later the health is a day old. -/
theorem clockSetBack_not_fresh :
    ¬ Fresh [callAt 0 1700000000000000, callAt interval 1700000000000000] := by
  intro h
  have hreply : ((start.step (callAt 0 1700000000000000)).reply
      (callAt interval 1700000000000000)).map (fun info => info.eol.source) = [some 0] := by
    decide
  have hfresh := h [callAt 0 1700000000000000] (callAt interval 1700000000000000) [] rfl
    [] (callAt 0 1700000000000000) [] rfl (by decide)
  obtain ⟨info, hinfo, hsource⟩ := List.mem_map.1 (hreply ▸ List.mem_singleton_self (some 0))
  obtain ⟨k, hk, hlt⟩ := hfresh info hinfo .eol
  obtain rfl : 0 = k := Option.some.inj (hsource.symm.trans hk)
  exact absurd hlt (Nat.not_lt_zero _)

end Timed

end Health

end Gs101
