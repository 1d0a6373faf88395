import Gs101.Lib.Runs
import Gs101.Lib.FileStream

/-!
# The health HAL: storage info and disk stats

The functions behind `getStorageInfo` and `getDiskStats`, and the static variables that live across
the calls.  A file is its content, `none` if it cannot be opened; every variable remembers the call
that read its value from a file.

* `readUfsVersion`, `privateGetStorageInfo`, `privateGetDiskStats`: as in the source;
* `Event`, `step`: the calls of the HAL, with what the environment answers;
* `getStorageInfo_eq`: what `getStorageInfo` stores and reports;
* `cell_readFrom`, `ufs_version_readFrom`: the source that a variable remembers is a call whose
  files hold its value;
* `map_privateGetDiskStats`: what the disk stats are.
-/

namespace Gs101

open FileStream

namespace Health

/-- The files of the UFS device. -/
structure UfsFiles where
  version : Option (List Char)
  eol : Option (List Char)
  lifetimeA : Option (List Char)
  lifetimeB : Option (List Char)
  deriving DecidableEq

/-- The fields of `StorageInfo` that the HAL sets. -/
structure StorageInfo where
  version : Cell String
  eol : Cell ℕ
  lifetimeA : Cell ℕ
  lifetimeB : Cell ℕ
  deriving DecidableEq

/-- The fields of `DiskStats`, in the order in which they are read. -/
inductive DiskStat
  | reads
  | readMerges
  | readSectors
  | readTicks
  | writes
  | writeMerges
  | writeSectors
  | writeTicks
  | ioInFlight
  | ioTicks
  | ioInQueue
  deriving DecidableEq

def DiskStat.all : List DiskStat :=
  [.reads, .readMerges, .readSectors, .readTicks, .writes, .writeMerges, .writeSectors,
    .writeTicks, .ioInFlight, .ioTicks, .ioInQueue]

inductive Status
  | ok
  | unsupportedOperation
  deriving DecidableEq

end Health

open Health

/-- The static variables of the HAL. -/
structure Health where
  ufs_version : Cell String
  eol : Cell ℕ
  lifetimeA : Cell ℕ
  lifetimeB : Cell ℕ
  /-- In microseconds since the epoch. -/
  ufs_last_query_time : ℤ
  /-- Ghost: how many calls there were. -/
  calls : ℕ
  deriving DecidableEq

namespace Health

def kUfsQueryIntervalHours : ℤ := 24

/-- Before the first call. -/
def initial : Health := ⟨⟨"", none⟩, ⟨0, none⟩, ⟨0, none⟩, ⟨0, none⟩, 0, 0⟩

/-- For a field of this many bits, in call `k`. -/
def readValueFromFile (bits k : ℕ) (file : Option (List Char)) (field : Cell ℕ) : Cell ℕ :=
  (extract (numGetUnsigned bits) k file field).2

/-- `ufs_version` after `read_ufs_version`; `value` is what the stack held in its uninitialised
variable. -/
def readUfsVersion (s : Health) (file : Option (List Char)) (value : ℕ) : Cell String :=
  if s.ufs_version.value = "" then
    let value := readValueFromFile 64 s.calls file ⟨value, none⟩
    ⟨"ufs " ++ String.ofList (Nat.toDigits 16 value.value), value.source⟩
  else s.ufs_version

/-- The whole hours between two times. -/
def hoursElapsed (time_now last : ℤ) : ℤ := (time_now - last).tdiv 3600000000

/-- The UFS health is queried at this time. -/
def QueryDue (s : Health) (time_now : ℤ) : Prop :=
  hoursElapsed time_now s.ufs_last_query_time ≥ kUfsQueryIntervalHours

instance (s : Health) (time_now : ℤ) : Decidable (s.QueryDue time_now) :=
  inferInstanceAs (Decidable (_ ≤ _))

/-- The static variables after the call, and the vector. -/
def privateGetStorageInfo (s : Health) (time_now : ℤ) (files : UfsFiles) (value : ℕ) :
    Health × List StorageInfo :=
  let s := { s with ufs_version := readUfsVersion s files.version value }
  let s := if s.QueryDue time_now then
      { s with
        ufs_last_query_time := time_now
        eol := readValueFromFile 16 s.calls files.eol s.eol
        lifetimeA := readValueFromFile 16 s.calls files.lifetimeA s.lifetimeA
        lifetimeB := readValueFromFile 16 s.calls files.lifetimeB s.lifetimeB }
    else s
  (s, [⟨s.ufs_version, s.eol, s.lifetimeA, s.lifetimeB⟩])

/-- The vector after the call; `vec_stats` is the one that was passed in. -/
def privateGetDiskStats (k : ℕ) (file : Option (List Char)) (vec_stats : List (DiskStat → ℤ)) :
    List (DiskStat → Cell ℤ) :=
  -- `resize(1)`
  let stats := vec_stats.headD fun _ => 0
  [extractAll (numGetInteger 64) k DiskStat.all file fun field => ⟨stats field, none⟩]

def getStorageInfo (s : Health) (time_now : ℤ) (files : UfsFiles) (value : ℕ) :
    Health × Status × List StorageInfo :=
  let (s, out) := privateGetStorageInfo s time_now files value
  (s, if out.isEmpty then .unsupportedOperation else .ok, out)

def getDiskStats (k : ℕ) (file : Option (List Char)) (out : List (DiskStat → ℤ)) :
    Status × List (DiskStat → Cell ℤ) :=
  let out := privateGetDiskStats k file out
  (if out.isEmpty then .unsupportedOperation else .ok, out)

/-- A call, with the time, the files and the stack as it finds them, or with the caller's vector. -/
inductive Event
  | getStorageInfo (time_now : ℤ) (files : UfsFiles) (value : ℕ)
  | getDiskStats (file : Option (List Char)) (out : List (DiskStat → ℤ))

def step (s : Health) : Event → Health
  | .getStorageInfo time_now files value =>
      { (getStorageInfo s time_now files value).1 with calls := s.calls + 1 }
  | .getDiskStats _ _ => { s with calls := s.calls + 1 }

/-! ### What the calls answer -/

/-- The variables that the UFS health is queried for. -/
inductive UfsField
  | eol
  | lifetimeA
  | lifetimeB

def UfsField.cell (s : Health) : UfsField → Cell ℕ
  | .eol => s.eol
  | .lifetimeA => s.lifetimeA
  | .lifetimeB => s.lifetimeB

def UfsField.file (files : UfsFiles) : UfsField → Option (List Char)
  | .eol => files.eol
  | .lifetimeA => files.lifetimeA
  | .lifetimeB => files.lifetimeB

def UfsField.reported (info : StorageInfo) : UfsField → Cell ℕ
  | .eol => info.eol
  | .lifetimeA => info.lifetimeA
  | .lifetimeB => info.lifetimeB

/-- The variable after `getStorageInfo`. -/
def queried (s : Health) (time_now : ℤ) (files : UfsFiles) (f : UfsField) : Cell ℕ :=
  if s.QueryDue time_now then readValueFromFile 16 s.calls (f.file files) (f.cell s) else f.cell s

/-- What `getStorageInfo` reports. -/
def stored (s : Health) (time_now : ℤ) (files : UfsFiles) (value : ℕ) : StorageInfo :=
  ⟨readUfsVersion s files.version value, queried s time_now files .eol,
    queried s time_now files .lifetimeA, queried s time_now files .lifetimeB⟩

theorem getStorageInfo_eq (s : Health) (time_now : ℤ) (files : UfsFiles) (value : ℕ) :
    getStorageInfo s time_now files value =
      (⟨(stored s time_now files value).version, (stored s time_now files value).eol,
          (stored s time_now files value).lifetimeA, (stored s time_now files value).lifetimeB,
          if s.QueryDue time_now then time_now else s.ufs_last_query_time, s.calls⟩,
        .ok, [stored s time_now files value]) := by
  have hdue : ∀ c, QueryDue { s with ufs_version := c } time_now ↔ s.QueryDue time_now :=
    fun _ => Iff.rfl
  by_cases h : s.QueryDue time_now <;>
    simp [getStorageInfo, privateGetStorageInfo, stored, queried, UfsField.file, UfsField.cell, h,
      hdue]

theorem getDiskStats_eq (k : ℕ) (file : Option (List Char)) (out : List (DiskStat → ℤ)) :
    getDiskStats k file out = (.ok, privateGetDiskStats k file out) := rfl

theorem reported_stored (s : Health) (time_now : ℤ) (files : UfsFiles) (value : ℕ) (f : UfsField) :
    f.reported (stored s time_now files value) = queried s time_now files f := by
  cases f <;> rfl

theorem cell_step (s : Health) (time_now : ℤ) (files : UfsFiles) (value : ℕ) (f : UfsField) :
    f.cell (step s (.getStorageInfo time_now files value)) = queried s time_now files f := by
  rw [step, getStorageInfo_eq]
  cases f <;> rfl

theorem ufs_version_step (s : Health) (time_now : ℤ) (files : UfsFiles) (value : ℕ) :
    (step s (.getStorageInfo time_now files value)).ufs_version =
      readUfsVersion s files.version value := by
  rw [step, getStorageInfo_eq]
  rfl

@[simp] theorem calls_step (s : Health) (e : Event) : (step s e).calls = s.calls + 1 := by
  cases e <;> rfl

theorem calls_run (s : Health) (es : List Event) :
    (Runs.run step s es).calls = s.calls + es.length := by
  induction es generalizing s with
  | nil => rfl
  | cons e es ih =>
    rw [Runs.run_cons, ih, calls_step, List.length_cons]
    omega

/-! ### What a source stands for -/

/-- The source of a variable is a call of `getStorageInfo`, of whose files and of the variable's
value `Says` holds. -/
def ReadFrom {β : Type} (es : List Event) (Says : UfsFiles → β → Prop) (c : Cell β) : Prop :=
  ∀ k, c.source = some k →
    ∃ time_now files value, es[k]? = some (.getStorageInfo time_now files value) ∧
      Says files c.value

/-- A variable that a call leaves alone, or reads from the call's files. -/
theorem readFrom_run {β : Type} {Says : UfsFiles → β → Prop} (get : Health → Cell β)
    (hinitial : (get initial).source = none)
    (hstep : ∀ s e, get (step s e) = get s ∨
      ∀ k, (get (step s e)).source = some k → k = s.calls ∧
        ∃ time_now files value, e = .getStorageInfo time_now files value ∧
          Says files (get (step s e)).value)
    (es : List Event) : ReadFrom es Says (get (Runs.run step initial es)) := by
  induction es using List.reverseRecOn with
  | nil =>
    intro k hk
    rw [Runs.run_nil, hinitial] at hk
    cases hk
  | append_singleton es e ih =>
    intro k hk
    rw [Runs.run_append, Runs.run_cons, Runs.run_nil] at hk ⊢
    rcases hstep (Runs.run step initial es) e with hkept | hread
    · -- the value is from an earlier call
      rw [hkept] at hk ⊢
      obtain ⟨time_now, files, value, hcall, hsays⟩ := ih k hk
      refine ⟨time_now, files, value, ?_, hsays⟩
      have hlt : k < es.length := (List.getElem?_eq_some_iff.1 hcall).1
      rw [List.getElem?_append_left hlt, hcall]
    · -- the value is from this call
      obtain ⟨hcall, time_now, files, value, rfl, hsays⟩ := hread k hk
      have hcalls : (Runs.run step initial es).calls = es.length :=
        (calls_run initial es).trans (Nat.zero_add _)
      refine ⟨time_now, files, value, ?_, hsays⟩
      rw [hcall, hcalls, List.getElem?_concat_length]

/-- The file begins with this number, of an unsigned type of so many bits. -/
def Holds (bits : ℕ) (file : Option (List Char)) (v : ℕ) : Prop :=
  (scan (numGetUnsigned bits) file).number? = some v

theorem readValueFromFile_source {bits k j : ℕ} {file : Option (List Char)} {field : Cell ℕ}
    (h : (readValueFromFile bits k file field).source = some j) :
    (j = k ∧ Holds bits file (readValueFromFile bits k file field).value) ∨
      readValueFromFile bits k file field = field :=
  extract_source h

/-- The source of a queried variable is a call whose file begins with its value. -/
theorem cell_readFrom (es : List Event) (f : UfsField) :
    ReadFrom es (fun files v => Holds 16 (f.file files) v) (f.cell (Runs.run step initial es)) := by
  refine readFrom_run (fun s => f.cell s) (by cases f <;> rfl) (fun s e => ?_) es
  cases e with
  | getStorageInfo time_now files value =>
    rw [cell_step, queried]
    by_cases hdue : s.QueryDue time_now
    · rw [if_pos hdue]
      by_cases hkept : readValueFromFile 16 s.calls (f.file files) (f.cell s) = f.cell s
      · exact .inl hkept
      · refine .inr fun k hk => ?_
        obtain ⟨hcall, hvalue⟩ := (readValueFromFile_source hk).resolve_right hkept
        exact ⟨hcall, time_now, files, value, rfl, hvalue⟩
    · rw [if_neg hdue]
      exact .inl rfl
  | getDiskStats file out => exact .inl (by cases f <;> rfl)

/-- The source of the version is a call whose file begins with the number that it shows. -/
theorem ufs_version_readFrom (es : List Event) :
    ReadFrom es (fun files shown => ∃ v, Holds 64 files.version v ∧
        shown = "ufs " ++ String.ofList (Nat.toDigits 16 v))
      (Runs.run step initial es).ufs_version := by
  refine readFrom_run Health.ufs_version rfl (fun s e => ?_) es
  cases e with
  | getStorageInfo time_now files value =>
    rw [ufs_version_step, readUfsVersion]
    by_cases hempty : s.ufs_version.value = ""
    · rw [if_pos hempty]
      refine .inr fun k hk => ?_
      rcases readValueFromFile_source hk with ⟨hcall, hvalue⟩ | hkept
      · exact ⟨hcall, time_now, files, value, rfl, _, hvalue, rfl⟩
      · -- what the stack held has no source
        rw [hkept] at hk
        cases hk
    · rw [if_neg hempty]
      exact .inl rfl
  | getDiskStats file out => exact .inl rfl

/-- Where the file holds a number for each of them, the disk stats are these numbers, in their
order. -/
theorem map_privateGetDiskStats {k : ℕ} {file : Option (List Char)} (vec_stats : List (DiskStat → ℤ))
    (h : (numbers (numGetInteger 64) DiskStat.all.length file).length = DiskStat.all.length) :
    (privateGetDiskStats k file vec_stats).map
        (fun stats => DiskStat.all.map fun field => (stats field).value) =
      [numbers (numGetInteger 64) DiskStat.all.length file] := by
  rw [privateGetDiskStats, List.map_singleton, map_extractAll (by decide) _ h]

end Health

end Gs101
