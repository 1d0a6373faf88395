import Gs101.Health.Storage

/-!
# The health HAL: what is reported as measured

Both calls answer `ok` whatever the files hold: the vector is never empty.  A version or a health
value that was not read from a file is cached as if it were.

* `Honest`: a call that answers `ok` reports values that were read from the files, and a version
  that could not be read is not kept;
* `Readable`: the files of a call hold what it reads from them;
* `honest_iff_readable`, `consistent_step`: one call;
* `always_honest_iff`: the calls of a run are honest if and only if each finds its files readable.
-/

namespace Gs101

namespace Health

open FileStream

/-- Every value was read from a file, in this call or in an earlier one. -/
def StorageInfo.Measured (info : StorageInfo) : Prop :=
  info.version.source.isSome = true ∧ ∀ f : UfsField, (f.reported info).source.isSome = true

/-- The file begins with a number of an unsigned type of so many bits. -/
def IsNumber (bits : ℕ) (file : Option (List Char)) : Prop :=
  (scan (numGetUnsigned bits) file).number?.isSome = true

instance (bits : ℕ) (file : Option (List Char)) : Decidable (IsNumber bits file) :=
  inferInstanceAs (Decidable (_ = true))

/-- The file begins with something that is not such a number. -/
def IsSpoilt (bits : ℕ) (file : Option (List Char)) : Prop :=
  (scan (numGetUnsigned bits) file).isFailure = true

/-- What `ok` promises.  All the fields of the disk stats are from this call. -/
def Honest (s : Health) : Event → Prop
  | .getStorageInfo time_now files value =>
      ((getStorageInfo s time_now files value).2.1 = .ok →
        ∀ info ∈ (getStorageInfo s time_now files value).2.2, info.Measured) ∧
      (s.ufs_version.value = "" → ¬ IsNumber 64 files.version →
        (getStorageInfo s time_now files value).1.ufs_version.value = "")
  | .getDiskStats file out =>
      (getDiskStats s.calls file out).1 = .ok →
        ∀ stats ∈ (getDiskStats s.calls file out).2, ∀ field ∈ DiskStat.all,
          (stats field).source = some s.calls

/-- What a call needs of its files: while there is no version, all of them hold numbers and the
query is due; later no file that is queried is spoilt; the disk stats are eleven numbers. -/
def Readable (s : Health) : Event → Prop
  | .getStorageInfo time_now files _ =>
      if s.ufs_version.value = "" then
        IsNumber 64 files.version ∧ s.QueryDue time_now ∧
          ∀ f : UfsField, IsNumber 16 (f.file files)
      else s.QueryDue time_now → ∀ f : UfsField, ¬ IsSpoilt 16 (f.file files)
  | .getDiskStats file _ =>
      (numbers (numGetInteger 64) DiskStat.all.length file).length = DiskStat.all.length

/-- Nothing was read so far, or everything was. -/
def Consistent (s : Health) : Prop :=
  (s.ufs_version.value = "" ∧ ∀ f : UfsField, (f.cell s).source = none) ∨
    (s.ufs_version.value ≠ "" ∧ s.ufs_version.source.isSome = true ∧
      ∀ f : UfsField, (f.cell s).source.isSome = true)

variable {s : Health} {time_now : ℤ} {files : UfsFiles} {value : ℕ}

theorem shown_ne_empty (shown : String) : "ufs " ++ shown ≠ "" := by
  intro h
  have hlength := congrArg String.length h
  rw [String.length_append] at hlength
  have hufs : "ufs ".length = 4 := rfl
  have hempty : "".length = 0 := rfl
  omega

theorem readUfsVersion_ne_empty : (readUfsVersion s files.version value).value ≠ "" := by
  rw [readUfsVersion]
  split_ifs with h
  · exact shown_ne_empty _
  · exact h

/-- A version that is read now is measured if the file holds a number. -/
theorem isSome_readUfsVersion (h : s.ufs_version.value = "") :
    (readUfsVersion s files.version value).source.isSome = true ↔ IsNumber 64 files.version := by
  rw [readUfsVersion, if_pos h]
  refine isSome_extract_source.trans ⟨fun hread => ?_, .inl⟩
  rcases hread with hread | ⟨-, hnone⟩
  · exact hread
  · exact absurd hnone Bool.false_ne_true

theorem isSome_queried {f : UfsField} (h : s.QueryDue time_now) :
    (queried s time_now files f).source.isSome = true ↔
      IsNumber 16 (f.file files) ∨
        ¬ IsSpoilt 16 (f.file files) ∧ (f.cell s).source.isSome = true := by
  rw [queried, if_pos h, IsSpoilt, Bool.not_eq_true]
  exact isSome_extract_source

theorem not_isSpoilt_of_isNumber {bits : ℕ} {file : Option (List Char)} (h : IsNumber bits file) :
    ¬ IsSpoilt bits file := by
  rw [IsNumber] at h
  rw [IsSpoilt]
  cases hscan : scan (numGetUnsigned bits) file with
  | failure stored =>
    rw [hscan] at h
    cases h
  | number v rest => exact Bool.false_ne_true
  | nothing => exact Bool.false_ne_true

/-- One call of `getStorageInfo` is honest if its values are measured. -/
theorem honest_getStorageInfo_iff :
    Honest s (.getStorageInfo time_now files value) ↔ (stored s time_now files value).Measured := by
  rw [Honest, getStorageInfo_eq]
  constructor
  · intro h
    exact h.1 rfl _ (List.mem_singleton_self _)
  · intro h
    refine ⟨fun _ info hinfo => List.mem_singleton.1 hinfo ▸ h, fun hempty hversion => ?_⟩
    exact absurd ((isSome_readUfsVersion hempty).1 h.1) hversion

theorem measured_stored_iff : (stored s time_now files value).Measured ↔
    (readUfsVersion s files.version value).source.isSome = true ∧
      ∀ f : UfsField, (queried s time_now files f).source.isSome = true := by
  simp only [StorageInfo.Measured, reported_stored]
  rfl

/-- One call, in a state in which nothing was read so far, or everything was. -/
theorem honest_iff_readable (h : Consistent s) (e : Event) : Honest s e ↔ Readable s e := by
  cases e with
  | getStorageInfo time_now files value =>
    rw [honest_getStorageInfo_iff, measured_stored_iff, Readable]
    rcases h with ⟨hempty, hnone⟩ | ⟨hne, hversion, hsome⟩
    · -- the first call
      rw [if_pos hempty, isSome_readUfsVersion hempty]
      refine and_congr_right fun _ => ⟨fun hread => ?_, fun ⟨hdue, hnumber⟩ f => ?_⟩
      · have hdue : s.QueryDue time_now := by
          by_contra hdue
          have heol := hread .eol
          rw [queried, if_neg hdue, hnone] at heol
          cases heol
        refine ⟨hdue, fun f => ((isSome_queried hdue).1 (hread f)).resolve_right ?_⟩
        rw [hnone f]
        exact fun hcell => Bool.false_ne_true hcell.2
      · exact (isSome_queried hdue).2 (.inl (hnumber f))
    · -- a later one
      rw [if_neg hne, readUfsVersion, if_neg hne]
      refine (and_iff_right hversion).trans ⟨fun hread hdue f => ?_, fun hspoilt f => ?_⟩
      · rcases (isSome_queried hdue).1 (hread f) with hnumber | ⟨hspoilt, -⟩
        · exact not_isSpoilt_of_isNumber hnumber
        · exact hspoilt
      · by_cases hdue : s.QueryDue time_now
        · exact (isSome_queried hdue).2 (.inr ⟨hspoilt hdue f, hsome f⟩)
        · rw [queried, if_neg hdue]
          exact hsome f
  | getDiskStats file out =>
    rw [Honest, Readable, getDiskStats_eq]
    have hall : (∀ field ∈ DiskStat.all, (extractAll (numGetInteger 64) s.calls DiskStat.all file
        (fun field => ⟨out.headD (fun _ => 0) field, none⟩) field).source = some s.calls) ↔
        (numbers (numGetInteger 64) DiskStat.all.length file).length = DiskStat.all.length :=
      extractAll_source_iff (by decide) fun _ _ => rfl
    rw [← hall]
    constructor
    · intro hread
      exact hread rfl _ (List.mem_singleton_self _)
    · intro hread _ stats hstats
      exact List.mem_singleton.1 hstats ▸ hread

/-- An honest call has read everything by its end. -/
theorem consistent_step (e : Event) (h : Consistent s) (hhonest : Honest s e) :
    Consistent (step s e) := by
  cases e with
  | getStorageInfo time_now files value =>
    obtain ⟨hversion, hfields⟩ := measured_stored_iff.1 (honest_getStorageInfo_iff.1 hhonest)
    refine .inr ⟨?_, ?_, fun f => ?_⟩
    · rw [ufs_version_step]
      exact readUfsVersion_ne_empty
    · rw [ufs_version_step]
      exact hversion
    · rw [cell_step]
      exact hfields f
  | getDiskStats file out =>
    have hcell : ∀ f : UfsField, f.cell (step s (.getDiskStats file out)) = f.cell s := by
      intro f
      cases f <;> rfl
    have hversion : (step s (.getDiskStats file out)).ufs_version = s.ufs_version := rfl
    simpa only [Consistent, hcell, hversion] using h

/-- **Every `ok` means measured** if and only if every call finds its files readable. -/
theorem always_honest_iff (es : List Event) :
    Runs.Meets step Honest initial es ↔ Runs.Meets step Readable initial es :=
  Runs.meets_congr_of_kept (fun _ e => consistent_step e) (fun _ e h => honest_iff_readable h e)
    (.inl ⟨rfl, fun f => by cases f <;> rfl⟩) es

/-- Without any file, `ok` reports what the stack held as the version, and zeroes. -/
theorem missingFiles_not_honest :
    ¬ Runs.Meets step Honest initial
        [.getStorageInfo 1700000000000000 ⟨none, none, none, none⟩ 3735928559] ∧
      (getStorageInfo initial 1700000000000000 ⟨none, none, none, none⟩ 3735928559).2 =
        (.ok, [⟨⟨"ufs deadbeef", none⟩, ⟨0, none⟩, ⟨0, none⟩, ⟨0, none⟩⟩]) := by
  have hreported :
      (getStorageInfo initial 1700000000000000 ⟨none, none, none, none⟩ 3735928559).2 =
        (.ok, [⟨⟨"ufs deadbeef", none⟩, ⟨0, none⟩, ⟨0, none⟩, ⟨0, none⟩⟩]) := by
    decide
  refine ⟨fun h => ?_, hreported⟩
  have hmeasured := h.1.1
  rw [hreported] at hmeasured
  exact Bool.false_ne_true (hmeasured rfl _ (List.mem_singleton_self _)).1

end Health

end Gs101
