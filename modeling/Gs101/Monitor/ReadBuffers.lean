import Gs101.Lib.Buffer
import Gs101.Monitor.Handlers

/-!
# UsbDataSessionMonitor: the buffers that the state files are read into

Each `read` may fill the whole of a zeroed buffer, which then holds no NUL of its own.

* `deviceStateEventReads`, `dataRoleEventReads`: the handlers with each byte that they read;
* `deviceStateEventReads_within`, `dataRoleEventReads_within`: their values are those of
  `handleDeviceStateEvent` and `newDataRole`;
* `length_text_lt_iff`: when the text ends inside the buffer;
* `text_eq_iff`: when a longer content is taken for a word;
* `stays_in_buffer_iff`: when the handlers stay in their buffers and reject what is longer than
  every word.
-/

namespace Gs101

namespace Monitor

open Buffer Logged

/-- The bytes of the file. -/
def FileRead.bytes (r : FileRead) : List Char := (r.content.getD "").toList

/-- A buffer of `n` bytes after the `read`, with what lies past it, up to a NUL. -/
def FileRead.buffer (n : ℕ) (r : FileRead) : Pointer :=
  ⟨0, CText.bufferAfterRead n r.bytes r.past ++ [nul]⟩

def deviceStateEventReads (P : Platform) (p : Port) (r : FileRead) (m : Monitor) :
    Reads Monitor := do
  let state := r.buffer usbStateMaxLen
  -- the key of `find`
  let key ← readText state
  let m := m.logged (.stateRead p (String.ofList key) (P.bootClock m.reads))
  if String.ofList key ∈ kValidStates then
    let _ ← readText state
    let pushed ← readText state
    return evaluateComplianceWarning P (recordState P p (String.ofList pushed) m)
  else
    let _ ← readText state
    return m

/-- The new data role, as `handleDataRoleEvent` reads it. -/
def dataRoleEventReads (r : FileRead) : Reads PortDataRole := do
  let role := r.buffer dataRoleMaxLen
  let _ ← readText role
  let host ← sameBytes role ("host".toList ++ [nul])
  if host then return .host
  else
    let device ← sameBytes role ("device".toList ++ [nul])
    if device then return .device else return .none

/-- The content is longer than each of these words. -/
def FileRead.LongerThan (words : List String) (r : FileRead) : Prop :=
  ∀ word ∈ words, word.length < r.bytes.length

/-- A handler stays in its buffer of `n` bytes: the buffer holds a NUL, no byte past it is read, and
a content that is longer than each of the words is rejected. -/
def Contained {α : Type} (n : ℕ) (words : List String) (r : FileRead) (x : Reads α)
    (rejected : α → Prop) : Prop :=
  nul ∈ CText.bufferAfterRead n r.bytes [] ∧
    Ends x fun log v => (∀ j ∈ log, j < n) ∧ (r.LongerThan words → rejected v)

/-- The content leaves room for a NUL, or has one; and if it is longer than each of the words, it
does not begin with a word and a NUL. -/
def FileRead.Fits (n : ℕ) (words : List String) (r : FileRead) : Prop :=
  (r.bytes.length < n ∨ nul ∈ r.bytes.take n) ∧
    (r.LongerThan words → ∀ word ∈ words, ¬ word.toList ++ [nul] <+: r.bytes)

/-! ### The text in the buffer -/

variable {n : ℕ} {r : FileRead}

theorem bufferAfterRead_eq (n : ℕ) (content past : List Char) :
    CText.bufferAfterRead n content past = CText.bufferAfterRead n content [] ++ past := by
  rw [CText.bufferAfterRead, CText.bufferAfterRead, List.append_nil]

theorem length_bufferAfterRead (n : ℕ) (content : List Char) :
    (CText.bufferAfterRead n content []).length = n := by
  rw [CText.bufferAfterRead, List.append_nil, List.length_append, List.length_take,
    List.length_replicate]
  omega

theorem nul_mem_bufferAfterRead :
    nul ∈ CText.bufferAfterRead n r.bytes [] ↔ r.bytes.length < n ∨ nul ∈ r.bytes.take n := by
  rw [CText.bufferAfterRead, List.append_nil, List.mem_append, List.mem_replicate]
  constructor
  · rintro (h | ⟨h, -⟩)
    · exact .inr h
    · exact .inl (Nat.lt_of_sub_ne_zero h)
  · rintro (h | h)
    · exact .inr ⟨(Nat.sub_pos_of_lt h).ne', rfl⟩
    · exact .inl h

theorem toList_text (n : ℕ) (r : FileRead) :
    (r.text n).toList = (CText.bufferAfterRead n r.bytes r.past).takeWhile (· ≠ nul) :=
  String.toList_ofList

theorem nul_notMem_text (n : ℕ) (r : FileRead) : nul ∉ (r.text n).toList := by
  rw [toList_text]
  exact CText.notMem_takeWhile_ne nul _

/-- The memory holds the text, a NUL, and something behind. -/
theorem exists_buffer_eq (n : ℕ) (r : FileRead) :
    ∃ b, r.buffer n = ⟨0, (r.text n).toList ++ nul :: b⟩ := by
  obtain ⟨b, hb⟩ :=
    CText.exists_eq_takeWhile_ne nul (CText.bufferAfterRead n r.bytes r.past)
  refine ⟨b, ?_⟩
  rw [FileRead.buffer, hb, toList_text]

/-- The text ends inside the buffer if and only if the buffer holds a NUL. -/
theorem length_text_lt_iff :
    (r.text n).toList.length < n ↔ nul ∈ CText.bufferAfterRead n r.bytes [] := by
  rw [← CText.length_takeWhile_ne_lt_iff r.past, length_bufferAfterRead, ← bufferAfterRead_eq,
    toList_text]

/-- A content that is longer than a word is taken for it if and only if it begins with the word and
a NUL. -/
theorem text_eq_iff {word : String} (hword : nul ∉ word.toList) (hn : word.length < n)
    (hlong : word.length < r.bytes.length) :
    r.text n = word ↔ word.toList ++ [nul] <+: r.bytes := by
  have hlength : (word.toList ++ [nul]).length ≤ (r.bytes.take n).length := by
    rw [List.length_append, List.length_take, String.length_toList, List.length_singleton]
    omega
  have hbuffer : r.bytes.take n <+: CText.bufferAfterRead n r.bytes r.past ++ [nul] := by
    rw [CText.bufferAfterRead, List.append_assoc, List.append_assoc]
    exact List.prefix_append _ _
  constructor
  · intro htext
    obtain ⟨b, hb⟩ := exists_buffer_eq n r
    rw [htext, FileRead.buffer, Pointer.mk.injEq] at hb
    have hbegins : word.toList ++ [nul] <+: CText.bufferAfterRead n r.bytes r.past ++ [nul] := by
      rw [hb.2]
      exact ⟨b, List.append_assoc _ _ _⟩
    exact (List.prefix_of_prefix_length_le hbegins hbuffer hlength).trans (List.take_prefix _ _)
  · intro hbegins
    have htake : word.toList ++ [nul] <+: r.bytes.take n :=
      List.prefix_of_prefix_length_le hbegins (List.take_prefix _ _) hlength
    obtain ⟨tail, htail⟩ := htake
    rw [String.ext_iff, toList_text, CText.bufferAfterRead, ← htail]
    simp only [List.append_assoc, List.cons_append, List.nil_append]
    exact CText.takeWhile_ne_append hword _

/-! ### What the handlers read -/

variable {P : Platform} {p : Port} {m : Monitor}

/-- The string is read up to its NUL. -/
theorem readText_buffer (n : ℕ) (r : FileRead) :
    Within (r.text n).toList.length (readText (r.buffer n)) (· = (r.text n).toList) := by
  obtain ⟨b, hb⟩ := exists_buffer_eq n r
  rw [hb]
  exact readBytes_within (nul_notMem_text n r) (Nat.zero_add _).le

theorem mem_log_readText_buffer (n : ℕ) (r : FileRead) :
    (r.text n).toList.length ∈ (readText (r.buffer n)).log := by
  obtain ⟨b, hb⟩ := exists_buffer_eq n r
  have hmem := mem_log_readBytes (i := 0) (nul_notMem_text n r) (nul :: b)
  rw [hb]
  rwa [Nat.zero_add] at hmem

theorem sameBytes_buffer {word : String} (hword : nul ∉ word.toList) (n : ℕ) (r : FileRead) :
    Within (r.text n).toList.length (sameBytes (r.buffer n) (word.toList ++ [nul]))
      (· = decide (r.text n = word)) := by
  obtain ⟨b, hb⟩ := exists_buffer_eq n r
  rw [hb]
  refine (compareBytes_nul_within (nul_notMem_text n r) hword (Nat.zero_add _).le).mono fun v hv => ?_
  rw [hv]
  exact decide_eq_decide.2 String.toList_inj

theorem deviceStateEventReads_within :
    Within (r.text usbStateMaxLen).toList.length (deviceStateEventReads P p r m)
      (· = handleDeviceStateEvent P p r m) := by
  have hread := readText_buffer usbStateMaxLen r
  refine hread.bind_eq ?_
  rw [String.ofList_toList, handleDeviceStateEvent]
  by_cases hvalid : r.text usbStateMaxLen ∈ kValidStates
  · rw [if_pos hvalid, if_pos hvalid]
    refine hread.bind_eq (hread.bind_eq ?_)
    rw [String.ofList_toList]
    exact within_pure.2 rfl
  · rw [if_neg hvalid, if_neg hvalid]
    exact hread.bind_eq (within_pure.2 rfl)

theorem dataRoleEventReads_within :
    Within (r.text dataRoleMaxLen).toList.length (dataRoleEventReads r) (· = newDataRole r) := by
  refine (readText_buffer dataRoleMaxLen r).bind_eq ?_
  refine (sameBytes_buffer (by decide) dataRoleMaxLen r).bind_eq ?_
  rw [newDataRole]
  by_cases hhost : r.text dataRoleMaxLen = "host"
  · rw [if_pos (decide_eq_true hhost), if_pos hhost]
    exact within_pure.2 rfl
  rw [if_neg (by simpa using hhost), if_neg hhost]
  refine (sameBytes_buffer (by decide) dataRoleMaxLen r).bind_eq ?_
  by_cases hdevice : r.text dataRoleMaxLen = "device"
  · rw [if_pos (decide_eq_true hdevice), if_pos hdevice]
    exact within_pure.2 rfl
  · rw [if_neg (by simpa using hdevice), if_neg hdevice]
    exact within_pure.2 rfl

/-! ### Staying in the buffer -/

/-- A handler that reads the text up to its NUL, and rejects what is no word, stays in its buffer if
and only if the content fits. -/
theorem contained_iff {α : Type} {words : List String} {x : Reads α} {v : α} {rejected : α → Prop}
    (hwords : ∀ word ∈ words, nul ∉ word.toList ∧ word.length < n)
    (hx : Within (r.text n).toList.length x (· = v))
    (hmem : (r.text n).toList.length ∈ x.log) (hrejected : rejected v ↔ r.text n ∉ words) :
    Contained n words r x rejected ↔ r.Fits n words := by
  have hbytes : (∀ j ∈ x.log, j < n) ↔ (r.text n).toList.length < n := by
    constructor
    · intro h
      exact h _ hmem
    · intro h j hj
      obtain ⟨w, -, hlog, -⟩ := hx
      exact (hlog j hj).trans_lt h
  have hwords' : r.LongerThan words →
      (r.text n ∉ words ↔ ∀ word ∈ words, ¬ word.toList ++ [nul] <+: r.bytes) := by
    intro hlong
    constructor
    · intro htext word hword hbegins
      have hequal := (text_eq_iff (hwords word hword).1 (hwords word hword).2
        (hlong word hword)).2 hbegins
      exact htext (hequal ▸ hword)
    · intro hbegins htext
      exact hbegins _ htext ((text_eq_iff (hwords _ htext).1 (hwords _ htext).2
        (hlong _ htext)).1 rfl)
  rw [Contained, FileRead.Fits, ← nul_mem_bufferAfterRead]
  constructor
  · rintro ⟨hnul, w, hw, -, hreject⟩
    obtain ⟨v', hv', -, rfl⟩ := hx
    obtain rfl : v' = w := Except.ok.inj (hv'.symm.trans hw)
    exact ⟨hnul, fun hlong => (hwords' hlong).1 (hrejected.1 (hreject hlong))⟩
  · rintro ⟨hnul, hbegins⟩
    obtain ⟨v', hv', -, rfl⟩ := hx
    refine ⟨hnul, v', hv', hbytes.2 (length_text_lt_iff.2 hnul), fun hlong => ?_⟩
    exact hrejected.2 ((hwords' hlong).2 (hbegins hlong))

/-- The histories and the warnings are those of `m`. -/
def Unchanged (m m' : Monitor) : Prop :=
  (∀ q, m'.portState q = m.portState q) ∧ m'.mWarningSet = m.mWarningSet

theorem unchanged_iff :
    Unchanged m (handleDeviceStateEvent P p r m) ↔ r.text usbStateMaxLen ∉ kValidStates := by
  by_cases hvalid : r.text usbStateMaxLen ∈ kValidStates
  · -- the history of the port grows
    refine iff_of_false (fun h => ?_) (not_not.2 hvalid)
    have hstates := congrArg (fun d => d.states.length) (h.1 p)
    cases p <;> simp [handleDeviceStateEvent, hvalid, evaluateComplianceWarning_eq, recordState,
      portState, setPortState, logged, ticked] at hstates
  · refine iff_of_true ?_ hvalid
    rw [handleDeviceStateEvent, if_neg hvalid]
    exact ⟨fun q => by cases q <;> rfl, rfl⟩

theorem newDataRole_eq_none_iff :
    newDataRole r = .none ↔ r.text dataRoleMaxLen ∉ ["host", "device"] := by
  rw [newDataRole]
  split_ifs <;> simp [*]

theorem kValidStates_short : ∀ word ∈ kValidStates, nul ∉ word.toList ∧
    word.length < usbStateMaxLen := by
  decide

/-- **The handlers stay in their buffers** if and only if the content fits: it leaves room for a
NUL, or has one within the buffer, and no word with a NUL behind it begins a longer content. -/
theorem stays_in_buffer_iff (P : Platform) (p : Port) (r : FileRead) (m : Monitor) :
    (Contained usbStateMaxLen kValidStates r (deviceStateEventReads P p r m) (Unchanged m) ↔
      r.Fits usbStateMaxLen kValidStates) ∧
    (Contained dataRoleMaxLen ["host", "device"] r (dataRoleEventReads r) (· = .none) ↔
      r.Fits dataRoleMaxLen ["host", "device"]) :=
  ⟨contained_iff kValidStates_short deviceStateEventReads_within
      (mem_log_bind (mem_log_readText_buffer usbStateMaxLen r) _) unchanged_iff,
    contained_iff (by decide) dataRoleEventReads_within
      (mem_log_bind (mem_log_readText_buffer dataRoleMaxLen r) _) newDataRole_eq_none_iff⟩

/-- A state of twenty bytes, or a role of ten, is read past the buffer. -/
theorem fullBuffer_not_contained :
    (¬ Contained usbStateMaxLen kValidStates (.of "xxxxxxxxxxxxxxxxxxxx")
        (deviceStateEventReads .secondHand .device (.of "xxxxxxxxxxxxxxxxxxxx")
          (construct .none none)) (Unchanged (construct .none none)) ∧
      20 ∈ (deviceStateEventReads .secondHand .device (.of "xxxxxxxxxxxxxxxxxxxx")
        (construct .none none)).log) ∧
    ¬ Contained dataRoleMaxLen ["host", "device"] (.of "xxxxxxxxxx")
        (dataRoleEventReads (.of "xxxxxxxxxx")) (· = .none) ∧
      10 ∈ (dataRoleEventReads (.of "xxxxxxxxxx")).log := by
  have hstate : nul ∉ CText.bufferAfterRead 20 (FileRead.of "xxxxxxxxxxxxxxxxxxxx").bytes [] := by
    decide
  have hrole : nul ∉ CText.bufferAfterRead 10 (FileRead.of "xxxxxxxxxx").bytes [] := by decide
  refine ⟨⟨fun h => hstate h.1, ?_⟩, fun h => hrole h.1, ?_⟩
  · exact mem_log_bind (mem_log_readText_buffer 20 (.of "xxxxxxxxxxxxxxxxxxxx")) _
  · exact mem_log_bind (mem_log_readText_buffer 10 (.of "xxxxxxxxxx")) _

end Monitor

end Gs101
