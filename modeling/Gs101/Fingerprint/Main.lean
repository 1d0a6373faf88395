import Gs101.Fingerprint.CheckParameter

/-!
# fp_test: the command

`main` runs the command that `checkParameter` has found.  A command sends one request: to init, or,
unless the service is stopped or cannot be found, to the fingerprint HAL.

* `main`: the requests that the program sends, and its exit status;
* `asked`: the request that the arguments ask for;
* `Obeys`: the program sends the request that was asked for, and no other, and its exit status is
  `OK` if and only if the request was sent and granted;
* `main_obeys`: it does so whenever the copy of the argument stays in its buffer.
-/

namespace Gs101

namespace Fingerprint

open Buffer Logged

def OK : ℤ := 0

/-- What the program asks of the rest of the system. -/
inductive Request
  /-- `property_set("ctl.start", FPS_SRV_PROP)`. -/
  | start
  /-- `property_set("ctl.stop", FPS_SRV_PROP)`. -/
  | stop
  | authenticate
  | cancel
  deriving DecidableEq

/-- `RequestStatus` of the fingerprint HAL, as far as it is told apart. -/
inductive RequestStatus
  | sysOk
  | other
  deriving DecidableEq

/-- What the rest of the system answers. -/
structure Answers where
  /-- `property_set`, of `ctl.start` if the argument is true, and else of `ctl.stop`. -/
  propertySet : Bool → ℤ
  /-- The property `FPS_SRV_FULL_PROP`. -/
  status : List Char
  /-- Whether `IBiometricsFingerprint::getService` finds the service. -/
  service : Bool
  authenticate : RequestStatus
  cancel : RequestStatus

/-- What is requested, and what is returned. -/
abbrev Result := List Request × ℤ

variable (A : Answers)

def enableDisableFps (set : Bool) : Result :=
  let ret := A.propertySet set
  ([if set then .start else .stop], if ret ≠ 0 then -ERROR else ret)

/-- `!strncmp(tempbuf, "stopped", strlen("stopped"))`. -/
def stopped : Bool := "stopped".toList.isPrefixOf A.status

/-- A request to the fingerprint HAL, which it answers with this status. -/
def runCmd (request : Request) (hidlRet : RequestStatus) : Result :=
  if stopped A then ([], -ERROR)
  else if !A.service then ([], -ERROR)
  else ([request], if hidlRet = .sysOk then OK else -ERROR)

def runAuthCmd : Result := runCmd A .authenticate A.authenticate

def runCancelCmd : Result := runCmd A .cancel A.cancel

/-- The switch of `main`. -/
def run (input : ℤ) : Result :=
  if input = 'e'.toNat then enableDisableFps A true
  else if input = 'd'.toNat then enableDisableFps A false
  else if input = 'a'.toNat then runAuthCmd A
  -- 'n', 'i' and the default
  else runCancelCmd A

/-- `main`; `past` is what the stack holds behind the buffer of `checkParameter`. -/
def main (past : List Char) (argc : ℤ) (argv : ℕ → CString) : Writes Result := do
  let input ← checkParameter past argc argv
  if input = -ERROR then return ([], -ERROR) else return run A input

/-! ### What the program is for -/

/-- The request that an option stands for. -/
def requests : List (List Char × Request) :=
  [("-a".toList, .authenticate), ("-n".toList, .cancel), ("-i".toList, .cancel),
    ("-e".toList, .start), ("-d".toList, .stop)]

/-- The request that the arguments ask for. -/
def asked (argc : ℤ) (argv : ℕ → CString) : Option Request :=
  if argc = 2 then requests.lookup (argv 1).val else none

/-- The request can be sent. -/
def Reaches : Request → Prop
  | .start | .stop => True
  | .authenticate | .cancel => ¬ "stopped".toList <+: A.status ∧ A.service = true

/-- The request is granted if it is sent. -/
def Grants : Request → Prop
  | .start => A.propertySet true = 0
  | .stop => A.propertySet false = 0
  | .authenticate => A.authenticate = .sysOk
  | .cancel => A.cancel = .sysOk

/-- The request is sent, and no other, if it can be, and the exit status tells whether it was sent
and granted. -/
structure Served (request : Request) (result : Result) : Prop where
  sent : Reaches A request → result.1 = [request]
  notSent : ¬ Reaches A request → result.1 = []
  ret_ok : result.2 = OK ↔ Reaches A request ∧ Grants A request
  ret_error : result.2 ≠ OK → result.2 = -ERROR

/-- The program does what it was asked for; if that is nothing, it fails. -/
def Obeys (past : List Char) (argc : ℤ) (argv : ℕ → CString) : Prop :=
  Ends (main A past argc argv) fun _ result =>
    match asked argc argv with
    | some request => Served A request result
    | none => result = ([], -ERROR)

/-! ### The command -/

variable {past : List Char} {num : ℤ} {strArray : ℕ → CString}

/-- What `checkParameter` returns for a text that is in its buffer. -/
def command (l : List (List Char × Char)) (text : List Char) : ℤ :=
  (l.lookup text).elim (-ERROR) fun c => (c.toNat : ℤ)

/-- The comparisons find the first option that the text is. -/
theorem matchOption_command {a b : List Char} (ha : nul ∉ a) {l : List (List Char × Char)}
    (hl : ∀ o ∈ l, nul ∉ o.1) :
    Within a.length (matchOption (a ++ nul :: b) l) (· = command l a) := by
  induction l with
  | nil => exact within_pure.2 rfl
  | cons o l ih =>
    obtain ⟨ho, hl⟩ := List.forall_mem_cons.1 hl
    refine (compareBytes_nul_within ha ho (Nat.zero_add _).le).bind_eq ?_
    unfold command
    rw [List.lookup_cons]
    by_cases hsame : a = o.1
    · rw [if_pos (decide_eq_true hsame), beq_iff_eq.2 hsame]
      exact within_pure.2 rfl
    · rw [if_neg (by simpa using hsame), beq_false_of_ne hsame]
      exact ih hl

theorem command_eq_error {text : List Char} (h : text ∉ options.map Prod.fst) :
    command options text = -ERROR := by
  unfold command
  rw [List.lookup_eq_none_iff.2]
  · rfl
  · intro o ho
    exact bne_iff_ne.2 fun he : text = o.1 => h (he ▸ List.mem_map_of_mem ho)

/-- `checkParameter` returns the command of the option, unless its guard stops it. -/
theorem checkParameter_command (h : ¬ (num = 2 ∧ (strArray 1).val.length = STRING_SIZE)) :
    Ends (checkParameter past num strArray) fun _ ret =>
      ret = if num = 2 then command options (strArray 1).val else -ERROR := by
  unfold checkParameter
  split_ifs with hguard hnum hnum
  · -- the guard returns, and what is longer than the buffer is no option
    have hlength : (strArray 1).val.length > STRING_SIZE := hguard.resolve_left (not_not.2 hnum)
    refine ends_pure.2 (command_eq_error fun hoption => ?_).symm
    have hshort := options_length _ hoption
    omega
  · exact ends_pure.2 rfl
  · obtain ⟨-, hlength⟩ := not_or.1 hguard
    have hcopy : Ends (strcpy (List.replicate STRING_SIZE nul ++ past) (strArray 1).val)
        fun log copied => log.length = (strArray 1).val.length + 1 ∧
          ∃ rest, copied = (strArray 1).val ++ nul :: rest := by
      refine copyBytes_ends ?_
      rw [List.length_append, List.length_replicate]
      omega
    refine ends_bind.2 (hcopy.mono ?_)
    rintro log copied ⟨-, rest, rfl⟩
    exact (ends_peek (matchOption_command (strArray 1).prop (by decide))).mono fun _ _ h => h.2
  · exact absurd (not_not.1 (not_or.1 hguard).1) hnum

/-! ### The request -/

variable {A}

/-- A request to init is always sent. -/
theorem served_enableDisableFps {request : Request} (set : Bool)
    (hrequest : request = if set then .start else .stop) :
    Served A request (enableDisableFps A set) := by
  have hreaches : Reaches A request := by
    rw [hrequest]
    cases set <;> trivial
  have hgrants : Grants A request ↔ A.propertySet set = 0 := by
    rw [hrequest]
    cases set <;> exact Iff.rfl
  have hfailed : -ERROR ≠ OK := by decide
  refine ⟨fun _ => ?_, fun h => absurd hreaches h, ?_, fun h => ?_⟩
  · rw [hrequest]
    rfl
  · rw [hgrants, and_iff_right hreaches]
    unfold enableDisableFps
    dsimp only
    split_ifs with hret
    · exact iff_of_false hfailed hret
    · exact Iff.rfl
  · unfold enableDisableFps at h ⊢
    dsimp only at h ⊢
    split_ifs at h ⊢ with hret
    · rfl
    · exact absurd (not_not.1 hret) h

/-- A request to the HAL is sent unless the service is stopped or not found. -/
theorem served_runCmd {request : Request} {hidlRet : RequestStatus}
    (hreaches : Reaches A request ↔ ¬ "stopped".toList <+: A.status ∧ A.service = true)
    (hgrants : Grants A request ↔ hidlRet = .sysOk) :
    Served A request (runCmd A request hidlRet) := by
  have hfailed : -ERROR ≠ OK := by decide
  have hstopped : stopped A = true ↔ "stopped".toList <+: A.status := List.isPrefixOf_iff_prefix
  by_cases h : Reaches A request
  · obtain ⟨hrun, hservice⟩ := hreaches.1 h
    have hcmd : runCmd A request hidlRet =
        ([request], if hidlRet = .sysOk then OK else -ERROR) := by
      rw [runCmd, if_neg (mt hstopped.1 hrun), hservice]
      rfl
    rw [hcmd]
    refine ⟨fun _ => rfl, fun hn => absurd h hn, ?_, fun hret => ?_⟩
    · rw [and_iff_right h, hgrants]
      dsimp only
      split_ifs with hok
      · exact iff_of_true rfl hok
      · exact iff_of_false hfailed hok
    · dsimp only at hret ⊢
      split_ifs at hret ⊢
      · exact absurd rfl hret
      · rfl
  · have hcmd : runCmd A request hidlRet = ([], -ERROR) := by
      unfold runCmd
      by_cases hstop : stopped A = true
      · rw [if_pos hstop]
      · rw [if_neg hstop, if_pos]
        rw [Bool.not_eq_true']
        exact eq_false_of_ne_true fun hservice =>
          h (hreaches.2 ⟨mt hstopped.2 hstop, hservice⟩)
    rw [hcmd]
    exact ⟨fun hs => absurd hs h, fun _ => rfl, iff_of_false hfailed fun hs => h hs.1, fun _ => rfl⟩

/-- The switch serves the request of the option. -/
theorem served_run {text : List Char} {request : Request}
    (h : requests.lookup text = some request) :
    command options text ≠ -ERROR ∧ Served A request (run A (command options text)) := by
  have hmem : (text, request) ∈ requests := by
    obtain ⟨l₁, l₂, hl, -⟩ := List.lookup_eq_some_iff.1 h
    exact hl ▸ List.mem_append_right _ List.mem_cons_self
  simp only [requests, List.mem_cons, Prod.mk.injEq, List.not_mem_nil, or_false] at hmem
  obtain ⟨rfl, rfl⟩ | ⟨rfl, rfl⟩ | ⟨rfl, rfl⟩ | ⟨rfl, rfl⟩ | ⟨rfl, rfl⟩ := hmem
  · exact ⟨by decide, served_runCmd Iff.rfl Iff.rfl⟩
  · exact ⟨by decide, served_runCmd Iff.rfl Iff.rfl⟩
  · exact ⟨by decide, served_runCmd Iff.rfl Iff.rfl⟩
  · exact ⟨by decide, served_enableDisableFps true rfl⟩
  · exact ⟨by decide, served_enableDisableFps false rfl⟩

theorem command_of_lookup_requests {text : List Char} (h : requests.lookup text = none) :
    command options text = -ERROR := by
  refine command_eq_error fun hoption => ?_
  have hkeys : options.map Prod.fst = requests.map Prod.fst := rfl
  rw [hkeys] at hoption
  obtain ⟨o, ho, rfl⟩ := List.mem_map.1 hoption
  exact absurd (List.lookup_eq_none_iff.1 h o ho) (by simp)

/-- **The program does what it was asked for**, and its exit status tells whether that was granted,
whenever the copy of the argument stays in its buffer. -/
theorem main_obeys (A : Answers) (past : List Char) (argc : ℤ) (argv : ℕ → CString)
    (h : ¬ (argc = 2 ∧ (argv 1).val.length = STRING_SIZE)) : Obeys A past argc argv := by
  refine ends_bind.2 ((checkParameter_command h).mono ?_)
  rintro log input rfl
  unfold asked
  split_ifs with hargc herror herror
  · cases hlookup : requests.lookup (argv 1).val with
    | none => exact ends_pure.2 rfl
    | some request => exact absurd herror (served_run (A := A) hlookup).1
  · cases hlookup : requests.lookup (argv 1).val with
    | none => exact absurd (command_of_lookup_requests hlookup) herror
    | some request => exact ends_pure.2 (served_run hlookup).2
  · exact ends_pure.2 rfl
  · exact absurd rfl herror

/-- A device whose fingerprint service runs, and refuses to authenticate. -/
def refusing : Answers where
  propertySet _ := 0
  status := "running".toList
  service := true
  authenticate := .other
  cancel := .sysOk

theorem refusing_obeys : Obeys refusing [] 2 fun _ => ⟨"-a".toList, by decide⟩ :=
  main_obeys refusing [] 2 _ (by decide)

example :
    (main refusing [] 2 fun _ => ⟨"-a".toList, by decide⟩).outcome =
      .ok ([.authenticate], -1) := by
  decide

end Fingerprint

end Gs101
