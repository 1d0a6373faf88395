import Gs101.Lib.Buffer
import Gs101.Monitor.HotPlug
import Gs101.Usb.Threads

/-!
# The loops over the fields of a uevent

`uevent_event` of `Usb` and `handleUevent` of the data-session monitor receive a message into a
buffer on the stack, put two NULs behind it, and step from string to string through pointers into
the buffer.

* `received`: the buffer once the NULs are there;
* `ueventEvent`, `handleUeventLoop`: the functions as they read the buffer byte for byte;
* `received_eq`: the data, two NULs, and what was there before;
* `ueventEventBody_within`, `handleUeventBody_within`: what one pass does at a string;
* `fields_visited`: both loops end, stay inside the two NULs, and visit the pieces of the data;
* `ueventEvent_fields`, `handleUeventLoop_events`: the threads' model and the monitor's model step
  through the same fields.

`regexMatch` and `regexSearch` stand for `std::regex_match` and `std::regex_search` with the regex
compiled from their second argument; both take the string up to its NUL.
-/

namespace Gs101

namespace Usb

open Buffer Monitor

/-- What a string makes `uevent_event` do. -/
inductive FieldAction
  /-- `mPartnerUp` is set, and `mPartnerCV` signalled. -/
  | partnerAdded
  /-- The port status is queried, and the loop is left. -/
  | portChanged
  | overheat
  | nothing
  deriving DecidableEq

def kOverheatStatsDev : String := "DRIVER=google,usbc_port_cooling_dev"

/-- The strings at whose begin the port status is queried. -/
def portWords : List (List Char) :=
  ["DEVTYPE=typec_".toList, "DRIVER=max77759tcpc".toList, "DRIVER=pogo-transport".toList,
    "POWER_SUPPLY_NAME=usb".toList]

/-- The buffer `msg`, with these bytes received and two NULs behind them. -/
def received (data msg : List Char) : List Char :=
  ((data ++ msg.drop data.length).set data.length nul).set (data.length + 1) nul

section Bodies

variable (regexMatch regexSearch : String → String → Bool)

/-- The loop's body in `uevent_event`.  Only its reads of the buffer are told here: an exception of
`report_overheat_event` ends the process, and with it the loop at this string, as
`Message.ueventEvent` has it. -/
def ueventEventBody (cp : Pointer) : Reads (FieldAction × Bool) := do
  let text ← readText cp
  if regexMatch (String.ofList text) "(add)(.*)(-partner)" then return (.partnerAdded, false)
  else
    let port ← sameAsAny cp portWords
    if port then return (.portChanged, true)
    else
      let overheat ← sameBytes cp kOverheatStatsDev.toList
      if overheat then return (.overheat, false) else return (.nothing, false)

/-- `uevent_event`; `n` bounds the passes of the loop. -/
def ueventEvent (n : ℕ) (data msg : List Char) : Reads (List (Pointer × FieldAction)) :=
  if data.length = 0 then pure []
  else if data.length ≥ UEVENT_MSG_LEN then pure []
  else walk (ueventEventBody regexMatch) n ⟨0, received data msg⟩

variable (c : Config)

/-- The body of the loop over the host ports. -/
def hostFieldLoop (f : UeventField) (cp : Pointer) (p : HostPort) : Reads (List Monitor.Event) := do
  let text ← readText cp
  if regexSearch (String.ofList text) (c.ueventRegex p) then
    let bind ← sameBytes cp "bind@".toList
    if bind then return [.bind p (f.openFile (c.filePath p)) (f.epollCtl (c.filePath p))]
    else
      let unbind ← sameBytes cp "unbind@".toList
      if unbind then return [.unbind p (f.epollCtl (c.filePath p))] else return []
  else return []

def deviceFieldLoop (f : UeventField) (cp : Pointer) : Reads (List Monitor.Event) := do
  let text ← readText cp
  if regexSearch (String.ofList text) (c.ueventRegex .device) then
    let change ← sameBytes cp "change@".toList
    if change then
      let devname ← readText (cp.advance "change@".length)
      return [.udcChange (f.read (functionPath (String.ofList devname)))]
    else return []
  else return []

theorem host1_ne_device : Port.host1 ≠ .device := by decide

theorem host2_ne_device : Port.host2 ≠ .device := by decide

/-- The loop's body in `handleUevent`; the kernel answers as it does for the field `f cp.index`. -/
def handleUeventBody (f : ℕ → UeventField) (cp : Pointer) : Reads (List Monitor.Event × Bool) := do
  let host1 ← hostFieldLoop regexSearch c (f cp.index) cp ⟨.host1, host1_ne_device⟩
  let host2 ← hostFieldLoop regexSearch c (f cp.index) cp ⟨.host2, host2_ne_device⟩
  let device ← deviceFieldLoop regexSearch c (f cp.index) cp
  return (host1 ++ host2 ++ device, false)

/-- `handleUevent`; `n` bounds the passes of the loop. -/
def handleUeventLoop (f : ℕ → UeventField) (n : ℕ) (data msg : List Char) :
    Reads (List (Pointer × List Monitor.Event)) :=
  if data.length = 0 then pure []
  else if data.length ≥ UEVENT_MSG_LEN then pure []
  else walk (handleUeventBody regexSearch c f) n ⟨0, received data msg⟩

end Bodies

/-! ### What a string makes the loops do -/

/-- What `uevent_event` does at a string. -/
def fieldAction (regexMatch : String → String → Bool) (text : List Char) : FieldAction :=
  if regexMatch (String.ofList text) "(add)(.*)(-partner)" then .partnerAdded
  else if portWords.any (·.isPrefixOf text) then .portChanged
  else if kOverheatStatsDev.toList.isPrefixOf text then .overheat
  else .nothing

/-- `uevent_event` leaves the loop at this string. -/
def breaksAt (regexMatch : String → String → Bool) (text : List Char) : Bool :=
  fieldAction regexMatch text = .portChanged

variable {regexMatch regexSearch : String → String → Bool} {c : Config} {m i : ℕ} {a b : List Char}

theorem ueventEventBody_within (ha : nul ∉ a) (h : i + a.length ≤ m) :
    Within m (ueventEventBody regexMatch ⟨i, a ++ nul :: b⟩)
      (· = (fieldAction regexMatch a, breaksAt regexMatch a)) := by
  have hwords : ∀ word ∈ portWords, nul ∉ word := by decide
  refine (readBytes_within ha h).bind_eq ?_
  rw [breaksAt, fieldAction]
  by_cases hpartner : regexMatch (String.ofList a) "(add)(.*)(-partner)" = true
  · rw [if_pos hpartner, if_pos hpartner]
    exact within_pure.2 rfl
  rw [if_neg hpartner, if_neg hpartner]
  refine (sameAsAny_within hwords h).bind_eq ?_
  by_cases hport : portWords.any (·.isPrefixOf a) = true
  · rw [if_pos hport, if_pos hport]
    exact within_pure.2 rfl
  rw [if_neg hport, if_neg hport]
  refine (compareBytes_within (by decide) h).bind_eq ?_
  by_cases hoverheat : kOverheatStatsDev.toList.isPrefixOf a = true
  · rw [if_pos hoverheat, if_pos hoverheat]
    exact within_pure.2 rfl
  · rw [if_neg hoverheat, if_neg hoverheat]
    exact within_pure.2 rfl

/-- The field that the monitor's model handles at a string. -/
def fieldAt (f : ℕ → UeventField) (i : ℕ) (text : List Char) : UeventField :=
  { f i with text := String.ofList text }

theorem text_fieldAt (f : ℕ → UeventField) (i : ℕ) (text : List Char) :
    (fieldAt f i text).text = String.ofList text := rfl

theorem startsWith_ofList (text : List Char) (word : String) :
    CText.startsWith (String.ofList text) word = word.toList.isPrefixOf text := by
  rw [CText.startsWith, String.toList_ofList]

theorem hostFieldLoop_within (f : ℕ → UeventField) (p : HostPort) (ha : nul ∉ a)
    (h : i + a.length ≤ m) :
    Within m (hostFieldLoop regexSearch c (f i) ⟨i, a ++ nul :: b⟩ p)
      (· = hostFieldEvents regexSearch c (fieldAt f i a) p) := by
  refine (readBytes_within ha h).bind_eq ?_
  rw [hostFieldEvents, text_fieldAt, startsWith_ofList, startsWith_ofList]
  by_cases hregex : regexSearch (String.ofList a) (c.ueventRegex p) = true
  · rw [if_pos hregex, if_pos hregex]
    refine (compareBytes_within (by decide) h).bind_eq ?_
    by_cases hbind : "bind@".toList.isPrefixOf a = true
    · rw [if_pos hbind, if_pos hbind]
      exact within_pure.2 rfl
    rw [if_neg hbind, if_neg hbind]
    refine (compareBytes_within (by decide) h).bind_eq ?_
    by_cases hunbind : "unbind@".toList.isPrefixOf a = true
    · rw [if_pos hunbind, if_pos hunbind]
      exact within_pure.2 rfl
    · rw [if_neg hunbind, if_neg hunbind]
      exact within_pure.2 rfl
  · rw [if_neg hregex, if_neg hregex]
    exact within_pure.2 rfl

theorem deviceFieldLoop_within (f : ℕ → UeventField) (ha : nul ∉ a) (h : i + a.length ≤ m) :
    Within m (deviceFieldLoop regexSearch c (f i) ⟨i, a ++ nul :: b⟩)
      (· = deviceFieldEvents regexSearch c (fieldAt f i a)) := by
  have htoList : (String.ofList a).toList = a := String.toList_ofList
  refine (readBytes_within ha h).bind_eq ?_
  rw [deviceFieldEvents, text_fieldAt, startsWith_ofList, htoList]
  by_cases hregex : regexSearch (String.ofList a) (c.ueventRegex .device) = true
  · rw [if_pos hregex, if_pos hregex]
    refine (compareBytes_within (by decide) h).bind_eq ?_
    by_cases hchange : "change@".toList.isPrefixOf a = true
    · -- the path behind the word is read from the middle of the string
      rw [if_pos hchange, if_pos hchange]
      refine (readText_advance_within ha h (List.isPrefixOf_iff_prefix.1 hchange)).bind_eq ?_
      exact within_pure.2 rfl
    · rw [if_neg hchange, if_neg hchange]
      exact within_pure.2 rfl
  · rw [if_neg hregex, if_neg hregex]
    exact within_pure.2 rfl

theorem handleUeventBody_within (f : ℕ → UeventField) (ha : nul ∉ a) (h : i + a.length ≤ m) :
    Within m (handleUeventBody regexSearch c f ⟨i, a ++ nul :: b⟩)
      (· = (fieldEvents regexSearch c (fieldAt f i a), false)) := by
  refine (hostFieldLoop_within f ⟨.host1, host1_ne_device⟩ ha h).bind_eq ?_
  refine (hostFieldLoop_within f ⟨.host2, host2_ne_device⟩ ha h).bind_eq ?_
  refine (deviceFieldLoop_within f ha h).bind_eq ?_
  exact within_pure.2 rfl

/-! ### The walk -/

/-- Behind the data there are two NULs, and what was in the buffer before. -/
theorem received_eq (data msg : List Char) (h : data.length + 2 ≤ msg.length) :
    received data msg = data ++ nul :: nul :: msg.drop (data.length + 2) := by
  obtain ⟨x, y, rest, hrest⟩ : ∃ x y rest, msg.drop data.length = x :: y :: rest := by
    match hdrop : msg.drop data.length with
    | [] | [_] =>
      have hlength := congrArg List.length hdrop
      simp only [List.length_drop, List.length_cons, List.length_nil] at hlength
      omega
    | x :: y :: rest => exact ⟨x, y, rest, rfl⟩
  have hdrop : msg.drop (data.length + 2) = rest := by
    rw [← List.drop_drop, hrest]
    rfl
  rw [received, hrest, hdrop]
  simp

theorem ueventEvent_within {n : ℕ} {data msg : List Char} (hpos : 0 < data.length)
    (hlen : data.length < UEVENT_MSG_LEN) (hmsg : msg.length = UEVENT_MSG_LEN + 2)
    (hn : data.length < n) :
    Within (data.length + 1) (ueventEvent regexMatch n data msg) fun visited =>
      visited.map seen = (located 0 (upTo (breaksAt regexMatch) (pieces data))).map fun field =>
        (field, fieldAction regexMatch field.2) := by
  rw [ueventEvent, if_neg hpos.ne', if_neg (Nat.not_le.2 hlen), received_eq data msg (by omega)]
  exact walk_within (fun _ _ _ ha h => ueventEventBody_within ha h) data _ hn (by omega)

theorem handleUeventLoop_within (f : ℕ → UeventField) {n : ℕ} {data msg : List Char}
    (hpos : 0 < data.length) (hlen : data.length < UEVENT_MSG_LEN)
    (hmsg : msg.length = UEVENT_MSG_LEN + 2) (hn : data.length < n) :
    Within (data.length + 1) (handleUeventLoop regexSearch c f n data msg) fun visited =>
      visited.map seen = (located 0 (pieces data)).map fun field =>
        (field, fieldEvents regexSearch c (fieldAt f field.1 field.2)) := by
  have hbody : ∀ i a b, nul ∉ a → i + a.length ≤ data.length + 1 →
      Within (data.length + 1) (handleUeventBody regexSearch c f ⟨i, a ++ nul :: b⟩)
        (· = (fieldEvents regexSearch c (fieldAt f i a), false)) :=
    fun _ _ _ ha h => handleUeventBody_within f ha h
  have hend : 0 + data.length + 1 ≤ data.length + 1 := by omega
  have hwalk := walk_within hbody data (msg.drop (data.length + 2)) hn hend
  rw [upTo_never] at hwalk
  rw [handleUeventLoop, if_neg hpos.ne', if_neg (Nat.not_le.2 hlen),
    received_eq data msg (by omega)]
  exact hwalk

/-- **Both loops visit the fields of the message**: they end, read no byte behind the second NUL,
and visit the pieces of the data up to the first that is empty, in order, each once; `uevent_event`
does so up to the field at which it breaks. -/
theorem fields_visited (regexMatch regexSearch : String → String → Bool) (c : Config)
    (f : ℕ → UeventField) (data msg : List Char) (hpos : 0 < data.length)
    (hlen : data.length < UEVENT_MSG_LEN) (hmsg : msg.length = UEVENT_MSG_LEN + 2) :
    ∃ bound, ∀ n, bound ≤ n →
      (Within (data.length + 1) (ueventEvent regexMatch n data msg) fun visited =>
        visited.map seen = (located 0 (upTo (breaksAt regexMatch) (pieces data))).map fun field =>
          (field, fieldAction regexMatch field.2)) ∧
      Within (data.length + 1) (handleUeventLoop regexSearch c f n data msg) fun visited =>
        visited.map seen = (located 0 (pieces data)).map fun field =>
          (field, fieldEvents regexSearch c (fieldAt f field.1 field.2)) :=
  ⟨data.length + 1, fun _ hn =>
    ⟨ueventEvent_within hpos hlen hmsg hn, handleUeventLoop_within f hpos hlen hmsg hn⟩⟩

/-- A message of two fields, at the first of which `uevent_event` breaks. -/
theorem fields_visited_two :
    ∃ bound, ∀ n, bound ≤ n →
      (Within 25 (ueventEvent (fun _ _ => false) n
          ("POWER_SUPPLY_NAME=usb".toList ++ nul :: ['B', '='])
          (List.replicate (UEVENT_MSG_LEN + 2) 'x'))
        fun visited => visited.map seen = [((0, "POWER_SUPPLY_NAME=usb".toList), .portChanged)]) ∧
      Within 25 (handleUeventLoop (fun _ _ => false) Config.usb (fun _ => HotPlug.fieldOf "") n
          ("POWER_SUPPLY_NAME=usb".toList ++ nul :: ['B', '='])
          (List.replicate (UEVENT_MSG_LEN + 2) 'x'))
        fun visited => visited.map seen =
          [((0, "POWER_SUPPLY_NAME=usb".toList), []), ((22, ['B', '=']), [])] :=
  fields_visited (fun _ _ => false) (fun _ _ => false) Config.usb (fun _ => HotPlug.fieldOf "")
    ("POWER_SUPPLY_NAME=usb".toList ++ nul :: ['B', '=']) _ (by decide) (by decide)
    List.length_replicate

/-! ### The same fields in the other models -/

/-- What the worker of the threads' model makes of a string. -/
def FieldAction.field : FieldAction → Field
  | .partnerAdded => .partnerAdded
  | .portChanged => .port
  | .overheat | .nothing => .other

theorem breaksAt_eq (text : List Char) :
    breaksAt regexMatch text = decide ((fieldAction regexMatch text).field = .port) := by
  rw [breaksAt]
  cases fieldAction regexMatch text <;> rfl

/-- The worker of the threads' model takes the same fields from the message, and leaves it at the
same one. -/
theorem ueventEvent_fields {n : ℕ} {data msg : List Char} (hpos : 0 < data.length)
    (hlen : data.length < UEVENT_MSG_LEN) (hmsg : msg.length = UEVENT_MSG_LEN + 2)
    (hn : data.length < n) :
    Within (data.length + 1) (ueventEvent regexMatch n data msg) fun visited =>
      visited.map (fun v => v.2.field) =
        upTo (· = .port) ((pieces data).map fun text => (fieldAction regexMatch text).field) := by
  refine (ueventEvent_within hpos hlen hmsg hn).mono fun visited hvisited => ?_
  have hfields := congrArg (List.map fun v => v.2.field) hvisited
  have hstop : breaksAt regexMatch =
      fun text => decide ((fieldAction regexMatch text).field = .port) := funext breaksAt_eq
  rw [upTo_map, ← hstop, ← located_map_snd 0 (upTo (breaksAt regexMatch) (pieces data))]
  rw [List.map_map, List.map_map] at hfields
  rw [List.map_map]
  exact hfields

/-- The monitor handles the events of its model. -/
theorem handleUeventLoop_events (f : ℕ → UeventField) {n : ℕ} {data msg : List Char}
    (hpos : 0 < data.length) (hlen : data.length < UEVENT_MSG_LEN)
    (hmsg : msg.length = UEVENT_MSG_LEN + 2) (hn : data.length < n) :
    Within (data.length + 1) (handleUeventLoop regexSearch c f n data msg) fun visited =>
      visited.flatMap Prod.snd = readyEvents regexSearch c
        (.uevent ((located 0 (pieces data)).map fun field => fieldAt f field.1 field.2)) := by
  refine (handleUeventLoop_within f hpos hlen hmsg hn).mono fun visited hvisited => ?_
  have hevents := congrArg (List.flatMap Prod.snd) hvisited
  rw [List.flatMap_map, List.flatMap_map] at hevents
  rw [readyEvents, List.flatMap_map]
  exact hevents

end Usb

end Gs101
