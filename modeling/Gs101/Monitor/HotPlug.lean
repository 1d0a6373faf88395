import Gs101.Lib.Regex
import Gs101.Monitor.Uevents
import Mathlib.Algebra.GroupWithZero.Nat

/-!
# UsbDataSessionMonitor: controllers that come and go

The kernel numbers the controllers of `11110000.dwc3` as it allocates them.  A controller comes
with a `bind@` uevent for the interface of each of its two root hubs, and goes with `unbind@`.

* `handleUevent`: the handlers that a received message calls;
* `Hotplug`, `interfacePath`: the first field of a hot-plug message;
* `IsKeyValue`: the fields that follow;
* `search_hostAtoms`: the regex of a root hub finds the interface of that hub, below a controller
  with one digit;
* `recognised_iff`: the state file is registered or unregistered if and only if the number of the
  controller is below ten and the message is not dropped.
-/

namespace Gs101

namespace Monitor

def UEVENT_MSG_LEN : ℕ := 2048

/-- What `uevent_kernel_multicast_recv` counts: every field ends with a NUL. -/
def messageLength (fields : List UeventField) : ℕ := (fields.map fun f => f.text.length + 1).sum

/-- `handleUevent`: a message that may have been cut off is dropped. -/
def handleUevent (regexSearch : String → String → Bool) (c : Config) (fields : List UeventField) :
    List Event :=
  if messageLength fields ≥ UEVENT_MSG_LEN then [] else readyEvents regexSearch c (.uevent fields)

namespace HotPlug

open Regex

/-- What happens to a controller. -/
inductive Hotplug
  | bind
  | unbind
  deriving DecidableEq

def Hotplug.action : Hotplug → String
  | .bind => "bind"
  | .unbind => "unbind"

/-- The handler for the state file of a root hub's port. -/
def Hotplug.event (f : UeventField) (p : HostPort) : Hotplug → Event
  | .bind => .bind p (f.openFile (Config.usb.filePath p)) (f.epollCtl (Config.usb.filePath p))
  | .unbind => .unbind p (f.epollCtl (Config.usb.filePath p))

/-- The interface of a root hub, below its controller. -/
def rootHub : Port → String
  | .host2 => ".auto/usb3/3-0:1.0"
  | _ => ".auto/usb2/2-0:1.0"

/-- The device that comes and goes. -/
def interfacePath (n : ℕ) (p : HostPort) : String :=
  "/devices/platform/11110000.usb/11110000.dwc3/xhci-hcd-exynos." ++ toString n ++ rootHub p

/-- A field `KEY=value`; no key of a uevent holds an `@`. -/
def IsKeyValue (text : String) : Prop :=
  ∃ key value, text = key ++ "=" ++ value ∧ '@' ∉ key.toList

/-! ### The regexes -/

/-- The path between the `v` of `devices` and the number. -/
def upToNumber : String := "ices/platform/11110000.usb/11110000.dwc3/xhci-hcd-exynos."

/-- The atoms of the regex of a host port. -/
def hostAtoms (p : Port) : List Atom :=
  literal "/de".toList ++ .char 'v' ::
    (literal upToNumber.toList ++ .range '0' '9' :: literal (rootHub p).toList)

theorem ueventRegex_eq (p : HostPort) :
    Config.usb.ueventRegex p = "/de" ++ "v" ++ upToNumber ++ "[0-9]" ++ rootHub p := by
  obtain ⟨p, hp⟩ := p
  cases p with
  | device => exact absurd rfl hp
  | host1 => rfl
  | host2 => rfl

theorem parse_ueventRegex (p : HostPort) :
    parse (Config.usb.ueventRegex p).toList = some (hostAtoms p) := by
  have htext : (Config.usb.ueventRegex p).toList =
      ("/de".toList ++ 'v' :: upToNumber.toList) ++
        '[' :: '0' :: '-' :: '9' :: ']' :: (rootHub p).toList := by
    have hv : "v".toList = ['v'] := rfl
    have hclass : "[0-9]".toList = ['[', '0', '-', '9', ']'] := rfl
    rw [ueventRegex_eq]
    simp only [String.toList_append, hv, hclass, List.append_assoc, List.cons_append,
      List.nil_append]
  have hpath : isPlain ("/de".toList ++ 'v' :: upToNumber.toList) = true := by decide
  have hhub : isPlain (rootHub p).toList = true := by
    cases p.val <;> decide
  have hrest := parse_append hhub []
  rw [List.append_nil, parse, Option.map_some, List.append_nil] at hrest
  rw [htext, parse_append hpath, parse_range (by decide) (by decide) (by decide), hrest]
  simp [hostAtoms, literal]

/-- The two root hubs are told apart. -/
theorem startsWith_rootHub {p q : Port} (hp : p ≠ .device) (hq : q ≠ .device) :
    startsWith (literal (rootHub q).toList) (rootHub p).toList = true ↔ q = p := by
  cases p <;> cases q <;>
    first
    | exact absurd rfl hp
    | exact absurd rfl hq
    | exact iff_of_true (by decide) rfl
    | exact iff_of_false (by decide) (by decide)

theorem rootHub_eq (p : Port) : ∃ tail, (rootHub p).toList = '.' :: 'a' :: tail := by
  cases p <;> exact ⟨_, rfl⟩

/-- One digit of the number is left to the class; behind it the pattern goes on with any character
and an `a`. -/
theorem startsWith_number {p q : Port} (hp : p ≠ .device) (hq : q ≠ .device) (n : ℕ) :
    startsWith (.range '0' '9' :: literal (rootHub q).toList)
        (Nat.toDigits 10 n ++ (rootHub p).toList) = true ↔
      q = p ∧ n < 10 := by
  have hdigit : ∀ c ∈ Nat.toDigits 10 n, c.isDigit = true := fun c hc =>
    Nat.isDigit_of_mem_toDigits (by decide) (by decide) hc
  have hlength := Nat.length_toDigits_le_iff (n := n) (k := 1) (by decide : 1 < 10) (by decide)
  obtain ⟨tail, htail⟩ := rootHub_eq q
  obtain ⟨tail', htail'⟩ := rootHub_eq p
  rw [pow_one] at hlength
  cases hdigits : Nat.toDigits 10 n with
  | nil => exact absurd hdigits Nat.toDigits_ne_nil
  | cons d ds =>
    rw [hdigits] at hdigit hlength
    have hd : Atom.accepts (.range '0' '9') d = true := hdigit d List.mem_cons_self
    rw [List.cons_append, startsWith_cons_cons, hd, Bool.true_and]
    match ds, hdigit, hlength with
    | [], _, hlength =>
      -- one digit, and the root hub behind it
      rw [List.nil_append, startsWith_rootHub hp hq]
      exact (and_iff_left (hlength.1 le_rfl)).symm
    | [e], _, hlength =>
      -- the pattern's `a` meets the dot
      have hn : ¬ n < 10 := fun hn => by
        have := hlength.2 hn
        simp only [List.length_cons, List.length_nil] at this
        omega
      rw [htail, htail']
      exact iff_of_false (by simp [literal, Atom.accepts]) fun h => hn h.2
    | e :: f :: ds, hdigit, hlength =>
      -- the pattern's `a` meets a digit
      have hn : ¬ n < 10 := fun hn => by
        have := hlength.2 hn
        simp only [List.length_cons] at this
        omega
      have hf : f ≠ 'a' := fun hf => by
        have := hdigit f (by simp)
        rw [hf] at this
        exact absurd this (by decide)
      rw [htail]
      exact iff_of_false (by simp [literal, Atom.accepts, hf]) fun h => hn h.2

theorem interfacePath_eq (n : ℕ) (p : HostPort) :
    interfacePath n p = "/de" ++ "v" ++ upToNumber ++ toString n ++ rootHub p := by
  have hpath : "/devices/platform/11110000.usb/11110000.dwc3/xhci-hcd-exynos." =
      "/de" ++ "v" ++ upToNumber := rfl
  exact congrArg (· ++ toString n ++ rootHub p) hpath

/-- The regex of a root hub finds the interface of that hub, below a controller with one digit. -/
theorem search_hostAtoms (action : Hotplug) (p q : HostPort) (n : ℕ) :
    search (hostAtoms q) (action.action ++ "@" ++ interfacePath n p).toList = true ↔
      q = p ∧ n < 10 := by
  have hv : "v".toList = ['v'] := rfl
  have htext : (action.action ++ "@" ++ interfacePath n p).toList =
      (action.action ++ "@" ++ "/de").toList ++ 'v' ::
        (upToNumber.toList ++ (Nat.toDigits 10 n ++ (rootHub p).toList)) := by
    rw [interfacePath_eq]
    simp only [String.toList_append, hv, Nat.toString_eq_repr, Nat.toList_repr, List.append_assoc,
      List.cons_append, List.nil_append]
  have ha : 'v' ∉ (action.action ++ "@" ++ "/de").toList := by cases action <;> decide
  have hb : 'v' ∉ upToNumber.toList ++ (Nat.toDigits 10 n ++ (rootHub p).toList) := by
    simp only [List.mem_append, not_or]
    refine ⟨by decide, fun h => ?_, ?_⟩
    · exact absurd (Nat.isDigit_of_mem_toDigits (by decide) (by decide) h) (by decide)
    · cases p.val <;> decide
  have hde : ∃ z, z <:+ (action.action ++ "@" ++ "/de").toList ∧
      z.length = (literal "/de".toList).length ∧ startsWith (literal "/de".toList) z = true :=
    ⟨"/de".toList, by cases action <;> decide, rfl, by decide⟩
  rw [hostAtoms, htext, search_anchored ha hb,
    startsWith_literal_append _ (by decide) (by decide), startsWith_number p.prop q.prop,
    and_iff_right hde, Subtype.ext_iff]

/-! ### The handlers of a message -/

variable {regexSearch : String → String → Bool} {f : UeventField}

theorem startsWith_action (action : Hotplug) (path : String) :
    CText.startsWith (action.action ++ "@" ++ path) "bind@" = decide (action = .bind) ∧
      CText.startsWith (action.action ++ "@" ++ path) "unbind@" = decide (action = .unbind) ∧
      CText.startsWith (action.action ++ "@" ++ path) "change@" = false := by
  cases action <;> simp only [CText.startsWith, Hotplug.action, String.toList_append] <;>
    exact ⟨rfl, rfl, rfl⟩

/-- An action is no key: the `@` stands before the first `=`. -/
theorem IsKeyValue.not_startsWith {text : String} (h : IsKeyValue text) (word : String)
    (hequals : '=' ∉ word.toList) (hat : '@' ∈ word.toList) :
    CText.startsWith text word = false := by
  obtain ⟨key, value, rfl, hkey⟩ := h
  refine Bool.eq_false_iff.2 fun hstarts => ?_
  have hword : word.toList <+: key.toList ++ ['='] ++ value.toList := by
    have h := List.isPrefixOf_iff_prefix.1 hstarts
    rwa [String.toList_append, String.toList_append] at h
  rcases List.prefix_or_prefix_of_prefix hword (List.prefix_append _ _) with h | h
  · -- the word lies in the key and the equals sign
    refine (List.mem_append.1 (h.subset hat)).elim hkey fun hmem => ?_
    exact absurd (List.mem_singleton.1 hmem) (by decide)
  · -- the word reaches beyond the equals sign
    exact hequals (h.subset (by simp))

theorem fieldEvents_keyValue (c : Config) (h : IsKeyValue f.text) :
    fieldEvents regexSearch c f = [] := by
  have hbind := h.not_startsWith "bind@" (by decide) (by decide)
  have hunbind := h.not_startsWith "unbind@" (by decide) (by decide)
  have hchange := h.not_startsWith "change@" (by decide) (by decide)
  simp [fieldEvents, hostFieldEvents, deviceFieldEvents, hbind, hunbind, hchange]

/-- The first field of a hot-plug message calls the handler of its port, if the regex finds it. -/
theorem fieldEvents_interface (hregex : EcmaScript regexSearch) (action : Hotplug) (p : HostPort)
    (n : ℕ) (hf : f.text = action.action ++ "@" ++ interfacePath n p) :
    fieldEvents regexSearch Config.usb f = if n < 10 then [action.event f p] else [] := by
  obtain ⟨hbind, hunbind, hchange⟩ := startsWith_action action (interfacePath n p)
  rw [← hf] at hbind hunbind hchange
  have hfound : ∀ q : HostPort, regexSearch f.text (Config.usb.ueventRegex q) =
      decide (q = p ∧ n < 10) := by
    intro q
    rw [Bool.eq_iff_iff, decide_eq_true_iff, hregex _ _ _ (parse_ueventRegex q), ← search_iff, hf,
      search_hostAtoms]
  have hhost : ∀ q : HostPort, hostFieldEvents regexSearch Config.usb f q =
      if q = p ∧ n < 10 then [action.event f q] else [] := by
    intro q
    rw [hostFieldEvents, hfound, hbind, hunbind]
    cases action <;> simp [Hotplug.event]
  have hdevice : deviceFieldEvents regexSearch Config.usb f = [] := by
    simp [deviceFieldEvents, hchange]
  rw [fieldEvents, hhost, hhost, hdevice, List.append_nil]
  obtain ⟨p, hp⟩ := p
  cases p with
  | device => exact absurd rfl hp
  | host1 => simp
  | host2 => simp

/-- **A hot-plug message is recognised** if and only if the number of the controller is below ten
and the message cannot have been cut off: the handler of its port is called, and no other. -/
theorem recognised_iff (hregex : EcmaScript regexSearch) (action : Hotplug) (p : HostPort) (n : ℕ)
    (f : UeventField) (fields : List UeventField)
    (hf : f.text = action.action ++ "@" ++ interfacePath n p)
    (hfields : ∀ g ∈ fields, IsKeyValue g.text) :
    handleUevent regexSearch Config.usb (f :: fields) = [action.event f p] ↔
      n < 10 ∧ messageLength (f :: fields) < UEVENT_MSG_LEN := by
  have hrest : fields.flatMap (fieldEvents regexSearch Config.usb) = [] :=
    List.flatMap_eq_nil_iff.2 fun g hg => fieldEvents_keyValue _ (hfields g hg)
  rw [handleUevent, readyEvents, List.flatMap_cons, hrest, List.append_nil,
    fieldEvents_interface hregex action p n hf]
  split_ifs with hlength hn
  · -- the message is dropped
    exact iff_of_false not_false fun h => Nat.not_le.2 h.2 hlength
  · exact iff_of_true rfl ⟨hn, Nat.not_le.1 hlength⟩
  · exact iff_of_false not_false fun h => hn h.1

/-- A field in a system that has none of the files. -/
def fieldOf (text : String) : UeventField := ⟨text, fun _ _ => none, fun _ => true, fun _ => none⟩

theorem fourth_recognised :
    handleUevent Regex.regexSearch Config.usb
        [fieldOf ("bind" ++ "@" ++ interfacePath 4 ⟨.host1, by decide⟩), fieldOf "ACTION=bind"] =
      [Hotplug.bind.event (fieldOf ("bind" ++ "@" ++ interfacePath 4 ⟨.host1, by decide⟩))
        ⟨.host1, by decide⟩] := by
  refine (recognised_iff regexSearch_ecmaScript .bind ⟨.host1, by decide⟩ 4 _ _ rfl ?_).2
    ⟨by decide, by decide⟩
  intro g hg
  rw [List.mem_singleton.1 hg]
  exact ⟨"ACTION", "bind", by decide, by decide⟩

/-- With two digits the controller is missed. -/
theorem tenth_not_recognised :
    handleUevent Regex.regexSearch Config.usb
        [fieldOf ("bind" ++ "@" ++ interfacePath 10 ⟨.host1, by decide⟩)] ≠
      [Hotplug.bind.event (fieldOf ("bind" ++ "@" ++ interfacePath 10 ⟨.host1, by decide⟩))
        ⟨.host1, by decide⟩] := by
  have hf := fieldEvents_interface regexSearch_ecmaScript .bind ⟨.host1, by decide⟩ 10
    (rfl : (fieldOf ("bind" ++ "@" ++ interfacePath 10 ⟨.host1, by decide⟩)).text = _)
  rw [handleUevent, if_neg (by decide), readyEvents, List.flatMap_cons, hf]
  exact (List.cons_ne_nil _ _).symm

end HotPlug

end Monitor

end Gs101
