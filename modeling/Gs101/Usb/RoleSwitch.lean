import Gs101.Usb.Deadlock
import Gs101.Usb.Transactions

/-!
# Usb: role switches and the worker's return to DRP

`switchMode` writes a mode to the `port_type` node of a port and waits for a partner; without one it
writes `dual` again.  Meanwhile the worker may find ports without a partner, and writes `dual` to
their nodes: `uevent_event` tries `mRoleSwitchLock` first.  `RoleSwitching` puts the nodes, and the
locals that decide what is written to them, beside the `Threads`.

* `step`: one step of a thread, with its writes; the threads make a step of their own model, or
  stand still while something is written (`threads_step`);
* `Reaches`: what the binder thread writes reaches the node;
* `settled_always`: when the result of a mode switch is notified, the node holds what it says;
* `calm_always`: a port whose mode is not being switched is forced into a mode only by a switch that
  succeeded.
-/

namespace Gs101

/-- `in_role.getTag() == PortRole::mode`. -/
def PortRole.isMode : PortRole → Bool
  | .mode _ => true
  | _ => false

namespace Usb

open Transaction (Stream roleFile convertRoletoString)

/-- A call of `switchRole` that has ended. -/
structure Switched where
  in_portName : String
  in_role : PortRole
  roleSwitch : Bool
  deriving DecidableEq

structure RoleSwitching where
  threads : Threads
  /-- The text that each node took last, if it took any. -/
  written : String → Option String
  /-- The arguments of the last `switchRole`. -/
  in_portName : String
  in_role : PortRole
  /-- `switchMode` has failed, and is about to call `switchToDrp`. -/
  back : Bool
  /-- The ports that the loop in `uevent_event` has still to look at. -/
  currentPortStatus : List String
  /-- Ghost: the calls of `switchRole` that have come to their end, the oldest first. -/
  ended : List Switched

/-- Arrivals, steps of the monitor, and calls other than `switchRole`. -/
def Event.Elsewhere : Event → Prop
  | .call (.switchRole _) | .binder _ | .worker _ => False
  | _ => True

namespace RoleSwitching

inductive Event
  /-- The binder thread takes up a call of `switchRole`. -/
  | switchRole (in_portName : String) (in_role : PortRole)
  /-- The binder thread makes its next step; `io` is what happens to the `FILE` that it has in
  hand. -/
  | binder (answer : Bool) (io : Stream)
  /-- The worker makes its next step: the query returns `ports`; `opendir` finds a partner; `io` is
  what happens to the `FILE`. -/
  | worker (answer : Bool) (ports : List String) (partner : Bool) (io : Stream)
  | elsewhere (e : {e : Usb.Event // e.Elsewhere})

/-- What `fputs` takes reaches the node when `fclose` flushes it. -/
def putFile (s : RoleSwitching) (filename text : String) (io : Stream) : RoleSwitching :=
  { s with
    written := if io.fopen && io.fputs && io.fclose then
      Function.update s.written filename (some text) else s.written }

/-- The node of the port that is switched. -/
def node (s : RoleSwitching) : String := roleFile s.in_portName s.in_role

def switchToDrp (s : RoleSwitching) (portName : String) (io : Stream) : RoleSwitching :=
  s.putFile (roleFile portName (.mode .none)) "dual" io

/-- The binder thread goes on. -/
def goOn (s : RoleSwitching) (answer : Bool) (io : Stream) : RoleSwitching :=
  match s.threads.binder with
  | .roleHeld true => { s with threads := s.threads.binderStep io.fopen, back := !io.fopen }
  | .roleHeld false =>
      { s.putFile s.node (convertRoletoString s.in_role) io with
        threads := s.threads.binderStep (io.fopen && io.fputs && answer) }
  -- the `FILE` was opened before `mPartnerLock` was taken
  | .partnerHeld =>
      { s.putFile s.node (convertRoletoString s.in_role) { io with fopen := true } with
        threads := s.threads.binderStep io.fputs }
  | .partnerUnlock roleSwitch =>
      { s with threads := s.threads.binderStep answer, back := !roleSwitch }
  | .roleNotifyHeld roleSwitch =>
      { s with
        threads := s.threads.binderStep answer
        ended := s.ended ++ [⟨s.in_portName, s.in_role, roleSwitch⟩] }
  | _ => { s with threads := s.threads.binderStep answer }

/-- The next step of the binder thread. -/
def binderStep (s : RoleSwitching) (answer : Bool) (io : Stream) : RoleSwitching :=
  if s.back then { s.switchToDrp s.in_portName io with back := false } else s.goOn answer io

/-- The next step of the worker. -/
def workerStep (s : RoleSwitching) (answer : Bool) (ports : List String) (partner : Bool)
    (io : Stream) : RoleSwitching :=
  match s.threads.worker, s.currentPortStatus with
  | .queryHeld, _ =>
      { s with threads := s.threads.workerStep answer, currentPortStatus := ports }
  | .roleHeld, port :: rest =>
      { (if partner then s else s.switchToDrp port io) with currentPortStatus := rest }
  | _, _ => { s with threads := s.threads.workerStep answer }

def step (s : RoleSwitching) : Event → RoleSwitching
  | .switchRole in_portName in_role =>
      if s.threads.binder = .idle then
        { s with
          threads := s.threads.step (.call (.switchRole in_role.isMode))
          in_portName := in_portName
          in_role := in_role }
      else s
  | .binder answer io => s.binderStep answer io
  | .worker answer ports partner io => s.workerStep answer ports partner io
  | .elsewhere e => { s with threads := s.threads.step e.val }

/-- Before the first call; there is no last `switchRole`. -/
def initial : RoleSwitching where
  threads := .initial
  written _ := none
  in_portName := ""
  in_role := .mode .none
  back := false
  currentPortStatus := []
  ended := []

/-! ### What is said of the nodes -/

/-- The binder thread's `FILE` is flushed, and `switchToDrp` writes the node. -/
def Reaches (s : RoleSwitching) : Event → Prop
  | .binder _ io => io.fclose = true ∧ (s.back = true → io.fopen = true ∧ io.fputs = true)
  | _ => True

/-- The node of the port holds the word for the mode, or `dual` if the switch failed. -/
def Shows (s : RoleSwitching) (roleSwitch : Bool) : Prop :=
  s.written s.node = some (if roleSwitch then convertRoletoString s.in_role else "dual")

/-- A result that is being notified is the state of the node. -/
def Settled (s : RoleSwitching) : Prop :=
  ∀ roleSwitch, s.threads.binder = .roleNotifyHeld roleSwitch → s.in_role.isMode = true →
    s.Shows roleSwitch

/-- The last of these calls that was for this node. -/
def last (ended : List Switched) (filename : String) : Option Switched :=
  (ended.filter fun c => roleFile c.in_portName c.in_role = filename).getLast?

/-- The node was not written, or holds `dual`, or the word of the last switch, which succeeded. -/
def Calm (s : RoleSwitching) (filename : String) : Prop :=
  s.written filename = none ∨ s.written filename = some "dual" ∨
    ∃ c ∈ last s.ended filename, c.roleSwitch = true ∧
      s.written filename = some (convertRoletoString c.in_role)

/-- The mode of this port is being switched. -/
def Busy (s : RoleSwitching) (portName : String) : Prop :=
  s.threads.binder.Holds .mRoleSwitchLock ∧ s.in_role.isMode = true ∧
    s.node = roleFile portName (.mode .none)

/-- Every `port_type` node is calm, but that of the port whose mode is being switched. -/
def AllCalm (s : RoleSwitching) : Prop :=
  ∀ portName, s.Busy portName ∨ s.Calm (roleFile portName (.mode .none))

/-! ### The nodes -/

theorem roleFile_mode (portName : String) {role : PortRole} (h : role.isMode = true) :
    roleFile portName role = roleFile portName (.mode .none) := by
  cases role with
  | mode m => rfl
  | powerRole r => cases h
  | dataRole r => cases h

/-- Two texts with different ends differ. -/
theorem ne_of_ends {a b c d : String} (hsuffix : ¬ c.toList <:+ d.toList)
    (hsuffix' : ¬ d.toList <:+ c.toList) : a ++ c ≠ b ++ d := by
  intro h
  have hc : c.toList <:+ (b ++ d).toList := by
    rw [← h, String.toList_append]
    exact List.suffix_append _ _
  have hd : d.toList <:+ (b ++ d).toList := by
    rw [String.toList_append]
    exact List.suffix_append _ _
  rcases List.suffix_or_suffix_of_suffix hc hd with h | h
  · exact hsuffix h
  · exact hsuffix' h

/-- The node of another role is not a `port_type` node. -/
theorem roleFile_ne (portName portName' : String) {role : PortRole} (h : role.isMode = false) :
    roleFile portName role ≠ roleFile portName' (.mode .none) := by
  cases role with
  | mode m => cases h
  | powerRole r => exact ne_of_ends (by decide) (by decide)
  | dataRole r => exact ne_of_ends (by decide) (by decide)

theorem putFile_keeps (s : RoleSwitching) {filename filename' : String} (text : String)
    (io : Stream) (h : filename' ≠ filename) :
    (s.putFile filename text io).written filename' = s.written filename' := by
  simp only [putFile]
  split_ifs
  · exact Function.update_of_ne h _ _
  · rfl

theorem putFile_written (s : RoleSwitching) (filename text : String) {io : Stream}
    (h : (io.fopen && io.fputs && io.fclose) = true) :
    (s.putFile filename text io).written filename = some text := by
  simp only [putFile, if_pos h]
  exact Function.update_self _ _ _

/-! ### The invariant -/

end RoleSwitching

/-- The binder thread is outside `switchRole`. -/
def Binder.Plain : Binder → Prop
  | .idle | .notifyLock _ | .notifyHeld _ | .queryLock _ | .queryHeld _ | .callbackLock _
  | .callbackHeld _ | .callbackKill | .callbackJoin | .callbackCreate | .callbackUnlock => True
  | _ => False

theorem Threads.binder_lock (t : Threads) (l : Lock) (b : Binder) :
    (t.lock .binder l (·.setBinder b)).binder = t.binder ∨
      (t.lock .binder l (·.setBinder b)).binder = b := by
  unfold lock
  split_ifs
  · exact .inr rfl
  · exact .inl rfl

theorem Threads.plain_binderStep {t : Threads} (h : t.binder.Plain) (answer : Bool) :
    (t.binderStep answer).binder.Plain := by
  have hlock : ∀ l b, b.Plain → (t.lock .binder l (·.setBinder b)).binder.Plain := by
    intro l b hplain
    rcases t.binder_lock l b with h' | h' <;> rw [h']
    · exact h
    · exact hplain
  cases hb : t.binder <;> rw [hb] at h <;> simp only [binderStep, hb]
  case idle => trivial
  case notifyLock q => exact hlock _ _ trivial
  case queryLock q => exact hlock _ _ trivial
  case callbackLock q => exact hlock _ _ trivial
  case notifyHeld q => cases q <;> trivial
  case queryHeld q => cases q <;> trivial
  case callbackHeld q => split_ifs <;> trivial
  case callbackKill => split_ifs <;> trivial
  case callbackJoin =>
    split_ifs
    · rw [hb]; trivial
    · trivial
  case callbackCreate => split_ifs <;> trivial
  case callbackUnlock => trivial
  all_goals exact h.elim

theorem Binder.Plain.not_holds {b : Binder} (h : b.Plain) : ¬ b.Holds .mRoleSwitchLock := by
  cases b <;> first | exact h.elim | exact id | exact nofun

namespace RoleSwitching

/-- What the result says of the node, if a mode was switched. -/
def Result (s : RoleSwitching) (roleSwitch : Bool) : Prop :=
  s.in_role.isMode = true → s.Shows roleSwitch

/-- What holds before each step of the binder thread. -/
def Before (s : RoleSwitching) : Binder → Prop
  | .roleLock mode | .roleHeld mode => s.back = false ∧ s.in_role.isMode = mode
  | .partnerLock | .partnerHeld | .partnerUnlock false =>
      s.back = false ∧ s.in_role.isMode = true
  | .partnerWait | .partnerRelock _ | .partnerWoken _ | .partnerUnlock true =>
      s.back = false ∧ s.in_role.isMode = true ∧ s.Shows true
  | .roleNotifyLock roleSwitch =>
      s.back = true ∧ s.in_role.isMode = true ∧ roleSwitch = false ∨
        s.back = false ∧ s.Result roleSwitch
  | .roleNotifyHeld roleSwitch => s.back = false ∧ s.Result roleSwitch
  | .roleUnlock =>
      s.back = false ∧ ∃ roleSwitch, s.Result roleSwitch ∧
        ∃ rest, s.ended = rest ++ [⟨s.in_portName, s.in_role, roleSwitch⟩]
  | _ => s.back = false

/-- What every reachable state satisfies. -/
structure Inv (s : RoleSwitching) : Prop where
  sound : s.threads.Sound
  before : s.Before s.threads.binder
  calm : s.AllCalm

theorem before_of_plain {s : RoleSwitching} {b : Binder} (h : b.Plain) :
    s.Before b ↔ s.back = false := by
  cases b <;> first | exact h.elim | exact Iff.rfl

theorem Inv.settled {s : RoleSwitching} (h : Inv s) : Settled s := by
  intro roleSwitch hb hmode
  have hbefore := h.before
  rw [hb] at hbefore
  exact hbefore.2 hmode

theorem inv_initial : Inv initial :=
  ⟨Threads.sound_initial, rfl, fun _ => .inr (.inl rfl)⟩

/-- The threads go on, and nothing is written. -/
theorem Inv.move {s : RoleSwitching} (h : Inv s) {t : Threads} (ht : t.Sound) (back : Bool)
    (hbefore : Before { s with threads := t, back := back } t.binder)
    (hholds : s.threads.binder.Holds .mRoleSwitchLock → t.binder.Holds .mRoleSwitchLock) :
    Inv { s with threads := t, back := back } :=
  ⟨ht, hbefore, fun portName => (h.calm portName).imp_left fun hb => ⟨hholds hb.1, hb.2⟩⟩

theorem sound_binder {s : RoleSwitching} (h : Inv s) (answer : Bool) :
    (s.threads.binderStep answer).Sound :=
  Threads.sound_step s.threads (.binder answer) h.sound

/-- Outside `switchRole` the binder thread only moves on. -/
theorem inv_plain {s : RoleSwitching} (h : Inv s) (hplain : s.threads.binder.Plain)
    (answer : Bool) : Inv { s with threads := s.threads.binderStep answer } := by
  have hback := (before_of_plain hplain).1 h.before
  exact h.move (sound_binder h answer) s.back
    ((before_of_plain (Threads.plain_binderStep hplain answer)).2 hback)
    fun hholds => absurd hholds hplain.not_holds

/-- The binder thread waits for a lock, or takes it. -/
theorem inv_lock {s : RoleSwitching} (h : Inv s) {l : Lock} {b : Binder} (answer : Bool)
    (hstep : s.threads.binderStep answer = s.threads.lock .binder l (·.setBinder b))
    (hbefore : s.Before s.threads.binder → s.Before b)
    (hholds : s.threads.binder.Holds .mRoleSwitchLock → b.Holds .mRoleSwitchLock) :
    Inv { s with threads := s.threads.binderStep answer } := by
  refine h.move (sound_binder h answer) s.back ?_ ?_ <;> rw [hstep]
  · rcases s.threads.binder_lock l b with h' | h' <;> rw [h']
    · exact h.before
    · exact hbefore h.before
  · rcases s.threads.binder_lock l b with h' | h' <;> rw [h']
    · exact id
    · exact hholds

/-- The binder thread moves on, in the same part of `switchRole`. -/
theorem inv_goto {s : RoleSwitching} (h : Inv s) {b : Binder} (answer back : Bool)
    (hb : (s.threads.binderStep answer).binder = b)
    (hbefore : Before { s with back := back } b)
    (hholds : s.threads.binder.Holds .mRoleSwitchLock → b.Holds .mRoleSwitchLock) :
    Inv { s with threads := s.threads.binderStep answer, back := back } := by
  refine h.move (sound_binder h answer) back ?_ ?_ <;> rw [hb]
  · exact hbefore
  · exact hholds

/-- While a mode is switched, its node may be written. -/
theorem Inv.putFile {s : RoleSwitching} (h : Inv s) {filename : String} (text : String)
    (io : Stream) {t : Threads} (ht : t.Sound) (back : Bool)
    (hbefore : Before { s.putFile filename text io with threads := t, back := back } t.binder)
    (hholds : t.binder.Holds .mRoleSwitchLock)
    (hnode : s.in_role.isMode = true ∧ s.node = filename ∨
      ∀ portName, roleFile portName (.mode .none) ≠ filename) :
    Inv { s.putFile filename text io with threads := t, back := back } := by
  refine ⟨ht, hbefore, fun portName => ?_⟩
  have hkept : roleFile portName (.mode .none) ≠ filename →
      (s.putFile filename text io).written (roleFile portName (.mode .none)) =
        s.written (roleFile portName (.mode .none)) := s.putFile_keeps text io
  by_cases hsame : roleFile portName (.mode .none) = filename
  · rcases hnode with ⟨hmode, hnode⟩ | hnode
    · exact .inl ⟨hholds, hmode, hnode.trans hsame.symm⟩
    · exact absurd hsame (hnode portName)
  · rcases h.calm portName with hbusy | hcalm
    · exact .inl ⟨hholds, hbusy.2⟩
    · refine .inr ?_
      unfold Calm at hcalm ⊢
      rw [show ({ s.putFile filename text io with threads := t, back := back } :
        RoleSwitching).written (roleFile portName (.mode .none)) = _ from hkept hsame]
      exact hcalm

/-- `switchMode` has failed, and gives the port back. -/
theorem inv_switchToDrp {s : RoleSwitching} (h : Inv s) (hback : s.back = true) {io : Stream}
    (hio : (io.fopen && io.fputs && io.fclose) = true) :
    Inv { s.switchToDrp s.in_portName io with back := false } := by
  have hbefore := h.before
  cases hb : s.threads.binder <;> rw [hb] at hbefore <;> simp only [Before, hback] at hbefore
  case roleNotifyLock roleSwitch =>
    obtain ⟨-, hmode, rfl⟩ | ⟨hfalse, -⟩ := hbefore
    · have hnode : s.node = roleFile s.in_portName (.mode .none) := roleFile_mode _ hmode
      have hshows : Shows (s.switchToDrp s.in_portName io) false := by
        rw [Shows, show (s.switchToDrp s.in_portName io).node = s.node from rfl, hnode]
        exact s.putFile_written _ _ hio
      have hholds : s.threads.binder.Holds .mRoleSwitchLock := by rw [hb]; rfl
      refine h.putFile "dual" io h.sound false ?_ hholds (.inl ⟨hmode, hnode⟩)
      rw [hb]
      exact .inr ⟨rfl, fun _ => hshows⟩
    · cases hfalse
  case partnerUnlock roleSwitch => cases roleSwitch <;> simp at hbefore
  all_goals exact absurd hbefore (by simp)

/-- `mPartnerLock` is taken, and the mode is written. -/
theorem inv_partnerHeld {s : RoleSwitching} (h : Inv s) (hb : s.threads.binder = .partnerHeld)
    {io : Stream} (hio : io.fclose = true) :
    Inv { s.putFile s.node (convertRoletoString s.in_role) { io with fopen := true } with
      threads := s.threads.binderStep io.fputs } := by
  have hbefore := h.before
  rw [hb] at hbefore
  obtain ⟨hback, hmode⟩ := hbefore
  have hnext : (s.threads.binderStep io.fputs).binder =
      if io.fputs then .partnerWait else .partnerUnlock false := by
    simp only [Threads.binderStep, hb]
    split_ifs <;> rfl
  refine h.putFile _ _ (sound_binder h io.fputs) s.back ?_ ?_ (.inl ⟨hmode, rfl⟩) <;> rw [hnext]
  · cases hputs : io.fputs with
    | true => exact ⟨hback, hmode, s.putFile_written _ _ (by simp [hio])⟩
    | false => exact ⟨hback, hmode⟩
  · cases io.fputs with
    | true => rfl
    | false => exact .inl rfl

/-- The role that is not a mode is written to a node of its own. -/
theorem inv_writeRole {s : RoleSwitching} (h : Inv s)
    (hb : s.threads.binder = .roleHeld false) (answer : Bool) (io : Stream) :
    Inv { s.putFile s.node (convertRoletoString s.in_role) io with
      threads := s.threads.binderStep answer } := by
  have hbefore := h.before
  rw [hb] at hbefore
  obtain ⟨hback, hmode⟩ := hbefore
  have hnext : (s.threads.binderStep answer).binder = .roleNotifyLock answer := by
    simp only [Threads.binderStep, hb]
    rfl
  refine h.putFile _ _ (sound_binder h answer) s.back ?_ ?_
    (.inr fun portName => (roleFile_ne s.in_portName portName hmode).symm) <;> rw [hnext]
  · refine .inr ⟨hback, fun hm => ?_⟩
    rw [show ({ s.putFile s.node (convertRoletoString s.in_role) io with
      threads := s.threads.binderStep answer } : RoleSwitching).in_role = s.in_role from rfl,
      hmode] at hm
    cases hm
  · rfl

theorem last_concat (ended : List Switched) (c : Switched) (filename : String) :
    last (ended ++ [c]) filename =
      if roleFile c.in_portName c.in_role = filename then some c else last ended filename := by
  unfold last
  rw [List.filter_append]
  split_ifs with h
  · rw [List.filter_cons_of_pos (by simpa using h), List.filter_nil, List.getLast?_concat]
  · rw [List.filter_cons_of_neg (by simpa using h), List.filter_nil, List.append_nil]

/-- The result is notified; the switch is the last one of its node. -/
theorem inv_roleNotifyHeld {s : RoleSwitching} (h : Inv s) {roleSwitch : Bool}
    (hb : s.threads.binder = .roleNotifyHeld roleSwitch) (answer : Bool) :
    Inv { s with
      threads := s.threads.binderStep answer
      ended := s.ended ++ [⟨s.in_portName, s.in_role, roleSwitch⟩] } := by
  have hbefore := h.before
  rw [hb] at hbefore
  have hnext : (s.threads.binderStep answer).binder = .roleUnlock := by
    simp only [Threads.binderStep, hb]
    rfl
  refine ⟨sound_binder h answer, ?_, fun portName => ?_⟩
  · show Before _ (s.threads.binderStep answer).binder
    rw [hnext]
    exact ⟨hbefore.1, roleSwitch, hbefore.2, s.ended, rfl⟩
  · by_cases hnode : s.node = roleFile portName (.mode .none)
    · have hmode : s.in_role.isMode = true := by
        by_contra hm
        exact roleFile_ne s.in_portName portName (by simpa using hm) hnode
      exact .inl ⟨by rw [hnext]; rfl, hmode, hnode⟩
    · refine .inr ?_
      have hcalm := (h.calm portName).resolve_left fun hbusy => hnode hbusy.2.2
      have hlast : last (s.ended ++ [⟨s.in_portName, s.in_role, roleSwitch⟩])
          (roleFile portName (.mode .none)) = last s.ended (roleFile portName (.mode .none)) :=
        (last_concat _ _ _).trans (if_neg hnode)
      simp only [Calm, hlast] at hcalm ⊢
      exact hcalm

/-- The switch is over, and leaves its node calm. -/
theorem inv_roleUnlock {s : RoleSwitching} (h : Inv s) (hb : s.threads.binder = .roleUnlock)
    (answer : Bool) : Inv { s with threads := s.threads.binderStep answer } := by
  have hbefore := h.before
  rw [hb] at hbefore
  obtain ⟨hback, roleSwitch, hresult, rest, hended⟩ := hbefore
  have hnext : (s.threads.binderStep answer).binder = .idle := by
    simp only [Threads.binderStep, hb]
    rfl
  refine ⟨sound_binder h answer, ?_, fun portName => .inr ?_⟩
  · show Before _ (s.threads.binderStep answer).binder
    rw [hnext]
    exact hback
  · refine (h.calm portName).elim (fun hbusy => ?_) id
    obtain ⟨-, hmode, hnode⟩ := hbusy
    have hshows := hresult hmode
    rw [Shows, hnode] at hshows
    cases roleSwitch with
    | false => exact .inr (.inl hshows)
    | true =>
      have hlast : last s.ended (roleFile portName (.mode .none)) =
          some ⟨s.in_portName, s.in_role, true⟩ := by
        rw [hended]
        exact (last_concat _ _ _).trans (if_pos hnode)
      exact .inr (.inr ⟨_, hlast, rfl, hshows⟩)

theorem inv_goOn {s : RoleSwitching} (h : Inv s) (hback : s.back = false) {answer : Bool}
    {io : Stream} (hio : io.fclose = true) : Inv (s.goOn answer io) := by
  have hbefore := h.before
  cases hb : s.threads.binder <;> rw [hb] at hbefore <;>
    simp only [goOn, hb]
  case roleLock mode =>
    refine inv_lock h (l := .mRoleSwitchLock) (b := .roleHeld mode) answer
      (by simp only [Threads.binderStep, hb]) ?_ ?_ <;> rw [hb]
    · exact id
    · exact False.elim
  case roleHeld mode =>
    cases mode with
    | false => exact inv_writeRole h hb _ io
    | true =>
      refine inv_goto h io.fopen (!io.fopen)
        (b := if io.fopen then .partnerLock else .roleNotifyLock false)
        (by simp only [Threads.binderStep, hb]; rfl) ?_ ?_ <;> cases io.fopen
      · exact .inl ⟨rfl, hbefore.2, rfl⟩
      · exact ⟨rfl, hbefore.2⟩
      · exact fun _ => rfl
      · exact fun _ => rfl
  case partnerLock =>
    refine inv_lock h (l := .mPartnerLock) (b := .partnerHeld) answer
      (by simp only [Threads.binderStep, hb]) ?_ ?_ <;> rw [hb]
    · exact id
    · exact .inl
  case partnerHeld => exact inv_partnerHeld h hb hio
  case partnerWait =>
    refine inv_goto h answer s.back (b := .partnerRelock answer)
      (by simp only [Threads.binderStep, hb]; rfl) hbefore fun _ => rfl
  case partnerRelock timedOut =>
    refine inv_lock h (l := .mPartnerLock) (b := .partnerWoken timedOut) answer
      (by simp only [Threads.binderStep, hb]) ?_ ?_ <;> rw [hb]
    · exact id
    · exact .inl
  case partnerWoken timedOut =>
    cases timedOut with
    | true =>
      exact inv_goto h answer s.back (b := .partnerUnlock false)
        (by simp only [Threads.binderStep, hb]; rfl) ⟨hbefore.1, hbefore.2.1⟩ fun _ => .inl rfl
    | false =>
      refine inv_goto h answer s.back
        (b := if s.threads.mPartnerUp then .partnerUnlock true else .partnerWait) ?_ ?_ ?_
      · simp only [Threads.binderStep, hb]
        split_ifs <;> rfl
      · split_ifs <;> exact hbefore
      · split_ifs
        · exact fun _ => .inl rfl
        · exact fun _ => rfl
  case partnerUnlock roleSwitch =>
    refine inv_goto h answer (!roleSwitch) (b := .roleNotifyLock roleSwitch)
      (by simp only [Threads.binderStep, hb]; rfl) ?_ fun _ => rfl
    cases roleSwitch with
    | false => exact .inl ⟨rfl, hbefore.2, rfl⟩
    | true => exact .inr ⟨rfl, fun _ => hbefore.2.2⟩
  case roleNotifyLock roleSwitch =>
    refine inv_lock h (l := .mLock) (b := .roleNotifyHeld roleSwitch) answer
      (by simp only [Threads.binderStep, hb]) ?_ ?_ <;> rw [hb]
    · exact fun h' => h'.elim (fun h' => absurd (hback.symm.trans h'.1) Bool.false_ne_true) id
    · exact .inl
  case roleNotifyHeld roleSwitch => exact inv_roleNotifyHeld h hb answer
  case roleUnlock => exact inv_roleUnlock h hb answer
  all_goals exact inv_plain h (by rw [hb]; trivial) answer

theorem inv_binderStep {s : RoleSwitching} (h : Inv s) {answer : Bool} {io : Stream}
    (hio : Reaches s (.binder answer io)) : Inv (s.binderStep answer io) := by
  obtain ⟨hclose, hopen⟩ := hio
  unfold binderStep
  split_ifs with hback
  · obtain ⟨hopen, hputs⟩ := hopen hback
    exact inv_switchToDrp h hback (by simp [hopen, hputs, hclose])
  · exact inv_goOn h (by simpa using hback) hclose

/-- The threads go on beside the binder thread. -/
theorem inv_beside {s : RoleSwitching} (h : Inv s) {t : Threads} (ht : t.Sound)
    (hb : t.binder = s.threads.binder) (ports : List String) :
    Inv { s with threads := t, currentPortStatus := ports } := by
  refine ⟨ht, ?_, fun portName => (h.calm portName).imp_left fun hbusy => ?_⟩
  · show Before _ t.binder
    rw [hb]
    exact h.before
  · refine ⟨?_, hbusy.2⟩
    show t.binder.Holds .mRoleSwitchLock
    rw [hb]
    exact hbusy.1

/-- Without `mRoleSwitchLock` the binder thread knows nothing of the nodes. -/
theorem before_of_not_holds {s s' : RoleSwitching} {b : Binder} (hb : ¬ b.Holds .mRoleSwitchLock)
    (hback : s'.back = s.back) (hrole : s'.in_role = s.in_role) (h : s.Before b) :
    s'.Before b := by
  cases b
  case roleLock mode => exact ⟨hback.trans h.1, (congrArg _ hrole).trans h.2⟩
  case roleHeld mode => exact absurd rfl hb
  case partnerLock => exact absurd rfl hb
  case partnerHeld => exact absurd (.inl rfl) hb
  case partnerWait => exact absurd rfl hb
  case partnerRelock timedOut => exact absurd rfl hb
  case partnerWoken timedOut => exact absurd (.inl rfl) hb
  case partnerUnlock roleSwitch => exact absurd (.inl rfl) hb
  case roleNotifyLock roleSwitch => exact absurd rfl hb
  case roleNotifyHeld roleSwitch => exact absurd (.inl rfl) hb
  case roleUnlock => exact absurd rfl hb
  all_goals exact hback.trans h

/-- The worker has `mRoleSwitchLock`, and writes a node. -/
theorem inv_workerWrites {s : RoleSwitching} (h : Inv s) (hw : s.threads.worker = .roleHeld)
    (portName : String) (io : Stream) (ports : List String) :
    Inv { s.switchToDrp portName io with currentPortStatus := ports } := by
  have hnot : ¬ s.threads.binder.Holds .mRoleSwitchLock := by
    intro hholds
    have hworker : s.threads.Holds .worker .mRoleSwitchLock := by rw [Threads.Holds, hw]; rfl
    cases h.sound.guarded.exclusive (t := .binder) hholds hworker
  refine ⟨h.sound, before_of_not_holds (s := s) hnot rfl rfl h.before, fun portName' => .inr ?_⟩
  have hcalm := (h.calm portName').resolve_left fun hbusy => hnot hbusy.1
  by_cases hsame : roleFile portName' (.mode .none) = roleFile portName (.mode .none)
  · by_cases hio : (io.fopen && io.fputs && io.fclose) = true
    · refine .inr (.inl ?_)
      rw [hsame]
      exact s.putFile_written _ _ hio
    · have hkept : (s.switchToDrp portName io).written = s.written := if_neg hio
      simp only [Calm, hkept] at hcalm ⊢
      exact hcalm
  · have hkept : (s.switchToDrp portName io).written (roleFile portName' (.mode .none)) =
        s.written (roleFile portName' (.mode .none)) := s.putFile_keeps "dual" io hsame
    simp only [Calm, hkept] at hcalm ⊢
    exact hcalm

theorem inv_workerStep {s : RoleSwitching} (h : Inv s) (answer : Bool) (ports : List String)
    (partner : Bool) (io : Stream) : Inv (s.workerStep answer ports partner io) := by
  have hbinder := (Threads.workerStep_keeps s.threads answer).2.1
  have hsound : (s.threads.workerStep answer).Sound :=
    Threads.sound_step s.threads (.worker answer) h.sound
  unfold workerStep
  split
  · exact inv_beside h hsound hbinder ports
  · rename_i port rest hw hports
    cases partner with
    | true => exact inv_beside h h.sound rfl rest
    | false => exact inv_workerWrites h hw port io rest
  · exact inv_beside h hsound hbinder s.currentPortStatus

/-- What comes from elsewhere leaves the binder thread, or lets it take up a plain call. -/
theorem binder_elsewhere (t : Threads) {e : Usb.Event} (he : e.Elsewhere) :
    (t.step e).binder = t.binder ∨ t.binder = .idle ∧ (t.step e).binder.Plain := by
  cases e with
  | binder answer => exact he.elim
  | worker answer => exact he.elim
  | call c =>
    simp only [Threads.step]
    split_ifs with hidle
    · refine .inr ⟨hidle, ?_⟩
      cases c <;> first | exact he.elim | trivial
    · exact .inl rfl
  | uevent fields => exact .inl (t.kept_step (e := .uevent fields) trivial).binder
  | signal => exact .inl (t.kept_step (e := .signal) trivial).binder
  | updatePortStatus => exact .inl (t.kept_step (e := .updatePortStatus) trivial).binder
  | monitor => exact .inl (t.kept_step (e := .monitor) trivial).binder

theorem inv_elsewhere {s : RoleSwitching} (h : Inv s) (e : {e : Usb.Event // e.Elsewhere}) :
    Inv { s with threads := s.threads.step e.val } := by
  have hsound := Threads.sound_step s.threads e.val h.sound
  rcases binder_elsewhere s.threads e.property with hb | ⟨hidle, hplain⟩
  · exact inv_beside h hsound hb s.currentPortStatus
  · have hback := h.before
    rw [hidle] at hback
    refine h.move hsound s.back ((before_of_plain hplain).2 hback) fun hholds => ?_
    rw [hidle] at hholds
    exact hholds.elim

/-- A call of `switchRole` is taken up: nothing is busy, so nothing depends on its arguments. -/
theorem inv_switchRole {s : RoleSwitching} (h : Inv s) (hidle : s.threads.binder = .idle)
    (in_portName : String) (in_role : PortRole) :
    Inv { s with
      threads := s.threads.step (.call (.switchRole in_role.isMode))
      in_portName := in_portName
      in_role := in_role } := by
  have hback := h.before
  rw [hidle] at hback
  refine ⟨Threads.sound_step s.threads (.call (.switchRole in_role.isMode)) h.sound, ?_,
    fun portName => .inr ?_⟩
  · show Before _ (s.threads.step (.call (.switchRole in_role.isMode))).binder
    rw [Threads.step, if_pos hidle]
    exact ⟨hback, rfl⟩
  · refine (h.calm portName).resolve_left fun hbusy => ?_
    have hholds := hbusy.1
    rw [hidle] at hholds
    exact hholds

theorem inv_step (s : RoleSwitching) (e : Event) (h : Inv s) (he : Reaches s e) :
    Inv (step s e) := by
  cases e with
  | switchRole in_portName in_role =>
    simp only [step]
    split_ifs with hidle
    · exact inv_switchRole h hidle in_portName in_role
    · exact h
  | binder answer io => exact inv_binderStep h he
  | worker answer ports partner io => exact inv_workerStep h answer ports partner io
  | elsewhere e => exact inv_elsewhere h e

theorem inv_run {es : List Event} (h : Runs.Meets step Reaches initial es) :
    Runs.Always step Inv initial es :=
  Runs.always_of_meets inv_step inv_initial h

instance (s : RoleSwitching) (e : Event) : Decidable (Reaches s e) := by
  cases e <;> unfold Reaches <;> infer_instance

/-! ### The threads' own model -/

theorem threads_step (s : RoleSwitching) (e : Event) :
    (step s e).threads = s.threads ∨ ∃ e', (step s e).threads = s.threads.step e' := by
  cases e with
  | switchRole in_portName in_role =>
    simp only [step]
    split_ifs
    · exact .inr ⟨.call (.switchRole in_role.isMode), rfl⟩
    · exact .inl rfl
  | binder answer io =>
    simp only [step, binderStep]
    split_ifs
    · exact .inl rfl
    · unfold goOn
      split
      · exact .inr ⟨.binder io.fopen, rfl⟩
      · exact .inr ⟨.binder (io.fopen && io.fputs && answer), rfl⟩
      · exact .inr ⟨.binder io.fputs, rfl⟩
      · exact .inr ⟨.binder answer, rfl⟩
      · exact .inr ⟨.binder answer, rfl⟩
      · exact .inr ⟨.binder answer, rfl⟩
  | worker answer ports partner io =>
    simp only [step]
    unfold workerStep
    split
    · exact .inr ⟨.worker answer, rfl⟩
    · cases partner with
      | true => exact .inl rfl
      | false => exact .inl rfl
    · exact .inr ⟨.worker answer, rfl⟩
  | elsewhere e => exact .inr ⟨e.val, rfl⟩

/-- With the nodes left out, a run is a run of the threads. -/
theorem threads_run (es : List Event) :
    ∃ es', (Runs.run step initial es).threads = Runs.run Threads.step .initial es' := by
  induction es using List.reverseRecOn with
  | nil => exact ⟨[], rfl⟩
  | append_singleton es e ih =>
    obtain ⟨es', hes'⟩ := ih
    rw [Runs.run_append]
    rcases threads_step (Runs.run step initial es) e with h | ⟨e', h⟩
    · exact ⟨es', h.trans hes'⟩
    · refine ⟨es' ++ [e'], ?_⟩
      rw [Runs.run_append, ← hes']
      exact h

/-! ### The results -/

/-- **A notified result is the state of the node**, in every order of the threads' steps: when the
result of a mode switch is about to be notified, the port's node holds the word for the mode if the
switch succeeded, and `dual` if it failed. -/
theorem settled_always (es : List Event) (h : Runs.Meets step Reaches initial es) :
    Runs.Always step Settled initial es :=
  fun pre hp => (inv_run h pre hp).settled

/-- Every call on a `FILE` succeeds. -/
def flushed : Stream := ⟨true, true, true⟩

/-- A switch to UFP that times out, up to its notification. -/
def timedOutSwitch : List Event :=
  .switchRole "port0" (.mode .ufp) :: List.replicate 10 (.binder true flushed)

theorem timedOutSwitch_settled : Runs.Always step Settled initial timedOutSwitch :=
  settled_always timedOutSwitch (by decide)

/-- **Only a switch that succeeded leaves a port in a mode**, and so it is of every other port while
one is being switched. -/
theorem calm_always (es : List Event) (h : Runs.Meets step Reaches initial es) :
    Runs.Always step AllCalm initial es :=
  fun pre hp => (inv_run h pre hp).calm

/-- The mode of `port1` is switched after that of `port0`. -/
theorem timedOutSwitch_calm :
    Runs.Always step AllCalm initial (timedOutSwitch ++ List.replicate 2 (.binder true flushed) ++
      .switchRole "port1" (.mode .dfp) :: List.replicate 3 (.binder true flushed)) :=
  calm_always _ (by decide)

end RoleSwitching

end Usb

end Gs101
