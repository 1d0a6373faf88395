import Gs101.Usb.PortFaults

/-!
# Usb: the kind of role that is asked for

`getCurrentRoleHelper` is given a `PortRole` whose tag says which role to look up, and returns the
role in the same union.

* `selectedWord`: the word that a role file shows; `roleOf`: the role that a word stands for;
* `KeepsKind`: the union keeps its tag, and a role file that is read gives the role of its word;
* `Fits`: no word of the other kind, and no role behind a `]` that stands before the first `[`;
* `keepsKind_iff`: the kind is kept if and only if the role file, if it is read, fits.
-/

namespace Gs101

/-- `PortRole::Tag`. -/
inductive PortRole.Tag
  | powerRole
  | dataRole
  | mode
  deriving DecidableEq

/-- `getTag()`. -/
def PortRole.getTag : PortRole → PortRole.Tag
  | .powerRole _ => .powerRole
  | .dataRole _ => .dataRole
  | .mode _ => .mode

namespace Usb

namespace Roles

/-- The text between the first `[` and the `]` that follows it, or all of it. -/
def selectedWord (text : String) : String :=
  match text.toList.dropWhile (· ≠ '[') with
  | [] => text
  | _ :: rest => if ']' ∈ rest then String.ofList (rest.takeWhile (· ≠ ']')) else text

/-- The role of this kind that a word stands for. -/
def roleOf : PortRole.Tag → String → Option PortRole
  | .powerRole, word =>
      if word = "none" then some (.powerRole .none)
      else if word = "source" then some (.powerRole .source)
      else if word = "sink" then some (.powerRole .sink)
      else none
  | .dataRole, word =>
      if word = "none" then some (.dataRole .none)
      else if word = "host" then some (.dataRole .host)
      else if word = "device" then some (.dataRole .device)
      else none
  | .mode, word =>
      if word = "none" then some (.mode .none)
      else if word = "host" then some (.mode .dfp)
      else if word = "device" then some (.mode .ufp)
      else none

/-- The content of the role file, if `getCurrentRoleHelper` comes to read it. -/
def roleText (fs : FileSystem) (portName : String) (connected : Bool) (role : PortRole) :
    Option String :=
  if !connected then none
  else match role with
    | .mode _ =>
        match getAccessoryConnected fs portName with
        | none => none
        | some accessory =>
            if accessory = "analog_audio" ∨ accessory = "debug" then none
            else fs.read (roleNode portName role)
    | _ => fs.read (roleNode portName role)

/-- The tag is the one that was asked for; and a role file that is read gives the role of its word,
or UNRECOGNIZED_ROLE if its word is none of this kind. -/
structure KeepsKind (fs : FileSystem) (portName : String) (connected : Bool) (role : PortRole) :
    Prop where
  tag : (getCurrentRoleHelper fs portName connected role).2.getTag = role.getTag
  word : ∀ text, roleText fs portName connected role = some text →
    match roleOf role.getTag (selectedWord (CText.trim text)) with
    | some r => getCurrentRoleHelper fs portName connected role = (.success, r)
    | none => (getCurrentRoleHelper fs portName connected role).1 = .unrecognizedRole

/-- A word of the other kind. -/
def Foreign : PortRole.Tag → String → Prop
  | .powerRole, word => word = "host" ∨ word = "device"
  | _, word => word = "source" ∨ word = "sink"

/-- No word that stands where `extractRole` looks is of the other kind.  A `]` before the first `[`
hides the `]` that follows: then what stands behind the `[` is no role at all. -/
def Fits (tag : PortRole.Tag) (text : String) : Prop :=
  match text.toList.dropWhile (· ≠ '[') with
  | [] => ¬ Foreign tag text
  | _ :: rest =>
      if ']' ∈ text.toList.takeWhile (· ≠ '[') then
        roleOf tag (String.ofList (rest.takeWhile (· ≠ ']'))) = none ∧
          (']' ∈ rest ∨ ¬ Foreign tag (String.ofList rest))
      else ']' ∈ rest → ¬ Foreign tag (String.ofList (rest.takeWhile (· ≠ ']')))

/-! ### The word in brackets -/

theorem selectedWord_closed {a w : List Char} (ha : '[' ∉ a) (hw : ']' ∉ w) (b : List Char) :
    selectedWord (String.ofList (a ++ '[' :: (w ++ ']' :: b))) = String.ofList w := by
  have hmem : ']' ∈ w ++ ']' :: b := List.mem_append_right w List.mem_cons_self
  simp only [selectedWord, String.toList_ofList, CText.dropWhile_ne_append ha,
    CText.takeWhile_ne_append hw, if_pos hmem]

theorem selectedWord_open {a b : List Char} (ha : '[' ∉ a) (hb : ']' ∉ b) :
    selectedWord (String.ofList (a ++ '[' :: b)) = String.ofList (a ++ '[' :: b) := by
  simp only [selectedWord, String.toList_ofList, CText.dropWhile_ne_append ha, if_neg hb]

theorem selectedWord_plain {text : List Char} (h : '[' ∉ text) :
    selectedWord (String.ofList text) = String.ofList text := by
  have hnil : text.dropWhile (· ≠ '[') = [] :=
    List.dropWhile_eq_nil_iff.2 fun c hc => decide_eq_true fun he => h (he ▸ hc)
  simp only [selectedWord, String.toList_ofList, hnil]

/-- Where a `]` stands before the first `[`, the count wraps around, and `extractRole` takes all
that stands behind the `[`. -/
theorem extractRole_early {a b : List Char} (hlength : (a ++ '[' :: b).length < 2 ^ 64)
    (ha : '[' ∉ a) (h : ']' ∈ a) :
    extractRole (String.ofList (a ++ '[' :: b)) = String.ofList b := by
  have hfirst := CText.idxOf?_append_cons ha b
  obtain ⟨c, d, rfl, hc⟩ := List.eq_append_cons_of_mem h
  have hlast : (c ++ ']' :: d ++ '[' :: b).idxOf? ']' = some c.length := by
    rw [List.append_assoc, List.cons_append]
    exact CText.idxOf?_append_cons hc _
  have hdrop : (c ++ ']' :: d ++ '[' :: b).drop ((c ++ ']' :: d).length + 1) = b := by
    rw [List.drop_append]
    simp
  have hcount : b.length ≤ (c.length + 2 ^ 64 - (c ++ ']' :: d).length - 1) % 2 ^ 64 := by
    simp only [List.length_append, List.length_cons] at hlength ⊢
    omega
  simp only [extractRole, String.toList_ofList, hfirst, hlast, hdrop,
    List.take_of_length_le hcount]

/-- Where no `]` stands before the first `[`, `extractRole` finds the word that is selected. -/
theorem extractRole_eq_selectedWord {text : List Char} (hlength : text.length < 2 ^ 64)
    (h : ']' ∉ text.takeWhile (· ≠ '[')) :
    extractRole (String.ofList text) = selectedWord (String.ofList text) := by
  by_cases hopen : '[' ∈ text
  swap
  · have hidx : text.idxOf? '[' = none := List.idxOf?_eq_none_iff.2 hopen
    simp only [extractRole, String.toList_ofList, hidx, selectedWord_plain hopen]
  obtain ⟨a, b, rfl, ha⟩ := List.eq_append_cons_of_mem hopen
  rw [CText.takeWhile_ne_append ha] at h
  -- `a` stands before the first `[`, and holds no `]`
  have hfirst := CText.idxOf?_append_cons ha b
  by_cases hclosed : ']' ∈ b
  · obtain ⟨w, c, rfl, hw⟩ := List.eq_append_cons_of_mem hclosed
    have hw' : ']' ∉ a ++ '[' :: w := by
      simp only [List.mem_append, List.mem_cons, not_or]
      exact ⟨h, by decide, hw⟩
    have hlast : (a ++ '[' :: (w ++ ']' :: c)).idxOf? ']' = some (a.length + w.length + 1) := by
      have hidx := CText.idxOf?_append_cons hw' c
      rw [List.append_assoc, List.cons_append] at hidx
      rw [hidx, List.length_append, List.length_cons]
      rfl
    have hcount : (a.length + w.length + 1 + 2 ^ 64 - a.length - 1) % 2 ^ 64 = w.length := by
      simp only [List.length_append, List.length_cons] at hlength
      omega
    have hdrop : (a ++ '[' :: (w ++ ']' :: c)).drop (a.length + 1) = w ++ ']' :: c := by
      rw [List.drop_append]
      simp
    rw [selectedWord_closed ha hw]
    simp only [extractRole, String.toList_ofList, hfirst, hlast, hcount, hdrop, List.take_left]
  · have hlast : (a ++ '[' :: b).idxOf? ']' = none := by
      refine List.idxOf?_eq_none_iff.2 ?_
      simp only [List.mem_append, List.mem_cons, not_or]
      exact ⟨h, by decide, hclosed⟩
    rw [selectedWord_open ha hclosed]
    simp only [extractRole, String.toList_ofList, hfirst, hlast]

/-! ### The role of the word -/

/-- What the last part of `getCurrentRoleHelper` makes of a word of this kind. -/
theorem assignRole_eq (role : PortRole) {word : String} (h : ¬ Foreign role.getTag word) :
    assignRole (resetRole role) word =
      match roleOf role.getTag word with
      | some r => (.success, r)
      | none => (.unrecognizedRole, resetRole role) := by
  cases role <;> simp only [PortRole.getTag, Foreign, not_or] at h <;>
    obtain ⟨h₁, h₂⟩ := h <;>
    by_cases hn : word = "none" <;>
    simp_all [assignRole, resetRole, roleOf, PortRole.getTag]
  all_goals split_ifs <;> rfl

/-- A word of the other kind changes the tag. -/
theorem getTag_assignRole_ne (role : PortRole) {word : String} (h : Foreign role.getTag word) :
    (assignRole (resetRole role) word).2.getTag ≠ role.getTag := by
  cases role <;> simp only [PortRole.getTag, Foreign] at h <;>
    rcases h with rfl | rfl <;> simp [assignRole, resetRole, PortRole.getTag]

theorem getTag_resetRole (role : PortRole) : (resetRole role).getTag = role.getTag := by
  cases role <;> rfl

theorem getTag_of_roleOf {tag : PortRole.Tag} {word : String} {r : PortRole}
    (h : roleOf tag word = some r) : r.getTag = tag := by
  cases tag <;> simp only [roleOf] at h <;> split_ifs at h <;> cases h <;> rfl

/-- No bracket stands in a role, nor in a word of the other kind. -/
theorem plain_of_role {tag : PortRole.Tag} {word : String}
    (h : roleOf tag word ≠ none ∨ Foreign tag word) :
    '[' ∉ word.toList ∧ ']' ∉ word.toList := by
  have hword : word ∈ ["none", "source", "sink", "host", "device"] := by
    by_contra hword
    simp only [List.mem_cons, List.not_mem_nil, or_false, not_or] at hword
    obtain ⟨h₁, h₂, h₃, h₄, h₅⟩ := hword
    cases tag <;> simp [roleOf, Foreign, h₁, h₂, h₃, h₄, h₅] at h
  simp only [List.mem_cons, List.not_mem_nil, or_false] at hword
  rcases hword with rfl | rfl | rfl | rfl | rfl <;> decide

theorem no_role_of_bracket (tag : PortRole.Tag) {word : String}
    (h : '[' ∈ word.toList ∨ ']' ∈ word.toList) :
    roleOf tag word = none ∧ ¬ Foreign tag word := by
  constructor
  · by_contra hrole
    exact h.elim (plain_of_role (.inl hrole)).1 (plain_of_role (.inl hrole)).2
  · intro hforeign
    exact h.elim (plain_of_role (.inr hforeign)).1 (plain_of_role (.inr hforeign)).2

/-- The text fits if and only if `extractRole` finds no word of the other kind, and one that stands
for the same role as the word that is selected. -/
theorem fits_iff (tag : PortRole.Tag) {text : String} (hlength : text.length < 2 ^ 64) :
    Fits tag text ↔
      ¬ Foreign tag (extractRole text) ∧
        roleOf tag (extractRole text) = roleOf tag (selectedWord text) := by
  obtain ⟨text, rfl⟩ : ∃ l, text = String.ofList l := ⟨text.toList, String.ofList_toList.symm⟩
  rw [String.length_ofList] at hlength
  by_cases hopen : '[' ∈ text
  swap
  · have hnil : text.dropWhile (· ≠ '[') = [] :=
      List.dropWhile_eq_nil_iff.2 fun c hc => decide_eq_true fun he => hopen (he ▸ hc)
    have hword : extractRole (String.ofList text) = String.ofList text := by
      simp only [extractRole, String.toList_ofList, List.idxOf?_eq_none_iff.2 hopen]
    simp only [Fits, String.toList_ofList, hnil, hword, selectedWord_plain hopen, and_true]
  obtain ⟨a, b, rfl, ha⟩ := List.eq_append_cons_of_mem hopen
  simp only [Fits, String.toList_ofList, CText.dropWhile_ne_append ha, CText.takeWhile_ne_append ha]
  by_cases hearly : ']' ∈ a
  · rw [if_pos hearly, extractRole_early hlength ha hearly]
    by_cases hclosed : ']' ∈ b
    · -- what follows the `[` holds a bracket
      have hnone := no_role_of_bracket tag (.inr (show ']' ∈ (String.ofList b).toList by simpa))
      obtain ⟨w, c, rfl, hw⟩ := List.eq_append_cons_of_mem hclosed
      rw [CText.takeWhile_ne_append hw, selectedWord_closed ha hw]
      simp only [hclosed, true_or, and_true, hnone, not_false_eq_true, true_and]
      exact eq_comm
    · -- the word that is selected holds both brackets
      have hmem : '[' ∈ (String.ofList (a ++ '[' :: b)).toList := by simp
      have hall : b.takeWhile (· ≠ ']') = b :=
        List.takeWhile_eq_self_iff.2 fun c hc => decide_eq_true fun he => hclosed (he ▸ hc)
      rw [selectedWord_open ha hclosed, (no_role_of_bracket tag (.inl hmem)).1, hall]
      simp only [hclosed, false_or]
      exact and_comm
  · have hword := extractRole_eq_selectedWord hlength
      (by rwa [CText.takeWhile_ne_append ha] : ']' ∉ (a ++ '[' :: b).takeWhile (· ≠ '['))
    rw [if_neg hearly, hword]
    by_cases hclosed : ']' ∈ b
    · obtain ⟨w, c, rfl, hw⟩ := List.eq_append_cons_of_mem hclosed
      rw [CText.takeWhile_ne_append hw, selectedWord_closed ha hw]
      simp only [hclosed, true_implies, and_true]
    · have hmem : '[' ∈ (String.ofList (a ++ '[' :: b)).toList := by simp
      rw [selectedWord_open ha hclosed]
      simp only [hclosed, false_implies, (no_role_of_bracket tag (.inl hmem)).2, not_false_eq_true,
        and_self]

/-! ### The helper -/

variable {fs : FileSystem} {portName : String} {connected : Bool} {role : PortRole}

theorem getCurrentRoleHelper_resetRole :
    getCurrentRoleHelper fs portName connected (resetRole role) =
      getCurrentRoleHelper fs portName connected role := by
  cases role <;> simp only [getCurrentRoleHelper, resetRole]

theorem roleWord_resetRole : roleWord fs portName (resetRole role) = roleWord fs portName role := by
  cases role <;> rfl

/-- The text that is read is that of the role's node. -/
theorem read_of_roleText {text : String} (h : roleText fs portName connected role = some text) :
    fs.read (roleNode portName role) = some text := by
  cases connected with
  | false => cases h
  | true =>
    cases role with
    | powerRole r => exact h
    | dataRole r => exact h
    | mode m =>
      simp only [roleText, Bool.not_true, Bool.false_eq_true, if_false] at h
      cases haccessory : getAccessoryConnected fs portName with
      | none => simp [haccessory] at h
      | some accessory =>
        simp only [haccessory] at h
        split_ifs at h
        exact h

theorem roleWord_of_roleText {text : String}
    (h : roleText fs portName connected role = some text) :
    roleWord fs portName role = some (extractRole (CText.trim text)) := by
  rw [roleWord, read_of_roleText h, Option.map_some]

theorem getCurrentRoleHelper_of_roleText {text : String}
    (h : roleText fs portName connected role = some text) :
    getCurrentRoleHelper fs portName connected role =
      assignRole (resetRole role) (extractRole (CText.trim text)) := by
  have hword := roleWord_of_roleText h
  rw [← getCurrentRoleHelper_resetRole]
  rw [← roleWord_resetRole] at hword
  cases connected with
  | false => cases h
  | true =>
    cases role with
    | powerRole r =>
      simp only [resetRole] at hword ⊢
      rw [getCurrentRoleHelper_plain (.inl rfl), hword]
    | dataRole r =>
      simp only [resetRole] at hword ⊢
      rw [getCurrentRoleHelper_plain (.inr rfl), hword]
    | mode m =>
      have hdata : roleWord fs portName (.dataRole .none) =
          some (extractRole (CText.trim text)) := hword
      simp only [roleText, Bool.not_true, Bool.false_eq_true, if_false] at h
      simp only [resetRole]
      rw [getCurrentRoleHelper_mode]
      cases haccessory : getAccessoryConnected fs portName with
      | none => simp [haccessory] at h
      | some accessory =>
        simp only [haccessory] at h
        split_ifs at h with hkind
        obtain ⟨haudio, hdebug⟩ := not_or.1 hkind
        simp only [if_neg haudio, if_neg hdebug, hdata]

/-- Where no role file is read, the role stays reset, or becomes that of an accessory. -/
theorem getTag_of_roleText_eq_none (h : roleText fs portName connected role = none) :
    (getCurrentRoleHelper fs portName connected role).2.getTag = role.getTag := by
  rw [← getCurrentRoleHelper_resetRole]
  cases connected with
  | false => cases role <;> rfl
  | true =>
    cases role with
    | powerRole r =>
      have hword : roleWord fs portName (.powerRole .none) = none := Option.map_eq_none_iff.2 h
      simp only [resetRole]
      rw [getCurrentRoleHelper_plain (.inl rfl), hword]
      rfl
    | dataRole r =>
      have hword : roleWord fs portName (.dataRole .none) = none := Option.map_eq_none_iff.2 h
      simp only [resetRole]
      rw [getCurrentRoleHelper_plain (.inr rfl), hword]
      rfl
    | mode m =>
      simp only [roleText, Bool.not_true, Bool.false_eq_true, if_false] at h
      simp only [resetRole]
      rw [getCurrentRoleHelper_mode]
      cases haccessory : getAccessoryConnected fs portName with
      | none => rfl
      | some accessory =>
        simp only [haccessory] at h ⊢
        split_ifs with haudio hdebug
        · rfl
        · rfl
        · rw [if_neg (not_or.2 ⟨haudio, hdebug⟩)] at h
          have hword : roleWord fs portName (.dataRole .none) = none := Option.map_eq_none_iff.2 h
          rw [hword]
          rfl

/-- What is asked of one role file, on the word that `extractRole` finds. -/
theorem keepsKind_iff_of_roleText {text : String}
    (h : roleText fs portName connected role = some text) :
    KeepsKind fs portName connected role ↔
      ¬ Foreign role.getTag (extractRole (CText.trim text)) ∧
        roleOf role.getTag (extractRole (CText.trim text)) =
          roleOf role.getTag (selectedWord (CText.trim text)) := by
  have hrun := getCurrentRoleHelper_of_roleText h
  constructor
  · intro hkeeps
    have hkind : ¬ Foreign role.getTag (extractRole (CText.trim text)) := fun hforeign =>
      getTag_assignRole_ne role hforeign (hrun ▸ hkeeps.tag)
    refine ⟨hkind, ?_⟩
    have hword := hkeeps.word text h
    rw [hrun, assignRole_eq role hkind] at hword
    cases hfound : roleOf role.getTag (extractRole (CText.trim text)) <;>
      cases hselected : roleOf role.getTag (selectedWord (CText.trim text)) <;>
      simp_all
  · rintro ⟨hkind, hfound⟩
    refine ⟨?_, ?_⟩
    · rw [hrun, assignRole_eq role hkind]
      cases hrole : roleOf role.getTag (extractRole (CText.trim text)) with
      | none => exact getTag_resetRole role
      | some r => exact getTag_of_roleOf hrole
    · intro text' h'
      cases h.symm.trans h'
      rw [hrun, assignRole_eq role hkind, hfound]
      cases roleOf role.getTag (selectedWord (CText.trim text)) <;> rfl

/-- **The kind of role is kept** if and only if the role file, if it is read, fits. -/
theorem keepsKind_iff (fs : FileSystem) (portName : String) (connected : Bool) (role : PortRole)
    (hlength : ∀ text, fs.read (roleNode portName role) = some text → text.length < 2 ^ 64) :
    KeepsKind fs portName connected role ↔
      ∀ text, roleText fs portName connected role = some text →
        Fits role.getTag (CText.trim text) := by
  cases h : roleText fs portName connected role with
  | none =>
    refine iff_of_true ⟨getTag_of_roleText_eq_none h, fun text h' => ?_⟩ fun text h' => ?_
    · cases h.symm.trans h'
    · cases h'
  | some text =>
    have hread := read_of_roleText h
    have hshort := (CText.length_trim_le text).trans_lt (hlength text hread)
    rw [keepsKind_iff_of_roleText h]
    simp only [Option.some.injEq, forall_eq']
    exact (fits_iff role.getTag hshort).symm

/-- Only the data role of `port0` can be read, and it holds this text. -/
def dataRoleOnly (text : String) : FileSystem where
  read path := if path = roleNode "port0" (.dataRole .none) then some text else none
  entries _ := none

theorem roleText_dataRoleOnly (text : String) :
    roleText (dataRoleOnly text) "port0" true (.dataRole .none) = some text := by
  simp [roleText, dataRoleOnly]

theorem keepsKind_selected :
    KeepsKind (dataRoleOnly "[host] device\n") "port0" true (.dataRole .none) := by
  refine (keepsKind_iff _ _ _ _ fun text h => ?_).2 fun text h => ?_
  · cases (read_of_roleText (roleText_dataRoleOnly _)).symm.trans h
    decide
  · cases (roleText_dataRoleOnly _).symm.trans h
    have htrim : CText.trim "[host] device\n" = "[host] device" := by decide
    simp [Fits, Foreign, PortRole.getTag, htrim]

/-- A power role in `data_role` turns the union into a power role. -/
theorem source_not_keepsKind :
    ¬ KeepsKind (dataRoleOnly "source\n") "port0" true (.dataRole .none) := by
  intro hkeeps
  have htag := hkeeps.tag
  rw [getCurrentRoleHelper_of_roleText (roleText_dataRoleOnly _)] at htag
  exact absurd htag (by decide)

end Roles

end Usb

end Gs101
