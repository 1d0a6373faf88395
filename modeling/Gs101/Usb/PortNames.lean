import Gs101.Usb.PortStatus

/-!
# Usb: the names of the ports

`getTypeCPortNamesHelper` fills a map from the links of a directory, in the order in which `readdir`
lists them: a port is inserted with `false` unless it is there, a partner sets its port to `true`.

* `FirstPiece`: the first maximal piece of a name without a dash;
* `IsPort`, `IsPartner`: the two ways in which a listing names a port;
* `NamesOf`: the map has exactly the ports that are named, each with whether it has a partner;
* `namesOf_foldl`, `getTypeCPortNamesHelper_namesOf`: the map is that of its listing, and that of
  every permutation of it.
-/

namespace Gs101

namespace Usb

namespace PortNames

/-- The piece stands behind dashes only, holds none, and ends at a dash or with the name. -/
def FirstPiece (name piece : String) : Prop :=
  piece ≠ "" ∧ '-' ∉ piece.toList ∧ ∃ dashes rest, name.toList = dashes ++ piece.toList ++ rest ∧
    (∀ c ∈ dashes, c = '-') ∧ ∀ c ∈ rest.head?, c = '-'

/-- A link whose name holds "-partner". -/
def PartnerLink (ep : Dirent) : Prop :=
  ep.d_type = .lnk ∧ CText.contains ep.d_name "-partner" = true

/-- The key is the name of a link that does not hold "-partner". -/
def IsPort (entries : List Dirent) (key : String) : Prop :=
  ∃ ep ∈ entries, ep.d_type = .lnk ∧ CText.contains ep.d_name "-partner" = false ∧ ep.d_name = key

/-- The key is the first piece of a link that holds "-partner". -/
def IsPartner (entries : List Dirent) (key : String) : Prop :=
  ∃ ep ∈ entries, PartnerLink ep ∧ FirstPiece ep.d_name key

/-- Each port that the listing names stands once in the map, with whether it has a partner. -/
structure NamesOf (entries : List Dirent) (names : List (String × Bool)) : Prop where
  nodup : (names.map Prod.fst).Nodup
  mem : ∀ key value, (key, value) ∈ names ↔
    (IsPort entries key ∨ IsPartner entries key) ∧ (value = true ↔ IsPartner entries key)

/-! ### The first piece -/

theorem firstPiece_strtok {name : String} (h : ∃ c ∈ name.toList, c ≠ '-') :
    FirstPiece name (CText.strtok name '-') := by
  have hdrop : name.toList.dropWhile (· = '-') ≠ [] := by
    obtain ⟨c, hc, hne⟩ := h
    intro hnil
    exact hne (of_decide_eq_true (List.dropWhile_eq_nil_iff.1 hnil c hc))
  obtain ⟨c, rest, hrest⟩ := List.exists_cons_of_ne_nil hdrop
  have hc : ¬ c = '-' := by
    have hhead := List.head?_dropWhile_not (fun c : Char => decide (c = '-')) name.toList
    rw [hrest] at hhead
    simpa using hhead
  refine ⟨?_, ?_, name.toList.takeWhile (· = '-'),
    (name.toList.dropWhile (· = '-')).dropWhile (· ≠ '-'), ?_, ?_, ?_⟩
  · simp [CText.strtok, hrest, hc]
  · intro hmem
    rw [CText.strtok, String.toList_ofList] at hmem
    simpa using List.mem_takeWhile_imp hmem
  · rw [CText.strtok, String.toList_ofList, List.append_assoc, List.takeWhile_append_dropWhile,
      List.takeWhile_append_dropWhile]
  · intro d hd
    simpa using List.mem_takeWhile_imp hd
  · intro d hd
    have hhead := List.head?_dropWhile_not (fun c : Char => decide (c ≠ '-'))
      (name.toList.dropWhile (· = '-'))
    rw [Option.mem_def.1 hd] at hhead
    simpa using hhead

theorem eq_strtok_of_firstPiece {name piece : String} (h : FirstPiece name piece) :
    piece = CText.strtok name '-' := by
  obtain ⟨hne, hdash, dashes, rest, hname, hdashes, hrest⟩ := h
  have hpiece : (piece.toList ++ rest).dropWhile (· = '-') = piece.toList ++ rest := by
    cases hlist : piece.toList with
    | nil => exact absurd (String.toList_eq_nil_iff.1 hlist) hne
    | cons c cs =>
      have hc : ¬ c = '-' := fun hc => hdash (hlist ▸ hc ▸ List.mem_cons_self)
      simp [hc]
  have htail : rest.takeWhile (· ≠ '-') = [] := by
    cases rest with
    | nil => rfl
    | cons c cs => simp [hrest c rfl]
  have hall : ∀ c ∈ piece.toList, decide (c ≠ '-') = true := fun c hc =>
    decide_eq_true fun he => hdash (he ▸ hc)
  rw [CText.strtok, hname, List.append_assoc,
    List.dropWhile_append_of_pos fun c hc => decide_eq_true (hdashes c hc), hpiece,
    List.takeWhile_append_of_pos hall, htail, List.append_nil, String.ofList_toList]

/-- The piece that `strtok` finds in the name of a partner is its first one. -/
theorem firstPiece_iff {name piece : String} (h : CText.contains name "-partner" = true) :
    FirstPiece name piece ↔ piece = CText.strtok name '-' := by
  constructor
  · exact eq_strtok_of_firstPiece
  · rintro rfl
    have hinfix : "-partner".toList <:+: name.toList := of_decide_eq_true h
    exact firstPiece_strtok ⟨'p', hinfix.subset (by decide), by decide⟩

/-! ### One entry -/

variable {entries : List Dirent} {names : List (String × Bool)} {ep : Dirent}

theorem isPort_concat {key : String} : IsPort (entries ++ [ep]) key ↔ IsPort entries key ∨
    (ep.d_type = .lnk ∧ CText.contains ep.d_name "-partner" = false ∧ ep.d_name = key) := by
  simp only [IsPort, List.mem_append, List.mem_singleton, or_and_right, exists_or, exists_eq_left]

theorem isPartner_concat {key : String} : IsPartner (entries ++ [ep]) key ↔
    IsPartner entries key ∨ (PartnerLink ep ∧ key = CText.strtok ep.d_name '-') := by
  simp only [IsPartner, List.mem_append, List.mem_singleton, or_and_right, exists_or,
    exists_eq_left]
  exact or_congr_right (and_congr_right fun h => firstPiece_iff h.2)

theorem NamesOf.mem_keys (h : NamesOf entries names) {key : String} :
    key ∈ names.map Prod.fst ↔ IsPort entries key ∨ IsPartner entries key := by
  rw [List.mem_map]
  constructor
  · rintro ⟨⟨k, value⟩, hmem, rfl⟩
    exact ((h.mem _ _).1 hmem).1
  · intro hkey
    by_cases hp : IsPartner entries key
    · exact ⟨(key, true), (h.mem _ _).2 ⟨hkey, by simp [hp]⟩, rfl⟩
    · exact ⟨(key, false), (h.mem _ _).2 ⟨hkey, by simp [hp]⟩, rfl⟩

/-- An entry that names nothing new. -/
theorem NamesOf.congr {entries' : List Dirent} (h : NamesOf entries names)
    (hport : ∀ key, IsPort entries' key ∨ IsPartner entries' key ↔
      IsPort entries key ∨ IsPartner entries key)
    (hpartner : ∀ key, IsPartner entries' key ↔ IsPartner entries key) :
    NamesOf entries' names where
  nodup := h.nodup
  mem key value := by rw [h.mem, hport, hpartner]

theorem NamesOf.addPort (h : NamesOf entries names) (hlink : ep.d_type = .lnk)
    (hname : CText.contains ep.d_name "-partner" = false) :
    NamesOf (entries ++ [ep])
      (if ep.d_name ∈ names.map Prod.fst then names else names ++ [(ep.d_name, false)]) := by
  have hpartner : ∀ key, IsPartner (entries ++ [ep]) key ↔ IsPartner entries key := fun key => by
    simp [isPartner_concat, PartnerLink, hname]
  have hport : ∀ key, IsPort (entries ++ [ep]) key ↔ IsPort entries key ∨ ep.d_name = key :=
    fun key => by simp [isPort_concat, hlink, hname]
  split_ifs with hkey
  · -- the port is known from itself or from a partner
    refine h.congr (fun key => ?_) hpartner
    rw [hport, hpartner, or_right_comm]
    refine or_iff_left_of_imp ?_
    rintro rfl
    exact h.mem_keys.1 hkey
  · have hnew : ¬ IsPartner entries ep.d_name := fun hp => hkey (h.mem_keys.2 (.inr hp))
    refine ⟨?_, fun key value => ?_⟩
    · rw [List.map_append, List.map_singleton, ← List.concat_eq_append]
      exact h.nodup.concat hkey
    · rw [List.mem_append, h.mem, List.mem_singleton, Prod.mk.injEq, hport, hpartner]
      by_cases hk : key = ep.d_name
      · subst hk
        simp [hnew]
      · simp [hk, Ne.symm hk]

/-- `(*names)[port] = true`, for a port that is in the map. -/
def setTrue (port : String) (names : List (String × Bool)) : List (String × Bool) :=
  names.map fun name => if name.1 = port then (port, true) else name

theorem map_fst_setTrue (port : String) (names : List (String × Bool)) :
    (setTrue port names).map Prod.fst = names.map Prod.fst := by
  rw [setTrue, List.map_map]
  refine List.map_congr_left fun name _ => ?_
  by_cases h : name.1 = port
  · rw [Function.comp_apply, if_pos h, h]
  · rw [Function.comp_apply, if_neg h]

theorem mem_setTrue {port key : String} {value : Bool} (h : port ∈ names.map Prod.fst) :
    (key, value) ∈ setTrue port names ↔
      if key = port then value = true else (key, value) ∈ names := by
  rw [setTrue, List.mem_map]
  constructor
  · rintro ⟨name, hmem, hname⟩
    by_cases hn : name.1 = port
    · rw [if_pos hn] at hname
      cases hname
      rw [if_pos rfl]
    · rw [if_neg hn] at hname
      subst hname
      rwa [if_neg hn]
  · split_ifs with hk
    · rintro rfl
      obtain ⟨name, hmem, hname⟩ := List.mem_map.1 h
      exact ⟨name, hmem, by rw [if_pos hname, hk]⟩
    · intro hmem
      exact ⟨(key, value), hmem, if_neg hk⟩

theorem NamesOf.addPartner (h : NamesOf entries names) (hlink : PartnerLink ep) :
    NamesOf (entries ++ [ep])
      (if CText.strtok ep.d_name '-' ∈ names.map Prod.fst then
        setTrue (CText.strtok ep.d_name '-') names
      else names ++ [(CText.strtok ep.d_name '-', true)]) := by
  generalize hpiece : CText.strtok ep.d_name '-' = port
  have hpartner : ∀ key, IsPartner (entries ++ [ep]) key ↔ IsPartner entries key ∨ key = port :=
    fun key => by simp [isPartner_concat, hlink, hpiece]
  have hport : ∀ key, IsPort (entries ++ [ep]) key ↔ IsPort entries key := fun key => by
    simp [isPort_concat, hlink.2]
  split_ifs with hkey
  · -- the port is known, with or without a partner
    refine ⟨?_, fun key value => ?_⟩
    · rw [map_fst_setTrue]
      exact h.nodup
    · rw [mem_setTrue hkey, hport, hpartner]
      split_ifs with hk
      · simp [hk]
      · simp [hk, h.mem]
  · refine ⟨?_, fun key value => ?_⟩
    · rw [List.map_append, List.map_singleton, ← List.concat_eq_append]
      exact h.nodup.concat hkey
    · rw [List.mem_append, h.mem, List.mem_singleton, Prod.mk.injEq, hport, hpartner]
      by_cases hk : key = port
      · subst hk
        have hold : ¬ (IsPort entries key ∨ IsPartner entries key) := fun hor =>
          hkey (h.mem_keys.2 hor)
        simp [hold]
      · simp [hk]

/-- One pass through the loop. -/
theorem NamesOf.addTypeCName (h : NamesOf entries names) (ep : Dirent) :
    NamesOf (entries ++ [ep]) (addTypeCName names ep) := by
  unfold Usb.addTypeCName
  by_cases hlink : ep.d_type = .lnk
  swap
  · rw [if_pos hlink]
    have hport : ∀ key, IsPort (entries ++ [ep]) key ↔ IsPort entries key := fun key => by
      simp [isPort_concat, hlink]
    have hpartner : ∀ key, IsPartner (entries ++ [ep]) key ↔ IsPartner entries key := fun key => by
      simp [isPartner_concat, PartnerLink, hlink]
    exact h.congr (fun key => by rw [hport, hpartner]) hpartner
  rw [if_neg (not_not.2 hlink)]
  cases hname : CText.contains ep.d_name "-partner" with
  | false =>
    rw [if_pos (show (!false) = true from rfl)]
    exact h.addPort hlink hname
  | true =>
    rw [if_neg (by decide)]
    exact h.addPartner ⟨hlink, hname⟩

/-! ### The map -/

/-- The loop leaves the map of the listing. -/
theorem namesOf_foldl (entries : List Dirent) :
    NamesOf entries (entries.foldl addTypeCName []) := by
  -- in the order of the loop, with the map so far as the accumulator
  induction entries using List.reverseRecOn with
  | nil => exact ⟨List.nodup_nil, by simp [IsPort, IsPartner]⟩
  | append_singleton entries ep ih =>
    rw [List.foldl_append]
    exact ih.addTypeCName ep

theorem NamesOf.perm_entries {entries' : List Dirent} (h : NamesOf entries names)
    (hp : entries'.Perm entries) : NamesOf entries' names := by
  have hport : ∀ key, IsPort entries' key ↔ IsPort entries key := fun key => by
    simp only [IsPort, hp.mem_iff]
  have hpartner : ∀ key, IsPartner entries' key ↔ IsPartner entries key := fun key => by
    simp only [IsPartner, hp.mem_iff]
  exact h.congr (fun key => by rw [hport, hpartner]) hpartner

/-- A listing has one map, up to the order of its pairs. -/
theorem NamesOf.perm {names' : List (String × Bool)} (h : NamesOf entries names)
    (h' : NamesOf entries names') : names'.Perm names :=
  (List.perm_ext_iff_of_nodup (.of_map _ h'.nodup) (.of_map _ h.nodup)).2 fun ⟨key, value⟩ => by
    rw [h.mem, h'.mem]

/-- **The names of the ports** are those of the links, each with whether it has a partner; the
first piece of a partner exists; and a permuted listing gives the same map. -/
theorem getTypeCPortNamesHelper_namesOf (fs : FileSystem) {entries : List Dirent}
    (h : fs.entries kTypecPath = some entries) :
    ∃ names, getTypeCPortNamesHelper fs = some names ∧ NamesOf entries names ∧
      (∀ ep ∈ entries, PartnerLink ep → ∃! piece, FirstPiece ep.d_name piece) ∧
      ∀ fs' : FileSystem, ∀ entries', entries'.Perm entries →
        fs'.entries kTypecPath = some entries' →
          ∃ names', getTypeCPortNamesHelper fs' = some names' ∧ names'.Perm names := by
  refine ⟨entries.foldl addTypeCName [], ?_, namesOf_foldl entries, fun ep _ hlink => ?_, ?_⟩
  · rw [getTypeCPortNamesHelper, h, Option.map_some]
  · exact ⟨_, (firstPiece_iff hlink.2).2 rfl, fun piece => (firstPiece_iff hlink.2).1⟩
  · intro fs' entries' hp h'
    refine ⟨entries'.foldl addTypeCName [], ?_, ?_⟩
    · rw [getTypeCPortNamesHelper, h', Option.map_some]
    · exact ((namesOf_foldl entries).perm_entries hp).perm (namesOf_foldl entries')

/-- A port that is listed between two partners of its own. -/
def partnersAround : List Dirent :=
  [⟨"port0-partner", .lnk⟩, ⟨".", .dir⟩, ⟨"port0", .lnk⟩, ⟨"port0-partner.0", .lnk⟩]

theorem partnersAround_connected : ∃ names,
    getTypeCPortNamesHelper ⟨fun _ => none, fun _ => some partnersAround⟩ = some names ∧
      ("port0", true) ∈ names := by
  obtain ⟨names, hnames, hof, -⟩ := getTypeCPortNamesHelper_namesOf
    ⟨fun _ => none, fun _ => some partnersAround⟩ (rfl : some partnersAround = _)
  have hpartner : IsPartner partnersAround "port0" :=
    ⟨⟨"port0-partner", .lnk⟩, List.mem_cons_self, ⟨rfl, by decide⟩,
      (firstPiece_iff (by decide)).2 (by decide)⟩
  exact ⟨names, hnames, (hof.mem _ _).2 ⟨.inr hpartner, by simp [hpartner]⟩⟩

end PortNames

end Usb

end Gs101
