import Gs101.Lib.Shell
import Mathlib.Data.Rat.Floor

/-!
# UWB factory calibration: one line

`init.uwb.calib.sh` and `init.uwb.calib.xtal.sh` turn the lines `key,value` of a calibration file
into entries of the output file.

* `Script.handleLine`: what a script appends for a line;
* `trims_iff`: the crystal trim is clamped as a value if and only if it needs no clamp: the clamp
  writes the decimal text of 63 behind `0x`;
* `offset_iff`: the PDoA offset is the value times 2048, rounded toward zero, if and only if the
  value is not negative or has no fraction: the fraction is added without the sign.
-/

namespace Gs101

namespace Uwb

open Shell

def kXtal : Text := "UWB_cal_tx_xtal_reg_final_value".toList
def kCh5Tx : Text := "UWB_TX1RX1_CH5_tx_ant_delay_cal_data".toList
def kCh5Rx : Text := "UWB_TX1RX1_CH5_rx_ant_delay_cal_data".toList
def kCh9Tx : Text := "UWB_TX1RX1_CH9_tx_ant_delay_cal_data".toList
def kCh9Rx : Text := "UWB_TX1RX1_CH9_rx_ant_delay_cal_data".toList
def kCh5Pdoa : Text := "UWB_RX2_CH5_cal_pdoa_data".toList
def kCh9Pdoa : Text := "UWB_RX2_CH9_cal_pdoa_data".toList

/-- The texts in front of the values in the output file. -/
def xtalTrim : Text := "xtal_trim=0x".toList
def ant0Ch5 : Text := "ant0.ch5.prf64.ant_delay=0x".toList
def ant1Ch5 : Text := "ant1.ch5.prf64.ant_delay=0x".toList
def ant0Ch9 : Text := "ant0.ch9.prf64.ant_delay=0x".toList
def ant1Ch9 : Text := "ant1.ch9.prf64.ant_delay=0x".toList
def pdoaCh5 : Text := "ant1.ant3.ch5.pdoa_offset=".toList
def pdoaCh9 : Text := "ant1.ant3.ch9.pdoa_offset=".toList

variable (S : Shell)

/-- The case of the crystal trim.  `none` is an arithmetic error, which ends the script. -/
def handleXtal (f2 : Text) : Option (List Text) := do
  let value ← S.arith ("0x".toList ++ f2)
  let f2 := if value > 63 then "63".toList else f2
  return [xtalTrim ++ S.words f2]

/-- A case of an antenna delay. -/
def handleDelay (entry f2 : Text) : Option (List Text) := some [entry ++ S.words f2]

/-- A case of a PDoA offset. -/
def handlePdoa (entry f2 : Text) : Option (List Text) := do
  let base := "2048".toList
  let ones ← S.arith (beforeDot f2 ++ '*' :: base)
  if (afterDot f2).length = 2 then do
    let dec ← S.arith (afterDot f2 ++ '*' :: base ++ '/' :: "100".toList)
    let offset ← S.arith (decimal ones ++ '+' :: decimal dec)
    return [entry ++ decimal offset]
  else return []

/-- The two scripts. -/
inductive Script
  /-- `init.uwb.calib.sh` -/
  | calib
  /-- `init.uwb.calib.xtal.sh` -/
  | calibXtal
  deriving DecidableEq

namespace Script

/-- The argument of `chmod`. -/
def mode : Script → ℕ
  | calib => 0o600
  | calibXtal => 0o644

/-- The entries that the `case` appends. -/
def handle (f1 f2 : Text) : Script → Option (List Text)
  | calib =>
      if f1 = kXtal then handleXtal S f2
      else if f1 = kCh5Tx then handleDelay S ant0Ch5 f2
      else if f1 = kCh5Rx then handleDelay S ant1Ch5 f2
      else if f1 = kCh9Tx then handleDelay S ant0Ch9 f2
      else if f1 = kCh9Rx then handleDelay S ant1Ch9 f2
      else if f1 = kCh5Pdoa then handlePdoa S pdoaCh5 f2
      else if f1 = kCh9Pdoa then handlePdoa S pdoaCh9 f2
      else some []
  | calibXtal => if f1 = kXtal then handleXtal S f2 else some []

/-- The body of the loop. -/
def handleLine (line : Text) (script : Script) : Option (List Text) :=
  script.handle S (S.readFields line).1 (S.readFields line).2

/-- The entries for these lines, up to an arithmetic error. -/
def entries (script : Script) : List Text → List Text
  | [] => []
  | line :: rest =>
      match script.handleLine S line with
      | some es => es ++ entries script rest
      | none => []

end Script

/-! ### The crystal trim -/

/-- A value in hexadecimal digits. -/
structure HexText where
  text : Text
  isHex : IsHex text

/-- What a script emits for the trim denotes the value, at most 63. -/
def Trims (f2 : HexText) (script : Script) : Prop :=
  ∃ h : HexText, script.handleLine S (kXtal ++ ',' :: f2.text) = some [xtalTrim ++ h.text] ∧
    hexValue h.text = min (hexValue f2.text) 63

variable {S}

theorem entry_inj {out a b : Text} : some [out ++ a] = some [out ++ b] ↔ a = b := by
  simp

theorem comma_not_mem {t : Text} (h : ∀ c ∈ t, c.isAlphanum = true) : ',' ∉ t :=
  fun hc => absurd (h ',' hc) (by decide)

theorem handleXtal_hex {t : Text} (h : IsHex t) :
    handleXtal S t =
      some [xtalTrim ++ if S.wrap (hexValue t) > 63 then "63".toList else t] := by
  have harith : S.arith ("0x".toList ++ t) = some (S.wrap (hexValue t)) :=
    arith_number (number_hex h)
  simp only [handleXtal, harith, Option.bind_eq_bind, Option.bind_some, Option.pure_def]
  split_ifs
  · rfl
  · rw [words_of_isAlphanum h.isAlphanum]

/-- The two scripts emit the same trim. -/
theorem handleLine_xtal (f2 : HexText) (script : Script) :
    script.handleLine S (kXtal ++ ',' :: f2.text) =
      some [xtalTrim ++ if S.wrap (hexValue f2.text) > 63 then "63".toList else f2.text] := by
  unfold Script.handleLine
  rw [readFields_append (by decide) (comma_not_mem f2.isHex.isAlphanum)]
  cases script
  · simp only [Script.handle, if_true, handleXtal_hex f2.isHex]
  · simp only [Script.handle, if_true, handleXtal_hex f2.isHex]

theorem wrap_of_le {n : ℕ} (h : n ≤ 63) : S.wrap n = n :=
  wrap_of_fits (fits_of_lt (by omega) (by omega))

/-- **The trim is clamped as a value** if and only if it needs no clamp. -/
theorem trims_iff (S : Shell) (f2 : HexText) (script : Script) :
    Trims S f2 script ↔ hexValue f2.text ≤ 63 := by
  unfold Trims
  rw [handleLine_xtal]
  split_ifs with hclamp
  · refine iff_of_false ?_ fun hle => ?_
    · rintro ⟨h, heq, hmin⟩
      have htext : "63".toList = h.text := entry_inj.1 heq
      have hninety : hexValue "63".toList = 99 := by decide
      rw [← htext, hninety] at hmin
      omega
    · rw [wrap_of_le hle] at hclamp
      omega
  · constructor
    · rintro ⟨h, heq, hmin⟩
      have htext : f2.text = h.text := entry_inj.1 heq
      rw [← htext] at hmin
      omega
    · intro hle
      exact ⟨f2, rfl, (min_eq_left hle).symm⟩

/-- `0x40` is 64, and the script emits `0x63`. -/
theorem sixtyFour_not_trimmed : ¬ Trims .narrow ⟨"40".toList, by decide⟩ .calib := by
  rintro ⟨h, heq, hmin⟩
  have hline : Script.calib.handleLine .narrow (kXtal ++ ',' :: "40".toList) =
      some [xtalTrim ++ "63".toList] := by decide
  have htext : "63".toList = h.text := entry_inj.1 (hline.symm.trans heq)
  rw [← htext] at hmin
  revert hmin
  decide

/-! ### The PDoA offset -/

/-- A signed decimal with two digits behind the point. -/
structure DecimalText where
  neg : Bool
  ones : Text
  dec : Text
  isOnes : IsDec ones
  isDec : IsDec dec
  two : dec.length = 2

namespace DecimalText

/-- The text in front of the point. -/
def signed (v : DecimalText) : Text := if v.neg then '-' :: v.ones else v.ones

def text (v : DecimalText) : Text := v.signed ++ '.' :: v.dec

def sign (v : DecimalText) : ℤ := if v.neg then -1 else 1

def value (v : DecimalText) : ℚ := v.sign * (decValue v.ones + decValue v.dec / 100)

end DecimalText

/-- Rounding toward zero. -/
def truncate (q : ℚ) : ℤ := if 0 ≤ q then ⌊q⌋ else ⌈q⌉

/-- The offset that a value stands for. -/
def DecimalText.offset (v : DecimalText) : ℤ := truncate (v.value * 2048)

inductive Channel
  | ch5
  | ch9
  deriving DecidableEq

namespace Channel

def key : Channel → Text
  | ch5 => kCh5Pdoa
  | ch9 => kCh9Pdoa

def entry : Channel → Text
  | ch5 => pdoaCh5
  | ch9 => pdoaCh9

end Channel

theorem truncate_neg (q : ℚ) : truncate (-q) = -truncate q := by
  unfold truncate
  rcases lt_trichotomy q 0 with h | rfl | h
  · rw [if_pos (by linarith), if_neg (by linarith), Int.floor_neg]
  · simp
  · rw [if_neg (by linarith), if_pos h.le, Int.ceil_neg]

theorem truncate_div (n d : ℕ) : truncate ((n : ℚ) / d) = (n / d : ℕ) := by
  rw [truncate, if_pos (by positivity), Rat.floor_natCast_div_natCast, Int.natCast_ediv]

/-- The offset in integers. -/
theorem DecimalText.offset_eq (v : DecimalText) :
    v.offset = v.sign * (decValue v.ones * 2048 + decValue v.dec * 2048 / 100 : ℕ) := by
  have hdiv : (decValue v.ones * 100 + decValue v.dec) * 2048 / 100 =
      decValue v.ones * 2048 + decValue v.dec * 2048 / 100 := by
    have hmul : (decValue v.ones * 100 + decValue v.dec) * 2048 =
        decValue v.dec * 2048 + decValue v.ones * 2048 * 100 := by ring
    rw [hmul, Nat.add_mul_div_right _ _ (by decide), add_comm]
  have hval : v.value * 2048 =
      v.sign * ((((decValue v.ones * 100 + decValue v.dec) * 2048 : ℕ) : ℚ) / (100 : ℕ)) := by
    unfold value
    push_cast
    ring
  unfold offset
  rw [hval]
  unfold sign
  split_ifs
  · rw [Int.cast_neg, Int.cast_one, neg_one_mul, truncate_neg, truncate_div, neg_one_mul, hdiv]
  · rw [Int.cast_one, one_mul, truncate_div, one_mul, hdiv]

theorem DecimalText.number_signed (v : DecimalText) :
    number v.signed = some (v.sign * decValue v.ones) := by
  unfold signed sign
  split_ifs
  · rw [number_neg v.isOnes, neg_one_mul]
  · rw [number_dec v.isOnes, one_mul]

theorem DecimalText.dec_lt (v : DecimalText) : decValue v.dec < 100 := by
  have h := decValue_lt v.isDec.2
  rwa [v.two] at h

/-- The two summands that the script computes. -/
theorem handlePdoa_decimal (entry : Text) (v : DecimalText) :
    handlePdoa S entry v.text =
      some [entry ++ decimal (S.wrap (S.wrap (v.sign * decValue v.ones * 2048) +
        (decValue v.dec * 2048 / 100 : ℕ)))] := by
  have hsigned : '.' ∉ v.signed := not_mem_of_number v.number_signed (by decide) (by decide)
  have hdec : '.' ∉ v.dec := not_mem_of_number (number_dec v.isDec) (by decide) (by decide)
  have hlt : decValue v.dec < 100 := v.dec_lt
  have hones : S.arith (v.signed ++ '*' :: "2048".toList) =
      some (S.wrap (v.sign * decValue v.ones * 2048)) := by
    rw [arith_mul v.number_signed (y := 2048) (by decide), wrap_wrap_mul_wrap]
  have hquot : S.wrap ((decValue v.dec * 2048 / 100 : ℕ) : ℤ) =
      (decValue v.dec * 2048 / 100 : ℕ) := wrap_of_fits (fits_of_lt (by omega) (by omega))
  have hfrac : S.arith (v.dec ++ '*' :: "2048".toList ++ '/' :: "100".toList) =
      some ((decValue v.dec * 2048 / 100 : ℕ) : ℤ) := by
    have hprod : S.Fits (decValue v.dec * 2048 : ℤ) := fits_of_lt (by omega) (by omega)
    have hhundred : S.wrap 100 = 100 := wrap_of_fits (fits_of_lt (by decide) (by decide))
    rw [arith_mul_div (number_dec v.isDec) (y := 2048) (z := 100) (by decide) (by decide)
      (by rw [hhundred]; decide), wrap_wrap_mul_wrap, wrap_of_fits hprod, hhundred,
      Int.tdiv_eq_ediv_of_nonneg (by positivity)]
    exact congrArg some hquot
  have hsum : S.arith (decimal (S.wrap (v.sign * decValue v.ones * 2048)) ++
      '+' :: decimal (decValue v.dec * 2048 / 100 : ℕ)) =
      some (S.wrap (S.wrap (v.sign * decValue v.ones * 2048) +
        (decValue v.dec * 2048 / 100 : ℕ))) := by
    rw [arith_add (number_decimal _) (number_decimal _), wrap_wrap, hquot]
  simp only [handlePdoa, DecimalText.text, beforeDot_append hsigned, afterDot_append hsigned hdec,
    v.two, if_true, hones, hfrac, hsum, Option.bind_eq_bind, Option.bind_some, Option.pure_def]

/-- The fraction is added without the sign. -/
theorem handlePdoa_of_fits (entry : Text) (v : DecimalText) (h : S.Fits v.offset) :
    handlePdoa S entry v.text =
      some [entry ++ decimal (v.sign * decValue v.ones * 2048 +
        (decValue v.dec * 2048 / 100 : ℕ))] := by
  have hpow := two_pow_le S
  have hlt : decValue v.dec < 100 := v.dec_lt
  rw [DecimalText.offset_eq] at h
  obtain ⟨hle, hge⟩ := h
  have hones : S.Fits (v.sign * decValue v.ones * 2048) := by
    unfold DecimalText.sign at hle hge ⊢
    split_ifs at hle hge ⊢
    · exact ⟨by omega, by omega⟩
    · exact ⟨by omega, by omega⟩
  have hsum : S.Fits (v.sign * decValue v.ones * 2048 + (decValue v.dec * 2048 / 100 : ℕ)) := by
    unfold DecimalText.sign at hle hge ⊢
    split_ifs at hle hge ⊢
    · exact ⟨by omega, by omega⟩
    · exact ⟨by omega, by omega⟩
  rw [handlePdoa_decimal, wrap_of_fits hones, wrap_of_fits hsum]

theorem DecimalText.comma_not_mem_text (v : DecimalText) : ',' ∉ v.text := by
  unfold DecimalText.text
  rw [List.mem_append, List.mem_cons, not_or, not_or]
  exact ⟨not_mem_of_number v.number_signed (by decide) (by decide), by decide,
    comma_not_mem v.isDec.isAlphanum⟩

theorem handleLine_pdoa (ch : Channel) (v : DecimalText) :
    Script.calib.handleLine S (ch.key ++ ',' :: v.text) = handlePdoa S ch.entry v.text := by
  have hkey : ',' ∉ ch.key := by cases ch <;> decide
  unfold Script.handleLine
  rw [readFields_append hkey v.comma_not_mem_text]
  cases ch <;> rfl

/-- **The offset is the value times 2048**, rounded toward zero, if and only if the value is not
negative or has no fraction. -/
theorem offset_iff (S : Shell) (ch : Channel) (v : DecimalText) (h : S.Fits v.offset) :
    Script.calib.handleLine S (ch.key ++ ',' :: v.text) = some [ch.entry ++ decimal v.offset] ↔
      ¬ (v.neg = true ∧ decValue v.dec ≠ 0) := by
  have hlt : decValue v.dec < 100 := v.dec_lt
  have hsame : v.sign * decValue v.ones * 2048 + (decValue v.dec * 2048 / 100 : ℕ) = v.offset ↔
      ¬ (v.neg = true ∧ decValue v.dec ≠ 0) := by
    rw [DecimalText.offset_eq]
    unfold DecimalText.sign
    cases v.neg
    · simp only [Bool.false_eq_true, if_false, false_and, not_false_eq_true, iff_true]
      omega
    · simp only [if_true, true_and, not_not]
      omega
  rw [handleLine_pdoa, handlePdoa_of_fits _ _ h, entry_inj, decimal_injective.eq_iff, hsame]

/-- The value 1.25. -/
def oneQuarter : DecimalText where
  neg := false
  ones := "1".toList
  dec := "25".toList
  isOnes := by decide
  isDec := by decide
  two := rfl

theorem offset_oneQuarter :
    Script.calib.handleLine .narrow (Channel.ch5.key ++ ',' :: oneQuarter.text) =
      some [Channel.ch5.entry ++ decimal oneQuarter.offset] :=
  (offset_iff .narrow .ch5 oneQuarter
    (by rw [DecimalText.offset_eq]; exact ⟨by decide, by decide⟩)).2 (by decide)

/-- The value -0.50. -/
def minusHalf : DecimalText where
  neg := true
  ones := "0".toList
  dec := "50".toList
  isOnes := by decide
  isDec := by decide
  two := rfl

/-- The offset of -0.50 is -1024, and the script writes 1024. -/
theorem minusHalf_differs :
    narrow.Fits minusHalf.offset ∧
      Script.calib.handleLine .narrow (Channel.ch5.key ++ ',' :: minusHalf.text) ≠
        some [Channel.ch5.entry ++ decimal minusHalf.offset] := by
  rw [DecimalText.offset_eq]
  exact ⟨⟨by decide, by decide⟩, by decide⟩

end Uwb

end Gs101
