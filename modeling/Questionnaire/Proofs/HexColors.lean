import Mathlib.Data.Bool.AllAny
import Questionnaire.Literal.Color
import Questionnaire.Proofs.LowercaseWords
import Questionnaire.Proofs.RoundedArithmetic
import Questionnaire.Proofs.VisibleText

/-!
# Hexadecimal colors

A color of six hexadecimal digits is read from its lowercase form.  Only the digits
themselves have digits as lowercase forms, so nothing else is taken for one, and the case of
the digits does not show.  A channel is a rounded part of 255; 255 times the channel is
rounded again, but both errors together are far below a half, so the byte comes back.

## Main definitions

* `Text.hexAlphabet`, `Text.digitValue` — the digits of either case and their values.
* `Text.byteValue` — the byte of two digits.

## Main results

* `Text.mem_hexAlphabet_of_lowercaseFrom` — a text whose lowercase form has only digits has
  only digits.
* `Color.byteOfChannel_channelOfByte` — **a byte is read back from its channel.**
* `Color.ofHex?_lowercase` — the case of the digits does not show.
* `Color.hex_colors_are_read_exactly` — which texts are colors of six digits, and that they
  are written back.
-/

namespace Questionnaire

namespace Text

/-! ### The digits -/

/-- The hexadecimal digits of either case. -/
def hexAlphabet : Text := "0123456789abcdefABCDEF".toList

/-- The value of a hexadecimal digit: its place in the order of the digits. -/
def digitValue (c : Char) : Nat := "0123456789abcdef".toList.idxOf c.toLower

/-- The byte of two hexadecimal digits. -/
def byteValue (high low : Char) : Nat := 16 * digitValue high + digitValue low

theorem digitValue_lt : ∀ c ∈ hexAlphabet, digitValue c < 16 :=
  List.all_iff_forall_prop.mp (by decide)

theorem digitChar_digitValue : ∀ c ∈ hexAlphabet, Nat.digitChar (digitValue c) = c.toLower :=
  List.all_iff_forall_prop.mp (by decide)

theorem toLower_mem_hexAlphabet : ∀ c ∈ hexAlphabet, c.toLower ∈ hexAlphabet :=
  List.all_iff_forall_prop.mp (by decide)

theorem digitValue_toLower : ∀ c ∈ hexAlphabet, digitValue c.toLower = digitValue c :=
  List.all_iff_forall_prop.mp (by decide)

theorem lowerChar_of_mem_hexAlphabet : ∀ c ∈ hexAlphabet, lowerChar c = [c.toLower] :=
  List.all_iff_forall_prop.mp (by decide)

theorem toNat_lt_of_mem_hexAlphabet : ∀ c ∈ hexAlphabet, c.toNat < 0x67 :=
  List.all_iff_forall_prop.mp (by decide)

theorem solid_hexAlphabet : Solid hexAlphabet :=
  List.all_iff_forall_prop.mp (by decide)

theorem not_mem_specialForms_of_mem_hexAlphabet : ∀ c ∈ hexAlphabet, c ∉ specialForms :=
  List.all_iff_forall_prop.mp (by decide)

/-- A text without blanks has none at its ends. -/
theorem trim_of_solid {t : Text} (hsolid : Solid t) (hne : t ≠ []) : trim t = t := by
  have h := strip_append (v := []) hne (fun x hx => hsolid x (List.mem_of_mem_head? hx))
    (fun x hx => hsolid x (List.mem_of_mem_getLast? hx)) (fun x hx => absurd hx List.not_mem_nil)
  rwa [List.append_nil] at h

theorem byteValue_le {a b : Char} (ha : a ∈ hexAlphabet) (hb : b ∈ hexAlphabet) :
    byteValue a b ≤ 255 := by
  have := digitValue_lt a ha
  have := digitValue_lt b hb
  unfold byteValue
  omega

theorem hexDigit?_eq_none {c : Char} (h : 0x67 ≤ c.toNat) : hexDigit? c = none := by
  have hle : ∀ d : Char, d.toNat < 0x67 → decide (c ≤ d) = false := by
    intro d hd
    refine decide_eq_false fun hcd => ?_
    have : c.toNat ≤ d.toNat := UInt32.le_iff_toNat_le.mp hcd
    omega
  have hdigit : c.isDigit = false := by
    have hnine : decide (c.val ≤ '9'.val) = false := hle '9' (by decide)
    rw [Char.isDigit, hnine, Bool.and_false]
  rw [hexDigit?, hdigit, hle 'f' (by decide), hle 'F' (by decide)]
  simp

theorem hexDigit?_checked : ∀ code < 0x67, hexDigit? (Char.ofNat code) =
    if Char.ofNat code ∈ hexAlphabet then some (digitValue (Char.ofNat code)) else none := by
  decide

/-- Digits are the characters of the alphabet. -/
theorem hexDigit?_eq (c : Char) :
    hexDigit? c = if c ∈ hexAlphabet then some (digitValue c) else none := by
  by_cases hc : c.toNat < 0x67
  · have h := hexDigit?_checked c.toNat hc
    rwa [Char.ofNat_toNat] at h
  · rw [hexDigit?_eq_none (Nat.le_of_not_lt hc),
      if_neg fun hmem => hc (toNat_lt_of_mem_hexAlphabet c hmem)]

/-- A text of digits is read as the row of their values, and no other text is read. -/
theorem mapM_hexDigit?_eq_some_iff {t : Text} {values : List Nat} :
    t.mapM hexDigit? = some values ↔
      (∀ c ∈ t, c ∈ hexAlphabet) ∧ t.map digitValue = values := by
  induction t generalizing values with
  | nil => simp
  | cons c t ih =>
    rw [List.mapM_cons, hexDigit?_eq]
    by_cases hc : c ∈ hexAlphabet
    · simp [hc, ih, Option.bind_eq_some_iff, and_assoc]
    · simp [hc]

/-! ### Lowercase forms -/

/-- The ASCII capitals, as a run of the table. -/
def asciiCapitals : CaseRun := ⟨0x41, 0x5a, 1, 0x61⟩

theorem lowercaseRuns_hex :
    (lowercaseRuns.all fun run => 0x67 ≤ run.image || run == asciiCapitals) = true := by
  decide

theorem asciiCapitals_hex : ∀ code ≤ 0x5a, asciiCapitals.holds code = true →
    Char.ofNat (asciiCapitals.lower code) ∈ hexAlphabet → Char.ofNat code ∈ hexAlphabet := by
  decide

/-- Only digits have digits as lowercase forms. -/
theorem mem_hexAlphabet_of_mem_lowerChar {c d : Char} (h : d ∈ lowerChar c)
    (hd : d ∈ hexAlphabet) : c ∈ hexAlphabet := by
  rcases mem_lowerChar h with hspecial | ⟨rfl, -⟩ | ⟨run, hrun, hholds, hform⟩
  · exact absurd hspecial (not_mem_specialForms_of_mem_hexAlphabet d hd)
  · exact hd
  · -- no other run has forms below the letter g
    have hcode : run.lower c.toNat < 0x67 := by
      rw [← toNat_ofNat_lower hrun hholds, ← hform]
      exact toNat_lt_of_mem_hexAlphabet d hd
    have himage : run.image < 0x67 := (CaseRun.lower_le hholds).1.trans_lt hcode
    have hrow := List.all_eq_true.mp lowercaseRuns_hex run hrun
    simp only [Bool.or_eq_true, decide_eq_true_eq, beq_iff_eq] at hrow
    obtain rfl := hrow.resolve_left (not_le.mpr himage)
    have hletter := asciiCapitals_hex c.toNat (CaseRun.holds_iff.mp hholds).2.1 hholds (hform ▸ hd)
    rwa [Char.ofNat_toNat] at hletter

/-- **A text whose lowercase form has only digits has only digits.** -/
theorem mem_hexAlphabet_of_lowercaseFrom {t : Text} {casedBefore : Bool}
    (h : ∀ d ∈ lowercaseFrom casedBefore t, d ∈ hexAlphabet) : ∀ c ∈ t, c ∈ hexAlphabet := by
  induction t generalizing casedBefore with
  | nil => exact fun c hc => absurd hc List.not_mem_nil
  | cons c t ih =>
    rw [lowercaseFrom_cons, List.forall_mem_append] at h
    obtain ⟨hhead, hrest⟩ := h
    refine List.forall_mem_cons.mpr ⟨?_, ih hrest⟩
    split_ifs at hhead
    · exact absurd (hhead 'ς' (List.mem_singleton_self _)) (by decide)
    · obtain ⟨d, hd⟩ := List.exists_mem_of_ne_nil _ (lowerChar_ne_nil c)
      exact mem_hexAlphabet_of_mem_lowerChar hd (hhead d hd)

/-- Digits are lowercased by ASCII rules. -/
theorem lowercaseFrom_of_hexAlphabet {t : Text} (h : ∀ c ∈ t, c ∈ hexAlphabet)
    (casedBefore : Bool) : lowercaseFrom casedBefore t = asciiLowercase t := by
  induction t generalizing casedBefore with
  | nil => rfl
  | cons c t ih =>
    obtain ⟨hc, ht⟩ := List.forall_mem_cons.mp h
    have hsigma : c ≠ 'Σ' := by
      rintro rfl
      exact absurd hc (by decide)
    rw [lowercaseFrom_cons, ih ht, lowerChar_of_mem_hexAlphabet c hc, decide_eq_false hsigma]
    rfl

theorem mem_hexAlphabet_of_mem_asciiLowercase {t : Text} (h : ∀ c ∈ t, c ∈ hexAlphabet) :
    ∀ c ∈ asciiLowercase t, c ∈ hexAlphabet :=
  List.forall_mem_map.mpr fun c hc => toLower_mem_hexAlphabet c (h c hc)

theorem map_digitValue_asciiLowercase {t : Text} (h : ∀ c ∈ t, c ∈ hexAlphabet) :
    (asciiLowercase t).map digitValue = t.map digitValue := by
  rw [asciiLowercase, List.map_map]
  exact List.map_congr_left fun c hc => digitValue_toLower c (h c hc)

/-- The case of digits does not show in their values. -/
theorem mapM_hexDigit?_lowercase (t : Text) :
    (lowercase t).mapM hexDigit? = t.mapM hexDigit? := by
  refine Option.ext fun values => ?_
  rw [mapM_hexDigit?_eq_some_iff, mapM_hexDigit?_eq_some_iff]
  constructor
  · rintro ⟨hlower, rfl⟩
    have h : ∀ c ∈ t, c ∈ hexAlphabet := mem_hexAlphabet_of_lowercaseFrom hlower
    rw [lowercase, lowercaseFrom_of_hexAlphabet h]
    exact ⟨h, (map_digitValue_asciiLowercase h).symm⟩
  · rintro ⟨h, rfl⟩
    rw [lowercase, lowercaseFrom_of_hexAlphabet h]
    exact ⟨mem_hexAlphabet_of_mem_asciiLowercase h, map_digitValue_asciiLowercase h⟩

/-- A number sign stands apart from the case of what follows it. -/
theorem lowercase_number_sign (t : Text) : lowercase ('#' :: t) = '#' :: lowercase t := by
  have hform : lowerChar '#' = ['#'] := by decide
  have hafter : casedAfter false '#' = false := by decide +kernel
  rw [lowercase, lowercaseFrom_cons, hform, hafter]
  rfl

/-- A byte is written as its two digits in lowercase. -/
theorem pad_hexDigits_byteValue {a b : Char} (ha : a ∈ hexAlphabet) (hb : b ∈ hexAlphabet) :
    Numeral.pad '0' 2 (hexDigits (byteValue a b)) = [a.toLower, b.toLower] := by
  have hlow := digitValue_lt b hb
  rw [← digitChar_digitValue a ha, ← digitChar_digitValue b hb]
  unfold byteValue
  rcases Nat.eq_zero_or_pos (digitValue a) with hzero | hpos
  · rw [hzero, Nat.mul_zero, Nat.zero_add, hexDigits_of_lt hlow]
    rfl
  · have hdiv : (16 * digitValue a + digitValue b) / 16 = digitValue a := by omega
    have hmod : (16 * digitValue a + digitValue b) % 16 = digitValue b := by omega
    rw [hexDigits_of_le (by omega), hdiv, hmod, hexDigits_of_lt (digitValue_lt a ha)]
    rfl

end Text

namespace Color

open Text Binary64

/-! ### Bytes and channels -/

variable {n : ℕ}

theorem channelOfByte_represents (hn : n ≤ 255) :
    Represents (channelOfByte n) (nearest (n / 255)) := by
  have hnumber := ofNat_represents_of_exact (exact_natCast (hn.trans (by norm_num)))
  have hwhole := ofNat_represents_of_exact (exact_natCast (n := 255) (by norm_num))
  exact hnumber.div hwhole (by norm_num) (natCast_lt_beyond (hn.trans (by norm_num)))
    (natCast_lt_beyond (by norm_num))

theorem nearest_channel_le (hn : n ≤ 255) : nearest (n / 255) ≤ 1 := by
  have hle : (n : ℚ) / 255 ≤ (1 : ℕ) := by
    rw [Nat.cast_one, div_le_one (by norm_num)]
    exact_mod_cast hn
  rw [← Nat.cast_one]
  exact nearest_le_of_exact (by positivity) (exact_natCast (by norm_num)) hle

theorem exact_quarters {m : ℕ} (hm : m ≤ 2 ^ 53) : Exact (m / 4) :=
  ⟨m, -2, hm, by norm_num, by norm_num [div_eq_mul_inv]⟩

/-- Both ends of the stretch around a byte are exact, so rounding does not leave it. -/
theorem abs_nearest_sub_le_quarter {x : ℚ} (hx : 0 ≤ x) (hn : n ≤ 255) (h : |x - n| ≤ 1 / 4) :
    |nearest x - n| ≤ 1 / 4 := by
  obtain ⟨hlower, hupper⟩ := abs_le.mp h
  rw [abs_le]
  constructor
  · rcases Nat.eq_zero_or_pos n with rfl | hpos
    · have := nearest_nonneg x
      rw [Nat.cast_zero]
      linarith
    · have hvalue : ((4 * n - 1 : ℕ) : ℚ) / 4 = n - 1 / 4 := by
        rw [Nat.cast_sub (by omega)]
        push_cast
        ring
      have hle : ((4 * n - 1 : ℕ) : ℚ) / 4 ≤ nearest x :=
        le_nearest_of_exact (exact_quarters (by omega)) (by linarith)
      linarith
  · have hvalue : ((4 * n + 1 : ℕ) : ℚ) / 4 = n + 1 / 4 := by
      push_cast
      ring
    have hle : nearest x ≤ ((4 * n + 1 : ℕ) : ℚ) / 4 :=
      nearest_le_of_exact hx (exact_quarters (by omega)) (by linarith)
    linarith

/-- A channel times 255 is near the byte, before it is rounded and behind it. -/
theorem abs_product_sub_le (hn : n ≤ 255) :
    |nearest (nearest (n / 255) * (255 : ℕ)) - n| ≤ 1 / 4 := by
  have hwhole : (n : ℚ) / 255 * (255 : ℕ) = n := div_mul_cancel₀ _ (by norm_num)
  have hn' : (n : ℚ) ≤ 255 := by exact_mod_cast hn
  have hclose : |nearest (n / 255) * (255 : ℕ) - (n : ℚ)| < 255 / 2 ^ 53 :=
    abs_nearest_mul_sub_lt hwhole (by norm_num) hn' (by norm_num)
  refine abs_nearest_sub_le_quarter ?_ hn (hclose.le.trans (by norm_num))
  exact mul_nonneg (nearest_nonneg _) (Nat.cast_nonneg _)

/-- **A byte is read back from its channel.** -/
theorem byteOfChannel_channelOfByte (hn : n ≤ 255) : byteOfChannel (channelOfByte n) = n := by
  have hchannel := channelOfByte_represents hn
  have hwhole := ofNat_represents_of_exact (exact_natCast (n := 255) (by norm_num))
  have hproduct := hchannel.mul hwhole (by norm_num) (natCast_lt_beyond (by norm_num))
  obtain ⟨hlower, hupper⟩ := abs_le.mp (abs_product_sub_le hn)
  have hfinite : nearest (nearest (n / 255) * (255 : ℕ)) < beyond := by
    refine lt_of_lt_of_le (b := ((n + 1 : ℕ) : ℚ)) ?_ (natCast_lt_beyond (by omega)).le
    push_cast
    linarith
  have hnonneg := hproduct.nonneg
  rw [byteOfChannel, hchannel.clampUnit_eq (nearest_channel_le hn),
    hproduct.toNatBy_roundHalfUp hfinite, Nat.floor_eq_iff (by linarith)]
  constructor <;> linarith

theorem toBytes_ofBytes {red green blue : ℕ} (hred : red ≤ 255) (hgreen : green ≤ 255)
    (hblue : blue ≤ 255) : (ofBytes red green blue).toBytes = [red, green, blue] := by
  simp only [toBytes, ofBytes, byteOfChannel_channelOfByte hred,
    byteOfChannel_channelOfByte hgreen, byteOfChannel_channelOfByte hblue]

/-! ### Six digits -/

theorem exists_of_length_six {α : Type} {l : List α} (h : l.length = 6) :
    ∃ a b c d e f, l = [a, b, c, d, e, f] :=
  match l, h with
  | [a, b, c, d, e, f], _ => ⟨a, b, c, d, e, f, rfl⟩

variable {a b c d e f : Char} {digits t : Text} {color : Color}

theorem ofHex?_of_digits (h : ∀ x ∈ [a, b, c, d, e, f], x ∈ hexAlphabet) :
    ofHex? [a, b, c, d, e, f] =
      some (ofBytes (byteValue a b) (byteValue c d) (byteValue e f)) := by
  rw [ofHex?, mapM_hexDigit?_eq_some_iff.mpr ⟨h, rfl⟩]
  rfl

/-- Only six digits make up a color. -/
theorem digits_of_ofHex? (h : ofHex? digits = some color) :
    digits.length = 6 ∧ ∀ x ∈ digits, x ∈ hexAlphabet := by
  rw [ofHex?] at h
  split at h
  · next hvalues =>
    obtain ⟨hall, hmap⟩ := mapM_hexDigit?_eq_some_iff.mp hvalues
    have hlength := congrArg List.length hmap
    rw [List.length_map] at hlength
    exact ⟨hlength, hall⟩
  · cases h

/-- The case of the digits does not show in the color. -/
theorem ofHex?_lowercase (digits : Text) : ofHex? (lowercase digits) = ofHex? digits := by
  rw [ofHex?, ofHex?, mapM_hexDigit?_lowercase]

theorem toBytes_of_digits (h : ∀ x ∈ [a, b, c, d, e, f], x ∈ hexAlphabet) :
    (ofBytes (byteValue a b) (byteValue c d) (byteValue e f)).toBytes =
      [byteValue a b, byteValue c d, byteValue e f] := by
  simp only [List.forall_mem_cons] at h
  obtain ⟨ha, hb, hc, hd, he, hf, -⟩ := h
  exact toBytes_ofBytes (byteValue_le ha hb) (byteValue_le hc hd) (byteValue_le he hf)

/-- A color of six digits is written in these digits. -/
theorem hex_ofBytes (h : ∀ x ∈ [a, b, c, d, e, f], x ∈ hexAlphabet) :
    (ofBytes (byteValue a b) (byteValue c d) (byteValue e f)).hex =
      '#' :: asciiLowercase [a, b, c, d, e, f] := by
  rw [hex, toBytes_of_digits h]
  simp only [List.forall_mem_cons] at h
  obtain ⟨ha, hb, hc, hd, he, hf, -⟩ := h
  simp only [List.flatMap_cons, List.flatMap_nil, pad_hexDigits_byteValue, ha, hb, hc, hd, he, hf]
  rfl

/-! ### Reading -/

/-- A text behind a number sign is a color if it is made up of six digits. -/
theorem read_eq_ok_iff (h : trim t = '#' :: digits) :
    read t = .ok color ↔ ofHex? digits = some color := by
  rw [read, h, lowercase_number_sign]
  simp only [ofHex?_lowercase]
  cases ofHex? digits <;> simp

/-- A color that is written in its digits is read again. -/
theorem read_number_sign_asciiLowercase (h : ∀ x ∈ digits, x ∈ hexAlphabet)
    (hcolor : ofHex? digits = some color) :
    read ('#' :: asciiLowercase digits) = .ok color := by
  have hsolid : Solid ('#' :: asciiLowercase digits) := by
    refine solid_cons.mpr ⟨by decide, fun x hx => ?_⟩
    exact solid_hexAlphabet x (mem_hexAlphabet_of_mem_asciiLowercase h x hx)
  rw [read_eq_ok_iff (trim_of_solid hsolid (List.cons_ne_nil _ _)), ← ofHex?_lowercase,
    lowercase_asciiLowercase, ofHex?_lowercase, hcolor]

/-- **Colors of six digits are read exactly and written back.**  A text that begins with a
number sign is a color if six hexadecimal digits follow and nothing else; its bytes are those
of the digits, and it is written in lowercase digits, from which it is read again. -/
theorem hex_colors_are_read_exactly (t : Text) (hsign : (trim t).head? = some '#') :
    ((∃ color, read t = .ok color) ↔
      ∃ digits, trim t = '#' :: digits ∧ digits.length = 6 ∧
        ∀ x ∈ digits, x ∈ "0123456789abcdefABCDEF".toList) ∧
    ∀ color, read t = .ok color →
      ∃ a b c d e f, trim t = ['#', a, b, c, d, e, f] ∧
        color = ofBytes (byteValue a b) (byteValue c d) (byteValue e f) ∧
        color.toBytes = [byteValue a b, byteValue c d, byteValue e f] ∧
        color.hex = lowercase (trim t) ∧ read color.hex = .ok color := by
  obtain ⟨digits, htrim⟩ := List.head?_eq_some_iff.mp hsign
  refine ⟨⟨?_, ?_⟩, fun color hread => ?_⟩
  · rintro ⟨color, hread⟩
    exact ⟨digits, htrim, digits_of_ofHex? ((read_eq_ok_iff htrim).mp hread)⟩
  · rintro ⟨digits', htrim', hlength, hall⟩
    obtain rfl : digits = digits' := List.tail_eq_of_cons_eq (htrim.symm.trans htrim')
    obtain ⟨a, b, c, d, e, f, rfl⟩ := exists_of_length_six hlength
    exact ⟨_, (read_eq_ok_iff htrim).mpr (ofHex?_of_digits hall)⟩
  · have hcolor := (read_eq_ok_iff htrim).mp hread
    obtain ⟨hlength, hall⟩ := digits_of_ofHex? hcolor
    obtain ⟨a, b, c, d, e, f, rfl⟩ := exists_of_length_six hlength
    have hbytes := ofHex?_of_digits hall
    obtain rfl := Option.some.inj (hcolor.symm.trans hbytes)
    have hhex := hex_ofBytes hall
    refine ⟨a, b, c, d, e, f, htrim, rfl, toBytes_of_digits hall, ?_, ?_⟩
    · rw [hhex, htrim, lowercase_number_sign, lowercase, lowercaseFrom_of_hexAlphabet hall]
    · rw [hhex]
      exact read_number_sign_asciiLowercase hall hcolor

/-- An orange with blanks around it and digits of both cases. -/
theorem hex_colors_are_read_exactly_orange :
    (trim " #Ff8000\n".toList).head? = some '#' ∧
      ∃ color, read " #Ff8000\n".toList = .ok color ∧ color.toBytes = [255, 128, 0] ∧
        color.hex = "#ff8000".toList ∧ read color.hex = .ok color := by
  have htrim : trim " #Ff8000\n".toList = "#Ff8000".toList := by decide
  have hsign : (trim " #Ff8000\n".toList).head? = some '#' := by
    rw [htrim]
    rfl
  obtain ⟨haccepted, hread⟩ := hex_colors_are_read_exactly " #Ff8000\n".toList hsign
  have hdigits : ∀ x ∈ "Ff8000".toList, x ∈ "0123456789abcdefABCDEF".toList :=
    List.all_iff_forall_prop.mp (by decide)
  obtain ⟨color, hcolor⟩ := haccepted.mpr ⟨_, htrim, rfl, hdigits⟩
  obtain ⟨a, b, c, d, e, f, hfound, -, hbytes, hhex, hround⟩ := hread color hcolor
  rw [htrim] at hfound hhex
  cases hfound
  refine ⟨hsign, color, hcolor, hbytes.trans (by decide), hhex.trans (by decide), hround⟩

end Color

end Questionnaire
