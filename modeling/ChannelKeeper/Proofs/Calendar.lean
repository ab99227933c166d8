import ChannelKeeper.Calendar
import ChannelKeeper.Proofs.Text.Split

/-!
# Moments by their texts

Different seconds have different dates or times of day, and so different stamps: each
part of a stamp but the year has two digits, and an underscore stands between date and
time. This holds for all years, also those that need a sign.
-/

namespace ChannelKeeper.Calendar

-- ---------------------------------------------------------------------------
-- Dates
-- ---------------------------------------------------------------------------

/-- The days of an era up to this one, without those that are the 366th of their year. -/
def leapless (dayOfEra : Nat) : Nat :=
  dayOfEra - dayOfEra / 1460 + dayOfEra / 36524 - dayOfEra / 146096

theorem leapless_mono {m n : Nat} (h : m ≤ n) (hn : n < 146097) : leapless m ≤ leapless n := by
  unfold leapless
  omega

/-- A year of the era begins after 365 such days for each year before it. -/
theorem leapless_year : ∀ year < 400, 365 * year ≤ leapless (daysBeforeYear year) ∧
    (0 < year → leapless (daysBeforeYear year - 1) < 365 * year) := by
  decide +kernel

theorem yearOfEra_spec {dayOfEra : Nat} (h : dayOfEra < 146097) :
    leapless dayOfEra / 365 < 400 ∧ daysBeforeYear (leapless dayOfEra / 365) ≤ dayOfEra ∧
      dayOfEra - daysBeforeYear (leapless dayOfEra / 365) < 366 := by
  have hlast : leapless dayOfEra ≤ leapless 146096 := leapless_mono (by omega) (by omega)
  rw [show leapless 146096 = 145999 from rfl] at hlast
  generalize hyear : leapless dayOfEra / 365 = year
  have hlt : year < 400 := by omega
  refine ⟨hlt, ?_, ?_⟩
  -- A day before the year begins would be counted in the year before.
  · by_contra hbefore
    have hpositive : 0 < year := by
      rcases Nat.eq_zero_or_pos year with rfl | hpositive
      · exact absurd (Nat.zero_le _) hbefore
      · exact hpositive
    have hearlier : leapless dayOfEra ≤ leapless (daysBeforeYear year - 1) := by
      refine leapless_mono (by omega) ?_
      unfold daysBeforeYear
      omega
    have hyears := (leapless_year year hlt).2 hpositive
    omega
  · by_contra hafter
    have hnext : daysBeforeYear (year + 1) ≤ dayOfEra := by
      unfold daysBeforeYear at hafter ⊢
      omega
    have hfew : year + 1 < 400 := by
      unfold daysBeforeYear at hafter
      omega
    have hyears := (leapless_year (year + 1) hfew).1
    have hlater := leapless_mono hnext h
    omega

theorem monthOfYear_spec {dayOfYear : Nat} (h : dayOfYear < 366) :
    (5 * dayOfYear + 2) / 153 < 12 ∧ (153 * ((5 * dayOfYear + 2) / 153) + 2) / 5 ≤ dayOfYear ∧
      dayOfYear - (153 * ((5 * dayOfYear + 2) / 153) + 2) / 5 < 31 := by
  omega

theorem dateOfDays_eq {days era : Int} {dayOfEra year month : Nat}
    (hera : (days + 719468).fdiv 146097 = era) (hday : (days + 719468).fmod 146097 = dayOfEra)
    (hyear : leapless dayOfEra / 365 = year)
    (hmonth : (5 * (dayOfEra - daysBeforeYear year) + 2) / 153 = month) :
    dateOfDays days =
      (era * 400 + year + (if (if month < 10 then month + 3 else month - 9) ≤ 2 then 1 else 0),
        if month < 10 then month + 3 else month - 9,
        dayOfEra - daysBeforeYear year - (153 * month + 2) / 5 + 1) := by
  subst hera hyear hmonth
  simp only [dateOfDays, leapless, hday, Int.toNat_natCast]
  rfl

theorem exists_dateOfDays (days : Int) : ∃ (era : Int) (year month before : Nat),
    year < 400 ∧ month < 12 ∧ before < 31 ∧
    days + 719468 = era * 146097 + (daysBeforeYear year + (153 * month + 2) / 5 + before : Nat) ∧
    dateOfDays days = (era * 400 + year + (if month < 10 then 0 else 1),
      if month < 10 then month + 3 else month - 9, before + 1) := by
  have hsplit : (days + 719468).fmod 146097 + 146097 * (days + 719468).fdiv 146097 =
      days + 719468 := Int.fmod_add_mul_fdiv _ _
  have hnonneg : 0 ≤ (days + 719468).fmod 146097 := Int.fmod_nonneg_of_pos _ (by decide)
  have hlt : (days + 719468).fmod 146097 < 146097 := Int.fmod_lt_of_pos _ (by decide)
  obtain ⟨dayOfEra, hday⟩ := Int.eq_ofNat_of_zero_le hnonneg
  obtain ⟨hyear, hbegin, hrest⟩ := yearOfEra_spec (by omega : dayOfEra < 146097)
  obtain ⟨hmonth, hbefore, hleft⟩ := monthOfYear_spec hrest
  have hdate := dateOfDays_eq rfl hday rfl rfl
  generalize leapless dayOfEra / 365 = year at *
  generalize (5 * (dayOfEra - daysBeforeYear year) + 2) / 153 = month at *
  refine ⟨(days + 719468).fdiv 146097, year, month,
    dayOfEra - daysBeforeYear year - (153 * month + 2) / 5, hyear, hmonth, hleft, by omega, ?_⟩
  rw [hdate]
  by_cases hmarch : month < 10
  · simp [hmarch]
  · have hwrapped : month - 9 ≤ 2 := by omega
    simp [hmarch, hwrapped]

theorem dateOfDays_injective : Function.Injective dateOfDays := by
  intro m n h
  obtain ⟨era, year, month, before, hyear, hmonth, -, hm, hdate⟩ := exists_dateOfDays m
  obtain ⟨era', year', month', before', hyear', hmonth', -, hn, hdate'⟩ := exists_dateOfDays n
  rw [hdate, hdate'] at h
  simp only [Prod.mk.injEq] at h
  obtain ⟨hyears, hmonths, hdays⟩ := h
  obtain rfl : month = month' := by
    split at hmonths <;> split at hmonths <;> omega
  obtain ⟨rfl, rfl⟩ : era = era' ∧ year = year' := by omega
  omega

-- ---------------------------------------------------------------------------
-- Digits
-- ---------------------------------------------------------------------------

theorem toList_padded (width n : Nat) : (Decimal.padded width n).toList =
    List.replicate (width - (toString n).length) '0' ++ Nat.toDigits 10 n := by
  rw [Decimal.padded, String.toList_append, Decimal.zeros, String.toList_ofList,
    Nat.toString_eq_ofList_toDigits, String.toList_ofList]

theorem isDigit_of_mem_padded {c : Char} (h : c ∈ (Decimal.padded width n).toList) :
    c.isDigit = true := by
  rw [toList_padded, List.mem_append] at h
  rcases h with h | h
  · rw [List.eq_of_mem_replicate h]
    rfl
  · exact Nat.isDigit_of_mem_toDigits (by decide) (by decide) h

/-- The zeros before it add nothing to the number. -/
theorem padded_injective (width : Nat) : Function.Injective (Decimal.padded width) := by
  have hvalue (n : Nat) : Nat.ofDigitChars 10 (Decimal.padded width n).toList 0 = n := by
    rw [toList_padded, Nat.ofDigitChars_append, Nat.ofDigitChars_replicate_zero, Nat.mul_zero,
      Nat.ofDigitChars_ten_toDigits]
  intro m n h
  rw [← hvalue m, ← hvalue n, h]

theorem length_padded {n : Nat} (h : n < 100) : (Decimal.padded 2 n).length = 2 := by
  have hall : ∀ n < 100, (Decimal.padded 2 n).length = 2 := by decide +kernel
  exact hall n h

theorem filter_padded (width n : Nat) :
    (Decimal.padded width n).toList.filter Char.isDigit = (Decimal.padded width n).toList :=
  List.filter_eq_self.mpr fun _ => isDigit_of_mem_padded

def yearSign (year : Int) : String := if year < 0 then "-" else if 9999 < year then "+" else ""

theorem yearText_eq (year : Int) : yearText year = yearSign year ++ Decimal.padded 4 year.natAbs := by
  unfold yearText yearSign
  dsimp only
  split
  · rfl
  · split
    · rfl
    · exact String.empty_append.symm

theorem yearText_injective : Function.Injective yearText := by
  have hdigits (year : Int) : (yearText year).toList.filter Char.isDigit =
      (Decimal.padded 4 year.natAbs).toList := by
    have hsign : (yearSign year).toList.filter Char.isDigit = [] := by
      unfold yearSign
      split_ifs <;> rfl
    rw [yearText_eq, String.toList_append, List.filter_append, hsign, filter_padded,
      List.nil_append]
  have hminus (year : Int) : '-' ∈ (yearText year).toList ↔ year < 0 := by
    have hnot : '-' ∉ (Decimal.padded 4 year.natAbs).toList := fun h =>
      absurd (isDigit_of_mem_padded h) (by decide)
    have hsign : '-' ∈ (yearSign year).toList ↔ year < 0 := by
      unfold yearSign
      split_ifs <;> simp_all
    rw [yearText_eq, String.toList_append, List.mem_append, or_iff_left hnot, hsign]
  intro m n h
  have habs : m.natAbs = n.natAbs := by
    refine padded_injective 4 (String.toList_inj.mp ?_)
    rw [← hdigits m, ← hdigits n, h]
  have hneg : m < 0 ↔ n < 0 := by rw [← hminus m, ← hminus n, h]
  omega

-- ---------------------------------------------------------------------------
-- Stamps
-- ---------------------------------------------------------------------------

theorem dateDigits_inj {m n : Int} (h : String.join (dateDigits m) = String.join (dateDigits n)) :
    m.fdiv 86400 = n.fdiv 86400 := by
  obtain ⟨era, year, month, before, -, hmonth, hbefore, -, hm⟩ := exists_dateOfDays (m.fdiv 86400)
  obtain ⟨era', year', month', before', -, hmonth', hbefore', -, hn⟩ :=
    exists_dateOfDays (n.fdiv 86400)
  have hlength {month before : Nat} (hmonth : month < 12) (hbefore : before < 31) :
      (Decimal.padded 2 (if month < 10 then month + 3 else month - 9)).length = 2 ∧
        (Decimal.padded 2 (before + 1)).length = 2 :=
    ⟨length_padded (by split <;> omega), length_padded (by omega)⟩
  rw [dateDigits, dateDigits, hm, hn] at h
  simp only [String.join, List.foldl_cons, List.foldl_nil, String.empty_append] at h
  obtain ⟨h, hdays⟩ := Text.append_inj_of_length h
    ((hlength hmonth hbefore).2.trans (hlength hmonth' hbefore').2.symm)
  obtain ⟨hyears, hmonths⟩ := Text.append_inj_of_length h
    ((hlength hmonth hbefore).1.trans (hlength hmonth' hbefore').1.symm)
  refine dateOfDays_injective ?_
  rw [hm, hn, yearText_injective hyears, padded_injective 2 hmonths, padded_injective 2 hdays]

theorem exists_timeDigits (seconds : Int) : ∃ second : Nat, second < 86400 ∧
    seconds.fmod 86400 = second ∧
    String.join (timeDigits seconds) = Decimal.padded 2 (second / 3600) ++
      Decimal.padded 2 (second / 60 % 60) ++ Decimal.padded 2 (second % 60) := by
  have hnonneg : 0 ≤ seconds.fmod 86400 := Int.fmod_nonneg_of_pos _ (by decide)
  have hlt : seconds.fmod 86400 < 86400 := Int.fmod_lt_of_pos _ (by decide)
  obtain ⟨second, hsecond⟩ := Int.eq_ofNat_of_zero_le hnonneg
  refine ⟨second, by omega, hsecond, ?_⟩
  rw [timeDigits, hsecond, Int.toNat_natCast]
  simp only [String.join, List.map_cons, List.map_nil, List.foldl_cons, List.foldl_nil,
    String.empty_append]

theorem length_timeDigits (seconds : Int) : (String.join (timeDigits seconds)).length = 6 := by
  obtain ⟨second, hlt, -, htext⟩ := exists_timeDigits seconds
  rw [htext, String.length_append, String.length_append, length_padded (by omega),
    length_padded (by omega), length_padded (by omega)]

theorem timeDigits_inj {m n : Int} (h : String.join (timeDigits m) = String.join (timeDigits n)) :
    m.fmod 86400 = n.fmod 86400 := by
  obtain ⟨second, hlt, hm, htext⟩ := exists_timeDigits m
  obtain ⟨second', hlt', hn, htext'⟩ := exists_timeDigits n
  rw [htext, htext'] at h
  have hlength {k k' : Nat} (hk : k < 100) (hk' : k' < 100) :
      (Decimal.padded 2 k).length = (Decimal.padded 2 k').length :=
    (length_padded hk).trans (length_padded hk').symm
  obtain ⟨h, hseconds⟩ := Text.append_inj_of_length h (hlength (by omega) (by omega))
  obtain ⟨hhours, hminutes⟩ := Text.append_inj_of_length h (hlength (by omega) (by omega))
  have h₁ := padded_injective 2 hhours
  have h₂ := padded_injective 2 hminutes
  have h₃ := padded_injective 2 hseconds
  omega

theorem mem_join {c : Char} {texts : List String} (h : c ∈ (String.join texts).toList) :
    ∃ text ∈ texts, c ∈ text.toList := by
  simpa using h

theorem mem_dateDigits {seconds : Int} {c : Char}
    (h : c ∈ (String.join (dateDigits seconds)).toList) : c.isDigit ∨ c ∈ ['-', '+'] := by
  obtain ⟨text, htext, hc⟩ := mem_join h
  rcases hdate : dateOfDays (seconds.fdiv 86400) with ⟨year, month, day⟩
  simp only [dateDigits, hdate, List.mem_cons, List.not_mem_nil, or_false] at htext
  rcases htext with rfl | rfl | rfl
  · rw [yearText_eq, String.toList_append, List.mem_append] at hc
    refine hc.symm.imp isDigit_of_mem_padded fun hc => ?_
    unfold yearSign at hc
    split_ifs at hc <;> simp_all
  · exact .inl (isDigit_of_mem_padded hc)
  · exact .inl (isDigit_of_mem_padded hc)

/-- The start of a name and the second are known from a name with a stamp. -/
theorem stamped_inj {start start' : String} {m n : Int}
    (h : start ++ "_" ++ stampText m = start' ++ "_" ++ stampText n) : start = start' ∧ m = n := by
  have hname (start : String) (seconds : Int) : start ++ "_" ++ stampText seconds =
      start ++ "_" ++ String.join (dateDigits seconds) ++ "_" ++ String.join (timeDigits seconds) := by
    simp only [stampText, String.append_assoc]
  rw [hname, hname] at h
  obtain ⟨h, htimes⟩ := Text.append_inj_of_length h
    ((length_timeDigits m).trans (length_timeDigits n).symm)
  obtain ⟨h, -⟩ := Text.append_inj_of_length h (show "_".length = "_".length from rfl)
  have hmark (seconds : Int) : '_' ∉ (String.join (dateDigits seconds)).toList := fun hc =>
    absurd (mem_dateDigits hc) (by decide)
  have hsplit (start : String) (seconds : Int) :
      Text.Chars.splitLast '_' (start ++ "_" ++ String.join (dateDigits seconds)).toList =
        some (start.toList, (String.join (dateDigits seconds)).toList) := by
    rw [Text.Chars.splitLast_eq_some]
    exact ⟨by simp, hmark seconds⟩
  have hparts := hsplit start m
  rw [h, hsplit start' n, Option.some.injEq, Prod.mk.injEq, String.toList_inj,
    String.toList_inj] at hparts
  refine ⟨hparts.1.symm, ?_⟩
  have hdays := dateDigits_inj hparts.2
  have hseconds := timeDigits_inj htimes
  have hm := Int.fmod_add_mul_fdiv m 86400
  have hn := Int.fmod_add_mul_fdiv n 86400
  omega

theorem slash_notMem_stampText (seconds : Int) : '/' ∉ (stampText seconds).toList := by
  intro hc
  rw [stampText, String.toList_append, String.toList_append, List.mem_append,
    List.mem_append] at hc
  rcases hc with (hc | hc) | hc
  · exact absurd (mem_dateDigits hc) (by decide)
  · exact absurd hc (by decide)
  · obtain ⟨text, htext, hc⟩ := mem_join hc
    obtain ⟨number, -, rfl⟩ := List.mem_map.mp htext
    exact absurd (isDigit_of_mem_padded hc) (by decide)

end ChannelKeeper.Calendar
