/-
# Instants and their RFC 3339 text

An instant of universal time, to the nanosecond and with leap seconds, its date in the proleptic
Gregorian calendar, and its text with as many decimals of the second as it needs: none, three,
six or nine.  The text determines the instant.
-/
import Mathlib

namespace Lib

/-! ## Decimal numbers -/

/-- A number in decimal, with zeros in front up to the given width. -/
def padded (width n : ℕ) : List Char :=
  List.replicate (width - (Nat.toDigits 10 n).length) '0' ++ Nat.toDigits 10 n

lemma isDigit_of_mem_padded {width n : ℕ} {c : Char} (h : c ∈ padded width n) :
    c.isDigit = true := by
  rcases List.mem_append.mp h with h | h
  · rw [List.eq_of_mem_replicate h]
    rfl
  · exact Nat.isDigit_of_mem_toDigits (by norm_num) (by norm_num) h

lemma ofDigitChars_padded (width n : ℕ) : Nat.ofDigitChars 10 (padded width n) 0 = n := by
  rw [padded, Nat.ofDigitChars_append, Nat.ofDigitChars_replicate_zero, Nat.mul_zero,
    Nat.ofDigitChars_ten_toDigits]

lemma length_padded {width n : ℕ} (hwidth : 0 < width) (h : n < 10 ^ width) :
    (padded width n).length = width := by
  have hlen : (Nat.toDigits 10 n).length ≤ width :=
    (Nat.length_toDigits_le_iff (by norm_num) hwidth).mpr h
  simp only [padded, List.length_append, List.length_replicate]
  omega

/-- Two runs of digits, each ended by something else, are the same if the texts are. -/
lemma digits_prefix {s t x y : List Char} {c d : Char} (hs : ∀ a ∈ s, a.isDigit = true)
    (ht : ∀ a ∈ t, a.isDigit = true) (hc : c.isDigit = false) (hd : d.isDigit = false)
    (h : s ++ c :: x = t ++ d :: y) : s = t ∧ c :: x = d :: y := by
  induction s generalizing t with
  | nil =>
    cases t with
    | nil => exact ⟨rfl, h⟩
    | cons b t =>
      obtain ⟨rfl, -⟩ := List.cons.inj h
      simp [ht c (by simp)] at hc
  | cons a s ih =>
    cases t with
    | nil =>
      obtain ⟨rfl, -⟩ := List.cons.inj h
      simp [hs a (by simp)] at hd
    | cons b t =>
      obtain ⟨rfl, hrest⟩ := List.cons.inj h
      obtain ⟨rfl, hend⟩ := ih (fun x hx => hs x (by simp [hx]))
        (fun x hx => ht x (by simp [hx])) hrest
      exact ⟨rfl, hend⟩

/-- A number ended by something that is not a digit can be read off. -/
lemma padded_prefix {v w m n : ℕ} {x y : List Char} {c : Char} (hc : c.isDigit = false)
    (h : padded v m ++ c :: x = padded w n ++ c :: y) : m = n ∧ x = y := by
  obtain ⟨hdigits, hrest⟩ := digits_prefix (fun _ => isDigit_of_mem_padded)
    (fun _ => isDigit_of_mem_padded) hc hc h
  refine ⟨?_, List.tail_eq_of_cons_eq hrest⟩
  rw [← ofDigitChars_padded v m, hdigits, ofDigitChars_padded]

/-! ## The calendar -/

/-- A date of the proleptic Gregorian calendar. -/
@[ext] structure CivilDate where
  year : ℤ
  month : ℕ
  day : ℕ
deriving DecidableEq

/-- The place of a day in the cycle of 400 years: years of the cycle, and days of a year that
begins on 1 March. -/
def cyclePlace (dayOfCycle : ℤ) : ℤ × ℤ :=
  let century := min (dayOfCycle / 36524) 3
  let dayOfCentury := dayOfCycle - 36524 * century
  let dayOfLeapCycle := dayOfCentury % 1461
  let yearOfLeapCycle := min (dayOfLeapCycle / 365) 3
  (100 * century + 4 * (dayOfCentury / 1461) + yearOfLeapCycle,
    dayOfLeapCycle - 365 * yearOfLeapCycle)

/-- The date at a place of a cycle.  January and February belong to the year that began in March
before. -/
def civilOfPlace (cycle yearOfCycle dayOfYear : ℤ) : CivilDate :=
  let marchMonth := (5 * dayOfYear + 2) / 153
  let month := if marchMonth < 10 then marchMonth + 3 else marchMonth - 9
  { year := 400 * cycle + yearOfCycle + if month ≤ 2 then 1 else 0
    month := month.toNat
    day := (dayOfYear - (153 * marchMonth + 2) / 5 + 1).toNat }

/-- The date of a day that is counted from 1970-01-01.  The cycles of 400 years are counted from
0000-03-01. -/
def civilOfDay (day : ℤ) : CivilDate :=
  let place := cyclePlace ((day + 719468) % 146097)
  civilOfPlace ((day + 719468) / 146097) place.1 place.2

/-- The day of a date, counted from 1970-01-01. -/
def dayOfCivil (date : CivilDate) : ℤ :=
  let marchYear := date.year - if date.month ≤ 2 then 1 else 0
  let yearOfCycle := marchYear % 400
  let marchMonth : ℤ := (date.month + 9) % 12
  146097 * (marchYear / 400) + 365 * yearOfCycle + yearOfCycle / 4 - yearOfCycle / 100 +
    (153 * marchMonth + 2) / 5 + date.day - 1 - 719468

lemma cyclePlace_spec {d : ℤ} (h₀ : 0 ≤ d) (h : d < 146097) :
    0 ≤ (cyclePlace d).1 ∧ (cyclePlace d).1 < 400 ∧ 0 ≤ (cyclePlace d).2 ∧
      (cyclePlace d).2 < 366 ∧
      365 * (cyclePlace d).1 + (cyclePlace d).1 / 4 - (cyclePlace d).1 / 100 +
        (cyclePlace d).2 = d := by
  simp only [cyclePlace]
  obtain ⟨century, hcentury⟩ : ∃ century, century = min (d / 36524) 3 := ⟨_, rfl⟩
  rw [← hcentury]
  have hc : 0 ≤ century ∧ century ≤ 3 := by omega
  have hd : 0 ≤ d - 36524 * century ∧ d - 36524 * century ≤ 36524 := by omega
  obtain ⟨rest, hrest⟩ : ∃ rest, rest = d - 36524 * century := ⟨_, rfl⟩
  rw [← hrest] at hd ⊢
  obtain ⟨year, hyear⟩ : ∃ year, year = min (rest % 1461 / 365) 3 := ⟨_, rfl⟩
  rw [← hyear]
  have hy : 0 ≤ year ∧ year ≤ 3 := by omega
  have hleap : 0 ≤ rest / 1461 ∧ rest / 1461 ≤ 24 := by omega
  have hfour : (100 * century + 4 * (rest / 1461) + year) / 4 = 25 * century + rest / 1461 := by
    omega
  have hhundred : (100 * century + 4 * (rest / 1461) + year) / 100 = century := by omega
  rw [hfour, hhundred]
  omega

lemma dayOfCivil_civilOfPlace {yearOfCycle dayOfYear : ℤ} (cycle : ℤ) (hyear₀ : 0 ≤ yearOfCycle)
    (hyear : yearOfCycle < 400) (hday₀ : 0 ≤ dayOfYear) (hday : dayOfYear < 366) :
    dayOfCivil (civilOfPlace cycle yearOfCycle dayOfYear) =
      146097 * cycle + (365 * yearOfCycle + yearOfCycle / 4 - yearOfCycle / 100 + dayOfYear) -
        719468 := by
  obtain ⟨marchMonth, hmarch⟩ : ∃ m, m = (5 * dayOfYear + 2) / 153 := ⟨_, rfl⟩
  simp only [dayOfCivil, civilOfPlace, ← hmarch]
  have hm : 0 ≤ marchMonth ∧ marchMonth ≤ 11 := by omega
  have hdom : 0 ≤ dayOfYear - (153 * marchMonth + 2) / 5 := by omega
  have hquot : (400 * cycle + yearOfCycle) / 400 = cycle := by omega
  have hrest : (400 * cycle + yearOfCycle) % 400 = yearOfCycle := by omega
  by_cases hlate : marchMonth < 10
  · -- March to December: the year of the calendar is the one counted from March
    have hnot : ¬ marchMonth + 3 ≤ 2 := by omega
    have hnot' : ¬ (marchMonth + 3).toNat ≤ 2 := by omega
    have hback : (((marchMonth + 3).toNat : ℤ) + 9) % 12 = marchMonth := by omega
    simp only [hlate, if_true, hnot, hnot', if_false, hback, add_zero, sub_zero, hquot, hrest]
    omega
  · have hle : marchMonth - 9 ≤ 2 := by omega
    have hle' : (marchMonth - 9).toNat ≤ 2 := by omega
    have hback : (((marchMonth - 9).toNat : ℤ) + 9) % 12 = marchMonth := by omega
    simp only [hlate, if_false, hle, hle', if_true, hback, add_sub_cancel_right, hquot, hrest]
    omega

/-- **The date determines the day.** -/
theorem dayOfCivil_civilOfDay (day : ℤ) : dayOfCivil (civilOfDay day) = day := by
  have hcycle : 0 ≤ (day + 719468) % 146097 ∧ (day + 719468) % 146097 < 146097 := by omega
  obtain ⟨hyear₀, hyear, hday₀, hday, hsum⟩ := cyclePlace_spec hcycle.1 hcycle.2
  rw [civilOfDay, dayOfCivil_civilOfPlace _ hyear₀ hyear hday₀ hday, hsum]
  omega

lemma civilOfDay_injective : Function.Injective civilOfDay :=
  Function.LeftInverse.injective dayOfCivil_civilOfDay

/-! ## Instants -/

/-- An instant of universal time: a day counted from 1970-01-01, a second of the day and the
nanoseconds.  A leap second is the last second of a minute with another 10⁹ nanoseconds. -/
@[ext] structure UtcInstant where
  day : ℤ
  second : ℕ
  nano : ℕ
  second_lt : second < 86400
  nano_lt : nano < 2 * 10 ^ 9
  leap : 10 ^ 9 ≤ nano → second % 60 = 59
deriving DecidableEq

/-- The sign of a year that has one. -/
def yearSign (year : ℤ) : Char := if year < 0 then '-' else '+'

/-- The year: four digits, with a sign before the year 0 and after 9999. -/
def yearText (year : ℤ) : List Char :=
  if 0 ≤ year ∧ year ≤ 9999 then padded 4 year.toNat
  else yearSign year :: padded 4 year.natAbs

/-- The decimals of the second, as many as are needed: none, three, six or nine. -/
def fractionText (nano : ℕ) : List Char :=
  if nano = 0 then []
  else if nano % 1000000 = 0 then '.' :: padded 3 (nano / 1000000)
  else if nano % 1000 = 0 then '.' :: padded 6 (nano / 1000)
  else '.' :: padded 9 nano

/-- The second of the minute that is written, 60 for a leap second. -/
def UtcInstant.writtenSecond (t : UtcInstant) : ℕ :=
  t.second % 60 + if 10 ^ 9 ≤ t.nano then 1 else 0

/-- The nanoseconds that are written. -/
def UtcInstant.writtenNano (t : UtcInstant) : ℕ :=
  if 10 ^ 9 ≤ t.nano then t.nano - 10 ^ 9 else t.nano

/-- The text of an instant. -/
def UtcInstant.rfc3339 (t : UtcInstant) : List Char :=
  let date := civilOfDay t.day
  yearText date.year ++ '-' :: (padded 2 date.month ++ '-' :: (padded 2 date.day ++ 'T' ::
    (padded 2 (t.second / 3600) ++ ':' :: (padded 2 (t.second / 60 % 60) ++ ':' ::
    (padded 2 t.writtenSecond ++ (fractionText t.writtenNano ++ ['Z']))))))

lemma padded_ne_cons {width n : ℕ} {c : Char} (hc : c.isDigit = false) {x y : List Char} :
    padded width n ++ x ≠ c :: y := by
  intro heq
  obtain ⟨d, l, hd⟩ : ∃ d l, padded width n = d :: l :=
    List.exists_cons_of_ne_nil (by simp [padded, Nat.toDigits_ne_nil])
  have hdigit : d.isDigit = true := isDigit_of_mem_padded (n := n) (by rw [hd]; simp)
  rw [hd] at heq
  rw [(List.cons.inj heq).1, hc] at hdigit
  cases hdigit

lemma yearSign_isDigit (year : ℤ) : (yearSign year).isDigit = false := by
  rw [yearSign]
  split <;> rfl

lemma yearText_prefix {a b : ℤ} {x y : List Char}
    (h : yearText a ++ '-' :: x = yearText b ++ '-' :: y) : a = b ∧ x = y := by
  have hdash : '-'.isDigit = false := rfl
  by_cases ha : 0 ≤ a ∧ a ≤ 9999 <;> by_cases hb : 0 ≤ b ∧ b ≤ 9999
  · rw [yearText, yearText, if_pos ha, if_pos hb] at h
    obtain ⟨hyear, hrest⟩ := padded_prefix hdash h
    exact ⟨by omega, hrest⟩
  · rw [yearText, yearText, if_pos ha, if_neg hb] at h
    exact absurd h (padded_ne_cons (yearSign_isDigit b))
  · rw [yearText, yearText, if_neg ha, if_pos hb] at h
    exact absurd h.symm (padded_ne_cons (yearSign_isDigit a))
  · rw [yearText, yearText, if_neg ha, if_neg hb] at h
    obtain ⟨hsign, h⟩ := List.cons.inj h
    obtain ⟨hyear, hrest⟩ := padded_prefix hdash h
    refine ⟨?_, hrest⟩
    by_cases hneg : a < 0 <;> by_cases hneg' : b < 0
    · omega
    · simp [yearSign, hneg, hneg'] at hsign
    · simp [yearSign, hneg, hneg'] at hsign
    · omega

/-- The value of decimals of the second, in nanoseconds. -/
def readFraction (digits : List Char) : ℕ := Nat.ofDigitChars 10 digits 0 * 10 ^ (9 - digits.length)

lemma readFraction_fractionText {n : ℕ} (h : n < 10 ^ 9) :
    readFraction (fractionText n).tail = n := by
  rw [fractionText]
  split_ifs with hzero hmilli hmicro
  · subst hzero
    rfl
  · rw [List.tail_cons, readFraction, ofDigitChars_padded, length_padded (by norm_num) (by omega)]
    omega
  · rw [List.tail_cons, readFraction, ofDigitChars_padded, length_padded (by norm_num) (by omega)]
    omega
  · rw [List.tail_cons, readFraction, ofDigitChars_padded, length_padded (by norm_num) h]
    omega

/-- Decimals have a point in front, so they do not run into the digits of the second. -/
lemma fractionText_head (n : ℕ) :
    ∃ c l, fractionText n ++ ['Z'] = c :: l ∧ c.isDigit = false := by
  rw [fractionText]
  split_ifs
  · exact ⟨'Z', [], rfl, rfl⟩
  all_goals exact ⟨'.', _, rfl, rfl⟩

lemma UtcInstant.writtenNano_lt (t : UtcInstant) : t.writtenNano < 10 ^ 9 := by
  have hlt := t.nano_lt
  rw [writtenNano]
  split_ifs <;> omega

/-- The written second and nanoseconds tell a leap second from the next second. -/
lemma UtcInstant.ext_written {s t : UtcInstant} (hday : s.day = t.day)
    (hhour : s.second / 3600 = t.second / 3600)
    (hminute : s.second / 60 % 60 = t.second / 60 % 60)
    (hsecond : s.writtenSecond = t.writtenSecond) (hnano : s.writtenNano = t.writtenNano) :
    s = t := by
  have hs := s.leap
  have ht := t.leap
  have hboth : s.second = t.second ∧ s.nano = t.nano := by
    simp only [writtenSecond, writtenNano] at hsecond hnano
    split_ifs at hsecond hnano <;> omega
  exact UtcInstant.ext hday hboth.1 hboth.2

/-- **The text of an instant determines the instant.** -/
theorem UtcInstant.rfc3339_injective : Function.Injective UtcInstant.rfc3339 := by
  intro s t h
  simp only [rfc3339] at h
  obtain ⟨hyear, h⟩ := yearText_prefix h
  obtain ⟨hmonth, h⟩ := padded_prefix rfl h
  obtain ⟨hday, h⟩ := padded_prefix rfl h
  obtain ⟨hhour, h⟩ := padded_prefix rfl h
  obtain ⟨hminute, h⟩ := padded_prefix rfl h
  obtain ⟨c, l, hc, hcdigit⟩ := fractionText_head s.writtenNano
  obtain ⟨d, m, hd, hddigit⟩ := fractionText_head t.writtenNano
  rw [hc, hd] at h
  obtain ⟨hdigits, hrest⟩ := digits_prefix (fun _ => isDigit_of_mem_padded)
    (fun _ => isDigit_of_mem_padded) hcdigit hddigit h
  have hsecond : s.writtenSecond = t.writtenSecond := by
    rw [← ofDigitChars_padded 2 s.writtenSecond, hdigits, ofDigitChars_padded]
  have hnano : s.writtenNano = t.writtenNano := by
    rw [← hc, ← hd] at hrest
    rw [← readFraction_fractionText s.writtenNano_lt, List.append_cancel_right hrest,
      readFraction_fractionText t.writtenNano_lt]
  exact UtcInstant.ext_written (civilOfDay_injective (CivilDate.ext hyear hmonth hday)) hhour
    hminute hsecond hnano

end Lib
