import Mathlib.Data.Nat.Digits.Defs

/-!
# Dates and times

Times in UTC as microseconds since the epoch, and the ISO text of a time.  The text of
a time is determined by any longer text that ends with it.
-/

namespace Onpremai.Library.Datetime

/-- A date of the proleptic Gregorian calendar. -/
@[ext] structure Date where
  year : Int
  month : Int
  day : Int

/-- A day by its year and its number in the year, both counted from the first of
March: the leap day is the last day of its year. -/
structure MarchDay where
  year : Int
  dayOfYear : Int

def marchDay (days : Int) : MarchDay :=
  let shifted := days + 719468
  let era := shifted / 146097
  let dayOfEra := shifted % 146097
  let century := min (dayOfEra / 36524) 3
  let dayOfCentury := dayOfEra - century * 36524
  let cycle := dayOfCentury / 1461
  let dayOfCycle := dayOfCentury % 1461
  let yearOfCycle := min (dayOfCycle / 365) 3
  { year := era * 400 + century * 100 + cycle * 4 + yearOfCycle
    dayOfYear := dayOfCycle - yearOfCycle * 365 }

def MarchDay.date (march : MarchDay) : Date :=
  let monthFromMarch := (5 * march.dayOfYear + 2) / 153
  let month := if monthFromMarch < 10 then monthFromMarch + 3 else monthFromMarch - 9
  { year := if month ≤ 2 then march.year + 1 else march.year
    month := month
    day := march.dayOfYear - (153 * monthFromMarch + 2) / 5 + 1 }

def dateOf (days : Int) : Date := (marchDay days).date

example : dateOf 11016 = ⟨2000, 2, 29⟩ := rfl

theorem marchDay_bounds (days : Int) :
    0 ≤ (marchDay days).dayOfYear ∧ (marchDay days).dayOfYear ≤ 365 := by
  simp only [marchDay]
  omega

theorem marchDay_days (days : Int) : days + 719468 = (marchDay days).year / 400 * 146097 +
      (marchDay days).year % 400 / 100 * 36524 + (marchDay days).year % 100 / 4 * 1461 +
        (marchDay days).year % 4 * 365 + (marchDay days).dayOfYear := by
  simp only [marchDay]
  generalize days + 719468 = shifted
  -- one level of the calendar after the other, each within its bounds
  generalize eraOf : shifted / 146097 = era
  generalize dayOfEraOf : shifted % 146097 = dayOfEra
  have eraSplit : shifted = 146097 * era + dayOfEra := by omega
  have eraBound : 0 ≤ dayOfEra ∧ dayOfEra < 146097 := by omega
  generalize centuryOf : min (dayOfEra / 36524) 3 = century
  generalize dayOfCenturyOf : dayOfEra - century * 36524 = dayOfCentury
  have centuryBound : 0 ≤ century ∧ century ≤ 3 ∧ 0 ≤ dayOfCentury ∧ dayOfCentury ≤ 36524 := by
    omega
  generalize cycleOf : dayOfCentury / 1461 = cycle
  generalize dayOfCycleOf : dayOfCentury % 1461 = dayOfCycle
  have cycleSplit : dayOfCentury = 1461 * cycle + dayOfCycle ∧ 0 ≤ cycle ∧ cycle ≤ 24 ∧
      0 ≤ dayOfCycle ∧ dayOfCycle < 1461 := by omega
  generalize yearOfCycleOf : min (dayOfCycle / 365) 3 = yearOfCycle
  have yearBound : 0 ≤ yearOfCycle ∧ yearOfCycle ≤ 3 := by omega
  generalize yearOf : era * 400 + century * 100 + cycle * 4 + yearOfCycle = year
  have eraBack : year / 400 = era := by omega
  have centuryBack : year % 400 / 100 = century := by omega
  have cycleBack : year % 100 / 4 = cycle := by omega
  have yearBack : year % 4 = yearOfCycle := by omega
  rw [eraBack, centuryBack, cycleBack, yearBack]
  omega

theorem month_injective {first second : Int} (firstBounds : 0 ≤ first ∧ first ≤ 11)
    (secondBounds : 0 ≤ second ∧ second ≤ 11)
    (same : (if first < 10 then first + 3 else first - 9) =
      if second < 10 then second + 3 else second - 9) : first = second := by
  split at same <;> split at same <;> omega

theorem monthFromMarch_bounds {dayOfYear : Int} (bounds : 0 ≤ dayOfYear ∧ dayOfYear ≤ 365) :
    0 ≤ (5 * dayOfYear + 2) / 153 ∧ (5 * dayOfYear + 2) / 153 ≤ 11 := by
  omega

theorem date_injective {first second : MarchDay}
    (firstBounds : 0 ≤ first.dayOfYear ∧ first.dayOfYear ≤ 365)
    (secondBounds : 0 ≤ second.dayOfYear ∧ second.dayOfYear ≤ 365)
    (same : first.date = second.date) : first = second := by
  cases first with
  | mk firstYear firstDay =>
    cases second with
    | mk secondYear secondDay =>
      simp only [MarchDay.date, Date.mk.injEq] at same
      rcases same with ⟨years, months, days⟩
      have month := month_injective (monthFromMarch_bounds firstBounds)
        (monthFromMarch_bounds secondBounds) months
      dsimp only at month years days
      rw [month] at years days
      generalize (153 * ((5 * secondDay + 2) / 153) + 2) / 5 = start at days
      have sameDay : firstDay = secondDay := by omega
      have sameYear : firstYear = secondYear := by
        split at years <;> omega
      rw [sameDay, sameYear]

theorem dateOf_injective {first second : Int} (same : dateOf first = dateOf second) :
    first = second := by
  have march := date_injective (marchDay_bounds first) (marchDay_bounds second) same
  have firstDays := marchDay_days first
  have secondDays := marchDay_days second
  rw [march] at firstDays
  omega

theorem dateOf_bounds (days : Int) : 1 ≤ (dateOf days).month ∧ (dateOf days).month ≤ 12 ∧
      1 ≤ (dateOf days).day ∧ (dateOf days).day ≤ 31 := by
  have bounds := marchDay_bounds days
  simp only [dateOf, MarchDay.date]
  generalize (marchDay days).dayOfYear = dayOfYear at *
  omega

def pad : Nat → Nat → List Char
  | 0, _ => []
  | width + 1, number => pad width (number / 10) ++ [Nat.digitChar (number % 10)]

@[simp] theorem length_pad (width number : Nat) : (pad width number).length = width := by
  induction width generalizing number with
  | zero => rfl
  | succ width ih => simp [pad, ih]

theorem digitChar_injective : ∀ first < 10, ∀ second < 10,
    Nat.digitChar first = Nat.digitChar second → first = second := by
  decide

theorem digitChar_ne_colon : ∀ digit < 10, Nat.digitChar digit ≠ ':' := by
  decide

theorem mod_of_pad {width first second : Nat} (same : pad width first = pad width second) :
    first % 10 ^ width = second % 10 ^ width := by
  induction width generalizing first second with
  | zero => simp [Nat.mod_one]
  | succ width ih =>
    rcases List.append_inj' same rfl with ⟨higher, last⟩
    have lastDigit : first % 10 = second % 10 := by
      apply digitChar_injective
      · exact Nat.mod_lt _ (by decide)
      · exact Nat.mod_lt _ (by decide)
      · exact List.singleton_inj.mp last
    rw [Nat.pow_succ', Nat.mod_mul, Nat.mod_mul, lastDigit, ih higher]

theorem pad_append_inj {width first second : Nat} {rest other : List Char}
    (firstFits : first < 10 ^ width) (secondFits : second < 10 ^ width)
    (same : pad width first ++ rest = pad width second ++ other) :
    first = second ∧ rest = other := by
  rcases List.append_inj same (by simp) with ⟨digits, rests⟩
  have numbers := mod_of_pad digits
  rw [Nat.mod_eq_of_lt firstFits, Nat.mod_eq_of_lt secondFits] at numbers
  exact ⟨numbers, rests⟩

/-! ## ISO texts -/

/-- The parts of a time that its text shows. -/
@[ext] structure Parts where
  year : Nat
  month : Nat
  day : Nat
  hour : Nat
  minute : Nat
  second : Nat
  microsecond : Nat

/-- The seconds since midnight. -/
def secondOfDay (time : Int) : Int := time % 86400000000 / 1000000

def partsOf (time : Int) : Parts where
  year := (dateOf (time / 86400000000)).year.toNat
  month := (dateOf (time / 86400000000)).month.toNat
  day := (dateOf (time / 86400000000)).day.toNat
  hour := (secondOfDay time / 3600).toNat
  minute := (secondOfDay time / 60 % 60).toNat
  second := (secondOfDay time % 60).toNat
  microsecond := (time % 1000000).toNat

/-- The years that a `datetime` can have. -/
def IsDatetime (time : Int) : Prop :=
  1 ≤ (dateOf (time / 86400000000)).year ∧ (dateOf (time / 86400000000)).year ≤ 9999

instance (time : Int) : Decidable (IsDatetime time) := inferInstanceAs (Decidable (_ ∧ _))

def Parts.head (parts : Parts) : List Char :=
  pad 4 parts.year ++ '-' :: (pad 2 parts.month ++ '-' :: (pad 2 parts.day ++ 'T' ::
    (pad 2 parts.hour ++ ':' :: (pad 2 parts.minute ++ ':' :: pad 2 parts.second))))

/-- The microseconds are left out when there are none. -/
def Parts.fraction (parts : Parts) : List Char :=
  if parts.microsecond = 0 then [] else '.' :: pad 6 parts.microsecond

/-- `datetime.isoformat()` of a time in UTC. -/
def isoformat (time : Int) : String :=
  String.ofList ((partsOf time).head ++ ((partsOf time).fraction ++ "+00:00".toList))

example : isoformat 951827696000789 = "2000-02-29T12:34:56.000789+00:00" := by decide

theorem length_head (parts : Parts) : parts.head.length = 19 := by
  simp [Parts.head]

theorem secondOfDay_bounds (time : Int) : 0 ≤ secondOfDay time ∧ secondOfDay time < 86400 := by
  rw [secondOfDay]
  omega

theorem clock_injective {first second : Int} (firstValid : 0 ≤ first) (secondValid : 0 ≤ second)
    (hours : (first / 3600).toNat = (second / 3600).toNat)
    (minutes : (first / 60 % 60).toNat = (second / 60 % 60).toNat)
    (seconds : (first % 60).toNat = (second % 60).toNat) : first = second := by
  have hour : first / 3600 = second / 3600 := by omega
  have minute : first / 60 % 60 = second / 60 % 60 := by omega
  have inMinute : first % 60 = second % 60 := by omega
  clear hours minutes seconds
  omega

theorem partsOf_injective {first second : Int} (firstValid : IsDatetime first)
    (secondValid : IsDatetime second) (same : partsOf first = partsOf second) :
    first = second := by
  simp only [partsOf, Parts.mk.injEq] at same
  rcases same with ⟨years, months, days, hours, minutes, seconds, microseconds⟩
  have date : first / 86400000000 = second / 86400000000 := by
    have firstBounds := dateOf_bounds (first / 86400000000)
    have secondBounds := dateOf_bounds (second / 86400000000)
    have firstYear := firstValid.1
    have secondYear := secondValid.1
    apply dateOf_injective
    generalize dateOf (first / 86400000000) = firstDate at *
    generalize dateOf (second / 86400000000) = secondDate at *
    apply Date.ext
    · omega
    · omega
    · omega
  have clock : secondOfDay first = secondOfDay second :=
    clock_injective (secondOfDay_bounds first).1 (secondOfDay_bounds second).1 hours minutes
      seconds
  rw [secondOfDay, secondOfDay] at clock
  have fraction : first % 1000000 = second % 1000000 := by omega
  have inDay : first % 86400000000 = second % 86400000000 := by omega
  omega

theorem partsOf_bounds {time : Int} (valid : IsDatetime time) :
    (partsOf time).year < 10 ^ 4 ∧ (partsOf time).month < 10 ^ 2 ∧
      (partsOf time).day < 10 ^ 2 ∧ (partsOf time).hour < 10 ^ 2 ∧
        (partsOf time).minute < 10 ^ 2 ∧ (partsOf time).second < 10 ^ 2 ∧
          (partsOf time).microsecond < 10 ^ 6 := by
  have date := dateOf_bounds (time / 86400000000)
  have year := valid.2
  have clock := secondOfDay_bounds time
  simp only [partsOf]
  refine ⟨?_, ?_, ?_, ?_, ?_, ?_, ?_⟩ <;> omega

theorem head_injective {first second : Int} (firstValid : IsDatetime first)
    (secondValid : IsDatetime second)
    (heads : (partsOf first).head = (partsOf second).head)
    (microseconds : (partsOf first).microsecond = (partsOf second).microsecond) :
    first = second := by
  rcases partsOf_bounds firstValid with ⟨year, month, day, hour, minute, secnd, -⟩
  rcases partsOf_bounds secondValid with ⟨year', month', day', hour', minute', secnd', -⟩
  apply partsOf_injective firstValid secondValid
  rcases pad_append_inj year year' heads with ⟨years, heads⟩
  rcases pad_append_inj month month' (List.cons.inj heads).2 with ⟨months, heads⟩
  rcases pad_append_inj day day' (List.cons.inj heads).2 with ⟨days, heads⟩
  rcases pad_append_inj hour hour' (List.cons.inj heads).2 with ⟨hours, heads⟩
  rcases pad_append_inj minute minute' (List.cons.inj heads).2 with ⟨minutes, heads⟩
  have seconds := mod_of_pad (List.cons.inj heads).2
  rw [Nat.mod_eq_of_lt secnd, Nat.mod_eq_of_lt secnd'] at seconds
  exact Parts.ext years months days hours minutes seconds microseconds

theorem head_ends (parts : Parts) :
    ∃ before tens ones, parts.head = before ++ [':', tens, ones] := by
  refine ⟨pad 4 parts.year ++ '-' :: (pad 2 parts.month ++ '-' :: (pad 2 parts.day ++ 'T' ::
    (pad 2 parts.hour ++ ':' :: pad 2 parts.minute))),
    Nat.digitChar (parts.second / 10 % 10), Nat.digitChar (parts.second % 10), ?_⟩
  simp [Parts.head, pad]

theorem pad_ends (number : Nat) :
    ∃ before digit tens ones, pad 6 number = before ++ [digit, tens, ones] ∧ digit ≠ ':' := by
  refine ⟨pad 3 (number / 10 / 10 / 10), Nat.digitChar (number / 10 / 10 % 10),
    Nat.digitChar (number / 10 % 10), Nat.digitChar (number % 10), ?_, ?_⟩
  · simp [pad]
  · exact digitChar_ne_colon _ (Nat.mod_lt _ (by decide))

theorem fraction_apart {first second : Parts} {start other : List Char}
    (whole : first.microsecond = 0) (part : second.microsecond ≠ 0) :
    start ++ (first.head ++ first.fraction) ≠ other ++ (second.head ++ second.fraction) := by
  intro same
  rcases head_ends first with ⟨before, tens, ones, head⟩
  rcases pad_ends second.microsecond with ⟨digits, digit, tens', ones', padded, noColon⟩
  rw [Parts.fraction, if_pos whole, List.append_nil, Parts.fraction, if_neg part, head,
    padded] at same
  have regrouped : (start ++ before) ++ [':', tens, ones] =
      (other ++ second.head ++ '.' :: digits) ++ [digit, tens', ones'] := by
    simpa using same
  have ends := (List.append_inj' regrouped rfl).2
  exact noColon (List.cons.inj ends).1.symm

theorem isoformat_ending {first second : Int} (firstValid : IsDatetime first)
    (secondValid : IsDatetime second) {start other : List Char}
    (same : start ++ (isoformat first).toList = other ++ (isoformat second).toList) :
    first = second := by
  simp only [isoformat, String.toList_ofList, ← List.append_assoc] at same
  have texts := List.append_cancel_right same
  rw [List.append_assoc, List.append_assoc] at texts
  by_cases whole : (partsOf first).microsecond = 0
  · by_cases also : (partsOf second).microsecond = 0
    · have none : (partsOf first).fraction = [] ∧ (partsOf second).fraction = [] :=
        ⟨if_pos whole, if_pos also⟩
      rw [none.1, none.2, List.append_nil, List.append_nil] at texts
      have heads := (List.append_inj' texts (by rw [length_head, length_head])).2
      exact head_injective firstValid secondValid heads (whole.trans also.symm)
    · exact absurd texts (fraction_apart whole also)
  · by_cases also : (partsOf second).microsecond = 0
    · exact absurd texts.symm (fraction_apart also whole)
    · have some : (partsOf first).fraction = '.' :: pad 6 (partsOf first).microsecond ∧
          (partsOf second).fraction = '.' :: pad 6 (partsOf second).microsecond :=
        ⟨if_neg whole, if_neg also⟩
      rw [some.1, some.2] at texts
      have stamps := (List.append_inj' texts (by simp [length_head])).2
      rcases List.append_inj stamps (by rw [length_head, length_head]) with ⟨heads, fractions⟩
      have microseconds := mod_of_pad (List.cons.inj fractions).2
      rw [Nat.mod_eq_of_lt (partsOf_bounds firstValid).2.2.2.2.2.2,
        Nat.mod_eq_of_lt (partsOf_bounds secondValid).2.2.2.2.2.2] at microseconds
      exact head_injective firstValid secondValid heads microseconds

end Onpremai.Library.Datetime
