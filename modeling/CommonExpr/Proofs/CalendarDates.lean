import CommonExpr.Document.Content
import CommonExpr.Proofs.DoubleTexts
import CommonExpr.Value.Equality

/-! Dates of documents. The text that a date is kept as reads back as the date, so that two dates
are equal if they name one moment, or if they name none and are the same. The days of the calendar
are counted without a gap, and on the clocks of one zone no moment has two dates. -/

namespace CommonExpr.Proofs.CalendarDates
open Document DoubleTexts IntegerTexts

section Calendar

private theorem daysBefore_next_month (year : Nat) {month : Nat} (inside : 1 ≤ month) :
    daysBefore year (month + 1) = daysBefore year month + daysIn year month := by
  obtain ⟨past, rfl⟩ := Nat.exists_eq_add_of_le' inside
  simp only [daysBefore, Nat.add_sub_cancel, List.range'_concat, List.foldl_append, List.foldl_cons, List.foldl_nil]
  rw [Nat.one_mul, Nat.add_comm 1 past, Nat.add_assoc _ (List.foldl _ _ _)]

private theorem days_in_year (year : Nat) :
    (List.range' 1 (12 - 1)).foldl (fun days month => days + daysIn year month) 0 + daysIn year 12 =
      if isLeapYear year then 366 else 365 := by
  cases leap : isLeapYear year <;> simp [List.range', daysIn, leap]

/-- A year begins behind the last month of the year before it. -/
theorem daysBefore_next_year {year : Nat} (inside : 1 ≤ year) :
    daysBefore (year + 1) 1 = daysBefore year 12 + daysIn year 12 := by
  obtain ⟨past, rfl⟩ := Nat.exists_eq_add_of_le' inside
  have ordered : past / 100 ≤ past / 4 := Nat.div_le_div_left (by decide) (by decide)
  have leap : isLeapYear (past + 1) = true ↔ 4 ∣ past + 1 ∧ (¬ 100 ∣ past + 1 ∨ 400 ∣ past + 1) := by
    simp [isLeapYear, Nat.dvd_iff_mod_eq_zero]
  have hundred : 100 ∣ past + 1 → 4 ∣ past + 1 := Nat.dvd_trans (by decide)
  have cycle : 400 ∣ past + 1 → 100 ∣ past + 1 := Nat.dvd_trans (by decide)
  simp only [daysBefore, Nat.add_sub_cancel, Nat.succ_div, Nat.sub_self, List.range'_zero, List.foldl_nil]
  rw [Nat.add_assoc _ _ (daysIn _ 12), days_in_year]
  -- Each of the three counts of years goes up by one where its divisor divides the year.
  by_cases four : 4 ∣ past + 1 <;> by_cases century : 100 ∣ past + 1 <;> by_cases fourth : 400 ∣ past + 1 <;>
    simp only [leap, four, century, fourth, true_and, false_and, not_true, not_false_eq_true, true_or, false_or,
      if_true, if_false] <;> omega

/-- The days before a month, where months are numbered through. -/
def monthStart (index : Nat) : Nat :=
  daysBefore (index / 12 + 1) (index % 12 + 1)

private theorem monthStart_succ (index : Nat) :
    monthStart (index + 1) = monthStart index + daysIn (index / 12 + 1) (index % 12 + 1) := by
  unfold monthStart
  by_cases last : index % 12 = 11
  · have year : (index + 1) / 12 = index / 12 + 1 := by omega
    have month : (index + 1) % 12 = 0 := by omega
    rw [year, month, last]
    exact daysBefore_next_year (by omega)
  · have year : (index + 1) / 12 = index / 12 := by omega
    have month : (index + 1) % 12 = index % 12 + 1 := by omega
    rw [year, month]
    exact daysBefore_next_month _ (by omega)

private theorem monthStart_mono : Monotone monthStart :=
  monotone_nat_of_le_succ fun index => monthStart_succ index ▸ Nat.le_add_right _ _

/-- A day is in one month only. -/
theorem month_unique {index other day : Nat} (here : monthStart index < day ∧ day ≤ monthStart (index + 1))
    (there : monthStart other < day ∧ day ≤ monthStart (other + 1)) : index = other := by
  rcases Nat.lt_trichotomy index other with before | same | behind
  · have ended : monthStart (index + 1) ≤ monthStart other := monthStart_mono before
    omega
  · exact same
  · have ended : monthStart (other + 1) ≤ monthStart index := monthStart_mono behind
    omega

end Calendar

section Digits
variable {least width value : Nat}

private theorem toList_padded (width value : Nat) : (Timestamp.padded width value).toList =
    List.replicate (width - (Nat.toDigits 10 value).length) '0' ++ Nat.toDigits 10 value :=
  String.toList_ofList

private theorem padded_isDigit (width value : Nat) : ∀ c ∈ (Timestamp.padded width value).toList, c.isDigit := by
  rw [toList_padded]
  exact padded_digits _ _

private theorem length_padded (positive : 0 < width) (fits : value < 10 ^ width) :
    (Timestamp.padded width value).toList.length = width := by
  have short := (Nat.length_toDigits_le_iff (by decide) positive).mpr fits
  rw [toList_padded, List.length_append, List.length_replicate, Nat.sub_add_cancel short]

private theorem ofDigits_padded (width value : Nat) :
    Text.ofDigits 10 ((Timestamp.padded width value).toList.filterMap Text.hexDigit?) = value := by
  have digits : (Timestamp.padded width value).toList.filterMap Text.hexDigit? =
      (Timestamp.padded width value).toList.map fun c => c.toNat - '0'.toNat := by
    rw [← List.filterMap_eq_map]
    apply List.filterMap_congr
    intro c member
    rw [Text.hexDigit?, if_pos (padded_isDigit width value c member)]
    rfl
  rw [digits, Text.ofDigits, List.foldl_map, toList_padded]
  exact padded_counted _ _

/-- A number that fills its place is read back from it, whatever stands behind. -/
theorem takeDigits?_padded (enough : least ≤ width) (positive : 0 < width) (fits : value < 10 ^ width)
    (rest : List Char) : takeDigits? least width ((Timestamp.padded width value).toList ++ rest) = some (value, rest) := by
  have size := length_padded positive fits
  have digits := List.takeWhile_eq_self_iff.mpr (padded_isDigit width value)
  rw [takeDigits?, List.take_left' size, digits, size, if_pos enough, List.drop_left' size, ofDigits_padded]

end Digits

section Reading

private theorem readZone?_zoneText {ahead : Int} (small : ahead.natAbs < 24 * 60) :
    TimeOfDay.readZone? (Timestamp.zoneText ahead).toList = some (some ahead) := by
  have hours : ahead.natAbs / 60 < 10 ^ 2 := by omega
  have minutes : ahead.natAbs % 60 < 10 ^ 2 := by omega
  have whole : 60 * ((ahead.natAbs / 60 : Nat) : Int) + ((ahead.natAbs % 60 : Nat) : Int) = ahead.natAbs := by omega
  have readHours := takeDigits?_padded (by decide : 1 ≤ 2) (by decide) hours
    (':' :: (Timestamp.padded 2 (ahead.natAbs % 60)).toList)
  have readMinutes := takeDigits?_padded (by decide : 2 ≤ 2) (by decide) minutes []
  rw [List.append_nil] at readMinutes
  simp only [Timestamp.zoneText, toString, String.toList_append]
  generalize ahead.natAbs / 60 = hour at *
  generalize ahead.natAbs % 60 = minute at *
  split
  next behind =>
    simp [TimeOfDay.readZone?, isBlankChar, readHours, readMinutes, dropChar?]
    omega
  next level =>
    simp [TimeOfDay.readZone?, isBlankChar, readHours, readMinutes, dropChar?]
    omega

private theorem readZone?_zone {zone : Option Int} (small : zone.all fun ahead => ahead.natAbs < 24 * 60) :
    TimeOfDay.readZone? ((zone.map Timestamp.zoneText).getD "").toList = some zone := by
  cases zone with
  | none => rfl
  | some ahead => exact readZone?_zoneText (by simpa using small)

/-- No zone begins with a digit or a point. -/
private theorem zone_head (zone : Option Int) :
    ∀ c ∈ ((zone.map Timestamp.zoneText).getD "").toList.head?, c = '+' ∨ c = '-' := by
  cases zone with
  | none => simp
  | some ahead =>
    simp only [Option.map_some, Option.getD_some, Timestamp.zoneText, toString, String.toList_append]
    split <;> simp

private theorem microseconds_padded {microsecond : Nat} (fits : microsecond < 10 ^ 6) :
    TimeOfDay.microseconds (Timestamp.padded 6 microsecond).toList = microsecond := by
  have size := length_padded (by decide) fits
  have whole := List.take_of_length_le (Nat.le_of_eq size)
  rw [TimeOfDay.microseconds, whole, size, ofDigits_padded]
  exact Nat.mul_one _

private theorem ofText?_timeText {time : TimeOfDay} (valid : time.isValid) :
    TimeOfDay.ofText? (Timestamp.timeText time).toList = some time := by
  obtain ⟨hour, minute, second, microsecond, zone⟩ := time
  simp only [TimeOfDay.isValid, Bool.and_eq_true, decide_eq_true_eq] at valid
  obtain ⟨⟨⟨⟨hours, minutes⟩, seconds⟩, microseconds⟩, small⟩ := valid
  have readHour := takeDigits?_padded (by decide : 1 ≤ 2) (by decide) (by omega : hour < 10 ^ 2)
  have readMinute := takeDigits?_padded (by decide : 2 ≤ 2) (by decide) (by omega : minute < 10 ^ 2)
  have readSecond := takeDigits?_padded (by decide : 2 ≤ 2) (by decide) (by omega : second < 10 ^ 2)
  have readZone := readZone?_zone small
  have heads := zone_head zone
  simp only [Timestamp.timeText, toString, String.toList_append]
  generalize ((zone.map Timestamp.zoneText).getD "").toList = zoneText at readZone heads ⊢
  split
  next whole =>
    subst whole
    simp only [TimeOfDay.ofText?, String.reduceToList, List.append_assoc, List.cons_append, List.nil_append,
      String.toList_empty, readHour, readMinute, readSecond, dropChar?, Option.pure_def, Option.bind_eq_bind,
      Option.bind_some, ↓reduceIte]
    split
    next => cases heads '.' rfl <;> contradiction
    next =>
      rw [readZone]
      rfl
  next part =>
    have apart : ∀ c ∈ zoneText.head?, c.isDigit = false := by
      intro c first
      rcases heads c first with rfl | rfl <;> rfl
    have digits := padded_isDigit 6 microsecond
    simp [TimeOfDay.ofText?, readHour, readMinute, readSecond, dropChar?, dropWhile_before digits apart,
      takeWhile_before digits apart, readZone, microseconds_padded microseconds]

private theorem timeText_unblank (time : TimeOfDay) :
    (Timestamp.timeText time).toList.dropWhile isBlankChar = (Timestamp.timeText time).toList := by
  have filled : (Timestamp.padded 2 time.hour).toList ≠ [] := by
    rw [toList_padded]
    exact List.append_ne_nil_of_right_ne_nil _ Nat.toDigits_ne_nil
  obtain ⟨first, rest, told⟩ := List.exists_cons_of_ne_nil filled
  have digit : first.isDigit := padded_isDigit 2 time.hour first (told ▸ List.mem_cons_self)
  have dark : isBlankChar first = false := by
    rw [isBlankChar, Bool.or_eq_false_iff, beq_eq_false_iff_ne, beq_eq_false_iff_ne]
    constructor <;> (rintro rfl; cases digit)
  simp only [Timestamp.timeText, toString, String.toList_append, told, List.cons_append]
  rw [List.dropWhile_cons_of_neg (by simp [dark])]

/-- The text of a date reads back as the date. -/
theorem ofText?_text {stamp : Timestamp} (valid : stamp.isValid) : Timestamp.ofText? stamp.text.toList = some stamp := by
  obtain ⟨year, month, day, time⟩ := stamp
  simp only [Timestamp.isValid, Bool.and_eq_true, decide_eq_true_eq] at valid
  obtain ⟨⟨⟨⟨⟨⟨_, years⟩, _⟩, months⟩, _⟩, days⟩, timed⟩ := valid
  have short : daysIn year month ≤ 31 := by
    unfold daysIn
    split <;> split <;> omega
  have readYear := takeDigits?_padded (by decide : 4 ≤ 4) (by decide) (by omega : year < 10 ^ 4)
  have readMonth := takeDigits?_padded (by decide : 1 ≤ 2) (by decide) (by omega : month < 10 ^ 2)
  have readDay := takeDigits?_padded (by decide : 1 ≤ 2) (by decide) (by omega : day < 10 ^ 2)
  cases time with
  | none =>
    have last := readDay []
    rw [List.append_nil] at last
    simp [Timestamp.text, Timestamp.ofText?, toString, readYear, readMonth, last, dropChar?]
  | some time =>
    have readTime := ofText?_timeText (by simpa using timed)
    simp [Timestamp.text, Timestamp.ofText?, toString, readYear, readMonth, readDay, dropChar?, timeText_unblank, readTime,
      isBlankChar]

end Reading

section Moments
variable {stamp other : Timestamp}

private theorem moment_of_text (valid : stamp.isValid) : Moment.ofText stamp.text =
    match stamp.instant? with
      | some moment => .instant moment
      | none => .written stamp.text := by
  rw [Moment.ofText, ofText?_text valid]
  rfl

/-- Two dates are equal if they name one moment, or if they name none and are the same. -/
theorem dates_equal_iff (valid : stamp.isValid) (also : other.isValid) :
    (Value.date stamp.text).deepEquals (.date other.text) ↔
      (∃ moment, stamp.instant? = some moment ∧ other.instant? = some moment) ∨
        stamp.instant? = none ∧ stamp = other := by
  have told : stamp.text = other.text ↔ stamp = other := by
    refine ⟨fun same => ?_, congrArg Timestamp.text⟩
    have read := ofText?_text valid
    rw [same, ofText?_text also] at read
    exact (Option.some.inj read).symm
  rw [Value.deepEquals, beq_iff_eq, moment_of_text valid, moment_of_text also]
  cases here : stamp.instant? with
  | none =>
    cases there : other.instant? with
    | none => simpa using told
    | some moment =>
      simp only [reduceCtorEq, false_and, exists_false, true_and, false_or, false_iff]
      rintro rfl
      cases here.symm.trans there
  | some moment =>
    cases there : other.instant? with
    | none => simp
    | some later => simp [eq_comm]

/-- One moment on the clocks of two zones. -/
example : (Value.date "2001-12-14 21:59:43.100000-05:00").deepEquals (.date "2001-12-15 02:59:43.100000+00:00") := by
  rfl

private theorem date_unique {year month day year' month' day' : Nat}
    (valid : 1 ≤ year ∧ 1 ≤ month ∧ month ≤ 12 ∧ 1 ≤ day ∧ day ≤ daysIn year month)
    (also : 1 ≤ year' ∧ 1 ≤ month' ∧ month' ≤ 12 ∧ 1 ≤ day' ∧ day' ≤ daysIn year' month')
    (same : daysBefore year month + day = daysBefore year' month' + day') : year = year' ∧ month = month' ∧ day = day' := by
  have located {year month day : Nat} (valid : 1 ≤ year ∧ 1 ≤ month ∧ month ≤ 12 ∧ 1 ≤ day ∧ day ≤ daysIn year month) :
      monthStart (12 * (year - 1) + (month - 1)) < daysBefore year month + day ∧
        daysBefore year month + day ≤ monthStart (12 * (year - 1) + (month - 1) + 1) := by
    have years : (12 * (year - 1) + (month - 1)) / 12 + 1 = year := by omega
    have months : (12 * (year - 1) + (month - 1)) % 12 + 1 = month := by omega
    rw [monthStart_succ, monthStart, years, months]
    omega
  have index := month_unique (located valid) (same ▸ located also)
  obtain rfl : year = year' := by omega
  obtain rfl : month = month' := by omega
  exact ⟨rfl, rfl, by omega⟩

/-- On the clocks of one zone, no moment has two dates. -/
theorem instant_unique (valid : stamp.isValid) (also : other.isValid) {moment : Int}
    (zone : stamp.time.bind (·.zone) = other.time.bind (·.zone)) (here : stamp.instant? = some moment)
    (there : other.instant? = some moment) : stamp = other := by
  rcases stamp with ⟨year, month, day, _ | ⟨hour, minute, second, microsecond, _ | ahead⟩⟩
  case none => cases here
  case some.none => cases here
  rcases other with ⟨year', month', day', _ | ⟨hour', minute', second', microsecond', _ | _⟩⟩
  case none => cases there
  case some.none => cases there
  cases zone
  simp only [Timestamp.isValid, TimeOfDay.isValid, Option.all_some, Bool.and_eq_true, decide_eq_true_eq] at valid also
  have same := Option.some.inj (here.trans there.symm)
  simp only at same
  have days : daysBefore year month + day = daysBefore year' month' + day' := by omega
  obtain ⟨rfl, rfl, rfl⟩ := date_unique (by omega) (by omega) days
  obtain ⟨rfl, rfl, rfl, rfl⟩ : hour = hour' ∧ minute = minute' ∧ second = second' ∧ microsecond = microsecond' := by omega
  rfl

end Moments

end CommonExpr.Proofs.CalendarDates
