import Redelivery.Ledger.Record
import Redelivery.Proofs.Calendar.Dates

/-!
# Printed times

A time is printed as its numbers with marks between them, so it can be read back
from its text.  A time in milliseconds is printed as the time of its second, or
not at all if its year is past the last one that is printed; only from 2^63 on
the beginning of 1970 is printed in its place.
-/

namespace Redelivery

namespace CalendarTime

/-! ## Reading numbers back -/

/-- The number that some characters begin with, and what stands behind the mark
after it. -/
def readField (mark chars : List Char) : Option (Nat × List Char) :=
  let number := chars.takeWhile Char.isDigit
  let rest := chars.dropWhile Char.isDigit
  if number ≠ [] ∧ mark.isPrefixOf rest then
    some (Nat.ofDigitChars 10 number 0, rest.drop mark.length)
  else none

def read? (text : String) : Option CalendarTime := do
  let (year, chars) ← readField ['-'] (text.toList.dropWhile (· = '+'))
  let (month, chars) ← readField ['-'] chars
  let (day, chars) ← readField [' '] chars
  let (hour, chars) ← readField [':'] chars
  let (minute, chars) ← readField [':'] chars
  let (second, chars) ← readField [' ', 'U', 'T', 'C'] chars
  if chars = [] then some ⟨year, month, day, hour, minute, second⟩ else none

theorem toList_digits (width n : Nat) : (digits width n).toList =
    List.replicate (width - (toString n).length) '0' ++ Nat.toDigits 10 n := by
  simp [digits]

theorem isDigit_of_mem_digits {width n : Nat} {c : Char}
    (hc : c ∈ (digits width n).toList) :
    c.isDigit = true := by
  rw [toList_digits, List.mem_append] at hc
  rcases hc with hzero | hdigit
  · rw [List.eq_of_mem_replicate hzero]
    rfl
  · exact Nat.isDigit_of_mem_toDigits (by decide) (by decide) hdigit

theorem ofDigitChars_digits (width n : Nat) :
    Nat.ofDigitChars 10 (digits width n).toList 0 = n := by
  rw [toList_digits, Nat.ofDigitChars_append, Nat.ofDigitChars_replicate_zero,
    Nat.mul_zero, Nat.ofDigitChars_ten_toDigits]

theorem digits_ne_nil (width n : Nat) : (digits width n).toList ≠ [] := by
  simp [toList_digits]

/-- A number is read back from its digits if a mark follows that begins with no
digit. -/
theorem readField_digits {first : Char} (hfirst : first.isDigit = false)
    (mark : List Char) (width n : Nat) (rest : List Char) :
    readField (first :: mark)
      ((digits width n).toList ++ (first :: mark ++ rest)) =
      some (n, rest) := by
  have hall : ∀ c ∈ (digits width n).toList, c.isDigit = true :=
    fun _ => isDigit_of_mem_digits
  have hstop : ¬first.isDigit = true := Bool.eq_false_iff.1 hfirst
  have hnumber : ((digits width n).toList ++ (first :: mark ++ rest)).takeWhile
      Char.isDigit =
      (digits width n).toList := by
    rw [List.takeWhile_append_of_pos hall, List.cons_append,
      List.takeWhile_cons_of_neg hstop, List.append_nil]
  have hrest : ((digits width n).toList ++ (first :: mark ++ rest)).dropWhile
      Char.isDigit =
      first :: mark ++ rest := by
    rw [List.dropWhile_append_of_pos hall, List.cons_append,
      List.dropWhile_cons_of_neg hstop]
  have hmark : (first :: mark).isPrefixOf (first :: mark ++ rest) = true :=
    List.isPrefixOf_iff_prefix.2 (List.prefix_append _ _)
  simp only [readField, hnumber, hrest]
  rw [if_pos ⟨digits_ne_nil width n, hmark⟩, ofDigitChars_digits,
    List.drop_left]

/-- Without a sign before it, a year is a number of some width. -/
theorem dropWhile_yearText (year : Nat) (rest : List Char) : ∃ width,
    ((yearText year).toList ++ rest).dropWhile (· = '+') =
      (digits width year).toList ++ rest := by
  have hunsigned (width : Nat) :
      ((digits width year).toList ++ rest).dropWhile (· = '+') =
      (digits width year).toList ++ rest := by
    cases hdigits : (digits width year).toList with
    | nil => exact absurd hdigits (digits_ne_nil width year)
    | cons c others =>
      have hmem : c ∈ (digits width year).toList := by simp [hdigits]
      have hdigit := isDigit_of_mem_digits hmem
      have hsign : c ≠ '+' := by
        rintro rfl
        cases hdigit
      rw [List.cons_append, List.dropWhile_cons_of_neg (by simpa using hsign)]
  rw [yearText]
  split
  next => exact ⟨4, hunsigned 4⟩
  next =>
    refine ⟨0, ?_⟩
    have hsigned :
        ("+" ++ toString year).toList = '+' :: (digits 0 year).toList := by
      simp [toList_digits]
    rw [hsigned, List.cons_append, List.dropWhile_cons_of_pos (by rfl),
      hunsigned]

/-- A printed time is read back as it was. -/
theorem read?_text (t : CalendarTime) : read? t.text = some t := by
  have htext : t.text.toList =
      (yearText t.year).toList ++ (['-'] ++ ((digits 2 t.month).toList ++
      (['-'] ++ ((digits 2 t.day).toList ++
        ([' '] ++ ((digits 2 t.hour).toList ++
      ([':'] ++ ((digits 2 t.minute).toList ++
        ([':'] ++ ((digits 2 t.second).toList ++
      ([' ', 'U', 'T', 'C'] ++ []))))))))))) := by
    simp [text]
  have hdash : Char.isDigit '-' = false := rfl
  have hblank : Char.isDigit ' ' = false := rfl
  have hcolon : Char.isDigit ':' = false := rfl
  obtain ⟨width, hyear⟩ := dropWhile_yearText t.year _
  rw [read?, htext, hyear]
  simp only [readField_digits hdash, readField_digits hblank,
    readField_digits hcolon, Option.bind_eq_bind, Option.bind_some, if_true]

/-! ## The last time that is printed -/

def afterLast : CalendarTime := ⟨lastYear + 1, 1, 1, 0, 0, 0⟩

theorem isTime_afterLast : afterLast.IsTime :=
  ⟨⟨by decide, by decide, by decide, by decide, by decide⟩,
    by decide, by decide, by decide⟩

theorem sinceEpoch_newYear (year : Nat) :
    (⟨year, 1, 1, 0, 0, 0⟩ : CalendarTime).sinceEpoch =
      daysBeforeYear year * 86400 := by
  simp [sinceEpoch, dayNumber, daysBeforeMonth]

theorem sinceEpoch_afterLast : afterLast.sinceEpoch = 8210266876800 := by
  have hyears : daysBeforeYear (lastYear + 1) + daysBefore1970 =
      daysBeforeMarch lastYear + 306 :=
    daysBeforeYear_eq (by decide)
  rw [afterLast, sinceEpoch_newYear, Nat.eq_sub_of_add_eq hyears]
  decide

/-- A time lies in a year that is printed just if it comes before the first that
is not. -/
theorem year_le_lastYear_iff {t : CalendarTime} (ht : t.IsTime) :
    t.year ≤ lastYear ↔ t.sinceEpoch < afterLast.sinceEpoch := by
  rw [← fields_lt_iff ht isTime_afterLast]
  have hmonth := ht.date.month_ge
  have hday := ht.date.day_ge
  simp only [fields, afterLast, List.cons_lt_cons_iff, List.not_lt_nil,
    and_false, or_false]
  omega

/-! ## Times in milliseconds -/

/-- A text that shows a second of the calendar: it is the printed form of a time
that is so many seconds after the beginning of 1970, and that time is read back
from it. -/
def Shows (text : String) (seconds : Nat) : Prop :=
  ∃ t : CalendarTime, t.IsTime ∧ t.sinceEpoch = seconds ∧ text = t.text ∧
    read? text = some t

theorem shows_text (seconds : Nat) : Shows (ofSeconds seconds).text seconds :=
  have ⟨hisTime, hseconds⟩ := isTime_ofSeconds seconds
  ⟨ofSeconds seconds, hisTime, hseconds, rfl, read?_text _⟩

theorem read?_unknown : read? "unknown" = none := by
  decide

/-- No other second is shown by a text. -/
theorem Shows.seconds_eq {text : String} {seconds other : Nat}
    (hshows : Shows text seconds) (hother : Shows text other) :
    seconds = other := by
  obtain ⟨t, -, hseconds, -, hread⟩ := hshows
  obtain ⟨t', -, hseconds', -, hread'⟩ := hother
  rw [← hseconds, ← hseconds', Option.some.inj (hread.symm.trans hread')]

theorem Shows.ne_unknown {text : String} {seconds : Nat}
    (hshows : Shows text seconds) :
    text ≠ "unknown" := by
  rintro rfl
  obtain ⟨t, -, -, -, hread⟩ := hshows
  rw [read?_unknown] at hread
  cases hread

/-- What is read back from two texts compares as the seconds that they show. -/
theorem Shows.fields_lt_iff {text text' : String} {seconds seconds' : Nat}
    {t t' : CalendarTime} (hshows : Shows text seconds)
    (hshows' : Shows text' seconds') (hread : read? text = some t)
    (hread' : read? text' = some t') :
    t.fields < t'.fields ↔ seconds < seconds' := by
  obtain ⟨s, hs, hseconds, -, hreads⟩ := hshows
  obtain ⟨s', hs', hseconds', -, hreads'⟩ := hshows'
  rw [Option.some.inj (hread.symm.trans hreads),
    Option.some.inj (hread'.symm.trans hreads'), ← hseconds, ← hseconds']
  exact CalendarTime.fields_lt_iff hs hs'

end CalendarTime

open CalendarTime

/-- What is printed for a time in milliseconds. -/
structure Printed (millis : UInt64) (text : String) : Prop where
  shows : millis.toNat / 1000 < afterLast.sinceEpoch →
    Shows text (millis.toNat / 1000)
  /-- A time after the calendar is not printed if it takes no more than 63
  bits. -/
  unknown : afterLast.sinceEpoch ≤ millis.toNat / 1000 → millis.toNat < 2 ^ 63 →
    text = "unknown"
  beginning : 2 ^ 63 ≤ millis.toNat → Shows text 0
  /-- So a time is printed as it is, or not at all, just if it takes no more
  than 63 bits. -/
  right_iff : text = "unknown" ∨ Shows text (millis.toNat / 1000) ↔
    millis.toNat < 2 ^ 63

theorem timestampText_of_lt {millis : UInt64}
    (hmillis : millis.toNat < 2 ^ 63) :
    timestampText millis = if millis.toNat / 1000 < afterLast.sinceEpoch then
      (ofSeconds (millis.toNat / 1000)).text else "unknown" := by
  obtain ⟨hisTime, hseconds⟩ := isTime_ofSeconds (millis.toNat / 1000)
  have hsigned : millis.toNat < UInt64.size / 2 := hmillis
  simp only [timestampText, if_pos hsigned,
    year_le_lastYear_iff hisTime, hseconds]

theorem timestampText_of_ge {millis : UInt64}
    (hmillis : 2 ^ 63 ≤ millis.toNat) :
    timestampText millis = (ofSeconds 0).text := by
  have hsigned : ¬millis.toNat < UInt64.size / 2 := Nat.not_lt.2 hmillis
  simp only [timestampText, if_neg hsigned]
  exact if_pos (by decide)

theorem shows_timestampText {millis : UInt64}
    (hcalendar : millis.toNat / 1000 < afterLast.sinceEpoch) :
    Shows (timestampText millis) (millis.toNat / 1000) := by
  have hlast := sinceEpoch_afterLast
  rw [timestampText_of_lt (by omega), if_pos hcalendar]
  exact shows_text _

/-- What can be read back from a time of at most 63 bits shows its second. -/
theorem shows_timestampText_of_read? {millis : UInt64} {t : CalendarTime}
    (hmillis : millis.toNat < 2 ^ 63)
    (hread : read? (timestampText millis) = some t) :
    Shows (timestampText millis) (millis.toNat / 1000) := by
  by_cases hcalendar : millis.toNat / 1000 < afterLast.sinceEpoch
  · exact shows_timestampText hcalendar
  · rw [timestampText_of_lt hmillis, if_neg hcalendar, read?_unknown] at hread
    cases hread

theorem printed_timestampText (millis : UInt64) :
    Printed millis (timestampText millis) := by
  have hunknown : afterLast.sinceEpoch ≤ millis.toNat / 1000 →
      millis.toNat < 2 ^ 63 →
      timestampText millis = "unknown" := by
    intro hcalendar hmillis
    rw [timestampText_of_lt hmillis, if_neg (Nat.not_lt.2 hcalendar)]
  have hbeginning : 2 ^ 63 ≤ millis.toNat → Shows (timestampText millis) 0 := by
    intro hmillis
    rw [timestampText_of_ge hmillis]
    exact shows_text 0
  refine ⟨shows_timestampText, hunknown, hbeginning, fun htext => ?_,
    fun hmillis => ?_⟩
  · by_contra hmillis
    have hshows := hbeginning (Nat.le_of_not_lt hmillis)
    have hsecond := htext.resolve_left hshows.ne_unknown
    have hzero := hshows.seconds_eq hsecond
    omega
  · by_cases hcalendar : millis.toNat / 1000 < afterLast.sinceEpoch
    · exact Or.inr (shows_timestampText hcalendar)
    · exact Or.inl (hunknown (Nat.le_of_not_lt hcalendar) hmillis)

theorem Record.toNat_expiry_lt_iff (now : UInt64) (ttl : Lifetime) :
    (Record.expiry now ttl).toNat < 2 ^ 63 ↔
      now.toNat + ttl.millis < 2 ^ 63 := by
  simp only [Record.toNat_expiry, maxUInt64, UInt64.size]
  omega

/-- Printed times are those of their seconds up to the end of the calendar, they
compare as these seconds do, and none are printed from there on; but times of
more than 63 bits, and so the expiry of a record that is to live until then, are
printed as the beginning of 1970. -/
theorem timestampText_prints (millis other : UInt64) :
    Printed millis (timestampText millis) ∧
    (∀ t t', millis.toNat < 2 ^ 63 → other.toNat < 2 ^ 63 →
      read? (timestampText millis) = some t →
      read? (timestampText other) = some t' →
        (t.fields < t'.fields ↔ millis.toNat / 1000 < other.toNat / 1000)) ∧
    ∀ now ttl, Record.expiry now ttl = millis →
      ((timestampText millis = "unknown" ∨
        Shows (timestampText millis) (millis.toNat / 1000)) ↔
        now.toNat + ttl.millis < 2 ^ 63) := by
  refine ⟨printed_timestampText millis, ?order, ?expiry⟩
  case order =>
    intro t t' hmillis hother hread hread'
    exact (shows_timestampText_of_read? hmillis hread).fields_lt_iff
      (shows_timestampText_of_read? hother hread') hread hread'
  case expiry =>
    rintro now ttl rfl
    rw [(printed_timestampText _).right_iff, Record.toNat_expiry_lt_iff]

theorem timestampText_prints_leapDay :
    timestampText 951868799999 = "2000-02-29 23:59:59 UTC" ∧
      Shows (timestampText 951868799999) 951868799 ∧
      timestampText 8210266876800000 = "unknown" := by
  have hleapDay := (timestampText_prints 951868799999 0).1
  have hafter := (timestampText_prints 8210266876800000 0).1
  have hlast := sinceEpoch_afterLast
  refine ⟨by decide, hleapDay.shows ?_, hafter.unknown ?_ (by decide)⟩
  · rw [hlast]
    decide
  · rw [hlast]
    decide

/-- A record that is to live as long as can be is shown as expired in 1970: its
expiry is printed neither as unknown nor as its second. -/
theorem timestampText_endless :
    Record.expiry 4102444800000 (.ofSeconds 18446744073709551615) =
      18446744073709551615 ∧
      timestampText 18446744073709551615 = "1970-01-01 00:00:00 UTC" ∧
      ¬(timestampText 18446744073709551615 = "unknown" ∨
        Shows (timestampText 18446744073709551615) 18446744073709551) := by
  refine ⟨by decide, by decide, fun htext => ?_⟩
  exact absurd ((printed_timestampText 18446744073709551615).right_iff.1 htext)
    (by decide)

end Redelivery
