import RowFerry.Calendar.Reading
import RowFerry.Proofs.Text.Digits

/-!
Dates and times are read as they were written: years of every sign and length, and of a time
everything that a clock shows down to the microsecond. A leap second after second 59 is read as what
it is, and one inside a minute as the second that the clock shows.
-/

namespace RowFerry

open Text

namespace Time

theorem isMoment_iff {hour minute second nano : Nat} :
    Calendar.isMoment hour minute second nano = true ↔
      hour ≤ 23 ∧ minute ≤ 59 ∧ second ≤ 59 ∧ nano < 2000000000 := by
  simp only [Calendar.isMoment, Bool.and_eq_true, decide_eq_true_eq, and_assoc]
  rfl

/-- The time without what is finer than a microsecond. -/
def toMicros (t : Time) : Time where
  hour := t.hour
  minute := t.minute
  second := t.second
  nano := t.nano / 1000 * 1000
  isMoment := by
    have h := isMoment_iff.mp t.isMoment
    exact isMoment_iff.mpr ⟨h.1, h.2.1, h.2.2.1, by omega⟩

theorem of?_toMicros (t : Time) :
    of? t.hour t.minute t.second (t.nano / 1000 * 1000) = some t.toMicros :=
  dif_pos t.toMicros.isMoment

/-- Is it in a leap second after another second than 59? -/
def inInnerLeap (t : Time) : Bool := t.second < 59 && Calendar.nanosPerSecond ≤ t.nano

theorem inInnerLeap_iff (t : Time) :
    t.inInnerLeap = true ↔ t.second < 59 ∧ 1000000000 ≤ t.nano := by
  simp only [inInnerLeap, Bool.and_eq_true, decide_eq_true_eq]
  rfl

/-- The time in the second after it, which the clock shows in such a leap second. -/
def nextSecond (t : Time) (h : t.inInnerLeap = true) : Time where
  hour := t.hour
  minute := t.minute
  second := t.second + 1
  nano := t.nano - 1000000000
  isMoment := by
    have hleap := (inInnerLeap_iff t).mp h
    have ht := isMoment_iff.mp t.isMoment
    exact isMoment_iff.mpr ⟨ht.1, ht.2.1, by omega, by omega⟩

/-- The time that is meant by what the clock shows. -/
def onClock (t : Time) : Time := if h : t.inInnerLeap = true then t.nextSecond h else t

/-- Nothing but a leap second inside a minute is shown as another time. -/
theorem onClock_toMicros_iff (t : Time) :
    t.onClock.toMicros = t.toMicros ↔ t.inInnerLeap = false := by
  unfold onClock
  split
  next h =>
    refine iff_of_false (fun hsame => ?_) (by simp [h])
    have hsecond : t.second + 1 = t.second := congrArg second hsame
    omega
  next h => exact iff_of_true rfl (Bool.eq_false_iff.mpr h)

end Time

namespace DateTime

def toMicros (m : DateTime) : DateTime := ⟨m.date, m.time.toMicros⟩

/-- The date and time that is meant by what calendar and clock show. -/
def onClock (m : DateTime) : DateTime := ⟨m.date, m.time.onClock⟩

theorem onClock_toMicros_iff (m : DateTime) :
    m.onClock.toMicros = m.toMicros ↔ m.time.inInnerLeap = false := by
  rw [← m.time.onClock_toMicros_iff]
  exact ⟨congrArg time, congrArg (DateTime.mk m.date)⟩

end DateTime

namespace Calendar

variable {ds rest : List Char} {width n : Nat}

/-! ## Fields -/

/-- The text does not go on with a digit. -/
def NoDigitFirst (cs : List Char) : Prop := ∀ c ∈ cs.head?, c.isDigit = false

theorem noDigitFirst_cons {c : Char} (hc : c.isDigit = false) (cs : List Char) :
    NoDigitFirst (c :: cs) := by
  simpa [NoDigitFirst] using hc

theorem noDigitFirst_nil : NoDigitFirst [] := by simp [NoDigitFirst]

theorem takeWhile_digits (hds : AllDigits ds) (hrest : NoDigitFirst rest) :
    (ds ++ rest).takeWhile Char.isDigit = ds := by
  rw [List.takeWhile_append_of_pos hds]
  cases rest with
  | nil => simp
  | cons c cs => simp [hrest c rfl]

theorem digits?_append (hne : ds ≠ []) (hds : AllDigits ds) (hwidth : ds.length ≤ width)
    (hrest : NoDigitFirst rest) : digits? width (ds ++ rest) = some (ofDigits ds, rest) := by
  simp [digits?, takeWhile_digits hds hrest, List.take_of_length_le hwidth, hne]

theorem skipBlanks_cons {c : Char} (hc : Unicode.isWhiteSpace c = false) (cs : List Char) :
    skipBlanks (c :: cs) = c :: cs := List.dropWhile_cons_of_neg (Bool.not_eq_true _ ▸ hc)

theorem skipBlanks_digits (hne : ds ≠ []) (hds : AllDigits ds) (rest : List Char) :
    skipBlanks (ds ++ rest) = ds ++ rest := by
  obtain ⟨c, cs, rfl⟩ := List.exists_cons_of_ne_nil hne
  exact skipBlanks_cons (digit_not_blank (hds c (List.mem_cons_self ..))) (cs ++ rest)

/-- A padded field is read as its number. -/
theorem field?_padded (hwidth : 0 < width) (hn : n < 10 ^ width) (hrest : NoDigitFirst rest) :
    field? width (padded width n ++ rest) = some (n, rest) := by
  have hlength : (padded width n).length ≤ width := Nat.le_of_eq (length_padded_of_lt hwidth hn)
  rw [field?, skipBlanks_digits (padded_ne_nil width n) (padded_digits width n),
    digits?_append (padded_ne_nil width n) (padded_digits width n) hlength hrest, ofDigits_padded]

theorem field?_two (hn : n < 100) (hrest : NoDigitFirst rest) :
    field? 2 (padded 2 n ++ rest) = some (n, rest) := field?_padded (by decide) hn hrest

theorem mark?_cons (c : Char) (cs : List Char) : mark? c (c :: cs) = some cs := if_pos rfl

/-! ## Dates -/

theorem year?_digits (hne : ds ≠ []) (hds : AllDigits ds) (hlength : ds.length ≤ 4)
    (hrest : NoDigitFirst rest) : year? (ds ++ rest) = some ((ofDigits ds : Int), rest) := by
  obtain ⟨c, cs, rfl⟩ := List.exists_cons_of_ne_nil hne
  obtain ⟨hminus, hplus⟩ := digit_not_sign (hds c (List.mem_cons_self ..))
  rw [year?, skipBlanks_digits hne hds]
  split
  next h => exact absurd (List.cons.inj h).1 hminus
  next h => exact absurd (List.cons.inj h).1 hplus
  next => rw [digits?_append hne hds hlength hrest, Option.map_some]

/-- After a sign a year may have any number of digits. -/
theorem year?_signed (hne : ds ≠ []) (hds : AllDigits ds) (hrest : NoDigitFirst rest) :
    year? ('-' :: (ds ++ rest)) = some (-(ofDigits ds : Int), rest) ∧
      year? ('+' :: (ds ++ rest)) = some ((ofDigits ds : Int), rest) := by
  have hlength : ds.length ≤ (ds ++ rest).length := by
    rw [List.length_append]
    omega
  constructor
  · rw [year?, skipBlanks_cons (by decide)]
    simp only [digits?_append hne hds hlength hrest, Option.map_some]
  · rw [year?, skipBlanks_cons (by decide)]
    simp only [digits?_append hne hds hlength hrest, Option.map_some]

theorem year?_yearText (year : Int) (hrest : NoDigitFirst rest) :
    year? (Date.yearText year ++ rest) = some (year, rest) := by
  have hne := padded_ne_nil 4 year.natAbs
  have hds := padded_digits 4 year.natAbs
  have hvalue := ofDigits_padded 4 year.natAbs
  obtain ⟨hminus, hplus⟩ := year?_signed hne hds hrest
  rcases Int.lt_or_le year 0 with hneg | hpos
  · have hyear : -((year.natAbs : Nat) : Int) = year := by omega
    rw [Date.yearText, if_pos hneg, List.cons_append, hminus, hvalue, hyear]
  · have hyear : ((year.natAbs : Nat) : Int) = year := by omega
    rw [Date.yearText, if_neg (by omega)]
    rcases Int.lt_or_le 9999 year with hlong | hshort
    · rw [if_pos hlong, List.cons_append, hplus, hvalue, hyear]
    · have hlength : (padded 4 year.natAbs).length ≤ 4 :=
        Nat.le_of_eq (length_padded_of_lt (by decide) (by omega))
      rw [if_neg (by omega), year?_digits hne hds hlength hrest, hvalue, hyear]

theorem fields_lt (d : Date) : d.month < 100 ∧ d.day < 100 := by
  have hday := d.isDay
  have hlast (year : Int) (month : Nat) : daysInMonth year month ≤ 31 := by
    unfold daysInMonth
    split
    · split <;> decide
    all_goals decide
  have := hlast d.year d.month
  simp only [isDay, Bool.and_eq_true, decide_eq_true_eq] at hday
  omega

theorem date?_chars (d : Date) (hrest : NoDigitFirst rest) :
    date? (d.chars ++ rest) = some (d, rest) := by
  obtain ⟨hmonth, hday⟩ := fields_lt d
  have hhyphen (cs : List Char) : NoDigitFirst ('-' :: cs) := noDigitFirst_cons (by decide) cs
  have hof : Date.of? d.year d.month d.day = some d := dif_pos d.isDay
  simp only [date?, Date.chars, List.append_assoc, List.cons_append, year?_yearText _ (hhyphen _),
    Option.bind_eq_bind, Option.bind_some, mark?_cons, field?_two hmonth (hhyphen _),
    field?_two hday hrest, hof, Option.pure_def]

/-! ## Times -/

theorem fraction?_padded (hn : n < 1000000) (hrest : NoDigitFirst rest) :
    fraction? ('.' :: (padded 6 n ++ rest)) = some (n * 1000, rest) := by
  have hds := padded_digits 6 n
  have hlength : (padded 6 n).length = 6 := length_padded_of_lt (by decide) hn
  have hdrop : (padded 6 n ++ rest).dropWhile Char.isDigit = rest := by
    rw [List.dropWhile_append_of_pos hds]
    cases rest with
    | nil => rfl
    | cons c cs => rw [List.dropWhile_cons_of_neg (by simp [hrest c rfl])]
  have htake : (padded 6 n).take 9 = padded 6 n := List.take_of_length_le (by omega)
  simp only [fraction?, takeWhile_digits hds hrest, hdrop, htake, hlength, ofDigits_padded,
    List.isEmpty_iff, padded_ne_nil, if_false]

theorem clock_lt (t : Time) :
    t.hour < 100 ∧ t.minute < 100 ∧ t.shownSecond < 100 ∧ t.shownNano / 1000 < 1000000 := by
  have ht := Time.isMoment_iff.mp t.isMoment
  rw [Time.shownSecond, Time.shownNano, nanosPerSecond]
  omega

theorem shown_of_plain {t : Time} (h : t.nano < 1000000000) :
    t.shownSecond = t.second ∧ t.shownNano = t.nano := by
  rw [Time.shownSecond, Time.shownNano, nanosPerSecond]
  omega

theorem shown_of_leap {t : Time} (h : 1000000000 ≤ t.nano) :
    t.shownSecond = t.second + 1 ∧ t.shownNano = t.nano - 1000000000 := by
  have ht := Time.isMoment_iff.mp t.isMoment
  rw [Time.shownSecond, Time.shownNano, nanosPerSecond]
  omega

/-- The clock shows the time that is meant, cut off after the microsecond. -/
theorem ofClock?_shown (t : Time) :
    Time.ofClock? t.hour t.minute t.shownSecond (t.shownNano / 1000 * 1000) =
      some t.onClock.toMicros := by
  have ht := Time.isMoment_iff.mp t.isMoment
  have hbelow : ¬ nanosPerSecond ≤ t.shownNano / 1000 * 1000 := by
    have hmod : t.shownNano < 1000000000 := Nat.mod_lt _ (by decide)
    rw [nanosPerSecond]
    omega
  rw [Time.ofClock?, if_neg hbelow]
  by_cases hleap : 1000000000 ≤ t.nano
  · obtain ⟨hshown, hrest⟩ := shown_of_leap hleap
    by_cases hinner : t.inInnerLeap = true
    · have hlast := (t.inInnerLeap_iff.mp hinner).1
      rw [if_neg (by omega), hshown, hrest, Time.onClock, dif_pos hinner]
      exact (t.nextSecond hinner).of?_toMicros
    · have hlast : t.second = 59 := by
        have hsecond : ¬ t.second < 59 := fun h => hinner (t.inInnerLeap_iff.mpr ⟨h, hleap⟩)
        omega
      have hmicros : nanosPerSecond + (t.nano - 1000000000) / 1000 * 1000 =
          t.nano / 1000 * 1000 := by
        rw [nanosPerSecond]
        omega
      rw [if_pos (by omega), hrest, hmicros, Time.onClock, dif_neg hinner, ← hlast]
      exact t.of?_toMicros
  · have hinner : ¬ t.inInnerLeap = true := fun h => hleap (t.inInnerLeap_iff.mp h).2
    obtain ⟨hshown, hrest⟩ := shown_of_plain (Nat.lt_of_not_le hleap)
    rw [if_neg (by omega), hshown, hrest, Time.onClock, dif_neg hinner]
    exact t.of?_toMicros

/-- Of a time written to the microsecond nothing is lost that the clock shows. -/
theorem time?_microChars (t : Time) (hrest : NoDigitFirst rest) :
    time? (t.microChars ++ rest) = some (t.onClock.toMicros, rest) := by
  obtain ⟨hhour, hminute, hsecond, hmicros⟩ := clock_lt t
  have hcolon (cs : List Char) : NoDigitFirst (':' :: cs) := noDigitFirst_cons (by decide) cs
  have hpoint (cs : List Char) : NoDigitFirst ('.' :: cs) := noDigitFirst_cons (by decide) cs
  simp only [time?, Time.microChars, Time.clock, List.append_assoc, List.cons_append,
    Option.bind_eq_bind, Option.bind_some, mark?_cons, field?_two hhour (hcolon _),
    field?_two hminute (hcolon _), field?_two hsecond (hpoint _), fraction?_padded hmicros hrest,
    ofClock?_shown, Option.pure_def]

/-! ## White space -/

theorem padded_noBlanks (width n : Nat) : NoBlanks (padded width n) :=
  (padded_digits width n).noBlanks

theorem chars_noBlanks (d : Date) : NoBlanks d.chars := by
  have hyear : NoBlanks (Date.yearText d.year) := by
    unfold Date.yearText
    split
    next => exact (padded_noBlanks 4 _).cons (by decide)
    next =>
      split
      next => exact (padded_noBlanks 4 _).cons (by decide)
      next => exact padded_noBlanks 4 _
  exact (hyear.append ((padded_noBlanks 2 _).cons (by decide))).append
    ((padded_noBlanks 2 _).cons (by decide))

theorem microChars_noBlanks (t : Time) : NoBlanks t.microChars :=
  (((padded_noBlanks 2 _).append ((padded_noBlanks 2 _).cons (by decide))).append
    ((padded_noBlanks 2 _).cons (by decide))).append ((padded_noBlanks 6 _).cons (by decide))

end Calendar

open Calendar

theorem Date.ofText?_text (d : Date) : Date.ofText? d.text = some d := by
  have hread := date?_chars d noDigitFirst_nil
  rw [List.append_nil] at hread
  rw [Date.ofText?, Date.text, String.toList_ofList, hread]
  rfl

theorem Time.ofText?_microChars (t : Time) :
    Time.ofText? (String.ofList t.microChars) = some t.onClock.toMicros := by
  have hread := time?_microChars t noDigitFirst_nil
  rw [List.append_nil] at hread
  rw [Time.ofText?, String.toList_ofList, hread]
  rfl

theorem DateTime.ofText?_microChars (m : DateTime) :
    DateTime.ofText? (String.ofList m.microChars) = some m.onClock.toMicros := by
  have hdate := date?_chars m.date (noDigitFirst_cons (c := ' ') (by decide) m.time.microChars)
  have hblank : skipBlanks (' ' :: m.time.microChars) = m.time.microChars := by
    rw [skipBlanks, List.dropWhile_cons_of_pos (by decide), Time.microChars, Time.clock]
    simp only [List.append_assoc]
    exact skipBlanks_digits (padded_ne_nil 2 m.time.hour) (padded_digits 2 m.time.hour) _
  have htime := time?_microChars m.time noDigitFirst_nil
  rw [List.append_nil] at htime
  rw [DateTime.ofText?, String.toList_ofList, DateTime.microChars]
  simp only [hdate, hblank, htime, Option.bind_eq_bind, Option.bind_some]
  rfl

end RowFerry
