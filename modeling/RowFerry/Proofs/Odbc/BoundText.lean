import RowFerry.Odbc.Driver
import RowFerry.Proofs.Calendar
import RowFerry.Proofs.Decimal
import RowFerry.Proofs.Text.Utf8

/-!
Values come back as they were bound, but for leap seconds inside a minute, which have the text of
the next second. The texts that bind values and the texts that columns are read from are written
down separately; here they are compared, for every value that a column of each type can hold.
-/

namespace RowFerry

open Text

/-- The value without what is finer than a microsecond. -/
def Value.toMicros : Value → Value
  | .time t => .time t.toMicros
  | .dateTime m => .dateTime m.toMicros
  | v => v

/-- Values that are bound as texts. -/
def Value.boundAsText : Value → Bool
  | .decimal _ | .date _ | .time _ | .dateTime _ | .string _ | .uuid _ => true
  | _ => false

/-- Is it a time in a leap second inside a minute? -/
def Value.inInnerLeap : Value → Bool
  | .time t => t.inInnerLeap
  | .dateTime m => m.time.inInnerLeap
  | _ => false

/-- The value that is meant by its text. -/
def Value.onClock : Value → Value
  | .time t => .time t.onClock
  | .dateTime m => .dateTime m.onClock
  | v => v

theorem Value.onClock_toMicros_iff (v : Value) :
    v.onClock.toMicros = v.toMicros ↔ v.inInnerLeap = false := by
  cases v with
  | time t => exact Value.time.injEq .. ▸ t.onClock_toMicros_iff
  | dateTime m => exact Value.dateTime.injEq .. ▸ m.onClock_toMicros_iff
  | _ => exact iff_of_true rfl rfl

namespace Odbc

/-- Columns of the type hold the value as what it is. -/
def ColumnType.Holds (type : ColumnType) : Value → Prop
  | .bool _ => type = bit
  | .i32 _ => type = integer
  | .i64 _ => type = bigInt
  | .decimal d => (type = decimal ∨ type = numeric) ∧ d.InRange
  | .date _ => type = date
  | .time _ => type = time
  | .dateTime _ => type = timestamp
  | .string _ => type = ofName "VARCHAR"
  | _ => False

namespace ColumnType

variable {type : ColumnType} {v : Value}

/-! ## Trimming -/

/-- What is read of a text that trimming leaves alone. -/
theorem parse_eq {cs : List Char} (htrim : trimBy Unicode.isWhiteSpace cs = cs)
    (hread : type.read? (String.ofList cs) = some v) : type.parse (String.ofList cs) = v := by
  rw [parse, String.toList_ofList, htrim]
  exact congrArg (Option.getD · (.string (String.ofList cs))) hread

theorem signedNumeral_noBlanks (i : Int) : NoBlanks (signedNumeral i) := by
  unfold signedNumeral
  split
  next => exact (numeral_digits _).noBlanks.cons (by decide)
  next => exact (numeral_digits _).noBlanks

/-- The blank between a date and a time is none that trimming finds. -/
theorem dateTime_trim (m : DateTime) : trimBy Unicode.isWhiteSpace m.microChars = m.microChars := by
  refine (Calendar.chars_noBlanks m.date).trim_between
    (Calendar.microChars_noBlanks m.time) ?_ ?_ ' '
  · simp [Date.chars]
  · simp [Time.microChars]

/-! ## Kinds of values -/

theorem parse_bool (b : Bool) : bit.parse (if b then "1" else "0") = .bool b := by
  have htrim : trimBy Unicode.isWhiteSpace ['0'] = ['0'] ∧
    trimBy Unicode.isWhiteSpace ['1'] = ['1'] := by
    decide
  cases b with
  | false => exact parse_eq htrim.1 rfl
  | true => exact parse_eq htrim.2 rfl

theorem parse_i32 (n : Int32) : integer.parse (Value.intText n.toInt) = .i32 n := by
  have hread : integer? (-(Nat.pow 2 31)) (Nat.pow 2 31 - 1)
    (signedNumeral n.toInt) = some n.toInt :=
    integer?_signedNumeral n.le_toInt (Int.le_sub_one_of_lt n.toInt_lt)
  refine parse_eq (signedNumeral_noBlanks _).trim ?_
  rw [read?, String.toList_ofList, hread, Option.map_some, Int32.ofInt_toInt]

theorem parse_i64 (n : Int64) : bigInt.parse (Value.intText n.toInt) = .i64 n := by
  have hread : integer? Value.minInt Value.maxInt (signedNumeral n.toInt) = some n.toInt :=
    integer?_signedNumeral n.le_toInt (Int.le_sub_one_of_lt n.toInt_lt)
  refine parse_eq (signedNumeral_noBlanks _).trim ?_
  rw [read?, String.toList_ofList, hread, Option.map_some, Int64.ofInt_toInt]

theorem parse_decimal {d : Decimal} (htype : type = decimal ∨ type = numeric) (h : d.InRange) :
    type.parse d.text = .decimal d := by
  have hread : type.read? d.text = some (.decimal d) := by
    rcases htype with rfl | rfl <;> rw [read?, Decimal.ofText?_text h, Option.map_some]
  have htrim := d.text_noBlanks.trim
  rw [← String.ofList_toList (s := d.text)] at hread ⊢
  exact parse_eq htrim hread

theorem parse_date (d : Date) : date.parse d.text = .date d := by
  refine parse_eq (Calendar.chars_noBlanks d).trim ?_
  rw [read?, ← Date.text, Date.ofText?_text, Option.map_some]

theorem parse_time (t : Time) :
    time.parse (String.ofList t.microChars) = .time t.onClock.toMicros := by
  refine parse_eq (Calendar.microChars_noBlanks t).trim ?_
  rw [read?, Time.ofText?_microChars, Option.map_some]

theorem parse_dateTime (m : DateTime) :
    timestamp.parse (String.ofList m.microChars) = .dateTime m.onClock.toMicros := by
  refine parse_eq (dateTime_trim m) ?_
  rw [read?, DateTime.ofText?_microChars, Option.map_some]

/-- A text stays as it is, with the blanks around it. -/
theorem parse_string (s : String) : (ofName "VARCHAR").parse s = .string s := rfl

theorem Holds.parse (h : type.Holds v) :
    ∃ text, v.text? = some text ∧ type.parse text = v.onClock.toMicros := by
  cases v with
  | bool b => obtain rfl := h; exact ⟨_, rfl, parse_bool b⟩
  | i32 n => obtain rfl := h; exact ⟨_, rfl, parse_i32 n⟩
  | i64 n => obtain rfl := h; exact ⟨_, rfl, parse_i64 n⟩
  | decimal d => exact ⟨_, rfl, parse_decimal h.1 h.2⟩
  | date d => obtain rfl := h; exact ⟨_, rfl, parse_date d⟩
  | time t => obtain rfl := h; exact ⟨_, rfl, parse_time t⟩
  | dateTime m => obtain rfl := h; exact ⟨_, rfl, parse_dateTime m⟩
  | string s => obtain rfl := h; exact ⟨_, rfl, parse_string s⟩
  | null => exact h.elim
  | f64 x => exact h.elim
  | bytes bs => exact h.elim
  | uuid u => exact h.elim

/-- Cells of such columns are read as texts. -/
theorem Holds.readCell (h : type.Holds v) (bs : List UInt8) :
    readCell type (.bytes bs) = .ok (.scalar (type.parse (Utf8.read bs))) := by
  have hshort : type.isLong = false ∧ type.isBinary = false := by
    cases v with
    | decimal d => rcases h.1 with rfl | rfl <;> decide
    | bool b | i32 n | i64 n | date d | time t | dateTime m | string s => obtain rfl := h; decide
    | null | f64 x | bytes bs | uuid u => exact h.elim
  rw [Odbc.readCell, hshort.1, hshort.2]
  rfl

end ColumnType

theorem Parameter.ofValue_text {v : Value} {text : String} (hbound : v.boundAsText = true)
    (htext : v.text? = some text) : ofValue v = .text text := by
  cases v with
  | decimal d | date d | time t | dateTime m | string s | uuid u =>
    exact congrArg (fun t? => Parameter.text (t?.getD "")) htext
  | null | bool b | i32 n | i64 n | f64 x | bytes bs => exact absurd hbound Bool.false_ne_true

/-- **A value comes back as it was bound, unless it is in a leap second inside a minute.** Its text
is read as the value to the microsecond, and so is a cell whose bytes are those of the text. In such
a leap second the text is that of the next second, and is read as that. -/
theorem bound_text_comes_back {type : ColumnType} {v : Value} (h : type.Holds v) :
    ∃ text, v.text? = some text ∧ (v.boundAsText = true → Parameter.ofValue v = .text text) ∧
      type.parse text = v.onClock.toMicros ∧
      (∀ bs : List UInt8, bs.toByteArray = text.toByteArray →
        readCell type (.bytes bs) = .ok (.scalar v.onClock.toMicros)) ∧
      (type.parse text = v.toMicros ↔ v.inInnerLeap = false) := by
  obtain ⟨text, htext, hparse⟩ := h.parse
  refine ⟨text, htext, fun hbound => Parameter.ofValue_text hbound htext, hparse,
    fun bs hbytes => ?_, ?_⟩
  · rw [h.readCell, Utf8.read_toByteArray hbytes, hparse]
  · rw [hparse, v.onClock_toMicros_iff]

/-- A decimal of 29 digits, as many as there are; the last of its 28 places is zero. -/
def longDecimal : Value := .decimal ⟨-79228162514264337593543950330, 28⟩

/-- All places of a decimal are kept. -/
theorem trailing_zero_comes_back :
    ColumnType.numeric.Holds longDecimal ∧
      ∃ text, longDecimal.text? = some text ∧
        (longDecimal.boundAsText = true → Parameter.ofValue longDecimal = .text text) ∧
        ColumnType.numeric.parse text = longDecimal.onClock.toMicros ∧
        (∀ bs : List UInt8, bs.toByteArray = text.toByteArray →
          readCell .numeric (.bytes bs) = .ok (.scalar longDecimal.onClock.toMicros)) ∧
        (ColumnType.numeric.parse text = longDecimal.toMicros ↔
          longDecimal.inInnerLeap = false) := by
  have hholds : ColumnType.numeric.Holds longDecimal := ⟨.inr rfl, by decide⟩
  exact ⟨hholds, bound_text_comes_back hholds⟩

/-- A third of a second into the leap second after 23:56:04. -/
def innerLeap : Time := ⟨23, 56, 4, 1333333333, by decide⟩

/-- A leap second inside a minute is bound with the text of the next second and read as that. -/
theorem inner_leap_not_kept :
    ColumnType.time.Holds (.time innerLeap) ∧
      (Value.time innerLeap).text? = some "23:56:05.333333" ∧
      ColumnType.time.parse "23:56:05.333333" ≠ (Value.time innerLeap).toMicros := by
  refine ⟨rfl, by decide +kernel, fun hsame => ?_⟩
  have hread : ColumnType.time.parse "23:56:05.333333" =
      .time ⟨23, 56, 5, 333333000, by decide⟩ := by decide +kernel
  cases hread.symm.trans hsame

end Odbc

end RowFerry
