import RowFerry.Odbc.Column
import RowFerry.Proofs.Decimal
import RowFerry.Proofs.Numbers
import RowFerry.Rehearsal.Decoder

/-!
Integers on their way from a MySQL server to the target, for every decoder that reads integers
exactly. What a cell holds is compared with what its value stands for and with what is bound for the
value. Integers of every width, with a sign or without one, and bit fields stay what they are; above
the signed integers of 64 bits they turn into decimals. Columns of one place arrive as truth values,
and of their integers only zero and one are kept.
-/

namespace RowFerry

variable {i j : Int}

/-! ## What values and parameters stand for -/

/-- The integer of a truth value. -/
def truthInteger (b : Bool) : Int := if b then 1 else 0

/-- The integer that a value stands for: the one that it is, or that of a truth value. -/
inductive Value.StandsFor : Value → Int → Prop where
  | number {v : Value} {i : Int} (h : v.Denotes i) : StandsFor v i
  | truth (b : Bool) : StandsFor (.bool b) (truthInteger b)

/-- The integer that a parameter stands for: the one that is bound or spelled, or that of a bit. -/
inductive Odbc.Parameter.StandsFor : Odbc.Parameter → Int → Prop where
  | bit (b : Bool) : StandsFor (.bit b) (truthInteger b)
  | long (n : Int32) : StandsFor (.long n) n.toInt
  | bigint (n : Int64) : StandsFor (.bigint n) n.toInt
  | text {s : String} {i : Int} (h : Text.Spells s.toList i) : StandsFor (.text s) i

/-- The value, its text and the parameter that is bound for it all stand for the
integer, and for no other. -/
structure Value.Keeps (v : Value) (i : Int) : Prop where
  value : ∀ j, v.StandsFor j ↔ j = i
  bound : ∀ j, (Odbc.Parameter.ofValue v).StandsFor j ↔ j = i
  text : ∃ t, v.text? = some t ∧ ∀ j, Text.Spells t.toList j ↔ j = i

theorem Value.Keeps.iff {v : Value} (h : v.Keeps i) : v.Keeps j ↔ i = j :=
  ⟨fun hj => (hj.value i).mp ((h.value i).mpr rfl), fun hij => hij ▸ h⟩

/-- A text spells one integer at most. -/
theorem Text.Spells.unique {cs : List Char} (hi : Spells cs i) (hj : Spells cs j) : i = j := by
  have hread {k : Int} (hk : Spells cs k) (hlow : min i j ≤ k) (hhigh : k ≤ max i j) :
      integer? (min i j) (max i j) cs = some k := integer?_eq_some_iff.mpr ⟨hk, hlow, hhigh⟩
  exact Option.some.inj ((hread hi (by omega) (by omega)).symm.trans
    (hread hj (by omega) (by omega)))

theorem Value.StandsFor.unique {v : Value} (hi : v.StandsFor i) (hj : v.StandsFor j) : i = j := by
  cases hi with
  | truth b =>
    cases hj with
    | truth => rfl
    | number hj => cases hj
  | number hi =>
    cases hj with
    | truth => cases hi
    | number hj =>
      cases hi with
      | i32 | i64 =>
        cases hj
        rfl
      | decimal hi =>
        cases hj with
        | decimal hj => exact Int.cast_injective (hi.symm.trans hj)
      | f64 hi =>
        cases hj with
        | f64 hj => exact Int.cast_injective (Option.some.inj (hi.symm.trans hj))
      | string hi =>
        cases hj with
        | string hj => exact hi.unique hj

theorem Odbc.Parameter.StandsFor.unique {p : Odbc.Parameter} (hi : p.StandsFor i)
    (hj : p.StandsFor j) : i = j := by
  cases hi with
  | text hi =>
    cases hj with
    | text hj => exact hi.unique hj
  | _ =>
    cases hj
    rfl

/-- Nothing stands for two integers, so that it is enough that all three stand for one. -/
theorem Value.StandsFor.keeps {v : Value} {t : String} (hvalue : v.StandsFor i)
    (hbound : (Odbc.Parameter.ofValue v).StandsFor i) (htext : v.text? = some t)
    (hspells : Text.Spells t.toList i) :
    v.Keeps i where
  value _ := ⟨fun hj => hj.unique hvalue, fun hj => hj ▸ hvalue⟩
  bound _ := ⟨fun hj => hj.unique hbound, fun hj => hj ▸ hbound⟩
  text := ⟨t, htext, fun _ => ⟨fun hj => hj.unique hspells, fun hj => hj ▸ hspells⟩⟩

theorem Text.spells_signedNumeral (i : Int) : Spells (signedNumeral i) i :=
  (integer?_eq_some_iff.mp (integer?_signedNumeral (Int.le_refl i) (Int.le_refl i))).1

/-- A natural number is written as a decimal by its digits alone. -/
theorem Decimal.spells_ofNat (n : Nat) : Text.Spells (Decimal.ofNat n).text.toList n := by
  obtain ⟨whole, fraction, hne, hdigits, -, hvalue, hplaces, htext⟩ := (Decimal.ofNat n).text_eq
  obtain rfl : fraction = [] := List.length_eq_zero_iff.mp hplaces
  have hvalue : Text.ofDigits whole = n := by simpa [ofNat] using hvalue
  have hsign : ¬ (Decimal.ofNat n).coefficient < 0 := by simp [ofNat]
  have hspells := Text.Spells.unsigned hne hdigits
  rw [hvalue] at hspells
  rwa [htext, String.toList_ofList, if_neg hsign]

namespace Value

theorem keeps_i64 (n : Int64) : (Value.i64 n).Keeps n.toInt := by
  refine StandsFor.keeps (.number (.i64 n)) (.bigint n) rfl ?_
  rw [intText, String.toList_ofList]
  exact Text.spells_signedNumeral _

theorem keeps_bool (b : Bool) : (Value.bool b).Keeps (truthInteger b) := by
  refine StandsFor.keeps (.truth b) (.bit b) rfl ?_
  cases b with
  | false => exact Text.spells_signedNumeral 0
  | true => exact Text.spells_signedNumeral 1

theorem keeps_decimal (n : Nat) : (Value.decimal (Decimal.ofNat n)).Keeps n := by
  have hnumber : (Decimal.ofNat n).toRat = (n : Int) := by
    rw [Decimal.toRat_eq_iff]
    simp [Decimal.ofNat]
  exact StandsFor.keeps (.number (.decimal hnumber)) (.text (Decimal.spells_ofNat n)) rfl
    (Decimal.spells_ofNat n)

end Value

namespace MySql

/-! ## Columns of integers -/

/-- The widths of integers that a column declares. -/
inductive Width where
  | tiny
  | small
  | medium
  | int
  | big
  deriving Repr, DecidableEq

def Width.bits : Width → Nat
  | tiny => 8
  | small => 16
  | medium => 24
  | int => 32
  | big => 64

def Width.name : Width → String
  | tiny => "TINYINT"
  | small => "SMALLINT"
  | medium => "MEDIUMINT"
  | int => "INT"
  | big => "BIGINT"

theorem Width.bits_le (width : Width) : width.bits ≤ 64 := by cases width <;> decide

/-- The name of the type of the integers of a width. -/
def Width.typeName (width : Width) (unsigned : Bool) : String :=
  if unsigned then width.name ++ " UNSIGNED" else width.name

theorem Width.ofName_typeName (width : Width) (unsigned : Bool) :
    ColumnKind.ofName (width.typeName unsigned) = if unsigned then .unsigned else .signed := by
  cases width <;> cases unsigned <;> decide

/-- A column of integers: of a width, with a sign or without one and shown in a number of places if
one is declared, or a field of bits. -/
inductive IntegerColumn where
  | sized (width : Width) (unsigned : Bool) (places : Option Nat)
  | field (bits : Nat)
  deriving Repr, DecidableEq

/-- The number whose bytes are given, the highest first. -/
def bigEndian (bs : List UInt8) : Nat := bs.foldl (fun n b => n * 256 + b.toNat) 0

namespace IntegerColumn

/-- Tiny integers in one place are truth values. -/
def isTruth : IntegerColumn → Bool
  | sized .tiny _ (some 1) => true
  | _ => false

/-- Has the column no sign? Neither has a field of bits. -/
def isUnsigned : IntegerColumn → Bool
  | sized _ unsigned _ => unsigned
  | field _ => true

/-- The name of the type as it comes with the column. -/
def typeName (column : IntegerColumn) : String :=
  if column.isTruth then "BOOLEAN" else
    match column with
    | sized width unsigned _ => width.typeName unsigned
    | field _ => "BIT"

/-- The integers that a column can hold. -/
inductive Holds : IntegerColumn → Int → Prop where
  | signed {width : Width} {places : Option Nat} {i : Int} (hlow : -2 ^ (width.bits - 1) ≤ i)
    (hhigh : i < 2 ^ (width.bits - 1)) : Holds (sized width false places) i
  | unsigned {width : Width} {places : Option Nat} {i : Int} (hlow : 0 ≤ i)
    (hhigh : i < 2 ^ width.bits) :
    Holds (sized width true places) i
  | field {bits : Nat} {i : Int} (hbits : bits ≤ 64) (hlow : 0 ≤ i) (hhigh : i < 2 ^ bits) :
    Holds (field bits) i

/-- The cells that a server sends for an integer: a numeral, or the bytes of a field. -/
inductive Sends : IntegerColumn → Int → Cell → Prop where
  | numeral {width : Width} {unsigned : Bool} {places : Option Nat} {i : Int} {s : String}
    (h : Text.Spells s.toList i) : Sends (sized width unsigned places) i (.text s)
  | field {bits : Nat} {i : Int} {bs : List UInt8} (h : (bigEndian bs : Int) = i) :
    Sends (field bits) i (.bytes bs)

/-- The integer that is left of one in a column. -/
def kept (column : IntegerColumn) (i : Int) : Int :=
  if column.isTruth then truthInteger (i != 0) else i

theorem kept_eq_iff (column : IntegerColumn) (i : Int) :
    column.kept i = i ↔ (column.isTruth = true → i = 0 ∨ i = 1) := by
  unfold kept truthInteger
  grind

/-- The kind of a column by the name of its type. -/
theorem ofName_typeName (column : IntegerColumn) :
    ColumnKind.ofName column.typeName =
      if column.isTruth then .boolean else if column.isUnsigned then .unsigned else .signed := by
  cases htruth : column.isTruth with
  | true =>
    have hboolean : ColumnKind.ofName "BOOLEAN" = .boolean := by decide
    unfold typeName
    rw [if_pos htruth, hboolean, if_pos rfl]
  | false =>
    cases column with
    | sized width unsigned places =>
      unfold typeName
      rw [if_neg (by simp [htruth])]
      exact width.ofName_typeName unsigned
    | field bits =>
      have hbit : ColumnKind.ofName "BIT" = .unsigned := by decide
      exact hbit

theorem Holds.signed_bounds {column : IntegerColumn} {i : Int} (hi : column.Holds i)
    (h : column.isUnsigned = false) : -2 ^ 63 ≤ i ∧ i < 2 ^ 63 := by
  cases hi with
  | @signed width _ _ hlow hhigh =>
    have hwidth : (2 : Int) ^ (width.bits - 1) ≤ 2 ^ 63 :=
      pow_le_pow_right₀ (by decide) (Nat.sub_le_sub_right width.bits_le 1)
    omega
  | unsigned => cases h
  | field => cases h

theorem Holds.unsigned_bounds {column : IntegerColumn} {i : Int} (hi : column.Holds i)
    (h : column.isUnsigned = true) : 0 ≤ i ∧ i < 2 ^ 64 := by
  cases hi with
  | signed => cases h
  | @unsigned width _ _ hlow hhigh =>
    exact ⟨hlow, Int.lt_of_lt_of_le hhigh (pow_le_pow_right₀ (by decide) width.bits_le)⟩
  | field hbits hlow hhigh =>
    exact ⟨hlow, Int.lt_of_lt_of_le hhigh (pow_le_pow_right₀ (by decide) hbits)⟩

end IntegerColumn

/-- The decoder reads the integers of columns exactly, and of truth values whether they are zero. -/
structure Decoder.ReadsIntegers (d : Decoder) : Prop where
  sent {column : IntegerColumn} {i : Int} {cell : Cell} (hcell : column.Sends i cell) :
    d.isNull column.typeName cell = .ok false
  signed {column : IntegerColumn} {i : Int} {cell : Cell} (htruth : column.isTruth = false)
    (hsign : column.isUnsigned = false) (hi : column.Holds i) (hcell : column.Sends i cell) :
    d.signed column.typeName cell = .ok (Int64.ofInt i)
  unsigned {column : IntegerColumn} {i : Int} {cell : Cell} (htruth : column.isTruth = false)
    (hsign : column.isUnsigned = true) (hi : column.Holds i) (hcell : column.Sends i cell) :
    d.unsigned column.typeName cell = .ok (UInt64.ofNat i.toNat)
  truth {column : IntegerColumn} {i : Int} {cell : Cell} (htruth : column.isTruth = true)
    (hi : column.Holds i) (hcell : column.Sends i cell) :
    d.boolean column.typeName cell = .ok (i != 0)

/-! ## What their cells are decoded to -/

theorem Decoder.decode_eq_read {d : Decoder} {type : String} {cell : Cell}
    (h : d.isNull type cell = .ok false) : d.decode type cell = d.read type cell := by
  rw [decode, h]
  rfl

theorem keeps_signed {i : Int} (hlow : -2 ^ 63 ≤ i) (hhigh : i < 2 ^ 63) :
    (Value.i64 (Int64.ofInt i)).Keeps i := by
  have hkeeps := Value.keeps_i64 (Int64.ofInt i)
  rwa [Int64.toInt_ofInt_of_le (by omega) (by omega)] at hkeeps

/-- Below `2 ^ 63` an unsigned integer is one of 64 bits with a sign, from there on a decimal. -/
theorem keeps_ofUnsigned (n : UInt64) : (ofUnsigned n).Keeps n.toNat := by
  unfold ofUnsigned
  split
  next h =>
    have hmax := Value.maxInt_eq
    exact keeps_signed (by omega) (by omega)
  next => exact Value.keeps_decimal n.toNat

namespace IntegerColumn

variable {column : IntegerColumn} {d : Decoder} {i : Int}

/-- A cell that is sent for an integer is decoded to what is kept of the integer. -/
theorem decode_kept (hd : d.ReadsIntegers) {cell : Cell} (hi : column.Holds i)
    (hcell : column.Sends i cell) :
    ∃ v, d.decode column.typeName cell = .ok v ∧ v.Keeps (column.kept i) := by
  rw [Decoder.decode_eq_read (hd.sent hcell), Decoder.read, ofName_typeName, kept]
  cases htruth : column.isTruth with
  | true =>
    refine ⟨.bool (i != 0), ?_, Value.keeps_bool _⟩
    exact congrArg (Except.map Value.bool) (hd.truth htruth hi hcell)
  | false =>
    cases hsign : column.isUnsigned with
    | true =>
      obtain ⟨hlow, hhigh⟩ := hi.unsigned_bounds hsign
      refine ⟨_, congrArg (Except.map ofUnsigned) (hd.unsigned htruth hsign hi hcell), ?_⟩
      have hkeeps := keeps_ofUnsigned (UInt64.ofNat i.toNat)
      have hsize : i.toNat < 2 ^ 64 := by omega
      rwa [UInt64.toNat_ofNat_of_lt' hsize, Int.toNat_of_nonneg hlow] at hkeeps
    | false =>
      obtain ⟨hlow, hhigh⟩ := hi.signed_bounds hsign
      exact ⟨_, congrArg (Except.map Value.i64) (hd.signed htruth hsign hi hcell),
        keeps_signed hlow hhigh⟩

/-- **Integers are kept, but for those of truth values.** Whatever integer a column holds, the cell
that is sent for it is decoded, and the value, its text and the parameter that is bound for it stand
for one integer: for the same, unless the column is one of tiny integers in one place. There they
stand for zero if the integer is zero and for one otherwise, so that zero and one alone are kept. -/
theorem integers_kept (hd : d.ReadsIntegers) (column : IntegerColumn) {i : Int} {cell : Cell}
    (hi : column.Holds i) (hcell : column.Sends i cell) :
    ∃ v, d.decode column.typeName cell = .ok v ∧ v.Keeps (column.kept i) ∧
      (v.Keeps i ↔ (column.isTruth = true → i = 0 ∨ i = 1)) := by
  obtain ⟨v, hdecode, hkeeps⟩ := decode_kept hd hi hcell
  refine ⟨v, hdecode, hkeeps, ?_⟩
  rw [← kept_eq_iff, hkeeps.iff]

end IntegerColumn

/-! ## A decoder that reads integers -/

theorem ofBits_eq (bs : List UInt8) : Rehearsal.ofBits bs = bigEndian bs % 2 ^ 64 := by
  have hprefix (n : Nat) : bs.foldl (fun n b => (n * 256 + b.toNat) % Nat.pow 2 64) (n % 2 ^ 64) =
      bs.foldl (fun n b => n * 256 + b.toNat) n % 2 ^ 64 := by
    induction bs generalizing n with
    | nil => rfl
    | cons b bs ih =>
      have hstep : (n % 2 ^ 64 * 256 + b.toNat) % 2 ^ 64 = (n * 256 + b.toNat) % 2 ^ 64 := by omega
      rw [List.foldl_cons, List.foldl_cons, ← ih, ← hstep]
      rfl
  exact hprefix 0

theorem natural?_eq {bound n : Nat} {s : String} (h : Text.Spells s.toList n) (hn : n < bound) :
    Rehearsal.natural? bound s = some n := by
  have hread : Text.integer? 0 (bound - 1) s.toList = some (n : Int) :=
    Text.integer?_eq_some_iff.mpr ⟨h, by omega, by omega⟩
  rw [Rehearsal.natural?, hread]
  rfl

theorem integer?_eq {i : Int} {s : String} (h : Text.Spells s.toList i) (hlow : -2 ^ 63 ≤ i)
    (hhigh : i < 2 ^ 63) : Text.integer? Value.minInt Value.maxInt s.toList = some i := by
  have hmin := Value.minInt_eq
  have hmax := Value.maxInt_eq
  exact Text.integer?_eq_some_iff.mpr ⟨h, by omega, by omega⟩

namespace IntegerColumn

variable {column : IntegerColumn} {i : Int}

/-- The integers of truth values are small, with a sign or without one. -/
theorem Holds.truth_bounds (hi : column.Holds i) (h : column.isTruth = true) :
    -2 ^ 63 ≤ i ∧ i < 2 ^ 63 := by
  cases hsign : column.isUnsigned with
  | false => exact hi.signed_bounds hsign
  | true =>
  cases hi with
  | signed => cases hsign
  | @unsigned width _ _ hlow hhigh =>
    obtain rfl : width = .tiny := by
      unfold isTruth at h
      split at h <;> simp_all
    exact ⟨by omega, Int.lt_trans hhigh (by decide)⟩
  | field => cases h

theorem typeName_not_dated (column : IntegerColumn) :
    Rehearsal.isDated column.typeName = false := by
  refine Bool.eq_false_iff.mpr fun hdated => ?_
  have hkind := column.ofName_typeName
  simp only [Rehearsal.isDated, Bool.or_eq_true, decide_eq_true_eq, or_assoc] at hdated
  rcases hdated with h | h | h <;> rw [h] at hkind <;> revert hkind <;>
    cases column.isTruth <;> cases column.isUnsigned <;> decide

theorem decoder_readsIntegers : Rehearsal.decoder.ReadsIntegers where
  sent {column i cell} hcell := by
    have hsent : cell ≠ .null := by
      rintro rfl
      cases hcell
    simp [Rehearsal.decoder, typeName_not_dated, hsent]
  signed {column i cell} htruth hsign hi hcell := by
    obtain ⟨hlow, hhigh⟩ := hi.signed_bounds hsign
    cases hcell with
    | numeral h =>
      simp only [Rehearsal.decoder, Cell.shown, integer?_eq h hlow hhigh]
      rfl
    | field => cases hsign
  unsigned {column i cell} htruth hsign hi hcell := by
    obtain ⟨hlow, hhigh⟩ := hi.unsigned_bounds hsign
    lift i to Nat using hlow
    cases hcell with
    | @numeral _ _ _ _ s h =>
      have hread : Rehearsal.natural? (Nat.pow 2 64) s = some i :=
        natural?_eq h (by exact_mod_cast hhigh)
      simp only [Rehearsal.decoder, Cell.shown, hread]
      rfl
    | @field bits _ bs h =>
      have hbits : Rehearsal.ofBits bs = i := by
        rw [ofBits_eq, Int.ofNat.inj h, Nat.mod_eq_of_lt (by exact_mod_cast hhigh)]
      exact congrArg (fun n => Except.ok (UInt64.ofNat n)) hbits
  truth {column i cell} htruth hi hcell := by
    obtain ⟨hlow, hhigh⟩ := hi.truth_bounds htruth
    cases hcell with
    | numeral h =>
      simp only [Rehearsal.decoder, Cell.shown, integer?_eq h hlow hhigh]
      rfl
    | field => cases htruth

/-- The largest integer of a column without a sign is a decimal. -/
theorem largest_kept :
    Rehearsal.decoder.ReadsIntegers ∧ (sized .big true (some 20)).Holds 18446744073709551615 ∧
      (sized .big true (some 20)).Sends 18446744073709551615 (.text "18446744073709551615") ∧
      ∃ v, Rehearsal.decoder.decode "BIGINT UNSIGNED" (.text "18446744073709551615") = .ok v ∧
        v = .decimal ⟨18446744073709551615, 0⟩ ∧ v.Keeps 18446744073709551615 := by
  have hi : (sized .big true (some 20)).Holds 18446744073709551615 :=
    .unsigned (by decide) (by decide)
  have hcell : (sized .big true (some 20)).Sends 18446744073709551615
    (.text "18446744073709551615") :=
    .numeral (Text.spells_signedNumeral 18446744073709551615)
  obtain ⟨v, hdecode, hkeeps, -⟩ := integers_kept decoder_readsIntegers _ hi hcell
  refine ⟨decoder_readsIntegers, hi, hcell, v, hdecode, ?_, hkeeps⟩
  exact Except.ok.inj (hdecode.symm.trans (by decide +kernel))

/-- Of the integers of truth values that are neither zero nor one, nothing but this is left. -/
theorem two_not_kept :
    (sized .tiny false (some 1)).Holds 2 ∧ (sized .tiny false (some 1)).Sends 2 (.text "2") ∧
      Rehearsal.decoder.decode (sized .tiny false (some 1)).typeName (.text "2") =
        .ok (.bool true) ∧
      ¬ (Value.bool true).StandsFor 2 ∧ Odbc.Parameter.ofValue (.bool true) = .bit true ∧
      ¬ (Odbc.Parameter.bit true).StandsFor 2 := by
  refine ⟨.signed (by decide) (by decide), .numeral (Text.spells_signedNumeral 2), ?_, ?_, rfl, ?_⟩
  · decide +kernel
  · exact fun h => absurd (((Value.keeps_bool true).value 2).mp h) (by decide)
  · exact fun h => absurd (((Value.keeps_bool true).bound 2).mp h) (by decide)

end IntegerColumn

end MySql

end RowFerry
