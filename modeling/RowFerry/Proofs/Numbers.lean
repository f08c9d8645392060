import Mathlib.Algebra.Order.Field.Rat
import Mathlib.Algebra.Order.Field.Power
import Mathlib.Tactic.Linarith
import Mathlib.Tactic.NormNum
import Mathlib.Tactic.Positivity
import RowFerry.Proofs.Text.Digits
import RowFerry.Value

/-!
The number that a value is. Integers are themselves, a decimal is its coefficient over a power
of ten, a floating-point number its significand times a power of two, and a text the integer
that it spells between white space. The reading of a value as an integer is compared with this
number: it is exact but for two kinds of value, decimals with places that count and
floating-point numbers from `2 ^ 63` on.
-/

namespace RowFerry

/-! ## Decimals -/

namespace Decimal

/-- The number that a decimal is. -/
def toRat (d : Decimal) : ℚ := d.coefficient / (Nat.pow 10 d.scale : Nat)

theorem unit_pos (d : Decimal) : (0 : Int) < (Nat.pow 10 d.scale : Nat) :=
  Int.natCast_pos.mpr (Nat.pow_pos (by decide))

theorem unit_rat_pos (d : Decimal) : (0 : ℚ) < (Nat.pow 10 d.scale : Nat) := by
  exact_mod_cast d.unit_pos

theorem toRat_eq_iff (d : Decimal) (i : Int) :
    d.toRat = i ↔ d.coefficient = i * (Nat.pow 10 d.scale : Nat) := by
  rw [toRat, div_eq_iff d.unit_rat_pos.ne']
  norm_cast

theorem toRat_lt_iff (d : Decimal) (i : Int) :
    d.toRat < i ↔ d.coefficient < i * (Nat.pow 10 d.scale : Nat) := by
  rw [toRat, div_lt_iff₀ d.unit_rat_pos]
  norm_cast

theorem lt_toRat_iff (d : Decimal) (i : Int) :
    (i : ℚ) < d.toRat ↔ i * (Nat.pow 10 d.scale : Nat) < d.coefficient := by
  rw [toRat, lt_div_iff₀ d.unit_rat_pos]
  norm_cast

/-- An integral decimal is not changed by cutting its places. -/
theorem truncated_eq {d : Decimal} {i : Int} (h : d.toRat = i) : d.truncated = i := by
  rw [truncated, (d.toRat_eq_iff i).mp h, Int.mul_tdiv_cancel _ d.unit_pos.ne']

/-- Below zero cutting rounds up. -/
theorem truncated_of_neg {d : Decimal} (h : d.coefficient < 0) :
    d.truncated = -(-d.coefficient / (Nat.pow 10 d.scale : Nat)) := by
  rw [truncated, ← Int.tdiv_eq_ediv_of_nonneg (by omega), Int.neg_tdiv, Int.neg_neg]

theorem truncated_of_nonneg {d : Decimal} (h : 0 ≤ d.coefficient) :
    d.truncated = d.coefficient / (Nat.pow 10 d.scale : Nat) := Int.tdiv_eq_ediv_of_nonneg h

/-- Cutting leaves a decimal natural that is greater than minus one. -/
theorem truncated_nonneg_iff (d : Decimal) : 0 ≤ d.truncated ↔ -1 < d.toRat := by
  have hpos := d.unit_pos
  have hlow := d.lt_toRat_iff (-1)
  rw [Int.cast_neg, Int.cast_one] at hlow
  rw [hlow]
  rcases Int.lt_or_le d.coefficient 0 with hneg | hnonneg
  · rw [truncated_of_neg hneg, Int.neg_nonneg, ← Int.lt_add_one_iff, Int.ediv_lt_iff_lt_mul hpos]
    omega
  · have hdiv := Int.ediv_nonneg hnonneg hpos.le
    rw [truncated_of_nonneg hnonneg]
    omega

/-- It neither makes a decimal reach a positive integer nor brings it below one. -/
theorem truncated_lt_iff (d : Decimal) {i : Int} (hi : 0 < i) : d.truncated < i ↔ d.toRat < i := by
  have hpos := d.unit_pos
  rw [d.toRat_lt_iff]
  rcases Int.lt_or_le d.coefficient 0 with hneg | hnonneg
  · have hdiv : 0 ≤ -d.coefficient / (Nat.pow 10 d.scale : Nat) :=
      Int.ediv_nonneg (by omega) hpos.le
    have hmul := Int.mul_pos hi hpos
    rw [truncated_of_neg hneg]
    omega
  · rw [truncated_of_nonneg hnonneg, Int.ediv_lt_iff_lt_mul hpos]

end Decimal

/-! ## Floating-point numbers -/

namespace Binary64

/-- The significand with the sign of the number. -/
def signed (x : Binary64) : Int := if x.negative then -(x.significand : Int) else x.significand

/-- The number that a finite floating-point number is. -/
def toRat? (x : Binary64) : Option ℚ :=
  if x.exponentField = 2047 then none else some (x.signed * 2 ^ x.exponent)

theorem significand_lt (x : Binary64) : x.significand < Nat.pow 2 53 := by
  have hfraction : x.fractionField < Nat.pow 2 52 := Nat.mod_lt _ (by decide)
  have hunit : Nat.pow 2 52 + Nat.pow 2 52 = Nat.pow 2 53 := by decide
  unfold significand
  split <;> omega

theorem signed_lt (x : Binary64) : x.signed < 2 ^ 53 := by
  have h := x.significand_lt
  have hunit : Nat.pow 2 53 = 2 ^ 53 := by decide
  unfold signed
  split <;> omega

theorem natCast_eq_mul_iff {m unit : Nat} (hunit : 0 < unit) (i : Int) :
    (m : Int) = i * unit ↔ m % unit = 0 ∧ ((m / unit : Nat) : Int) = i := by
  constructor
  · intro h
    have hi : 0 ≤ i := by
      by_contra hneg
      have := Int.mul_neg_of_neg_of_pos (Int.not_le.mp hneg) (Int.natCast_pos.mpr hunit)
      omega
    lift i to Nat using hi
    obtain rfl : m = i * unit := by exact_mod_cast h
    exact ⟨Nat.mul_mod_left i unit, by rw [Nat.mul_div_cancel i hunit]⟩
  · rintro ⟨hmod, rfl⟩
    exact_mod_cast (Nat.div_mul_cancel (Nat.dvd_of_mod_eq_zero hmod)).symm

/-- A number is read as an integer exactly when it is one. -/
theorem integer?_eq_some_iff (x : Binary64) (i : Int) : x.integer? = some i ↔
    x.toRat? = some (i : ℚ) := by
  unfold integer? toRat?
  split
  next => simp
  next =>
    -- Below zero the exponent makes a fraction, which is integral when its
    -- unit divides the significand.
    rcases Int.lt_or_le x.exponent 0 with hneg | hnonneg
    · obtain ⟨k, hk⟩ : ∃ k : Nat, x.exponent = -(k : Int) := ⟨x.exponent.natAbs, by omega⟩
      have hunit : (0 : ℚ) < 2 ^ k := by positivity
      have hvalue : (x.signed : ℚ) * 2 ^ x.exponent = i ↔ x.signed = i * (Nat.pow 2 k : Nat) := by
        rw [hk, zpow_neg, zpow_natCast, ← div_eq_mul_inv, div_eq_iff hunit.ne']
        norm_cast
      have hpos : 0 < Nat.pow 2 k := Nat.pow_pos Nat.two_pos
      rw [if_neg (by omega), Option.some.injEq, hvalue, hk, Int.neg_neg, Int.toNat_natCast, signed]
      split
      · rw [neg_eq_iff_eq_neg, ← Int.neg_mul, natCast_eq_mul_iff hpos]
        simp [neg_eq_iff_eq_neg]
      · rw [natCast_eq_mul_iff hpos]
        simp
    · obtain ⟨k, hk⟩ := Int.eq_ofNat_of_zero_le hnonneg
      have hvalue : (x.signed : ℚ) * 2 ^ x.exponent = i ↔ x.signed * (2 ^ k : Int) = i := by
        rw [hk, zpow_natCast]
        norm_cast
      rw [if_pos hnonneg, Option.some.injEq, Option.some.injEq, hvalue, hk,
        Int.toNat_natCast, signed]
      split <;> simp [Nat.pow_eq]

/-- From `2 ^ 53` on there are only integers. -/
theorem integer?_of_le {x : Binary64} {q : ℚ} (hx : x.toRat? = some q) (hq : 2 ^ 53 ≤ q) :
    ∃ i : Int, x.integer? = some i ∧ q = i := by
  have hsigned : (x.signed : ℚ) < 2 ^ 53 := by exact_mod_cast x.signed_lt
  have hvalue : q = x.signed * 2 ^ x.exponent := by
    unfold toRat? at hx
    split at hx
    · cases hx
    · exact (Option.some.inj hx).symm
  -- A significand that is not scaled up is too small.
  have hnonneg : 0 ≤ x.exponent := by
    by_contra hneg
    have hunit : (2 : ℚ) ^ x.exponent ≤ 1 := zpow_le_one_of_nonpos₀ (by norm_num) (by omega)
    have hpos : (0 : ℚ) < 2 ^ x.exponent := by positivity
    have hscaled : (x.signed : ℚ) * 2 ^ x.exponent < 2 ^ 53 * 2 ^ x.exponent :=
      mul_lt_mul_of_pos_right hsigned hpos
    have hbound : (2 : ℚ) ^ 53 * 2 ^ x.exponent ≤ 2 ^ 53 :=
      mul_le_of_le_one_right (by positivity) hunit
    linarith
  obtain ⟨k, hk⟩ := Int.eq_ofNat_of_zero_le hnonneg
  have hinteger : q = ((x.signed * 2 ^ k : Int) : ℚ) := by
    rw [hvalue, hk, zpow_natCast]
    push_cast
    rfl
  exact ⟨x.signed * 2 ^ k, (x.integer?_eq_some_iff _).mpr (hx.trans (congrArg some hinteger)),
    hinteger⟩

end Binary64

/-! ## Values -/

namespace Value

/-- A value is an integer: by itself, as a number, or as a text that spells it. -/
inductive Denotes : Value → Int → Prop where
  | i32 (n : Int32) : Denotes (.i32 n) n.toInt
  | i64 (n : Int64) : Denotes (.i64 n) n.toInt
  | decimal {d : Decimal} {i : Int} (h : d.toRat = i) : Denotes (.decimal d) i
  | f64 {x : Binary64} {i : Int} (h : x.toRat? = some (i : ℚ)) : Denotes (.f64 x) i
  | string {s : String} {i : Int} (h : Text.Spells (Text.trimBy Unicode.isWhiteSpace s.toList) i) :
    Denotes (.string s) i

/-- The values that are read as a natural number which they are not. -/
inductive Misread : Value → Prop where
  | cut {d : Decimal} (hplaces : ∀ i : Int, d.toRat ≠ i) (hlow : -1 < d.toRat)
    (hhigh : d.toRat < 2 ^ 63) :
    Misread (.decimal d)
  | capped {x : Binary64} {q : ℚ} (hx : x.toRat? = some q) (hhigh : 2 ^ 63 ≤ q) : Misread (.f64 x)

theorem minInt_eq : minInt = -2 ^ 63 := by decide

theorem maxInt_eq : maxInt = 2 ^ 63 - 1 := by decide

theorem withinBounds?_eq_some_iff {i j : Int} :
    withinBounds? i = some j ↔ i = j ∧ minInt ≤ j ∧ j ≤ maxInt := by
  unfold withinBounds?
  split <;> grind

/-- An integer within the bounds is read as itself. -/
theorem integer?_of_denotes {v : Value} {i : Int} (h : v.Denotes i) (hlow : minInt ≤ i)
    (hhigh : i ≤ maxInt) :
    v.integer? = some i := by
  cases h with
  | i32 n => rfl
  | i64 n => rfl
  | decimal h => exact withinBounds?_eq_some_iff.mpr ⟨Decimal.truncated_eq h, hlow, hhigh⟩
  | f64 h =>
    rw [integer?, (Binary64.integer?_eq_some_iff _ _).mpr h, Option.map_some, Int.min_eq_left hhigh,
      Int.max_eq_right hlow]
  | string h => exact Text.integer?_eq_some_iff.mpr ⟨h, hlow, hhigh⟩

/-- Nothing is read as an integer beyond 64 bits. -/
theorem integer?_le {v : Value} {i : Int} (h : v.integer? = some i) : i ≤ maxInt := by
  have hmin := minInt_eq
  have hmax := maxInt_eq
  cases v with
  | i32 n =>
    obtain rfl := Option.some.inj h
    have := n.toInt_lt
    omega
  | i64 n =>
    obtain rfl := Option.some.inj h
    have := n.toInt_lt
    omega
  | decimal d => exact (withinBounds?_eq_some_iff.mp h).2.2
  | string s => exact (Text.integer?_eq_some_iff.mp h).2.2
  | f64 x =>
    obtain ⟨j, -, rfl⟩ := Option.map_eq_some_iff.mp h
    omega
  | _ => cases h

/-- A value that is read as a natural number is this number, unless it is misread. -/
theorem denotes_of_integer? {v : Value} {n : Nat} (h : v.integer? = some (n : Int))
    (hv : ¬ v.Misread) :
    v.Denotes n := by
  cases v with
  | i32 i => exact Option.some.inj h ▸ .i32 i
  | i64 i => exact Option.some.inj h ▸ .i64 i
  | decimal d =>
    obtain ⟨hcut, -, hhigh⟩ := withinBounds?_eq_some_iff.mp h
    by_contra hne
    refine hv (.cut (fun i hi => hne ?_) ?_ ?_)
    · rw [← hcut, Decimal.truncated_eq hi]
      exact .decimal hi
    · exact d.truncated_nonneg_iff.mp (by omega)
    · have := (d.truncated_lt_iff (i := 2 ^ 63) (by decide)).mp
        (by rw [hcut]; exact Int.lt_of_le_sub_one hhigh)
      exact_mod_cast this
  | string s => exact .string (Text.integer?_eq_some_iff.mp h).1
  | f64 x =>
    obtain ⟨j, hj, hclamp⟩ := Option.map_eq_some_iff.mp h
    have hx := (x.integer?_eq_some_iff j).mp hj
    have hmin := minInt_eq
    have hmax := maxInt_eq
    rcases Int.lt_or_le maxInt j with hbeyond | hwithin
    · have hlarge : ((2 ^ 63 : Int) : ℚ) ≤ j := Int.cast_le.mpr (by omega)
      exact absurd (.capped hx (by exact_mod_cast hlarge)) hv
    · obtain rfl : j = n := by omega
      exact .f64 hx
  | _ => cases h

/-- Some natural number is read from a value that is misread, and it is another one. -/
theorem Misread.integer? {v : Value} (hv : v.Misread) :
    ∃ n : Nat, v.integer? = some (n : Int) ∧ ¬ v.Denotes n := by
  have hmin := minInt_eq
  have hmax := maxInt_eq
  cases hv with
  | @cut d hplaces hlow hhigh =>
    have hnonneg := d.truncated_nonneg_iff.mpr hlow
    have hlt : d.truncated < 2 ^ 63 :=
      (d.truncated_lt_iff (by decide)).mpr (by exact_mod_cast hhigh)
    refine ⟨d.truncated.toNat, withinBounds?_eq_some_iff.mpr (by omega), ?_⟩
    rintro (_ | _ | h)
    exact hplaces _ h
  | @capped x q hx hhigh =>
    obtain ⟨i, hi, rfl⟩ := Binary64.integer?_of_le hx (by linarith)
    have hlarge : 2 ^ 63 ≤ i := by exact_mod_cast hhigh
    have hcap : max minInt (min i maxInt) = ((2 ^ 63 - 1 : Nat) : Int) := by omega
    refine ⟨2 ^ 63 - 1, by rw [Value.integer?, hi, Option.map_some, hcap], ?_⟩
    rintro (_ | _ | _ | h)
    have hsame := Int.cast_injective (Option.some.inj (hx.symm.trans h))
    omega

end Value

end RowFerry
