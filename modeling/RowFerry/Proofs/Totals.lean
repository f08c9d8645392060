import RowFerry.Proofs.Numbers
import RowFerry.Proofs.Trace
import RowFerry.Rehearsal.Pool

/-!
What a count makes of the total that the engine reports. The total is the column with the name of
the count, else the first column of the first row. No total is no row at all, and a total that is
not a natural number below `2 ^ 63` is refused, but for the values that are misread: their count is
a number that the engine did not report.
-/

namespace RowFerry

/-- The value that a row reports as its total. -/
inductive Row.HasTotal (r : Row) : Value → Prop where
  | named {before after : List (String × Value)} {column : String} {v : Value}
    (h : r.entries = before ++ (column, v) :: after)
    (hname : sameAsciiName column countColumn = true)
    (hbefore : ∀ e ∈ before, sameAsciiName e.1 countColumn = false) : HasTotal r v
  | first {after : List (String × Value)} {column : String} {v : Value}
    (h : r.entries = (column, v) :: after)
    (hnone : ∀ e ∈ r.entries, sameAsciiName e.1 countColumn = false) : HasTotal r v

theorem Row.HasTotal.total? {r : Row} {v : Value} (h : r.HasTotal v) : r.total? = some v := by
  cases h with
  | @named before after column v h hname hbefore =>
    have hfind : r.entries.find? (fun e => sameAsciiName e.1 countColumn) = some (column, v) := by
      refine List.find?_eq_some_iff_append.mpr ⟨hname, before, after, h, fun e he => ?_⟩
      simp [hbefore e he]
    rw [Row.total?, hfind]
  | @first after column v h hnone =>
    have hfind : r.entries.find? (fun e => sameAsciiName e.1 countColumn) = none :=
      List.find?_eq_none.mpr fun e he => by simp [hnone e he]
    rw [Row.total?, hfind, Row.values, h]
    rfl

/-- A result is true to the value that was reported: a number that is reached is the value, a value
that is a natural number below `2 ^ 63` is reached, and any other value is refused by its text. -/
structure Value.Faithful (v : Value) (r : Except Failure Nat) : Prop where
  exact : ∀ n, r = .ok n → v.Denotes n
  counted : ∀ n : Nat, n < 2 ^ 63 → v.Denotes n → r = .ok n
  refused : (∀ n : Nat, n < 2 ^ 63 → ¬ v.Denotes n) →
    r = .error (.execution .count ("unexpected total " ++ v.shown))

/-- The result of a count is what the rows that it reads report: zero without a row, a column or a
total, and else true to the total of the first row. -/
structure CountsExactly (rows : List Row) (r : Except Failure Nat) : Prop where
  noRow : rows = [] → r = .ok 0
  noColumn : ∀ first ∈ rows.head?, first.isEmpty → r = .ok 0
  missing : ∀ first ∈ rows.head?, first.HasTotal .null → r = .ok 0
  faithful : ∀ first ∈ rows.head?, ∀ v, first.HasTotal v → v ≠ .null → v.Faithful r

/-- The first row reports a value that is misread. -/
def MisreadTotal (rows : List Row) : Prop := ∃ first ∈ rows.head?, ∃ v, first.HasTotal v ∧ v.Misread

/-! ## Reading the total -/

theorem readTotal_cases {first : Row} {v : Value} (hv : first.HasTotal v) (hnull : v ≠ .null)
    (more : List Row) :
    (∃ n : Nat, v.integer? = some (n : Int) ∧ readTotal (first :: more) = .ok n) ∨
      (∀ n : Nat, v.integer? ≠ some (n : Int)) ∧
        readTotal (first :: more) =
          .error (.execution .count ("unexpected total " ++ v.shown)) := by
  rw [readTotal, List.head?_cons, Option.bind_some, hv.total?]
  split
  next h => cases h
  next h => exact absurd (Option.some.inj h) hnull
  next w _ h =>
    cases h
    split
    next n hn => exact .inl ⟨n, hn, rfl⟩
    next hn => exact .inr ⟨hn, rfl⟩

/-- A number that is reached is the one that was read. -/
theorem integer?_of_readTotal {first : Row} {v : Value} (hv : first.HasTotal v) (hnull : v ≠ .null)
    {more : List Row} {n : Nat} (h : readTotal (first :: more) = .ok n) :
    v.integer? = some (n : Int) := by
  rcases readTotal_cases hv hnull more with ⟨m, hm, hread⟩ | ⟨-, hread⟩
  · rw [hread] at h
    cases h
    exact hm
  · rw [hread] at h
    cases h

theorem readTotal_of_integer? {first : Row} {v : Value} (hv : first.HasTotal v) {n : Nat}
    (h : v.integer? = some (n : Int)) (more : List Row) : readTotal (first :: more) = .ok n := by
  have hnull : v ≠ .null := by
    rintro rfl
    cases h
  rcases readTotal_cases hv hnull more with ⟨m, hm, hread⟩ | ⟨hnone, -⟩
  · obtain rfl : m = n := Int.ofNat.inj (Option.some.inj (hm.symm.trans h))
    exact hread
  · exact absurd h (hnone n)

theorem readTotal_faithful_iff {first : Row} {v : Value} (hv : first.HasTotal v) (hnull : v ≠ .null)
    (more : List Row) : v.Faithful (readTotal (first :: more)) ↔ ¬ v.Misread := by
  constructor
  · intro hfaithful hmisread
    obtain ⟨n, hn, hother⟩ := hmisread.integer?
    exact hother (hfaithful.exact n (readTotal_of_integer? hv hn more))
  · intro hread
    have hexact (n : Nat) (h : readTotal (first :: more) = .ok n) : v.Denotes n :=
      Value.denotes_of_integer? (integer?_of_readTotal hv hnull h) hread
    have hmin := Value.minInt_eq
    have hmax := Value.maxInt_eq
    refine ⟨hexact, fun n hbound hn => ?_, fun hnone => ?_⟩
    · exact readTotal_of_integer? hv (Value.integer?_of_denotes hn (by omega) (by omega)) more
    · rcases readTotal_cases hv hnull more with ⟨n, hn, hok⟩ | ⟨-, herror⟩
      · have hbound := Value.integer?_le hn
        exact absurd (hexact n hok) (hnone n (by omega))
      · exact herror

theorem readTotal_countsExactly_iff (rows : List Row) :
    CountsExactly rows (readTotal rows) ↔ ¬ MisreadTotal rows := by
  cases rows with
  | nil =>
    constructor
    · rintro - ⟨_, ⟨⟩, _⟩
    · intro _
      exact ⟨fun _ => rfl, by simp, by simp, by simp⟩
  | cons first more =>
    constructor
    · rintro hexact ⟨_, ⟨⟩, v, hv, hmisread⟩
      have hnull : v ≠ .null := by
        rintro rfl
        cases hmisread
      exact (readTotal_faithful_iff hv hnull more).mp
        (hexact.faithful first rfl v hv hnull) hmisread
    · intro hread
      constructor
      case noRow => simp
      case noColumn =>
        rintro _ ⟨⟩ hempty
        have htotal : first.total? = none := by
          rw [Row.total?, Row.values, List.isEmpty_iff.mp hempty]
          rfl
        rw [readTotal, List.head?_cons, Option.bind_some, htotal]
      case missing =>
        rintro _ ⟨⟩ hv
        rw [readTotal, List.head?_cons, Option.bind_some, hv.total?]
      case faithful =>
        rintro _ ⟨⟩ v hv hnull
        exact (readTotal_faithful_iff hv hnull more).mpr fun h => hread ⟨first, rfl, v, hv, h⟩

namespace Adapter

variable {σ κ : Type} (a : Adapter σ κ)

theorem count_result {table : String} {criteria : Criteria} {expression : Option String}
    {statement : Statement} (hstatement : a.compiler.count table criteria expression =
      .ok statement) (s : σ) :
    ((a.count table criteria expression).runFrom s).1 =
      ((a.query .count statement).runFrom s).1.bind (Option.mapM readTotal) := by
  have hcompiled : (Act.ofCompiled (a.compiler.count table criteria expression) :
    Act σ Statement).runFrom s =
      (.ok statement, s) := by
    rw [hstatement]
    rfl
  rw [count, Act.runFrom_bind_ok hcompiled]
  exact Act.runFrom_result _ (Option.mapM readTotal) s

/-- **A count is the number that was reported, exactly where the total is not misread.** For all
rows that the statement of a count yields, in every state of every engine: the count is zero without
a row, a column or a total, else the natural number that the total is in whatever form, or a refusal
if it is none below `2 ^ 63`; but a decimal with places that count is counted without them, and a
floating-point number from `2 ^ 63` on as `2 ^ 63 - 1`. -/
theorem count_exact_iff {table : String} {criteria : Criteria} {expression : Option String}
    {statement : Statement} (hstatement :
      a.compiler.count table criteria expression = .ok statement)
    {rows : List Row} {s : σ} (hrows : ((a.query .count statement).runFrom s).1 = .ok (some rows)) :
    ∃ r, ((a.count table criteria expression).runFrom s).1 = r.map some ∧
      (CountsExactly rows r ↔ ¬ MisreadTotal rows) := by
  rw [a.count_result hstatement, hrows]
  exact ⟨readTotal rows, rfl, readTotal_countsExactly_iff rows⟩

/-- A pool that answers a count with one row of one column. -/
def reporting (v : Value) : Rehearsal.Pool where
  outcomes := [.rows ⟨some 1, [[("total", .scalar v)]], none⟩]

theorem reporting_hasTotal (v : Value) : (Row.ofList [("total", v)]).HasTotal v :=
  @Row.HasTotal.named _ [] _ _ _ rfl (show sameAsciiName "total" countColumn = true by decide)
    (by simp)

theorem misread_not_exact {v : Value} {n : Nat} (hv : v.Misread)
    (hn : v.integer? = some (n : Int)) :
    ¬ v.Denotes n ∧ ¬ CountsExactly [Row.ofList [("total", v)]] (.ok n) := by
  obtain ⟨m, hm, hother⟩ := hv.integer?
  obtain rfl : n = m := Int.ofNat.inj (Option.some.inj (hn.symm.trans hm))
  have hnull : v ≠ .null := by
    rintro rfl
    cases hv
  exact ⟨hother, fun h => hother ((h.faithful _ rfl v (reporting_hasTotal v) hnull).exact n rfl)⟩

/-- A decimal without places that count is counted. -/
theorem integral_decimal_exact :
    ∃ r, (((Rehearsal.Pool.adapter "APP").count "users" {} none).runFrom
        (reporting (.decimal ⟨4200, 2⟩))).1 = r.map some ∧
      CountsExactly [Row.ofList [("total", .decimal ⟨4200, 2⟩)]] r := by
  have hstatement : (Rehearsal.Pool.adapter "APP").compiler.count "users" {} none =
      .ok ⟨"SELECT COUNT(*) AS \"total\" FROM \"APP\".\"users\";", []⟩ := rfl
  have hrows : (((Rehearsal.Pool.adapter "APP").query .count
      ⟨"SELECT COUNT(*) AS \"total\" FROM \"APP\".\"users\";", []⟩).runFrom
        (reporting (.decimal ⟨4200, 2⟩))).1 =
      .ok (some [Row.ofList [("total", .decimal ⟨4200, 2⟩)]]) := rfl
  obtain ⟨r, hr, hexact⟩ := (Rehearsal.Pool.adapter "APP").count_exact_iff hstatement hrows
  refine ⟨r, hr, hexact.mpr ?_⟩
  rintro ⟨_, ⟨⟩, v, hv, hmisread⟩
  obtain rfl : .decimal ⟨4200, 2⟩ = v := Option.some.inj hv.total?
  cases hmisread with
  | cut hplaces => exact hplaces 42 ((Decimal.toRat_eq_iff _ 42).mpr (by decide))

/-- Two and a half rows are counted as two, and ten quintillion rows as `2 ^ 63 - 1`. -/
theorem misread_totals_counted :
    ((((Rehearsal.Pool.adapter "APP").count "users" {} none).runFrom
      (reporting (.decimal ⟨25, 1⟩))).1 = .ok (some 2) ∧
      ¬ (Value.decimal ⟨25, 1⟩).Denotes 2 ∧
      ¬ CountsExactly [Row.ofList [("total", .decimal ⟨25, 1⟩)]] (.ok 2)) ∧
    (((Rehearsal.Pool.adapter "APP").count "users" {} none).runFrom
        (reporting (.f64 ⟨0x43E158E460913D00⟩))).1 = .ok (some (2 ^ 63 - 1)) ∧
      ¬ (Value.f64 ⟨0x43E158E460913D00⟩).Denotes (2 ^ 63 - 1 : Nat) ∧
      ¬ CountsExactly [Row.ofList [("total", .f64 ⟨0x43E158E460913D00⟩)]] (.ok (2 ^ 63 - 1)) := by
  have hcut : (Value.decimal ⟨25, 1⟩).Misread := by
    have hvalue : Decimal.toRat ⟨25, 1⟩ = 5 / 2 := by norm_num [Decimal.toRat, Nat.pow_eq]
    refine .cut (fun i hi => ?_) (by rw [hvalue]; norm_num) (by rw [hvalue]; norm_num)
    have hten : (25 : Int) = i * 10 := (Decimal.toRat_eq_iff _ i).mp hi
    omega
  have hcapped : (Value.f64 ⟨0x43E158E460913D00⟩).Misread := by
    have hvalue := (Binary64.integer?_eq_some_iff ⟨0x43E158E460913D00⟩ (10 ^ 19)).mp (by decide)
    exact .capped hvalue (by norm_num)
  exact ⟨⟨rfl, misread_not_exact hcut (by decide)⟩, rfl, misread_not_exact hcapped (by decide)⟩

end Adapter

end RowFerry
