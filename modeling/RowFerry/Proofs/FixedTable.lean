import Mathlib.Algebra.Group.Nat.Defs
import RowFerry.Proofs.Protocol.Migration

/-!
A fixed table read page by page. A request finds the first of the rows that are left, and
the offset after it is that of the rows behind them; the table has a page for every
request until none are left.
-/

namespace RowFerry

variable {κ : Type}

theorem limit_pos {limit : UInt64} (h : limit ≠ 0) : 0 < limit.toNat := by
  rcases Nat.eq_zero_or_pos limit.toNat with hz | hz
  · exact absurd (UInt64.toNat_inj.mp hz) h
  · exact hz

/-- The next offset of a table with more rows does not overflow. -/
theorem next_offset (offset limit : UInt64) (hsmall : offset.toNat < 2 ^ 63)
    (hoffset : offset = 0 ∨ limit.toNat ≤ offset.toNat) :
    (offset + limit).toNat = offset.toNat + limit.toNat := by
  have hbound := limit.toNat_lt
  rw [UInt64.toNat_add]
  refine Nat.mod_eq_of_lt ?_
  rcases hoffset with rfl | h
  · rw [UInt64.toNat_zero]
    omega
  · omega

/-- The rows that are left from an offset on are requested and loaded, a page at a time; `P` is the
protocol of loading one. -/
inductive LoadsRest (P : List Row → List (Call κ) → Except Failure BulkResult → Prop)
    (table : String) (limit : UInt64) : UInt64 → List Row → MigrationSummary → List (Call κ) →
      Except Failure MigrationSummary → Prop
  | finished (offset : UInt64) (summary : MigrationSummary) :
    LoadsRest P table limit offset [] summary [.select ⟨table, [], limit, offset⟩] (.ok summary)
  | notLoaded {offset : UInt64} {rest : List Row} {summary : MigrationSummary}
    {calls : List (Call κ)} {f : Failure} (hne : rest ≠ [])
    (hp : P (rest.take limit.toNat) calls (.error f)) :
    LoadsRest P table limit offset rest summary
      (.select ⟨table, [], limit, offset⟩ :: calls) (.error f)
  | loaded {offset : UInt64} {rest : List Row} {summary : MigrationSummary}
    {calls more : List (Call κ)} {result : BulkResult}
    {r : Except Failure MigrationSummary} (hne : rest ≠ [])
    (hnext : (offset + limit).toNat = offset.toNat + limit.toNat)
    (hp : P (rest.take limit.toNat) calls (.ok result))
    (hrest : LoadsRest P table limit (offset + limit) (rest.drop limit.toNat)
      (summary.addPage (rest.take limit.toNat) result) more r) :
    LoadsRest P table limit offset rest summary
      (.select ⟨table, [], limit, offset⟩ :: (calls ++ more)) r

variable {P : List Row → List (Call κ) → Except Failure BulkResult → Prop} {table : String}
  {limit : UInt64}

/-- A fixed table is read to its end, whatever the source would answer after that. The rows from the
offset on are fewer than the answers of the table that are left. -/
theorem loadsPages_loadsRest (hlimit : limit ≠ 0) {rows : List Row} (hsize : rows.length < 2 ^ 63)
    {more : List PageAnswer} {left : Nat} {offset : UInt64} {summary : MigrationSummary}
    {calls : List (Call κ)} {r : Except Failure MigrationSummary}
    (hoffset : offset = 0 ∨ limit.toNat ≤ offset.toNat) (hleft : rows.length - offset.toNat < left)
    (h : LoadsPages P table limit offset summary
      (List.replicate left (pageOf rows) ++ more) calls r) :
    LoadsRest P table limit offset (rows.drop offset.toNat) summary calls r := by
  have hpos := limit_pos hlimit
  -- Each page with rows uses one answer up, and leaves at least one row less.
  induction left generalizing offset summary calls r with
  | zero => omega
  | succ left ih =>
    rw [List.replicate_succ, List.cons_append] at h
    cases h with
    | unread hpage => cases hpage
    | finished hpage =>
      have hnone : (rows.drop offset.toNat).take limit.toNat = [] := Except.ok.inj hpage
      have hrest : rows.drop offset.toNat = [] := by
        rcases List.take_eq_nil_iff.mp hnone with hz | hrest
        · omega
        · exact hrest
      rw [hrest]
      exact .finished offset summary
    | notLoaded hpage hne hp =>
      obtain rfl := Except.ok.inj hpage
      exact .notLoaded (fun hnone => hne (by rw [hnone, List.take_nil])) hp
    | loaded hpage hne hp hrest =>
      obtain rfl := Except.ok.inj hpage
      have hsome : rows.drop offset.toNat ≠ [] := fun hnone => hne (by rw [hnone, List.take_nil])
      have hlt : offset.toNat < rows.length := by
        rcases Nat.lt_or_ge offset.toNat rows.length with hlt | hge
        · exact hlt
        · exact absurd (List.drop_eq_nil_of_le hge) hsome
      have hnext := next_offset offset limit (by omega) hoffset
      have hlater := ih (.inr (by omega)) (by omega) hrest
      rw [hnext, ← List.drop_drop] at hlater
      exact .loaded hsome hnext hp hlater

theorem copies_loadsRest {rows : List Row} {answers : List PageAnswer}
    (hanswers : tableAnswers rows <+: answers) (hlimit : limit ≠ 0) (hsize : rows.length < 2 ^ 63)
    {calls : List (Call κ)} {r : Except Failure MigrationSummary}
    (h : Copies P answers table limit calls r) :
    LoadsRest P table limit 0 rows MigrationSummary.empty calls r := by
  obtain ⟨more, rfl⟩ := hanswers
  cases h with
  | noLimit hzero => exact absurd hzero hlimit
  | pages _ h => exact loadsPages_loadsRest hlimit hsize (.inl rfl) (by omega) h

end RowFerry
