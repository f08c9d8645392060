import RowFerry.Proofs.Protocol.Bulk

/-!
The protocol of a migration: pages are requested one after another and each page with rows is loaded
before the next is requested.
-/

namespace RowFerry

variable {σ κ : Type}

/-- A loader under a trace that notes the end of every load. -/
def marked (load : List Row → Act (Traced σ κ) BulkResult) (page : List Row) :
    Act (Traced σ κ) BulkResult := fun t =>
  (((load page).runFrom t).1, ⟨((load page).runFrom t).2.state,
    ((load page).runFrom t).2.calls ++ [.load page ((load page).runFrom t).1]⟩)

/-- The calls of a load with a mark at their end. -/
def Marked (P : List Row → List (Call κ) → Except Failure BulkResult → Prop) (page : List Row)
    (calls : List (Call κ)) (r : Except Failure BulkResult) : Prop :=
  ∃ made, P page made r ∧ calls = made ++ [.load page r]

/-- Pages are requested from an offset on; `P` is the protocol of loading one. -/
inductive LoadsPages (P : List Row → List (Call κ) → Except Failure BulkResult → Prop)
    (table : String) (limit : UInt64) :
    UInt64 → MigrationSummary → List PageAnswer → List (Call κ) →
    Except Failure MigrationSummary → Prop
  | exhausted (offset : UInt64) (summary : MigrationSummary) :
    LoadsPages P table limit offset summary [] [.select ⟨table, [], limit, offset⟩] (.ok summary)
  | unread {offset : UInt64} {summary : MigrationSummary} {answer : PageAnswer}
    {answers : List PageAnswer} {f : Failure} (h : answer ⟨table, [], limit, offset⟩ = .error f) :
    LoadsPages P table limit offset summary (answer :: answers)
      [.select ⟨table, [], limit, offset⟩] (.error f.asSource)
  | finished {offset : UInt64} {summary : MigrationSummary} {answer : PageAnswer}
    {answers : List PageAnswer} (h : answer ⟨table, [], limit, offset⟩ = .ok []) :
    LoadsPages P table limit offset summary (answer :: answers)
      [.select ⟨table, [], limit, offset⟩] (.ok summary)
  | notLoaded {offset : UInt64} {summary : MigrationSummary} {answer : PageAnswer}
    {answers : List PageAnswer} {page : List Row} {calls : List (Call κ)} {f : Failure}
    (h : answer ⟨table, [], limit, offset⟩ = .ok page) (hne : page ≠ [])
    (hp : P page calls (.error f)) :
    LoadsPages P table limit offset summary (answer :: answers)
      (.select ⟨table, [], limit, offset⟩ :: calls) (.error f)
  | loaded {offset : UInt64} {summary : MigrationSummary} {answer : PageAnswer}
    {answers : List PageAnswer} {page : List Row} {calls more : List (Call κ)} {result : BulkResult}
    {r : Except Failure MigrationSummary}
    (h : answer ⟨table, [], limit, offset⟩ = .ok page) (hne : page ≠ [])
    (hp : P page calls (.ok result))
    (hrest : LoadsPages P table limit (offset + limit)
      (summary.addPage page result) answers more r) :
    LoadsPages P table limit offset summary (answer :: answers)
      (.select ⟨table, [], limit, offset⟩ :: (calls ++ more)) r

/-- Without a limit nothing is requested. -/
inductive Copies (P : List Row → List (Call κ) → Except Failure BulkResult → Prop)
    (answers : List PageAnswer) (table : String) (limit : UInt64) :
    List (Call κ) → Except Failure MigrationSummary → Prop
  | noLimit (h : limit = 0) :
    Copies P answers table limit [] (.error (.config .emptyMigrationPages))
  | pages {calls : List (Call κ)} {r : Except Failure MigrationSummary} (h : limit ≠ 0)
    (hp : LoadsPages P table limit 0 MigrationSummary.empty answers calls r) :
    Copies P answers table limit calls r

/-- A source may refuse to be connected; then nothing is called. -/
inductive Migrates (P : List Row → List (Call κ) → Except Failure BulkResult → Prop)
    (table : String) (limit : UInt64) : List (Call κ) → Except Failure MigrationSummary → Prop
  | notConnected (f : Failure) : Migrates P table limit [] (.error f)
  | connected {answers : List PageAnswer} {calls : List (Call κ)}
    {r : Except Failure MigrationSummary} (h : Copies P answers table limit calls r) :
    Migrates P table limit calls r

section Loader

variable {load : List Row → Act (Traced σ κ) BulkResult} {plain : List Row → Act σ BulkResult}
  {P : List Row → List (Call κ) → Except Failure BulkResult → Prop}

theorem marked_follows (h : ∀ page, Follows (load page) (plain page) (P page)) (page : List Row) :
    Follows (marked load page) (plain page) (Marked P page) := by
  intro s
  obtain ⟨calls, hp, ht⟩ := h page s
  refine ⟨calls ++ [.load page ((plain page).runFrom s).1], ⟨calls, hp, rfl⟩, fun before => ?_⟩
  change (((load page).runFrom ⟨s, before⟩).1, (⟨_, _⟩ : Traced σ κ)) = _
  rw [ht]
  simp only [List.append_assoc]

theorem select_follows (hear : PageRequest → σ → σ) (request : PageRequest) :
    Follows
      (Act.change fun t : Traced σ κ => ⟨hear request t.state, t.calls ++ [.select request]⟩)
      (Act.change (hear request)) (Succeeds fun calls _ => calls = [.select request]) :=
  change_follows (hear request) [.select request]

theorem loadPages_follows (h : ∀ page, Follows (load page) (plain page) (P page))
    (hear : PageRequest → σ → σ) (table : String) (limit : UInt64) (answers : List PageAnswer)
    (offset : UInt64) (summary : MigrationSummary) :
    Follows
      (RowSource.loadPages load (fun r t => ⟨hear r t.state, t.calls ++ [.select r]⟩) table limit
        offset summary answers)
      (RowSource.loadPages plain hear table limit offset summary answers)
      (LoadsPages P table limit offset summary answers) := by
  induction answers generalizing offset summary with
  | nil =>
    refine (select_follows hear _).bindOk ?_
    rintro _ _ rfl
    refine (pure_follows summary).mono ?_
    rintro _ _ ⟨rfl, rfl⟩
    exact .exhausted offset summary
  | cons answer answers ih =>
    refine (select_follows hear _).bindOk ?_
    rintro _ _ rfl
    refine (ofExcept_follows _).bind ?_ ?_
    · rintro page _ ⟨rfl, hr⟩
      have hpage : answer ⟨table, [], limit, offset⟩ = .ok page := by
        cases ha : answer ⟨table, [], limit, offset⟩ <;> rw [ha] at hr <;> cases hr
        rfl
      by_cases hne : page = []
      · subst hne
        refine (pure_follows summary).mono ?_
        rintro _ _ ⟨rfl, rfl⟩
        exact .finished hpage
      · have hempty : page.isEmpty = false := by simpa using hne
        simp only [hempty, Bool.false_eq_true, ↓reduceIte]
        refine (h page).bind ?_ ?_
        · intro result calls hp
          refine (ih _ _).mono fun more r hrest => ?_
          show LoadsPages P table limit offset summary _ (_ :: (calls ++ more)) r
          exact .loaded hpage hne hp hrest
        · intro f calls hp
          exact .notLoaded hpage hne hp
    · rintro f _ ⟨rfl, hr⟩
      cases ha : answer ⟨table, [], limit, offset⟩ with
      | ok page => rw [ha] at hr; cases hr
      | error g =>
        rw [ha] at hr
        cases hr
        exact .unread ha

theorem copy_follows (h : ∀ page, Follows (load page) (plain page) (P page)) (source : RowSource σ)
    (table : String) (limit : UInt64) :
    Follows ((source.traced κ).copy load table limit) (source.copy plain table limit)
      (Copies P source.answers table limit) := by
  unfold RowSource.copy
  by_cases hl : limit = 0
  · rw [if_pos hl, if_pos hl]
    refine (throw_follows _).mono ?_
    rintro _ _ ⟨rfl, rfl⟩
    exact .noLimit hl
  · rw [if_neg hl, if_neg hl]
    exact (loadPages_follows h source.hear table limit source.answers 0 _).mono fun _ _ hp =>
      .pages hl hp

end Loader

namespace Adapter

variable (a : Adapter σ κ)

/-- A migration under a trace that notes the end of every load. -/
def markedMigrate (source : RowSource σ) (sourceTable targetTable : String) (o : MigrationOptions) :
    Act (Traced σ κ) MigrationSummary :=
  (source.traced κ).copy (marked fun page => a.traced.bulkCreate targetTable page o.identityInsert)
    sourceTable o.pageLimit

theorem migrate_follows (source : RowSource σ) (sourceTable targetTable : String)
    (o : MigrationOptions) :
    Follows (a.traced.migrate (source.traced κ) sourceTable targetTable o)
      (a.migrate source sourceTable targetTable o)
      (Copies (fun page => a.Loads targetTable page o.identityInsert) source.answers sourceTable
        o.pageLimit) :=
  copy_follows (fun page => a.bulkCreate_follows targetTable page o.identityInsert)
    source sourceTable o.pageLimit

theorem markedMigrate_follows (source : RowSource σ) (sourceTable targetTable : String)
    (o : MigrationOptions) :
    Follows (a.markedMigrate source sourceTable targetTable o)
      (a.migrate source sourceTable targetTable o)
      (Copies (Marked fun page => a.Loads targetTable page o.identityInsert)
        source.answers sourceTable o.pageLimit) :=
  copy_follows (marked_follows fun page => a.bulkCreate_follows targetTable page o.identityInsert)
    source sourceTable o.pageLimit

theorem migrateFrom_follows (connect : Act σ (RowSource σ)) (sourceTable targetTable : String)
    (o : MigrationOptions) :
    Follows
      (a.traced.migrateFrom (RowSource.traced κ <$> connect.noted fun _ => [])
        sourceTable targetTable o)
      (a.migrateFrom connect sourceTable targetTable o)
      (Migrates (fun page => a.Loads targetTable page o.identityInsert) sourceTable
        o.pageLimit) := by
  unfold migrateFrom
  rw [bind_map_left]
  refine (noted_follows connect fun _ => []).bind ?_ ?_
  · rintro source _ rfl
    exact (a.migrate_follows source sourceTable targetTable o).mono fun _ _ h => .connected h
  · rintro f _ rfl
    exact .notConnected f

end Adapter

end RowFerry
