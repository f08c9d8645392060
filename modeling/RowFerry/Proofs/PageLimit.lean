import RowFerry.Proofs.LoadProtocol
import RowFerry.Proofs.MigrationAccounting

/-!
What a migration does to its target does not depend on the size of its pages. Two runs over the same
table cut it at different places and switch, commit and release in between; both attempt the rows as
one reference does, which knows nothing of pages.
-/

namespace RowFerry

variable {σ κ : Type}

/-! ## Targets -/

/-- Is the call granted? A statement that inserts a row may be refused. -/
def Call.isGranted : Call κ → Bool
  | acquire answer => answer.isOk
  | execute _ sql _ answer => isInsert sql || answer.isOk
  | commit _ answer => answer.isOk
  | _ => true

/-- The statements were answered by `f`, each from all those executed up to it;
`done` are the earlier ones. -/
def AnsweredBy (f : List Statement → Except Failure Outcome) :
    List Statement → List (Statement × Except Failure Outcome) → Prop
  | _, [] => True
  | done, (s, answer) :: more => answer = f (done ++ [s]) ∧ AnsweredBy f (done ++ [s]) more

instance AnsweredBy.decidable (f : List Statement → Except Failure Outcome) :
    (done : List Statement) → (executed : List (Statement × Except Failure Outcome)) →
      Decidable (AnsweredBy f done executed)
  | _, [] => .isTrue trivial
  | done, (s, answer) :: more =>
    have := decidable f (done ++ [s]) more
    inferInstanceAs (Decidable (answer = f (done ++ [s]) ∧ AnsweredBy f (done ++ [s]) more))

/-- The target granted every call but those that insert rows, which it answered by `f`. -/
structure TargetBy (f : List Statement → Except Failure Outcome)
    (calls : List (Call κ)) : Prop where
  granted : ∀ call ∈ calls, call.isGranted = true
  answered : AnsweredBy f [] ((insertions calls).map Prod.snd)

/-! ## The reference -/

/-- A row whose statement was answered. -/
def Attempt.answered (row : Row) (s : Statement) : Except Failure Outcome → Attempt
  | .error f => .refused row s f
  | .ok o => .inserted row s o

/-- What becomes of rows whose statements are answered by `f`. -/
def attemptsBy (compile : Row → Except CompileError Statement)
    (f : List Statement → Except Failure Outcome) : List Statement → List Row → List Attempt
  | _, [] => []
  | done, row :: rows =>
    match compile row with
    | .error e => .rejected row e :: attemptsBy compile f done rows
    | .ok s => .answered row s (f (done ++ [s])) :: attemptsBy compile f (done ++ [s]) rows

/-- The answers to the statements leave no choice to the attempts. -/
theorem Attempts.eq_attemptsBy {compile : Row → Except CompileError Statement}
    {f : List Statement → Except Failure Outcome} {done : List Statement} {rows : List Row}
    {attempts : List Attempt} (h : Attempts compile rows attempts)
    (hf : AnsweredBy f done (attempts.filterMap Attempt.executed?)) :
    attempts = attemptsBy compile f done rows := by
  obtain rfl := h.rows
  induction attempts generalizing done with
  | nil => rfl
  | cons t attempts ih =>
    have hmore : Attempts compile (attempts.map Attempt.row) attempts :=
      ⟨rfl, fun u hu => h.compiled u (List.mem_cons_of_mem t hu)⟩
    have ht := h.compiled t List.mem_cons_self
    cases t with
    | rejected row e =>
      rw [List.map_cons, attemptsBy, show compile (Attempt.rejected row e).row = .error e from ht]
      exact congrArg _ (ih hf hmore)
    | refused row s g =>
      obtain ⟨hanswer, hlater⟩ := hf
      rw [List.map_cons, attemptsBy, show compile (Attempt.refused row s g).row = .ok s from ht]
      simp only [← hanswer, ← ih hlater hmore]
      rfl
    | inserted row s o =>
      obtain ⟨hanswer, hlater⟩ := hf
      rw [List.map_cons, attemptsBy, show compile (Attempt.inserted row s o).row = .ok s from ht]
      simp only [← hanswer, ← ih hlater hmore]
      rfl

namespace MigrationSummary

/-- What a summary says, the number of pages aside. -/
def outcome (s : MigrationSummary) : Nat × Nat × List RowFailure :=
  (s.rowsRead, s.rowsWritten, s.failures)

/-- What the attempts of a whole table add up to. -/
def outcomeOf (attempts : List Attempt) : Nat × Nat × List RowFailure :=
  (attempts.length, (BulkResult.of attempts).successCount, (BulkResult.of attempts).failures)

/-- The summary grew by what became of the attempted rows. -/
structure Grows (before : MigrationSummary) (attempts : List Attempt)
    (after : MigrationSummary) : Prop where
  rowsRead : after.rowsRead = before.rowsRead + attempts.length
  rowsWritten : after.rowsWritten = before.rowsWritten + (BulkResult.of attempts).successCount
  failures : after.failures = before.failures ++ (BulkResult.of attempts).failures

theorem Grows.nil (s : MigrationSummary) : s.Grows [] s := ⟨rfl, rfl, (List.append_nil _).symm⟩

theorem Grows.page {before after : MigrationSummary} {page : List Row} {as bs : List Attempt}
    (hpage : as.length = page.length)
    (h : (before.addPage page (BulkResult.of as)).Grows bs after) :
    before.Grows (as ++ bs) after where
  rowsRead := by
    rw [h.rowsRead, List.length_append, hpage]
    simp only [addPage]
    omega
  rowsWritten := by
    rw [h.rowsWritten, BulkResult.of_append]
    simp only [addPage, BulkResult.attempted]
    omega
  failures := by
    rw [h.failures, BulkResult.of_append]
    simp only [addPage, List.append_assoc]

theorem Grows.outcome {attempts : List Attempt} {after : MigrationSummary}
    (h : empty.Grows attempts after) : after.outcome = outcomeOf attempts := by
  rw [MigrationSummary.outcome, h.rowsRead, h.rowsWritten, h.failures]
  simp [empty, outcomeOf]

end MigrationSummary

/-! ## Loads that are granted -/

theorem LoadsBatch.granted {c : κ} {compile : Row → Except CompileError Statement} {rows : List Row}
    {calls : List (Call κ)} {r : Except Failure BulkResult} (h : LoadsBatch compile rows c calls r)
    (hcalls : ∀ call ∈ calls, call.isGranted = true) : ∃ result, r = .ok result := by
  cases h with
  | @mk inserts result _ r =>
    have hcommit : r.isOk = true := hcalls (.commit c r) (by simp)
    cases r with
    | error f => cases hcommit
    | ok u => exact ⟨result, rfl⟩

theorem Switches.granted {c : κ} {sql : String} (hsql : IsSwitch sql) {calls : List (Call κ)}
    {r : Except Failure Unit} (h : Switches c sql calls r)
    (hcalls : ∀ call ∈ calls, call.isGranted = true) : r = .ok () := by
  cases r with
  | ok u => rfl
  | error f =>
    rcases h.error_calls with rfl | ⟨o, rfl⟩
    · have hexecute := hcalls _ List.mem_cons_self
      rw [Call.isGranted, hsql.not_isInsert] at hexecute
      cases hexecute
    · have hcommit := hcalls (.commit c (.error f)) (by simp)
      cases hcommit

@[simp] theorem insertions_select (request : PageRequest) (xs : List (Call κ)) :
    insertions (.select request :: xs) = insertions xs := rfl

namespace Adapter

variable (a : Adapter σ κ)

/-- A load that is granted succeeds, if identity insert can be switched for its table. -/
theorem loads_granted {table : String} {rows : List Row} {identityInsert : Bool}
    {calls : List (Call κ)} {r : Except Failure BulkResult}
    (hswitch : identityInsert = true → ∃ toggles, a.identityToggles table = .ok toggles)
    (h : a.Loads table rows identityInsert calls r)
    (hcalls : ∀ call ∈ calls, call.isGranted = true) :
    ∃ result, r = .ok result := by
  cases identityInsert with
  | false =>
    cases h with
    | refused f =>
      have hacquire := hcalls _ List.mem_cons_self
      cases hacquire
    | returned c h => exact h.granted fun call hc => hcalls call (by simp [hc])
  | true =>
    obtain ⟨toggles, htoggles⟩ := hswitch rfl
    cases h with
    | rejected he => cases he.symm.trans htoggles
    | accepted haccepted h =>
      have henable := (a.identityToggles_ok haccepted).1
      cases h with
      | refused f =>
        have hacquire := hcalls _ List.mem_cons_self
        cases hacquire
      | notEnabled h =>
        cases h.granted (a.compiler.identityInsert_isSwitch henable) fun call hc =>
          hcalls call (by simp [hc])
      | loaded _ h _ => exact h.granted fun call hc => hcalls call (by simp [hc])

/-! ## Migrations -/

variable {sourceTable targetTable : String} {identityInsert : Bool} {limit offset : UInt64}
  {rest : List Row} {before : MigrationSummary} {calls : List (Call κ)}
  {r : Except Failure MigrationSummary}

/-- The rows that are left are attempted once and in order, wherever the pages end. -/
theorem loadsRest_attempts
    (hswitch : identityInsert = true → ∃ toggles, a.identityToggles targetTable = .ok toggles)
    (h : LoadsRest (fun page => a.Loads targetTable page identityInsert)
      sourceTable limit offset rest
      before calls r) (hcalls : ∀ call ∈ calls, call.isGranted = true) :
    ∃ attempts after, r = .ok after ∧ Attempts (a.compiler.create targetTable) rest attempts ∧
      (insertions calls).map Prod.snd = attempts.filterMap Attempt.executed? ∧
      before.Grows attempts after := by
  induction h with
  | finished offset summary => exact ⟨[], summary, rfl, .nil, rfl, .nil summary⟩
  | notLoaded _ hp =>
    obtain ⟨result, hresult⟩ := a.loads_granted hswitch hp fun call hc => hcalls call (by simp [hc])
    cases hresult
  | loaded _ _ hp _ ih =>
    obtain ⟨c, as, -, has, hpage, rfl⟩ := a.loads_attempts hp
    obtain ⟨bs, after, rfl, hbs, hmore, hgrows⟩ := ih fun call hc => hcalls call (by simp [hc])
    refine ⟨as ++ bs, after, rfl, ?_, ?_, .page has.length_eq hgrows⟩
    · have hrest := has.append hbs
      rwa [List.take_append_drop] at hrest
    · rw [insertions_select, insertions_append, List.map_append, hpage, hmore,
        List.filterMap_append, List.map_map, Function.comp_def, List.map_id']

/-- When identity insert cannot be switched for the table, the first page with rows is rejected. -/
theorem loadsRest_rejected {e : CompileError} (he : a.identityToggles targetTable = .error e)
    (h : LoadsRest (fun page => a.Loads targetTable page true) sourceTable limit offset rest before
      calls r) :
    insertions calls = [] ∧ r = if rest = [] then .ok before else .error (.compile e) := by
  cases h with
  | finished => exact ⟨rfl, rfl⟩
  | notLoaded hne hp =>
    cases hp with
    | accepted haccepted _ => cases he.symm.trans haccepted
    | rejected hrejected =>
      obtain rfl := Except.error.inj (he.symm.trans hrejected)
      exact ⟨rfl, (if_neg hne).symm⟩
  | loaded _ _ hp _ =>
    cases hp with
    | accepted haccepted _ => cases he.symm.trans haccepted

/-- What the migration of a table executes and says is decided by its rows
and the answers to them. -/
theorem loadsRest_outcome (rows : List Row) (f : List Statement → Except Failure Outcome)
    (targetTable : String) (identityInsert : Bool) :
    ∃ executed outcome, ∀ {limit : UInt64} {calls : List (Call κ)}
    {r : Except Failure MigrationSummary},
      LoadsRest (fun page => a.Loads targetTable page identityInsert) sourceTable limit 0 rows
        MigrationSummary.empty calls r →
      TargetBy f calls →
      (insertions calls).map Prod.snd = executed ∧ r.map MigrationSummary.outcome = outcome := by
  by_cases hswitch : identityInsert = true → ∃ toggles, a.identityToggles targetTable = .ok toggles
  · refine ⟨(attemptsBy (a.compiler.create targetTable) f [] rows).filterMap Attempt.executed?,
      .ok (MigrationSummary.outcomeOf (attemptsBy (a.compiler.create targetTable) f [] rows)),
      fun h htarget => ?_⟩
    obtain ⟨attempts, after, rfl, hattempts, hexecuted, hgrows⟩ :=
      a.loadsRest_attempts hswitch h htarget.granted
    have hreference := hattempts.eq_attemptsBy (hexecuted ▸ htarget.answered)
    rw [hreference] at hexecuted hgrows
    exact ⟨hexecuted, congrArg Except.ok hgrows.outcome⟩
  · simp only [not_forall, not_exists] at hswitch
    obtain ⟨rfl, hnone⟩ := hswitch
    cases he : a.identityToggles targetTable with
    | ok toggles => exact absurd he (hnone toggles)
    | error e =>
      refine ⟨[], if rows = [] then .ok MigrationSummary.empty.outcome else .error (.compile e),
        fun h _ => ?_⟩
      obtain ⟨hexecuted, rfl⟩ := a.loadsRest_rejected he h
      exact ⟨by rw [hexecuted, List.map_nil], by split <;> rfl⟩

/-- **The size of the pages does not matter.** Two migrations of the same table of fewer than
`2 ^ 63` rows, whose target grants everything but rows and answers those from the statements
executed so far, execute the same statements for rows and say the same of the rows read, written and
not inserted. They succeed, unless identity insert cannot be switched for the table. -/
theorem migrate_pageLimit_irrelevant (rows : List Row) (source : RowSource σ)
    (sourceTable targetTable : String) (identityInsert : Bool) (limit₁ limit₂ : UInt64)
    (f : List Statement → Except Failure Outcome) (s₁ s₂ : σ)
    (hsource : tableAnswers rows <+: source.answers) (hsize : rows.length < 2 ^ 63)
    (hlimit₁ : limit₁ ≠ 0) (hlimit₂ : limit₂ ≠ 0)
    (htarget₁ : TargetBy f ((a.traced.migrate (source.traced κ) sourceTable targetTable
      ⟨limit₁, identityInsert⟩).callsFrom s₁))
    (htarget₂ : TargetBy f ((a.traced.migrate (source.traced κ) sourceTable targetTable
      ⟨limit₂, identityInsert⟩).callsFrom s₂)) :
    (insertions ((a.traced.migrate (source.traced κ) sourceTable targetTable
        ⟨limit₁, identityInsert⟩).callsFrom s₁)).map Prod.snd =
      (insertions ((a.traced.migrate (source.traced κ) sourceTable targetTable
        ⟨limit₂, identityInsert⟩).callsFrom s₂)).map Prod.snd ∧
    ((a.migrate source sourceTable targetTable ⟨limit₁, identityInsert⟩).runFrom s₁).1.map
        MigrationSummary.outcome =
      ((a.migrate source sourceTable targetTable ⟨limit₂, identityInsert⟩).runFrom s₂).1.map
        MigrationSummary.outcome ∧
    ((identityInsert = true → ∃ name, a.compiler.table targetTable = .ok name) →
      ∃ summary, ((a.migrate source sourceTable targetTable
        ⟨limit₁, identityInsert⟩).runFrom s₁).1 = .ok summary) := by
  have h₁ := copies_loadsRest hsource hlimit₁ hsize
    ((a.migrate_follows source sourceTable targetTable ⟨limit₁, identityInsert⟩).calls s₁)
  have h₂ := copies_loadsRest hsource hlimit₂ hsize
    ((a.migrate_follows source sourceTable targetTable ⟨limit₂, identityInsert⟩).calls s₂)
  obtain ⟨executed, outcome, hreference⟩ := a.loadsRest_outcome rows f targetTable identityInsert
  obtain ⟨hexecuted₁, houtcome₁⟩ := hreference h₁ htarget₁
  obtain ⟨hexecuted₂, houtcome₂⟩ := hreference h₂ htarget₂
  refine ⟨hexecuted₁.trans hexecuted₂.symm, houtcome₁.trans houtcome₂.symm, fun hname => ?_⟩
  have hswitch : identityInsert = true →
    ∃ toggles, a.identityToggles targetTable = .ok toggles := by
    intro hidentity
    obtain ⟨name, hname⟩ := hname hidentity
    exact ⟨_, a.identityToggles_eq hname⟩
  obtain ⟨-, summary, hsummary, -⟩ := a.loadsRest_attempts hswitch h₁ htarget₁.granted
  exact ⟨summary, hsummary⟩

/-- The answer of a table whose first column is unique. -/
def uniqueKey (executed : List Statement) : Except Failure Outcome :=
  match executed.reverse.map fun s => s.values.headD .null with
  | [] => .ok (.affected 0)
  | key :: keys =>
    if keys.contains key then
      .error (.driver ("unique constraint violated: " ++ key.plain.getD "NULL"))
    else .ok (.affected 1)

/-- The key of the first page is refused on the last, and on the same page
when all rows are on one. -/
theorem repeatedKey_pageLimit_irrelevant :
    (insertions (((Rehearsal.Pool.adapter "APP").traced.migrate
        ((Rehearsal.Pool.source (tableAnswers repeatedKey)).traced Unit) "people" "users"
          ⟨1, true⟩).callsFrom {})).map Prod.snd =
      (insertions (((Rehearsal.Pool.adapter "APP").traced.migrate
        ((Rehearsal.Pool.source (tableAnswers repeatedKey)).traced Unit) "people" "users"
          ⟨5, true⟩).callsFrom {})).map Prod.snd ∧
    (((Rehearsal.Pool.adapter "APP").migrate (Rehearsal.Pool.source (tableAnswers repeatedKey))
        "people" "users" ⟨1, true⟩).runFrom {}).1.map MigrationSummary.outcome =
      (((Rehearsal.Pool.adapter "APP").migrate (Rehearsal.Pool.source (tableAnswers repeatedKey))
        "people" "users" ⟨5, true⟩).runFrom {}).1.map MigrationSummary.outcome ∧
    ∃ summary, (((Rehearsal.Pool.adapter "APP").migrate
      (Rehearsal.Pool.source (tableAnswers repeatedKey)) "people" "users"
        ⟨1, true⟩).runFrom {}).1 = .ok summary := by
  obtain ⟨hexecuted, houtcome, hok⟩ :=
    (Rehearsal.Pool.adapter "APP").migrate_pageLimit_irrelevant repeatedKey
      (Rehearsal.Pool.source (tableAnswers repeatedKey)) "people" "users" true 1 5 uniqueKey {} {}
      (List.prefix_refl _) (by decide) (by decide) (by decide)
      ⟨by decide +kernel, by decide +kernel⟩ ⟨by decide +kernel, by decide +kernel⟩
  exact ⟨hexecuted, houtcome, hok fun _ => ⟨_, rfl⟩⟩

end Adapter

end RowFerry
