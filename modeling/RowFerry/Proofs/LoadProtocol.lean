import RowFerry.Proofs.Attempts

/-!
The calls of a load as a function of the answers to them. Six answers can be refusals: those to the
statements that switch identity insert on and off and to their commits, those to the rows, and that
to the commit of the batch. Whatever they are, they decide every later call and the result.
-/

namespace RowFerry

variable {σ κ : Type}

/-- The answers to a statement that switches identity insert and to the commit of it, which is asked
for only when the statement is not refused. -/
structure SwitchAnswers where
  executed : Except Failure Outcome
  committed : Except Failure Unit

namespace SwitchAnswers

/-- The switch fails with the first refusal. -/
def result (t : SwitchAnswers) : Except Failure Unit := t.executed.bind fun _ => t.committed

def calls (c : κ) (sql : String) (t : SwitchAnswers) : List (Call κ) :=
  .execute c sql [] t.executed ::
    match t.executed with
    | .error _ => []
    | .ok _ => [.commit c t.committed]

end SwitchAnswers

/-- The answers to the calls of a load on one connection. -/
structure LoadAnswers where
  enabled : SwitchAnswers
  attempts : List Attempt
  committed : Except Failure Unit
  disabled : SwitchAnswers

namespace LoadAnswers

/-- The rows that compile are executed in their order, whichever of them are
refused, and then committed. -/
def batch (c : κ) (t : LoadAnswers) : List (Call κ) :=
  t.attempts.filterMap (Attempt.call? c) ++ [.commit c t.committed]

/-- The batch fails only with its commit. -/
def batchResult (t : LoadAnswers) : Except Failure BulkResult :=
  (t.committed.mapError (·.atStage .bulk)).map fun _ => BulkResult.of t.attempts

/-- The calls of a load into the table of the given name. -/
def calls (c : κ) (table : String) (identityInsert : Bool) (t : LoadAnswers) : List (Call κ) :=
  .acquire (.ok c) ::
    if identityInsert then
      t.enabled.calls c ("SET IDENTITY_INSERT " ++ table ++ " ON;") ++
        match t.enabled.result with
        | .error _ => [.release c]
        | .ok () =>
          t.batch c ++
            (t.disabled.calls c ("SET IDENTITY_INSERT " ++ table ++ " OFF;") ++
              [.ending c t.disabled.result])
    else t.batch c ++ [.release c]

/-- What a load gives. The answers to switching identity insert off play no part. -/
def result (identityInsert : Bool) (t : LoadAnswers) : Except Failure BulkResult :=
  if identityInsert then
    match t.enabled.result with
    | .error f => .error (f.atStage .bulk)
    | .ok () => t.batchResult
  else t.batchResult

/-- Does the load get to its rows? -/
def reachesRows (identityInsert : Bool) (t : LoadAnswers) : Bool :=
  !identityInsert || t.enabled.result.isOk

end LoadAnswers

section

variable (c : κ) (xs : List (Call κ))

@[simp] theorem withoutCursors_nil : withoutCursors ([] : List (Call κ)) = [] := rfl

@[simp] theorem withoutCursors_acquire (answer : Except Failure κ) :
    withoutCursors (.acquire answer :: xs) = .acquire answer :: withoutCursors xs := rfl

@[simp] theorem withoutCursors_execute (sql : String) (values : List Value)
    (answer : Except Failure Outcome) : withoutCursors (.execute c sql values answer :: xs) =
      .execute c sql values answer :: withoutCursors xs := rfl

@[simp] theorem withoutCursors_commit (answer : Except Failure Unit) :
    withoutCursors (.commit c answer :: xs) = .commit c answer :: withoutCursors xs := rfl

@[simp] theorem withoutCursors_release :
    withoutCursors (.release c :: xs) = .release c :: withoutCursors xs := rfl

@[simp] theorem withoutCursors_ending (reset : Except Failure Unit) :
    withoutCursors (.ending c reset :: xs) = .ending c reset :: withoutCursors xs := by
  cases reset <;> rfl

end

theorem Switches.answers {c : κ} {sql : String} {calls : List (Call κ)} {r : Except Failure Unit}
    (h : Switches c sql calls r) :
    ∃ t : SwitchAnswers, withoutCursors calls = t.calls c sql ∧ r = t.result := by
  obtain ⟨r', hr, rfl⟩ := h
  cases hr with
  | refused f => exact ⟨⟨.error f, .ok ()⟩, rfl, rfl⟩
  | executed o r =>
    refine ⟨⟨.ok o, r⟩, by simp [SwitchAnswers.calls], ?_⟩
    cases r <;> rfl

/-- The rows of a batch and its commit. -/
theorem LoadsBatch.answers {c : κ} {compile : Row → Except CompileError Statement} {rows : List Row}
    {calls : List (Call κ)} {r : Except Failure BulkResult} (h : LoadsBatch compile rows c calls r)
    (enabled disabled : SwitchAnswers) :
    ∃ t : LoadAnswers, t.enabled = enabled ∧ t.disabled = disabled ∧
    Attempts compile rows t.attempts ∧
      withoutCursors calls = t.batch c ∧ r = t.batchResult := by
  cases h with
  | mk h r =>
    obtain ⟨attempts, hattempts, hcalls, rfl⟩ := h.attempts
    exact ⟨⟨enabled, attempts, r, disabled⟩, rfl, rfl,
      hattempts, by simp [LoadAnswers.batch, hcalls], rfl⟩

/-! ## Loads -/

/-- The load on the connection went as the answers to its calls decide. -/
structure LoadsOn (compile : Row → Except CompileError Statement) (rows : List Row) (table : String)
    (identityInsert : Bool) (calls : List (Call κ)) (r : Except Failure BulkResult) (c : κ)
    (t : LoadAnswers) : Prop where
  attempts : t.reachesRows identityInsert = true → Attempts compile rows t.attempts
  calls : withoutCursors calls = t.calls c table identityInsert
  result : r = t.result identityInsert

section

variable {compile : Row → Except CompileError Statement} {rows : List Row} {calls : List (Call κ)}
  {r : Except Failure BulkResult}

theorem borrows_loadsOn (h : Borrows (LoadsBatch compile rows) calls r)
    (hacquire : ∀ f, .acquire (.error f) ∉ calls) (table : String) :
    ∃ c t, LoadsOn compile rows table false calls r c t := by
  cases h with
  | refused f => exact absurd List.mem_cons_self (hacquire f)
  | @returned c calls r h =>
    -- Without switches their answers are never asked for, so any will do.
    obtain ⟨t, -, -, hattempts, hcalls, rfl⟩ := h.answers ⟨.ok (.affected 0), .ok ()⟩
      ⟨.ok (.affected 0), .ok ()⟩
    exact ⟨c, t, fun _ => hattempts, by simp [LoadAnswers.calls, hcalls], rfl⟩

theorem loadsToggled_loadsOn {table : String}
    (h : LoadsToggled ("SET IDENTITY_INSERT " ++ table ++ " ON;")
      ("SET IDENTITY_INSERT " ++ table ++ " OFF;") (LoadsBatch compile rows) calls r)
    (hacquire : ∀ f, .acquire (.error f) ∉ calls) :
    ∃ c t, LoadsOn compile rows table true calls r c t := by
  cases h with
  | refused f => exact absurd List.mem_cons_self (hacquire f)
  | @notEnabled c calls f h =>
    obtain ⟨enabled, hcalls, hresult⟩ := h.answers
    refine ⟨c, ⟨enabled, [], .ok (), ⟨.ok (.affected 0), .ok ()⟩⟩, ?_, ?_, ?_⟩
    · simp [LoadAnswers.reachesRows, ← hresult, Except.isOk, Except.toBool]
    · simp [LoadAnswers.calls, hcalls, ← hresult]
    · simp [LoadAnswers.result, ← hresult]
  | @loaded c on batch off r reset hon h hoff =>
    obtain ⟨enabled, honCalls, honResult⟩ := hon.answers
    obtain ⟨disabled, hoffCalls, rfl⟩ := hoff.answers
    obtain ⟨t, rfl, rfl, hattempts, hcalls, rfl⟩ := h.answers enabled disabled
    refine ⟨c, t, fun _ => hattempts, ?_, ?_⟩
    · simp [LoadAnswers.calls, honCalls, hoffCalls, hcalls, ← honResult]
    · simp [LoadAnswers.result, ← honResult]

end

namespace Adapter

variable (a : Adapter σ κ)

/-- The switches of a table with a name. -/
theorem identityToggles_eq {table : String} {name : TableName a.compiler.style}
    (h : a.compiler.table table = .ok name) :
    a.identityToggles table = .ok ("SET IDENTITY_INSERT " ++ name.text ++ " ON;",
      "SET IDENTITY_INSERT " ++ name.text ++ " OFF;") := by
  rw [identityToggles, a.compiler.identityInsert_eq h, a.compiler.identityInsert_eq h]
  rfl

/-- **A load follows its protocol on every path.** When the connection is not refused, and the table
has a name if identity insert is to be switched, the calls of the load and its result are those
which the answers decide; and every statement names the table alike. -/
theorem bulkCreate_follows_protocol (table : String) (rows : List Row)
    (identityInsert : Bool) (s : σ)
    (hacquire : ∀ f, .acquire (.error f) ∉ (a.traced.bulkCreate table rows identityInsert).callsFrom
      s) (htable : identityInsert = true → ∃ name, a.compiler.table table = .ok name) :
    ∃ text c t,
      LoadsOn (a.compiler.create table) rows text identityInsert
        ((a.traced.bulkCreate table rows identityInsert).callsFrom s)
        ((a.bulkCreate table rows identityInsert).runFrom s).1 c t ∧
      (∀ name, a.compiler.table table = .ok name → name.text = text) ∧
      ∀ row ∈ rows, ∀ insert, a.compiler.create table row = .ok insert →
        ∃ columns, insert.sql = "INSERT INTO " ++ text ++ " (" ++ columns := by
  have h := (a.bulkCreate_follows table rows identityInsert).calls s
  generalize (a.traced.bulkCreate table rows identityInsert).callsFrom s = calls,
    ((a.bulkCreate table rows identityInsert).runFrom s).1 = r at h hacquire ⊢
  have hnames : ∀ name, a.compiler.table table = .ok name →
      (∀ other, a.compiler.table table = .ok other → other.text = name.text) ∧
      ∀ row ∈ rows, ∀ insert, a.compiler.create table row = .ok insert →
        ∃ columns, insert.sql = "INSERT INTO " ++ name.text ++ " (" ++ columns := by
    intro name hname
    refine ⟨fun other hother => ?_, fun row _ insert hrow => ?_⟩
    · rw [Except.ok.inj (hother.symm.trans hname)]
    · obtain ⟨other, columns, hother, hsql⟩ := a.compiler.create_begins hrow
      rw [Except.ok.inj (hname.symm.trans hother)]
      exact ⟨columns, hsql⟩
  cases identityInsert with
  | true =>
    obtain ⟨name, hname⟩ := htable rfl
    have htoggles := a.identityToggles_eq hname
    cases h with
    | rejected hrejected => cases hrejected.symm.trans htoggles
    | accepted haccepted h =>
      obtain rfl := Except.ok.inj (haccepted.symm.trans htoggles)
      obtain ⟨c, t, ht⟩ := loadsToggled_loadsOn h hacquire
      exact ⟨name.text, c, t, ht, hnames name hname⟩
  | false =>
    cases hname : a.compiler.table table with
    | ok name =>
      obtain ⟨c, t, ht⟩ := borrows_loadsOn h hacquire name.text
      rw [hname] at hnames
      exact ⟨name.text, c, t, ht, hnames name rfl⟩
    | error e =>
      -- No row compiles into a table without a name.
      obtain ⟨c, t, ht⟩ := borrows_loadsOn h hacquire ""
      refine ⟨"", c, t, ht, nofun, fun row _ insert hrow => ?_⟩
      obtain ⟨name, columns, hname', -⟩ := a.compiler.create_begins hrow
      rw [hname] at hname'
      cases hname'

/-- The calls of a load whose third row and whose commit are refused. -/
def refusedBatchCalls : List (Call Unit) :=
  [.acquire (.ok ()),
    .execute () "SET IDENTITY_INSERT \"APP\".\"users\" ON;" [] (.ok (.affected 0)),
    .commit () (.ok ()),
    .execute () "INSERT INTO \"APP\".\"users\" (\"id\") VALUES (?);" [.i64 1] (.ok (.affected 1)),
    .execute () "INSERT INTO \"APP\".\"users\" (\"id\") VALUES (?);" [.i64 1]
      (.error (.driver "unique constraint violated: 1")),
    .commit () (.error (.driver "commit refused")),
    .execute () "SET IDENTITY_INSERT \"APP\".\"users\" OFF;" [] (.ok (.affected 0)),
    .commit () (.ok ()), .release ()]

theorem refusedBatch_follows_protocol :
    ((Rehearsal.Pool.adapter "APP").traced.bulkCreate "users" mixedRows true).callsFrom
        (.refusingCommit 1) = refusedBatchCalls ∧
    ∃ text c t,
      LoadsOn ((Rehearsal.Pool.adapter "APP").compiler.create "users") mixedRows text true
        (((Rehearsal.Pool.adapter "APP").traced.bulkCreate "users" mixedRows true).callsFrom
          (.refusingCommit 1))
        (((Rehearsal.Pool.adapter "APP").bulkCreate "users" mixedRows true).runFrom
          (.refusingCommit 1)).1 c t ∧
      (∀ name, (Rehearsal.Pool.adapter "APP").compiler.table "users" = .ok name →
        name.text = text) ∧
      ∀ row ∈ mixedRows, ∀ insert, (Rehearsal.Pool.adapter "APP").compiler.create "users"
        row = .ok insert →
        ∃ columns, insert.sql = "INSERT INTO " ++ text ++ " (" ++ columns := by
  have hcalls : ((Rehearsal.Pool.adapter "APP").traced.bulkCreate "users" mixedRows true).callsFrom
      (.refusingCommit 1) = refusedBatchCalls := rfl
  refine ⟨hcalls, (Rehearsal.Pool.adapter "APP").bulkCreate_follows_protocol "users" mixedRows true
    (.refusingCommit 1) ?_ fun _ => ⟨_, rfl⟩⟩
  rw [hcalls]
  simp [refusedBatchCalls]

end Adapter

end RowFerry
