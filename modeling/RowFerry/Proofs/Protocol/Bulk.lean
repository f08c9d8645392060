import RowFerry.Proofs.Protocol

/-!
The protocol of a bulk load: the statements that switch identity insert on and off, the rows one
after another whichever of them fail, one commit, and the end of the connection, which is discarded
when identity insert could not be switched off.
-/

namespace RowFerry

variable {σ κ : Type}

/-! ## Switching identity insert -/

/-- A statement without values is executed, and committed if it was not refused. -/
def Switches (c : κ) (sql : String) (calls : List (Call κ)) (r : Except Failure Unit) : Prop :=
  ∃ r', Changes c sql [] calls r' ∧ r = r'.map fun _ => ()

theorem Switches.ok_calls {c : κ} {sql : String} {calls : List (Call κ)}
    (h : Switches c sql calls (.ok ())) :
    ∃ o : Outcome, calls = .execute c sql [] (.ok o) :: (o.closing ++ [.commit c (.ok ())]) := by
  obtain ⟨r, hr, he⟩ := h
  cases hr with
  | refused f => cases he
  | executed o r =>
    cases r with
    | error f => cases he
    | ok u => exact ⟨o, rfl⟩

theorem Switches.error_calls {c : κ} {sql : String} {calls : List (Call κ)} {f : Failure}
    (h : Switches c sql calls (.error f)) :
    calls = [.execute c sql [] (.error f)] ∨
      ∃ o : Outcome, calls = .execute c sql [] (.ok o) ::
        (o.closing ++ [.commit c (.error f)]) := by
  obtain ⟨r, hr, he⟩ := h
  cases hr with
  | refused f' =>
    cases he
    exact .inl rfl
  | executed o r =>
    cases r with
    | error f' =>
      cases he
      exact .inr ⟨o, rfl⟩
    | ok u => cases he

/-! ## Rows -/

/-- A row is compiled, and its statement executed if it has one. -/
inductive InsertsRow (c : κ) (compiled : Except CompileError Statement) :
    List (Call κ) → Except Failure Unit → Prop
  | rejected {e : CompileError} (h : compiled = .error e) :
    InsertsRow c compiled [] (.error (.compile e))
  | refused {s : Statement} (h : compiled = .ok s) (f : Failure) :
    InsertsRow c compiled [.execute c s.sql s.values (.error f)] (.error (f.atStage .insert))
  | inserted {s : Statement} (h : compiled = .ok s) (o : Outcome) :
    InsertsRow c compiled (.execute c s.sql s.values (.ok o) :: o.closing) (.ok ())

/-- Rows are inserted in their order, whichever of them fail. -/
inductive InsertsRows (c : κ) (compile : Row → Except CompileError Statement) :
    List Row → List (Call κ) → BulkResult → Prop
  | nil : InsertsRows c compile [] [] ⟨0, []⟩
  | cons {row : Row} {rows : List Row} {calls more : List (Call κ)} {r : Except Failure Unit}
    {rest : BulkResult} (h : InsertsRow c (compile row) calls r)
    (hrest : InsertsRows c compile rows more rest) :
    InsertsRows c compile (row :: rows) (calls ++ more) (rest.record row r)

/-- The rows are inserted and then committed, once. -/
inductive LoadsBatch (compile : Row → Except CompileError Statement) (rows : List Row) (c : κ) :
    List (Call κ) → Except Failure BulkResult → Prop
  | mk {calls : List (Call κ)} {result : BulkResult} (h : InsertsRows c compile rows calls result)
    (r : Except Failure Unit) :
    LoadsBatch compile rows c (calls ++ [.commit c r])
      ((r.mapError (·.atStage .bulk)).map fun _ => result)

/-- The commit of a batch that succeeds is its last call. -/
theorem LoadsBatch.ok_calls {c : κ}
    {compile : Row → Except CompileError Statement} {rows : List Row} {calls : List (Call κ)}
    {result : BulkResult} (h : LoadsBatch compile rows c calls (.ok result)) :
    ∃ inserts, InsertsRows c compile rows inserts result ∧
    calls = inserts ++ [.commit c (.ok ())] := by
  generalize hr : (Except.ok result : Except Failure BulkResult) = r at h
  cases h with
  | mk h r =>
    cases r with
    | error f => cases hr
    | ok u =>
      cases hr
      exact ⟨_, h, rfl⟩

/-! ## The whole load -/

/-- How a connection ends on which identity insert was switched off, or was not. -/
def Call.ending (c : κ) : Except Failure Unit → Call κ
  | .ok () => .release c
  | .error _ => .discard c

/-- A batch is loaded between the two switches. -/
inductive LoadsToggled (enable disable : String)
    (P : κ → List (Call κ) → Except Failure BulkResult → Prop) :
    List (Call κ) → Except Failure BulkResult → Prop
  | refused (f : Failure) : LoadsToggled enable disable P [.acquire (.error f)] (.error f)
  | notEnabled {c : κ} {calls : List (Call κ)} {f : Failure}
    (h : Switches c enable calls (.error f)) :
    LoadsToggled enable disable P (.acquire (.ok c) :: (calls ++ [.release c]))
      (.error (f.atStage .bulk))
  | loaded {c : κ} {on batch off : List (Call κ)} {r : Except Failure BulkResult}
    {reset : Except Failure Unit} (hon : Switches c enable on (.ok ())) (h : P c batch r)
    (hoff : Switches c disable off reset) :
    LoadsToggled enable disable P
      (.acquire (.ok c) :: (on ++ (batch ++ (off ++ [.ending c reset])))) r

namespace Adapter

variable (a : Adapter σ κ)

/-- The protocol of a bulk load. -/
def Loads (table : String) (rows : List Row) :
    Bool → List (Call κ) → Except Failure BulkResult → Prop
  | true => Compiled (a.identityToggles table) fun toggles =>
      LoadsToggled toggles.1 toggles.2 (LoadsBatch (a.compiler.create table) rows)
  | false => Borrows (LoadsBatch (a.compiler.create table) rows)

theorem identityToggles_ok {table : String} {toggles : String × String}
    (h : a.identityToggles table = .ok toggles) :
    a.compiler.identityInsert table true = .ok toggles.1 ∧
      a.compiler.identityInsert table false = .ok toggles.2 := by
  unfold identityToggles at h
  cases hon : a.compiler.identityInsert table true with
  | error e => rw [hon] at h; cases h
  | ok enable =>
    cases hoff : a.compiler.identityInsert table false with
    | error e => rw [hon, hoff] at h; cases h
    | ok disable =>
      rw [hon, hoff] at h
      cases h
      exact ⟨rfl, rfl⟩

theorem runAndCommit_follows (c : κ) (sql : String) :
    Follows (a.traced.runAndCommit c sql) (a.runAndCommit c sql) (Switches c sql) := by
  have h := change_statement_follows a.engine c sql [] fun _ => ()
  simp only [bind_pure_unit] at h
  exact h

theorem insertRow_follows (c : κ) (table : String) (row : Row) :
    Follows (a.traced.insertRow c table row) (a.insertRow c table row)
      (InsertsRow c (a.compiler.create table row)) := by
  refine (compiled_follows (a.compiler.create table row)
    (P := fun s => InsertsRow c (.ok s)) fun s => ?_).mono ?_
  · refine (execute_follows a.engine c s.sql s.values).attempt.bindOk ?_
    rintro r _ rfl
    cases r with
    | error f =>
      refine (throw_follows _).mono ?_
      rintro _ _ ⟨rfl, rfl⟩
      exact .refused rfl f
    | ok o =>
      refine ((settle_follows a.engine o).shape fun _ => ()).mono ?_
      rintro _ _ ⟨_, ⟨_, rfl, rfl, rfl⟩, rfl⟩
      exact .inserted rfl o
  · intro calls r hr
    cases hr with
    | rejected h => exact .rejected h
    | accepted h hp => rwa [h]

theorem insertRows_follows (c : κ) (table : String) (rows : List Row) :
    Follows (a.traced.insertRows c table rows) (a.insertRows c table rows)
      (Succeeds (InsertsRows c (a.compiler.create table) rows)) := by
  induction rows with
  | nil =>
    refine (pure_follows _).mono ?_
    rintro _ _ ⟨rfl, rfl⟩
    exact ⟨_, rfl, .nil⟩
  | cons row rows ih =>
    refine (a.insertRow_follows c table row).attempt.bindOk fun r calls hr => ?_
    refine (ih.shape fun rest => rest.record row r).mono ?_
    rintro more _ ⟨_, ⟨rest, rfl, hrest⟩, rfl⟩
    exact ⟨_, rfl, .cons hr hrest⟩

theorem insertBatch_follows (c : κ) (table : String) (rows : List Row) :
    Follows (a.traced.insertBatch c table rows) (a.insertBatch c table rows)
      (LoadsBatch (a.compiler.create table) rows c) := by
  refine (a.insertRows_follows c table rows).bindOk fun result calls hrows => ?_
  refine (commit_follows a.engine c).attempt.bindOk ?_
  rintro r _ rfl
  cases r with
  | error f =>
    refine (throw_follows _).mono ?_
    rintro _ _ ⟨rfl, rfl⟩
    exact .mk hrows (.error f)
  | ok u =>
    refine (pure_follows result).mono ?_
    rintro _ _ ⟨rfl, rfl⟩
    exact .mk hrows (.ok u)

theorem loadPlain_follows (table : String) (rows : List Row) :
    Follows (a.traced.loadPlain table rows) (a.loadPlain table rows)
      (Borrows (LoadsBatch (a.compiler.create table) rows)) := by
  refine (acquire_follows a.engine).bind ?_ ?_
  · rintro c _ rfl
    have hbatch := a.insertBatch_follows c table rows
    refine (hbatch.closing (a.engine.release c) (.release c) id).mono ?_
    rintro _ _ ⟨calls, r, hr, rfl, rfl⟩
    exact .returned c hr
  · rintro f _ rfl
    exact .refused f

theorem loadToggled_follows (enable disable table : String) (rows : List Row) :
    Follows (a.traced.loadToggled enable disable table rows)
      (a.loadToggled enable disable table rows)
      (LoadsToggled enable disable (LoadsBatch (a.compiler.create table) rows)) := by
  refine (acquire_follows a.engine).bind ?_ ?_
  · rintro c _ rfl
    refine (a.runAndCommit_follows c enable).attempt.bindOk fun r on hon => ?_
    cases r with
    | error f =>
      refine (notedChange_follows (a.engine.release c) (.release c)).bindOk ?_
      rintro _ _ rfl
      refine (throw_follows _).mono ?_
      rintro _ _ ⟨rfl, rfl⟩
      exact .notEnabled hon
    | ok u =>
      refine (a.insertBatch_follows c table rows).attempt.bindOk fun r batch hbatch => ?_
      refine (a.runAndCommit_follows c disable).attempt.bindOk fun reset off hoff => ?_
      cases reset with
      | error f =>
        refine (notedChange_follows (a.engine.discard c) (.discard c)).bindOk ?_
        rintro _ _ rfl
        refine (ofExcept_follows r).mono ?_
        rintro _ _ ⟨rfl, rfl⟩
        exact .loaded hon hbatch hoff
      | ok u =>
        refine (notedChange_follows (a.engine.release c) (.release c)).bindOk ?_
        rintro _ _ rfl
        refine (ofExcept_follows r).mono ?_
        rintro _ _ ⟨rfl, rfl⟩
        exact .loaded hon hbatch hoff
  · rintro f _ rfl
    exact .refused f

theorem bulkCreate_follows (table : String) (rows : List Row) (identityInsert : Bool) :
    Follows (a.traced.bulkCreate table rows identityInsert) (a.bulkCreate table rows identityInsert)
      (a.Loads table rows identityInsert) := by
  cases identityInsert with
  | false => exact a.loadPlain_follows table rows
  | true =>
    exact compiled_follows _ fun toggles => a.loadToggled_follows toggles.1 toggles.2 table rows

end Adapter

end RowFerry
