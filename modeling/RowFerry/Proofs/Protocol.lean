import RowFerry.Proofs.Trace

/-!
Protocols. For each operation on single statements: the calls that it may make on the engine, and
what it gives after them. A protocol says everything that the operation can do, and one lemma for
each operation (`create_follows` and the like) says that it keeps to its protocol; later proofs are
about the protocols alone.
-/

namespace RowFerry

variable {σ κ α β : Type}

namespace Outcome

/-- The number of rows affected; none when a result set came instead. -/
def count : Outcome → Nat
  | affected n => n
  | rows _ => 0

/-- The calls of settling the outcome. -/
def closing : Outcome → List (Call κ)
  | affected _ => []
  | rows _ => [.cursor .close]

end Outcome

/-- What reading a result set calls, and what it gives: nothing at all when there is no room. -/
inductive Collects (cursor : Cursor) : List (Call κ) → Except Failure (Option (List Row)) → Prop
  | crashed (h : cursor.collect = none) : Collects cursor [] (.ok none)
  | read {result : Except Failure (List Row)} {calls : List CursorCall}
    (h : cursor.collect = some (result, calls)) :
    Collects cursor (calls.map .cursor) (result.map some)

/-- Reading a result set makes calls on it and on nothing else. -/
theorem Collects.calls {cursor : Cursor} {calls : List (Call κ)}
    {r : Except Failure (Option (List Row))} (h : Collects cursor calls r) :
    ∃ heard : List CursorCall, calls = heard.map .cursor := by
  cases h with
  | crashed _ => exact ⟨[], rfl⟩
  | @read _ heard _ => exact ⟨heard, rfl⟩

theorem collect_follows (e : Engine σ κ) (cursor : Cursor) :
    Follows (e.traced.collect cursor) (e.collect cursor) (Collects cursor) := by
  unfold Engine.collect
  split
  next hnone =>
    refine (pure_follows none).mono ?_
    rintro _ _ ⟨rfl, rfl⟩
    exact .crashed hnone
  next result heard hread =>
    refine (hearAll_follows e heard).bindOk ?_
    rintro _ _ rfl
    refine (ofExcept_follows (result.map some)).mono ?_
    rintro _ _ ⟨rfl, rfl⟩
    rw [List.append_nil]
    exact .read hread

/-! ## What is done on a connection -/

/-- A statement is executed, and committed if it was not refused. -/
inductive Changes (c : κ) (sql : String) (values : List Value) :
    List (Call κ) → Except Failure Nat → Prop
  | refused (f : Failure) : Changes c sql values [.execute c sql values (.error f)] (.error f)
  | executed (o : Outcome) (r : Except Failure Unit) :
    Changes c sql values (.execute c sql values (.ok o) :: (o.closing ++ [.commit c r]))
      (r.map fun _ => o.count)

/-- A statement is executed and its result set read; nothing is committed. -/
inductive Reads (c : κ) (sql : String) (values : List Value) :
    List (Call κ) → Except Failure (Option (List Row)) → Prop
  | refused (f : Failure) : Reads c sql values [.execute c sql values (.error f)] (.error f)
  | affected (n : Nat) :
    Reads c sql values [.execute c sql values (.ok (.affected n))] (.ok (some []))
  | rows {cursor : Cursor} {calls : List (Call κ)} {r : Except Failure (Option (List Row))}
    (h : Collects cursor calls r) :
    Reads c sql values (.execute c sql values (.ok (.rows cursor)) :: calls) r

/-- A statement is executed, and committed if it affected rows; a result set is read. -/
inductive RunsNative (c : κ) (sql : String) (values : List Value) :
    List (Call κ) → Except Failure (Option NativeResult) → Prop
  | refused (f : Failure) : RunsNative c sql values [.execute c sql values (.error f)] (.error f)
  | affected (n : Nat) (r : Except Failure Unit) :
    RunsNative c sql values [.execute c sql values (.ok (.affected n)), .commit c r]
      (r.map fun _ => some (.affected n))
  | rows {cursor : Cursor} {calls : List (Call κ)} {r : Except Failure (Option (List Row))}
    (h : Collects cursor calls r) :
    RunsNative c sql values (.execute c sql values (.ok (.rows cursor)) :: calls)
      (r.map (Option.map .rows))

theorem settle_follows (e : Engine σ κ) (o : Outcome) :
    Follows (e.traced.settle o) (e.settle o)
      (Succeeds fun calls n => calls = o.closing ∧ n = o.count) := by
  cases o with
  | affected n =>
    refine (pure_follows n).mono ?_
    rintro _ _ ⟨rfl, rfl⟩
    exact ⟨n, rfl, rfl, rfl⟩
  | rows cursor =>
    refine (hearAll_follows e [.close]).bindOk ?_
    rintro _ _ rfl
    refine (pure_follows 0).mono ?_
    rintro _ _ ⟨rfl, rfl⟩
    exact ⟨0, rfl, rfl, rfl⟩

/-- The common part of a change and of the switches of a bulk load. -/
theorem change_statement_follows (e : Engine σ κ) (c : κ) (sql : String) (values : List Value)
    (g : Nat → β) :
    Follows
      (do
        let o ← e.traced.execute c sql values
        let n ← e.traced.settle o
        e.traced.commit c
        pure (g n))
      (do
        let o ← e.execute c sql values
        let n ← e.settle o
        e.commit c
        pure (g n))
      (fun calls r => ∃ r', Changes c sql values calls r' ∧ r = r'.map g) := by
  refine (execute_follows e c sql values).bind ?_ ?_
  · rintro o _ rfl
    refine (settle_follows e o).bindOk ?_
    rintro _ _ ⟨rfl, rfl⟩
    refine ((commit_follows e c).shape fun _ => g o.count).mono ?_
    rintro _ _ ⟨r, rfl, rfl⟩
    exact ⟨_, .executed o r, by cases r <;> rfl⟩
  · rintro f _ rfl
    exact ⟨_, .refused f, rfl⟩

/-! ## Connections -/

/-- A connection is acquired, used and released. -/
inductive Borrows (P : κ → List (Call κ) → Except Failure α → Prop) :
    List (Call κ) → Except Failure α → Prop
  | refused (f : Failure) : Borrows P [.acquire (.error f)] (.error f)
  | returned (c : κ) {calls : List (Call κ)} {r : Except Failure α} (h : P c calls r) :
    Borrows P (.acquire (.ok c) :: (calls ++ [.release c])) r

/-- The end of a connection after a computation on it: it is released unless
the computation crashed. -/
def releasing (c : κ) : Except Failure (Option α) → List (Call κ)
  | .ok none => []
  | _ => [.release c]

/-- A connection is acquired, used, and released unless what is done on it crashes. -/
inductive BorrowsToRead (P : κ → List (Call κ) → Except Failure (Option α) → Prop) :
    List (Call κ) → Except Failure (Option α) → Prop
  | refused (f : Failure) : BorrowsToRead P [.acquire (.error f)] (.error f)
  | used (c : κ) {calls : List (Call κ)} {r : Except Failure (Option α)} (h : P c calls r) :
    BorrowsToRead P (.acquire (.ok c) :: (calls ++ releasing c r)) r

/-- What is done on a connection, with its failure attributed to the stage. -/
def AtStage (stage : Stage) (P : κ → List (Call κ) → Except Failure α → Prop) (c : κ)
    (calls : List (Call κ)) (r : Except Failure α) : Prop :=
  ∃ r', P c calls r' ∧ r = r'.mapError (·.atStage stage)

theorem withConnection_follows (e : Engine σ κ) (stage : Stage) {traced : κ → Act (Traced σ κ) α}
    {plain : κ → Act σ α} {P : κ → List (Call κ) → Except Failure α → Prop}
    (h : ∀ c, Follows (traced c) (plain c) (P c)) :
    Follows (e.traced.withConnection stage traced) (e.withConnection stage plain)
      (Borrows (AtStage stage P)) := by
  refine (acquire_follows e).bind ?_ ?_
  · rintro c _ rfl
    refine ((h c).closing (e.release c) (.release c) _).mono ?_
    rintro _ _ ⟨calls, r, hp, rfl, rfl⟩
    exact .returned c ⟨r, hp, rfl⟩
  · rintro f _ rfl
    exact .refused f

/-- A connection whose computation has ended is released without looking at the result,
but not after a crash. -/
theorem giveBack_follows (e : Engine σ κ) (stage : Stage) (c : κ) (r : Except Failure (Option α)) :
    Follows (e.traced.giveBack stage c r) (e.giveBack stage c r)
      (fun calls r' => calls = releasing c r ∧ r' = r.mapError (·.atStage stage)) := by
  have hrelease (r : Except Failure (Option α)) :
      Follows
        (do
          ExceptT.lift (e.traced.release c)
          Act.ofExcept (r.mapError (·.atStage stage)))
        (do
          ExceptT.lift (e.release c)
          Act.ofExcept (r.mapError (·.atStage stage)))
        (fun calls r' => calls = [.release c] ∧ r' = r.mapError (·.atStage stage)) := by
    refine (notedChange_follows (e.release c) (.release c)).bindOk ?_
    rintro _ _ rfl
    refine (ofExcept_follows _).mono ?_
    rintro _ _ ⟨rfl, rfl⟩
    exact ⟨rfl, rfl⟩
  cases r with
  | error f => exact hrelease (.error f)
  | ok x =>
    cases x with
    | none => exact pure_follows none
    | some x => exact hrelease (.ok (some x))

theorem releasing_atStage (c : κ) (stage : Stage) (r : Except Failure (Option α)) :
    releasing c (r.mapError (·.atStage stage)) = releasing c r := by
  rcases r with f | _ | x <;> rfl

theorem withConnectionToRead_follows (e : Engine σ κ) (stage : Stage)
    {traced : κ → Act (Traced σ κ) (Option α)} {plain : κ → Act σ (Option α)}
    {P : κ → List (Call κ) → Except Failure (Option α) → Prop}
    (h : ∀ c, Follows (traced c) (plain c) (P c)) :
    Follows (e.traced.withConnectionToRead stage traced) (e.withConnectionToRead stage plain)
      (BorrowsToRead (AtStage stage P)) := by
  refine (acquire_follows e).bind ?_ ?_
  · rintro c _ rfl
    refine (h c).attempt.bindOk fun r calls hp => (giveBack_follows e stage c r).mono ?_
    rintro _ _ ⟨rfl, rfl⟩
    rw [← releasing_atStage c stage r]
    exact .used c ⟨r, hp, rfl⟩
  · rintro f _ rfl
    exact .refused f

/-- A connection that is granted is the one that is used. -/
theorem withConnectionToRead_granted (e : Engine σ κ) (stage : Stage)
    {traced : κ → Act (Traced σ κ) (Option α)} {plain : κ → Act σ (Option α)}
    {P : κ → List (Call κ) → Except Failure (Option α) → Prop}
    (h : ∀ c, Follows (traced c) (plain c) (P c)) {s s' : σ} {c : κ}
    (hacquire : e.acquire.runFrom s = (.ok c, s')) :
    ∃ calls r, P c calls r ∧ (e.traced.withConnectionToRead stage traced).callsFrom s =
      .acquire (.ok c) :: (calls ++ releasing c r) := by
  have hrest : Follows ((traced c).attempt >>= e.traced.giveBack stage c)
      ((plain c).attempt >>= e.giveBack stage c)
      (fun calls _ => ∃ made r, P c made r ∧ calls = made ++ releasing c r) := by
    refine (h c).attempt.bindOk fun r made hp => (giveBack_follows e stage c r).mono ?_
    rintro _ _ ⟨rfl, -⟩
    exact ⟨made, r, hp, rfl⟩
  have hcalls := (acquire_follows e).calls s
  have hsplit : (e.traced.withConnectionToRead stage traced).callsFrom s = _ ++ _ :=
    (acquire_follows e).callsFrom_bind hacquire hrest
  obtain ⟨calls, r, hp, hmade⟩ := hrest.calls s'
  refine ⟨calls, r, hp, ?_⟩
  rw [hsplit, hcalls, hacquire]
  exact congrArg (Call.acquire (.ok c) :: ·) hmade

/-- A statement that cannot be compiled fails without a call. -/
inductive Compiled (compiled : Except CompileError β)
    (P : β → List (Call κ) → Except Failure α → Prop) : List (Call κ) → Except Failure α → Prop
  | rejected {e : CompileError} (h : compiled = .error e) :
    Compiled compiled P [] (.error (.compile e))
  | accepted {x : β} {calls : List (Call κ)} {r : Except Failure α} (h : compiled = .ok x)
    (hp : P x calls r) : Compiled compiled P calls r

theorem compiled_follows (compiled : Except CompileError β) {traced : β → Act (Traced σ κ) α}
    {plain : β → Act σ α} {P : β → List (Call κ) → Except Failure α → Prop}
    (h : ∀ x, Follows (traced x) (plain x) (P x)) :
    Follows (Act.ofCompiled compiled >>= traced) (Act.ofCompiled compiled >>= plain)
      (Compiled compiled P) := by
  refine (ofExcept_follows _).bind ?_ ?_
  · rintro x _ ⟨rfl, hx⟩
    cases compiled with
    | error e => cases hx
    | ok y =>
      cases hx
      exact (h x).mono fun calls r hp => .accepted rfl hp
  · rintro f _ ⟨rfl, hf⟩
    cases compiled with
    | error e =>
      cases hf
      exact .rejected rfl
    | ok y => cases hf

/-! ## Operations -/

namespace Adapter

variable (a : Adapter σ κ)

/-- The protocol of a statement that changes rows. -/
def Mutates (stage : Stage) (compiled : Except CompileError Statement) :
    List (Call κ) → Except Failure Nat → Prop :=
  Compiled compiled fun s => Borrows (AtStage stage fun c => Changes c s.sql s.values)

/-- The protocol of a statement that reads rows. -/
def Queries (stage : Stage) (compiled : Except CompileError Statement) :
    List (Call κ) → Except Failure (Option (List Row)) → Prop :=
  Compiled compiled fun s => BorrowsToRead (AtStage stage fun c => Reads c s.sql s.values)

/-- The protocol of a count. -/
def Counts (compiled : Except CompileError Statement) :
    List (Call κ) → Except Failure (Option Nat) → Prop :=
  Compiled compiled fun s calls r =>
    ∃ rows, BorrowsToRead (AtStage .count fun c => Reads c s.sql s.values) calls rows ∧
      r = rows.bind (Option.mapM readTotal)

/-- The protocol of a page and its total: the count comes after a find that succeeded. -/
inductive FindsAndCounts (found counted : Except CompileError Statement) :
    List (Call κ) → Except Failure (Option FindResult) → Prop
  | notFound {calls : List (Call κ)} {f : Failure} (h : Queries .select found calls (.error f)) :
    FindsAndCounts found counted calls (.error f)
  | crashed {calls : List (Call κ)} (h : Queries .select found calls (.ok none)) :
    FindsAndCounts found counted calls (.ok none)
  | found {calls more : List (Call κ)} {items : List Row} {r : Except Failure (Option Nat)}
    (h : Queries .select found calls (.ok (some items))) (hc : Counts counted more r) :
    FindsAndCounts found counted (calls ++ more) (r.map (Option.map (FindResult.mk items)))

theorem mutate_follows (stage : Stage) (s : Statement) :
    Follows (a.traced.mutate stage s) (a.mutate stage s)
      (Borrows (AtStage stage fun c => Changes c s.sql s.values)) := by
  refine withConnection_follows a.engine stage fun c => ?_
  refine (change_statement_follows a.engine c s.sql s.values id).mono ?_
  rintro calls _ ⟨r, hr, rfl⟩
  cases r <;> exact hr

/-- What a query does on its connection. -/
theorem read_statement_follows (c : κ) (s : Statement) :
    Follows
      (do
        match ← a.engine.traced.execute c s.sql s.values with
        | .rows cursor => a.engine.traced.collect cursor
        | .affected _ => pure (some []))
      (do
        match ← a.engine.execute c s.sql s.values with
        | .rows cursor => a.engine.collect cursor
        | .affected _ => pure (some []))
      (Reads c s.sql s.values) := by
  refine (execute_follows a.engine c s.sql s.values).bind ?_ ?_
  · rintro o _ rfl
    cases o with
    | affected n =>
      refine (pure_follows (some [])).mono ?_
      rintro _ _ ⟨rfl, rfl⟩
      exact .affected n
    | rows cursor => exact (collect_follows a.engine cursor).mono fun _ _ => .rows
  · rintro f _ rfl
    exact .refused f

theorem query_follows (stage : Stage) (s : Statement) :
    Follows (a.traced.query stage s) (a.query stage s)
      (BorrowsToRead (AtStage stage fun c => Reads c s.sql s.values)) :=
  withConnectionToRead_follows a.engine stage fun c => a.read_statement_follows c s

theorem create_follows (table : String) (row : Row) :
    Follows (a.traced.create table row) (a.create table row)
      (Mutates .insert (a.compiler.create table row)) :=
  compiled_follows _ (a.mutate_follows .insert)

theorem update_follows (table : String) (criteria : Criteria) (row : Row) :
    Follows (a.traced.update table criteria row) (a.update table criteria row)
      (Mutates .update (a.compiler.update table criteria row)) :=
  compiled_follows _ (a.mutate_follows .update)

theorem delete_follows (table : String) (criteria : Criteria) :
    Follows (a.traced.delete table criteria) (a.delete table criteria)
      (Mutates .delete (a.compiler.delete table criteria)) :=
  compiled_follows _ (a.mutate_follows .delete)

theorem find_follows (table : String) (criteria : Criteria) :
    Follows (a.traced.find table criteria) (a.find table criteria)
      (Queries .select (a.compiler.find table criteria)) :=
  compiled_follows _ (a.query_follows .select)

theorem count_follows (table : String) (criteria : Criteria) (expression : Option String) :
    Follows (a.traced.count table criteria expression) (a.count table criteria expression)
      (Counts (a.compiler.count table criteria expression)) :=
  compiled_follows _ fun s => (a.query_follows .count s).result (Option.mapM readTotal)

theorem findAllAndCount_follows (table : String) (criteria : Criteria) :
    Follows (a.traced.findAllAndCount table criteria) (a.findAllAndCount table criteria)
      (FindsAndCounts (a.compiler.find table criteria)
        (a.compiler.count table criteria.unpaged none)) := by
  refine (a.find_follows table criteria).bind ?_ fun f calls hf => .notFound hf
  intro items calls hi
  cases items with
  | none =>
    refine (pure_follows none).mono ?_
    rintro _ _ ⟨rfl, rfl⟩
    rw [List.append_nil]
    exact .crashed hi
  | some items =>
    refine ((a.count_follows table criteria.unpaged none).shape
      (Option.map (FindResult.mk items))).mono ?_
    rintro more _ ⟨r, hr, rfl⟩
    exact .found hi hr

theorem native_follows (sql : String) (values : List Value) :
    Follows (a.traced.native sql values) (a.native sql values)
      (BorrowsToRead (AtStage .native fun c => RunsNative c sql values)) := by
  refine withConnectionToRead_follows a.engine .native fun c => ?_
  refine (execute_follows a.engine c sql values).bind ?_ ?_
  · rintro o _ rfl
    cases o with
    | affected n =>
      refine ((commit_follows a.engine c).shape fun _ => some (NativeResult.affected n)).mono ?_
      rintro _ _ ⟨r, rfl, rfl⟩
      exact .affected n r
    | rows cursor =>
      refine ((collect_follows a.engine cursor).shape (Option.map NativeResult.rows)).mono ?_
      rintro _ _ ⟨_, hr, rfl⟩
      exact .rows hr
  · rintro f _ rfl
    exact .refused f

end Adapter

end RowFerry
