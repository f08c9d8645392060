import RowFerry.Proofs.Protocol.Session
import RowFerry.Proofs.Sql.Layout

/-!
One criteria, one match set. A page and its count are queries with one tail; the count of the whole
match set is the same query without its pages and its order. Changes and removals know no joins, so
their predicates are those of the query whenever no filter is qualified with a joined table.
-/

namespace RowFerry

variable {style : NameStyle} {σ κ α : Type}

/-! ## Queries that differ in what they list -/

namespace Select

/-- The tables that a query reads and the predicates on them. -/
def matched (s : Select style) : String :=
  "FROM " ++ s.table.text ++ segment (Join.listText s.joins) ++
    segment (Predicate.listText s.predicates)

/-- Which of the rows that match a query lists, and in which order. -/
def paging (s : Select style) : String :=
  segment (limitText s.limit) ++ segment (offsetText s.offset) ++ segment (SortKey.listText s.order)

theorem text_eq_where (s : Select style) :
    s.text = "SELECT " ++ s.selection.listText ++ " FROM " ++ s.table.text ++
      segment (Join.listText s.joins) ++ segment (Predicate.listText s.predicates) ++ s.paging ++
        ";" := by
  rw [text, assemble_cons (by simp [Selection.text])]
  simp only [following, segment_append "FROM " (by decide), Selection.text, paging,
    String.append_assoc, String.reduceAppend, String.empty_append, String.append_empty]

theorem text_eq_matched (s : Select style) :
    s.text = "SELECT " ++ s.selection.listText ++ " " ++ (s.matched ++ s.paging ++ ";") := by
  have hfrom (t : String) : " FROM " ++ t = " " ++ ("FROM " ++ t) := by
    rw [← String.append_assoc]
    rfl
  rw [text_eq_where, matched]
  simp only [String.append_assoc, hfrom]

end Select

theorem Update.text_eq_where (s : Update style) :
    s.text = "UPDATE " ++ s.table.text ++ " " ++ setText s.columns ++
      segment (Predicate.listText s.predicates) ++ ";" := by
  rw [text, assemble_cons (by simp), setText]
  simp only [following, segment_append "SET " (by decide), String.append_assoc, String.empty_append,
    String.append_empty]

theorem Delete.text_eq_where (s : Delete style) :
    s.text = "DELETE FROM " ++ s.table.text ++
      segment (Predicate.listText s.predicates) ++ ";" := by
  have hfrom : "DELETE" ++ (" " ++ "FROM ") = "DELETE FROM " := rfl
  rw [text, assemble_cons (by decide), ← hfrom]
  simp only [following, segment_append "FROM " (by decide), String.append_assoc,
    String.empty_append, String.append_empty]

namespace Compiler

variable {c : Compiler} {table : String} {criteria : Criteria} {projection : Projection}

theorem resolveSelect_of_parts {s : Select c.style}
    (hselection : Selection.of c.style (criteria.scope table) projection = .ok s.selection)
    (hname : TableName.of c.style c.tablespace table = .ok s.table)
    (hjoins : List.Forall₂ (fun spec j =>
      Join.of c.style c.tablespace (criteria.scope table) spec = .ok j) criteria.joins s.joins)
    (hpredicates : Predicate.of c.style (criteria.scope table) criteria.filters = .ok s.predicates)
    (hlimit : s.limit = criteria.limit) (hoffset : s.offset = criteria.offset)
    (horder : List.Forall₂ (fun key k => SortKey.of c.style (criteria.scope table) key = .ok k)
      criteria.sort s.order) :
    c.resolveSelect table criteria projection = .ok s := by
  refine bind_eq_ok_iff.mpr ⟨_, hselection, bind_eq_ok_iff.mpr ⟨_, hname, ?_⟩⟩
  refine bind_eq_ok_iff.mpr ⟨_, mapM_eq_ok_iff.mpr hjoins, bind_eq_ok_iff.mpr ⟨_, hpredicates, ?_⟩⟩
  refine bind_eq_ok_iff.mpr ⟨_, mapM_eq_ok_iff.mpr horder, ?_⟩
  rw [← hlimit, ← hoffset]
  rfl

/-- A query that resolves resolves with any other list. -/
theorem resolveSelect_expression {q : Select c.style}
    (h : c.resolveSelect table criteria projection = .ok q) (text : String) :
    c.resolveSelect table criteria (.expression text) =
      .ok { q with selection := .expression text } := by
  obtain ⟨-, hname, hjoins, hpredicates, hlimit, hoffset, horder⟩ := resolveSelect_ok h
  exact resolveSelect_of_parts rfl hname hjoins hpredicates hlimit hoffset horder

theorem resolveSelect_unpaged {q : Select c.style}
    (h : c.resolveSelect table criteria projection = .ok q) :
    c.resolveSelect table criteria.unpaged projection =
      .ok { q with limit := none, offset := none, order := [] } := by
  obtain ⟨hselection, hname, hjoins, hpredicates, -, -, -⟩ := resolveSelect_ok h
  exact resolveSelect_of_parts hselection hname hjoins hpredicates rfl rfl .nil

/-- The name of the count can be written in every style, so a count fails only as its query does. -/
theorem count_total (c : Compiler) : ∃ total, Ident.of c.style countColumn = .ok total ∧
    ∀ table criteria expression, c.count table criteria expression =
      (c.resolveSelect table criteria
        (.expression (expression.getD countRows ++ " AS " ++ total.text))).map
          Select.statement := by
  have htotal : Ident.of c.style countColumn = .ok ⟨countColumn⟩ := by
    cases c.style <;> decide +kernel
  refine ⟨_, htotal, fun table criteria expression => ?_⟩
  rw [count, countProjection, htotal]
  rfl

/-- A page and its count differ in their lists; the count of the whole match set has no paging. -/
theorem find_shares {s : Statement} (h : c.find table criteria = .ok s) :
    ∃ q total, c.resolveSelect table criteria criteria.projection = .ok q ∧
      Ident.of c.style countColumn = .ok total ∧
      s = ⟨"SELECT " ++ q.selection.listText ++ " " ++ (q.matched ++ q.paging ++ ";"),
        Predicate.operands q.predicates⟩ ∧
      (∀ expression, c.count table criteria expression =
        .ok ⟨"SELECT " ++ (expression.getD countRows ++ " AS " ++ total.text) ++ " " ++
          (q.matched ++ q.paging ++ ";"), Predicate.operands q.predicates⟩) ∧
      c.count table criteria.unpaged none =
        .ok ⟨"SELECT " ++ (countRows ++ " AS " ++ total.text) ++ " " ++ (q.matched ++ ";"),
          Predicate.operands q.predicates⟩ := by
  obtain ⟨q, hq, rfl⟩ := map_eq_ok_iff.mp h
  obtain ⟨total, htotal, hcount⟩ := c.count_total
  refine ⟨q, total, hq, htotal, ?_, fun expression => ?_, ?_⟩
  · rw [Select.statement, Select.text_eq_matched]
  · rw [hcount, resolveSelect_expression hq, Except.map, Select.statement, Select.text_eq_matched]
    rfl
  · rw [hcount, resolveSelect_expression (resolveSelect_unpaged hq), Except.map, Select.statement,
      Select.text_eq_matched]
    have hpaging (r : Select c.style) (hr : r.limit = none ∧ r.offset = none ∧ r.order = []) :
        r.paging = "" := by
      rw [Select.paging, hr.1, hr.2.1, hr.2.2]
      rfl
    rw [hpaging _ ⟨rfl, rfl, rfl⟩, String.append_empty]
    rfl

end Compiler

/-! ## Filters that need no join -/

/-- The names that the joins bring into scope. -/
def Criteria.joined (c : Criteria) : List String :=
  c.joins.flatMap fun j => j.table :: j.aliasName.toList

/-- No filter is qualified with a joined table or an alias other than the table itself. -/
def Criteria.OwnFilters (c : Criteria) (style : NameStyle) (table : String) : Prop :=
  ∀ f ∈ c.filters, ∀ qualifier column, Text.cutAt '.' f.1.toList = some (qualifier, column) →
    qualifier ≠ [] → ∀ name ∈ c.joined, style.sameName name (String.ofList qualifier) = true →
      style.sameName name table = true

theorem NameStyle.sameName_symm {a b : String} (h : style.sameName a b = true) :
    style.sameName b a = true := by
  cases style with
  | quoted => exact beq_iff_eq.mpr (beq_iff_eq.mp h).symm
  | folded => exact beq_iff_eq.mpr (beq_iff_eq.mp h).symm

theorem NameStyle.sameName_trans {a b c : String} (hab : style.sameName a b = true)
    (hbc : style.sameName b c = true) : style.sameName a c = true := by
  cases style with
  | quoted => exact beq_iff_eq.mpr ((beq_iff_eq.mp hab).trans (beq_iff_eq.mp hbc))
  | folded => exact beq_iff_eq.mpr ((beq_iff_eq.mp hab).trans (beq_iff_eq.mp hbc))

/-- Only the qualifier of a reference is looked up in the scope. -/
theorem ColumnName.of_scope {scope scope' : List String} {reference : String}
    (h : ∀ qualifier column, Text.cutAt '.' reference.toList = some (qualifier, column) →
      qualifier ≠ [] → (scope.any (style.sameName · (String.ofList qualifier)) =
        scope'.any (style.sameName · (String.ofList qualifier)))) :
    ColumnName.of style scope reference = ColumnName.of style scope' reference := by
  unfold ColumnName.of
  cases hcut : Text.cutAt '.' reference.toList with
  | none => rfl
  | some p =>
    obtain ⟨qualifier, column⟩ := p
    by_cases hempty : qualifier = []
    · subst hempty
      rfl
    · simp only [h qualifier column hcut hempty]

theorem Predicate.of_scope {scope scope' : List String} {filters : List (String × Filter)}
    (h : ∀ f ∈ filters, ColumnName.of style scope f.1 = ColumnName.of style scope' f.1) :
    Predicate.of style scope filters = Predicate.of style scope' filters := by
  have hresolved : resolved style scope filters = resolved style scope' filters := by
    induction filters with
    | nil => rfl
    | cons f filters ih =>
      rw [List.forall_mem_cons] at h
      rw [resolved, resolved, h.1, ih h.2]
  rw [Predicate.of, Predicate.of, hresolved]

/-- Filters that need no join mean in a query what they mean in a change or a removal. -/
theorem Criteria.OwnFilters.predicates {criteria : Criteria} {table : String}
    (h : criteria.OwnFilters style table) :
    Predicate.of style (criteria.scope table) criteria.filters =
      Predicate.of style [table] criteria.filters := by
  refine Predicate.of_scope fun f hf => ColumnName.of_scope fun qualifier column hcut hne => ?_
  have hscope : criteria.scope table = table :: criteria.joined := rfl
  rw [hscope, Bool.eq_iff_iff, List.any_cons, List.any_cons, List.any_nil,
    Bool.or_false, Bool.or_eq_true, or_iff_left_iff_imp, List.any_eq_true]
  rintro ⟨name, hname, hsame⟩
  have htable := h f hf qualifier column hcut hne name hname hsame
  exact NameStyle.sameName_trans (NameStyle.sameName_symm htable) hsame

/-- A filter on a joined table is the name of a column elsewhere. -/
example :
    (Compiler.mk "" .quoted).find "u"
        { joins := [⟨.inner, "r", none, [("r.id", "u.id")]⟩], filters := [("r.x", .isNull)] } =
      .ok ⟨"SELECT * FROM \"u\" INNER JOIN \"r\" ON \"r\".\"id\" = \"u\".\"id\"" ++
        " WHERE \"r\".\"x\" IS NULL;", []⟩ ∧
    (Compiler.mk "" .quoted).delete "u"
        { joins := [⟨.inner, "r", none, [("r.id", "u.id")]⟩], filters := [("r.x", .isNull)] } =
      .ok ⟨"DELETE FROM \"u\" WHERE \"r.x\" IS NULL;", []⟩ :=
  ⟨rfl, rfl⟩

/-! ## A page and its total -/

/-- The statement that the call executes. -/
def Call.statement? : Call κ → Option Statement
  | execute _ sql values _ => some ⟨sql, values⟩
  | _ => none

/-- The statements that were executed, in order. -/
def executed (calls : List (Call κ)) : List Statement := calls.filterMap Call.statement?

theorem executed_append (xs ys : List (Call κ)) :
    executed (xs ++ ys) = executed xs ++ executed ys :=
  List.filterMap_append

theorem Reads.executed {c : κ} {sql : String} {values : List Value} {calls : List (Call κ)}
    {r : Except Failure (Option (List Row))} (h : Reads c sql values calls r) :
    executed calls = [⟨sql, values⟩] := by
  cases h with
  | refused f => rfl
  | affected n => rfl
  | rows h =>
    obtain ⟨heard, rfl⟩ := h.calls
    have hcursor : RowFerry.executed (heard.map (Call.cursor (κ := κ))) = [] := by
      rw [RowFerry.executed, List.filterMap_map, List.filterMap_eq_nil_iff]
      exact fun _ _ => rfl
    exact congrArg (List.cons _) hcursor

/-- A connection executes what is executed on it. -/
theorem executed_used (c : κ) (calls : List (Call κ)) (r : Except Failure (Option α)) :
    executed (.acquire (.ok c) :: (calls ++ releasing c r)) = executed calls := by
  have hreleasing : executed (releasing c r) = [] := by rcases r with f | _ | x <;> rfl
  have hcons : executed (.acquire (.ok c) :: (calls ++ releasing c r)) =
      executed (calls ++ releasing c r) := rfl
  rw [hcons, executed_append, hreleasing, List.append_nil]

namespace Adapter

variable (a : Adapter σ κ)

/-- A query that did not fail was compiled, and its statement is the only one that was executed. -/
theorem queries_ok {stage : Stage} {compiled : Except CompileError Statement}
    {calls : List (Call κ)} {rows : Option (List Row)}
    (h : Queries stage compiled calls (.ok rows)) :
    ∃ s, compiled = .ok s ∧ executed calls = [s] := by
  generalize hr : Except.ok rows = r at h
  cases h with
  | rejected _ => cases hr
  | @accepted s _ _ hs hborrows =>
    cases hborrows with
    | refused f => cases hr
    | used c hread =>
      obtain ⟨r', hread, -⟩ := hread
      exact ⟨s, hs, (executed_used ..).trans hread.executed⟩

/-- What a page with its total may call, and what it gives. Once its rows were found, only the
connection of the count can be missing, or the count is executed and nothing else. -/
inductive CountsMatches (table : String) (criteria : Criteria) :
    List (Call κ) → Except Failure (Option FindResult) → Prop
  | notFound {calls : List (Call κ)} {f : Failure}
    (h : Queries .select (a.compiler.find table criteria) calls (.error f)) :
    CountsMatches table criteria calls (.error f)
  | crashed {calls : List (Call κ)}
    (h : Queries .select (a.compiler.find table criteria) calls (.ok none)) :
    CountsMatches table criteria calls (.ok none)
  | notConnected {calls : List (Call κ)} {items : List Row} {f : Failure}
    (h : Queries .select (a.compiler.find table criteria) calls (.ok (some items))) :
    CountsMatches table criteria (calls ++ [.acquire (.error f)]) (.error f)
  | counted {calls reading : List (Call κ)} {items : List Row} {c : κ} {s t : Statement}
    {rows : Except Failure (Option (List Row))}
    (h : Queries .select (a.compiler.find table criteria) calls (.ok (some items)))
    (hfind : a.compiler.find table criteria = .ok s)
    (hcount : a.compiler.count table criteria.unpaged none = .ok t)
    (hread : AtStage .count (fun c => Reads c t.sql t.values) c reading rows)
    (hexecuted : executed (calls ++ .acquire (.ok c) :: (reading ++ releasing c rows)) = [s, t]) :
    CountsMatches table criteria (calls ++ .acquire (.ok c) :: (reading ++ releasing c rows))
      ((rows.bind (Option.mapM readTotal)).map (Option.map (FindResult.mk items)))

theorem findsAndCounts_countsMatches {table : String} {criteria : Criteria} {calls : List (Call κ)}
    {r : Except Failure (Option FindResult)}
    (h : FindsAndCounts (a.compiler.find table criteria)
      (a.compiler.count table criteria.unpaged none)
      calls r) : a.CountsMatches table criteria calls r := by
  cases h with
  | notFound h => exact .notFound h
  | crashed h => exact .crashed h
  | @found calls more items r h hc =>
    obtain ⟨s, hs, hfound⟩ := queries_ok h
    obtain ⟨q, total, -, -, -, -, hunpaged⟩ := Compiler.find_shares hs
    cases hc with
    | rejected ht =>
      rw [hunpaged] at ht
      cases ht
    | @accepted t _ _ ht hborrows =>
      obtain ⟨rows, hborrows, rfl⟩ := hborrows
      cases hborrows with
      | refused f => exact .notConnected h
      | @used c reading _ hread =>
        refine .counted h hs ht hread ?_
        obtain ⟨r', hread, -⟩ := hread
        rw [executed_append, hfound, executed_used, hread.executed]
        rfl

/-- What the operation keeps to when it is a page with its total. -/
def MatchLaw : Step σ → List (Call κ) → Except Failure StepResult → Prop
  | .findAllAndCount table criteria =>
    Shaped (.ofReading .found) (a.CountsMatches table criteria)
  | _ => fun _ _ => True

theorem performs_matchLaw {step : Step σ} {calls : List (Call κ)} {r : Except Failure StepResult}
    (h : a.Performs step calls r) : a.MatchLaw step calls r := by
  cases step with
  | findAllAndCount table criteria =>
    obtain ⟨r', hr, hresult⟩ := h
    exact ⟨r', a.findsAndCounts_countsMatches hr, hresult⟩
  | _ => trivial

/-- With a connection granted, a query executes its statement and nothing else. -/
theorem query_executed (stage : Stage) (t : Statement) {s s' : σ} {c : κ}
    (h : a.engine.acquire.runFrom s = (.ok c, s')) :
    executed ((a.traced.query stage t).callsFrom s) = [t] := by
  obtain ⟨calls, r, hread, hcalls⟩ :=
    withConnectionToRead_granted a.engine stage (fun c => a.read_statement_follows c t) h
  have hquery : (a.traced.query stage t).callsFrom s = _ := hcalls
  rw [hquery, executed_used, hread.executed]

/-- With its rows found and a connection for the count, a page with its total executes the page and
the count of the whole match set, and the total is what the rows of that count say. -/
theorem findAllAndCount_counted {table : String} {criteria : Criteria} {s s' s'' : σ}
    {items : List Row} {c : κ}
    (hfound : (a.find table criteria).runFrom s = (.ok (some items), s'))
    (hacquire : a.engine.acquire.runFrom s' = (.ok c, s'')) :
    ∃ page total, a.compiler.find table criteria = .ok page ∧
      a.compiler.count table criteria.unpaged none = .ok total ∧
      executed (a.stepCalls (.findAllAndCount table criteria) s) = [page, total] ∧
      ((a.findAllAndCount table criteria).runFrom s).1 =
        (((a.query .count total).runFrom s').1.bind (Option.mapM readTotal)).map
          (Option.map (FindResult.mk items)) := by
  have hqueries := (a.find_follows table criteria).calls s
  rw [hfound] at hqueries
  obtain ⟨page, hpage, hexecuted⟩ := queries_ok hqueries
  obtain ⟨total, htotal⟩ : ∃ total, a.compiler.count table criteria.unpaged none = .ok total := by
    obtain ⟨q, total, -, -, -, -, hunpaged⟩ := Compiler.find_shares hpage
    exact ⟨_, hunpaged⟩
  -- The count that compiles is its query and the reading of the total.
  have hcount {τ : Type} (b : Adapter τ κ) (hb : b.compiler = a.compiler) :
      b.count table criteria.unpaged none =
        b.query .count total >>= fun rows => Act.ofExcept (rows.mapM readTotal) := by
    rw [count, hb, htotal]
    rfl
  refine ⟨page, total, hpage, htotal, ?_, ?_⟩
  · have hcounting := a.count_follows table criteria.unpaged none
    have hstep : a.stepCalls (.findAllAndCount table criteria) s =
        (a.traced.findAllAndCount table criteria).callsFrom s :=
      (a.findAllAndCount_follows table criteria).callsFrom_result 
        (fun r => .ok (StepResult.ofReading .found r)) s
    have hsplit : (a.traced.findAllAndCount table criteria).callsFrom s =
        (a.traced.find table criteria).callsFrom s ++
          (a.traced.count table criteria.unpaged none >>= fun n =>
            Act.ofExcept (.ok (n.map (FindResult.mk items)))).callsFrom s' :=
      (a.find_follows table criteria).callsFrom_bind hfound
        (hcounting.shape (Option.map (FindResult.mk items)))
    rw [hstep, hsplit, executed_append, hexecuted, hcounting.callsFrom_result, hcount a.traced rfl,
      (a.query_follows .count total).callsFrom_result, a.query_executed .count total hacquire]
    rfl
  · have hsplit : (a.findAllAndCount table criteria).runFrom s =
        (a.count table criteria.unpaged none >>= fun n =>
          Act.ofExcept (.ok (n.map (FindResult.mk items)))).runFrom s' :=
      Act.runFrom_bind_ok hfound
    rw [hsplit, Act.runFrom_result, hcount a rfl, Act.runFrom_result]
    cases ((a.query .count total).runFrom s').1.bind (Option.mapM readTotal) <;> rfl

/-- **One criteria, one match set.** A page that compiles has a count for every expression, whose
text differs in the list alone and which binds the same values; no count depends on the projection,
and the count of the whole match set depends on no limit, offset or order. In a session, a page with
its total executes the page and then that count, unless the page failed or no connection was to be
had. From every state where the page succeeds and a connection is granted after it, these two
statements are all that is executed, and the total is what the rows of the count say. Where no
filter needs a join, queries, changes and removals ask for the same predicates. -/
theorem one_match_set :
    (∀ (table : String) (criteria : Criteria) (s : Statement),
      a.compiler.find table criteria = .ok s →
      ∃ q total, a.compiler.resolveSelect table criteria criteria.projection = .ok q ∧
        Ident.of a.compiler.style countColumn = .ok total ∧
        s = ⟨"SELECT " ++ q.selection.listText ++ " " ++ (q.matched ++ q.paging ++ ";"),
          Predicate.operands q.predicates⟩ ∧
        (∀ expression, a.compiler.count table criteria expression =
          .ok ⟨"SELECT " ++ (expression.getD "COUNT(*)" ++ " AS " ++ total.text) ++ " " ++
            (q.matched ++ q.paging ++ ";"), Predicate.operands q.predicates⟩) ∧
        a.compiler.count table criteria.unpaged none =
          .ok ⟨"SELECT " ++ ("COUNT(*)" ++ " AS " ++ total.text) ++ " " ++ (q.matched ++ ";"),
            Predicate.operands q.predicates⟩) ∧
    (∀ (table : String) (criteria : Criteria) (projection : Projection)
      (expression : Option String), a.compiler.count table { criteria with projection } expression =
        a.compiler.count table criteria expression) ∧
    (∀ (table : String) (criteria : Criteria) (limit offset : Option UInt64)
        (sort : List (String × SortDirection)),
      a.compiler.count table { criteria with limit, offset, sort }.unpaged none =
        a.compiler.count table criteria.unpaged none) ∧
    (∀ (steps : List (Step σ)) (s : σ),
      List.Forall₂ (fun p calls => a.MatchLaw p.1 calls p.2)
        (steps.zip ((a.performAll steps).run s).1) (a.sessionCalls steps s)) ∧
    (∀ (table : String) (criteria : Criteria) (s s' s'' : σ) (items : List Row) (c : κ),
      (a.find table criteria).runFrom s = (.ok (some items), s') →
      a.engine.acquire.runFrom s' = (.ok c, s'') →
      ∃ page total, a.compiler.find table criteria = .ok page ∧
        a.compiler.count table criteria.unpaged none = .ok total ∧
        executed (a.stepCalls (.findAllAndCount table criteria) s) = [page, total] ∧
        ((a.findAllAndCount table criteria).runFrom s).1 =
          (((a.query .count total).runFrom s').1.bind (Option.mapM readTotal)).map
            (Option.map (FindResult.mk items))) ∧
    (∀ (table : String) (criteria : Criteria), criteria.OwnFilters a.compiler.style table →
      (∀ s, a.compiler.find table criteria = .ok s →
        ∃ ps q, Predicate.of a.compiler.style [table] criteria.filters = .ok ps ∧
          a.compiler.resolveSelect table criteria criteria.projection = .ok q ∧
          s = ⟨"SELECT " ++ q.selection.listText ++ " FROM " ++ q.table.text ++
            segment (Join.listText q.joins) ++ segment (Predicate.listText ps) ++ q.paging ++ ";",
            Predicate.operands ps⟩) ∧
      (∀ row s, a.compiler.update table criteria row = .ok s →
        ∃ ps u, Predicate.of a.compiler.style [table] criteria.filters = .ok ps ∧
          a.compiler.resolveUpdate table criteria row = .ok u ∧
          s = ⟨"UPDATE " ++ u.table.text ++ " " ++ setText u.columns ++
            segment (Predicate.listText ps) ++ ";", row.values ++ Predicate.operands ps⟩) ∧
      (∀ s, a.compiler.delete table criteria = .ok s →
        ∃ ps d, Predicate.of a.compiler.style [table] criteria.filters = .ok ps ∧
          a.compiler.resolveDelete table criteria = .ok d ∧
          s = ⟨"DELETE FROM " ++ d.table.text ++ segment (Predicate.listText ps) ++ ";",
            Predicate.operands ps⟩)) := by
  refine ⟨fun table criteria s => Compiler.find_shares, fun _ _ _ _ => rfl, fun _ _ _ _ _ => rfl,
    a.session_forall fun _ _ _ => a.performs_matchLaw,
    fun _ _ _ _ _ _ _ => a.findAllAndCount_counted, fun table criteria hown =>
    ⟨fun s h => ?_, fun row s h => ?_, fun s h => ?_⟩⟩
  · obtain ⟨q, hq, rfl⟩ := map_eq_ok_iff.mp h
    have hpredicates := (Compiler.resolveSelect_ok hq).2.2.2.1
    rw [hown.predicates] at hpredicates
    refine ⟨_, q, hpredicates, hq, ?_⟩
    rw [Select.statement, Select.text_eq_where]
  · obtain ⟨u, hu, rfl⟩ := map_eq_ok_iff.mp h
    obtain ⟨-, -, -, hvalues, hpredicates⟩ := Compiler.resolveUpdate_ok hu
    refine ⟨_, u, hpredicates, hu, ?_⟩
    rw [Update.statement, Update.text_eq_where, hvalues]
  · obtain ⟨d, hd, rfl⟩ := map_eq_ok_iff.mp h
    refine ⟨_, d, (Compiler.resolveDelete_ok hd).2, hd, ?_⟩
    rw [Delete.statement, Delete.text_eq_where]

end Adapter

end RowFerry
