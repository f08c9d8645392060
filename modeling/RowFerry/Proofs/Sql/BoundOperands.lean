import RowFerry.Proofs.Sql.Requests

/-!
What a clause of filters binds. The operands are bound while the clause is written, filter by
filter, and writing may stop at any of them; so what is bound afterwards has to be said for every
filter at which it can stop.
-/

namespace RowFerry

variable {style : NameStyle} {scope : List String} {bound : List Value}

/-- The value that a filter compares with. Being equal or unequal to a missing value is
no comparison with it. -/
def Filter.operand? : Filter → Option Value
  | .compares .eq .null | .compares .ne .null | .isNull | .isNotNull => none
  | .compares _ v => some v

/-- The values that filters compare with, in order. -/
def Filter.operands (filters : List (String × Filter)) : List Value :=
  filters.filterMap fun f => f.2.operand?

theorem Filter.operands_cons (f : String × Filter) (filters : List (String × Filter)) :
    operands (f :: filters) = f.2.operand?.toList ++ operands filters := by
  unfold operands
  cases h : f.2.operand? <;> simp [h]

theorem Predicate.operand?_test (column : ColumnName style) (f : Filter) :
    (Predicate.mk column f.test).operand? = f.operand? := by
  unfold operand? Filter.operand? Filter.test
  grind

/-! ## Writing filter by filter -/

namespace Binding

variable {α β : Type}

/-- What writing gives: its result and the values bound afterwards. -/
def runFrom (act : Binding α) (bound : List Value) : Except CompileError α × List Value :=
  act.run.run bound

theorem runFrom_bind_ok {act : Binding α} {next : α → Binding β} {bound bound' : List Value} {x : α}
    (h : act.runFrom bound = (.ok x, bound')) :
    (act >>= next).runFrom bound = (next x).runFrom bound' :=
  run_bind_ok h

theorem runFrom_bind_error {act : Binding α} {next : α → Binding β} {bound bound' : List Value}
    {e : CompileError} (h : act.runFrom bound = (.error e, bound')) :
    (act >>= next).runFrom bound = (.error e, bound') :=
  run_bind_error h

end Binding

open Binding

theorem bindOperand_runFrom (p : Predicate style) (bound : List Value) :
    p.bindOperand.runFrom bound = (.ok (), bound ++ p.operand?.toList) := by
  unfold Predicate.bindOperand
  cases p.operand? with
  | none => rw [Option.toList_none, List.append_nil]; rfl
  | some v => rfl

theorem write_accepted {f : String × Filter} {column : ColumnName style}
    (h : ColumnName.of style scope f.1 = .ok column) (bound : List Value) :
    (Predicate.write style scope f).runFrom bound =
      (.ok (Predicate.mk column f.2.test).text, bound ++ f.2.operand?.toList) := by
  have hcolumn : Binding.runFrom (ExceptT.mk (pure (ColumnName.of style scope f.1))) bound =
    (.ok column, bound) := by
    rw [h]
    rfl
  rw [Predicate.write, runFrom_bind_ok hcolumn, ← Predicate.operand?_test column]
  exact runFrom_bind_ok (bindOperand_runFrom ⟨column, f.2.test⟩ bound)

theorem write_refused {f : String × Filter} {e : CompileError}
    (h : ColumnName.of style scope f.1 = .error e) (bound : List Value) :
    (Predicate.write style scope f).runFrom bound = (.error e, bound) := by
  unfold Predicate.write
  rw [h]
  rfl

/-- The predicate that a filter resolves to. -/
def ResolvesTo (style : NameStyle) (scope : List String) (f : String × Filter)
    (p : Predicate style) : Prop :=
  ColumnName.of style scope f.1 = .ok p.column ∧ p.test = f.2.test

theorem ResolvesTo.write {f : String × Filter} {p : Predicate style}
    (h : ResolvesTo style scope f p) (bound : List Value) :
    (Predicate.write style scope f).runFrom bound = (.ok p.text, bound ++ f.2.operand?.toList) := by
  obtain ⟨column, test⟩ := p
  obtain ⟨hcolumn, htest⟩ := h
  obtain rfl : test = f.2.test := htest
  exact write_accepted hcolumn bound

/-- The induction carries the values bound so far: those of a filter are bound before
the next one is written. -/
theorem writes_accepted {filters : List (String × Filter)} {ps : List (Predicate style)}
    (h : List.Forall₂ (ResolvesTo style scope) filters ps) (bound : List Value) :
    (filters.mapM (Predicate.write style scope)).runFrom bound =
      (.ok (ps.map Predicate.text), bound ++ Filter.operands filters) := by
  induction h generalizing bound with
  | nil => rw [Filter.operands, List.filterMap_nil, List.append_nil]; rfl
  | cons hf _ ih =>
    rw [List.mapM_cons, runFrom_bind_ok (hf.write bound), runFrom_bind_ok (ih _),
      Filter.operands_cons, List.append_assoc]
    rfl

@[inherit_doc writes_accepted]
theorem writes_refused {before after : List (String × Filter)} {f : String × Filter}
    {e : CompileError} (hbefore : ∀ g ∈ before, ∃ column,
      ColumnName.of style scope g.1 = .ok column)
    (hf : ColumnName.of style scope f.1 = .error e) (bound : List Value) :
    ((before ++ f :: after).mapM (Predicate.write style scope)).runFrom bound =
      (.error e, bound ++ Filter.operands before) := by
  induction before generalizing bound with
  | nil =>
    rw [List.nil_append, List.mapM_cons,
      runFrom_bind_error (write_refused hf bound), Filter.operands,
      List.filterMap_nil, List.append_nil]
  | cons g before ih =>
    obtain ⟨⟨column, hg⟩, hrest⟩ := List.forall_mem_cons.mp hbefore
    rw [List.cons_append, List.mapM_cons, runFrom_bind_ok (write_accepted hg bound),
      runFrom_bind_error (ih hrest _), Filter.operands_cons, List.append_assoc]

/-! ## Clauses -/

theorem whereClause_nonempty {filters : List (String × Filter)} (h : filters ≠ [])
    (bound : List Value) :
    whereClause style scope filters bound =
      (filters.mapM (Predicate.write style scope) >>= fun texts =>
        pure ("WHERE " ++ Text.joinWith " AND " texts)).runFrom bound := by
  rw [whereClause, if_neg (by simpa using h)]
  rfl

theorem whereClause_accepted {filters : List (String × Filter)} {ps : List (Predicate style)}
    (h : List.Forall₂ (ResolvesTo style scope) filters ps) (bound : List Value) :
    whereClause style scope filters bound =
      (.ok (Predicate.listText ps), bound ++ Filter.operands filters) := by
  cases h with
  | nil => exact congrArg (Prod.mk _) (List.append_nil bound).symm
  | cons hf hfs =>
    rw [whereClause_nonempty (List.cons_ne_nil _ _),
      runFrom_bind_ok (writes_accepted (.cons hf hfs) bound)]
    rfl

theorem whereClause_refused {before after : List (String × Filter)} {f : String × Filter}
    {e : CompileError} (hbefore : ∀ g ∈ before, ∃ column,
      ColumnName.of style scope g.1 = .ok column)
    (hf : ColumnName.of style scope f.1 = .error e) (bound : List Value) :
    whereClause style scope (before ++ f :: after) bound =
      (.error e, bound ++ Filter.operands before) := by
  rw [whereClause_nonempty (by simp), runFrom_bind_error (writes_refused hbefore hf bound)]

/-- **A clause binds the operands of the filters that it has reached.** What was bound before stays
in front. A clause that is written binds the operands of all filters that compare with one, in
order; one that is refused binds those of the filters before the first column that is refused,
nothing for that filter, and fails as that column does. -/
theorem whereClause_binds (style : NameStyle) (scope : List String)
    (filters : List (String × Filter)) (bound : List Value) :
    (∃ ps : List (Predicate style), List.Forall₂ (ResolvesTo style scope) filters ps ∧
      whereClause style scope filters bound =
        (.ok (Predicate.listText ps), bound ++ Filter.operands filters)) ∨
    ∃ before f after e, filters = before ++ f :: after ∧
      (∀ g ∈ before, ∃ column, ColumnName.of style scope g.1 = .ok column) ∧
      ColumnName.of style scope f.1 = .error e ∧
      whereClause style scope filters bound = (.error e, bound ++ Filter.operands before) := by
  cases hcolumns : filters.mapM fun f => ColumnName.of style scope f.1 with
  | error e =>
    obtain ⟨before, f, after, rfl, hbefore, hf⟩ := mapM_eq_error_iff.mp hcolumns
    exact .inr ⟨before, f, after, e, rfl, hbefore, hf, whereClause_refused hbefore hf bound⟩
  | ok columns =>
    have hall : ∀ f ∈ filters, ∃ p, ResolvesTo style scope f p := by
      intro f hf
      obtain ⟨column, -, hcolumn⟩ := forall₂_mem_left (mapM_eq_ok_iff.mp hcolumns) hf
      exact ⟨⟨column, f.2.test⟩, hcolumn, rfl⟩
    obtain ⟨ps, hps⟩ := exists_forall₂_iff.mpr hall
    exact .inl ⟨ps, hps, whereClause_accepted hps bound⟩

theorem operands_eq {filters : List (String × Filter)} {ps : List (Predicate style)}
    (h : List.Forall₂ (ResolvesTo style scope) filters ps) :
    Predicate.operands ps = Filter.operands filters := by
  induction h with
  | nil => rfl
  | @cons f p _ _ hf _ ih =>
    obtain ⟨column, test⟩ := p
    obtain rfl : test = f.2.test := hf.2
    rw [Predicate.operands_cons, Filter.operands_cons, ih, Predicate.operand?_test]

/-- A change binds what its clause binds behind the values that it sets. -/
theorem Compiler.update_whereClause {c : Compiler} {table : String}
    {criteria : Criteria} {row : Row} {s : Update c.style}
    (h : c.resolveUpdate table criteria row = .ok s) :
    whereClause c.style [table] criteria.filters row.values =
      (.ok (Predicate.listText s.predicates), s.statement.values) := by
  obtain ⟨-, -, -, hvalues, hpredicates⟩ := resolveUpdate_ok h
  have hresolved : List.Forall₂ (ResolvesTo c.style [table]) criteria.filters s.predicates :=
    Predicate.of_ok hpredicates
  rw [whereClause_accepted hresolved, Update.statement, hvalues, operands_eq hresolved]

end RowFerry
