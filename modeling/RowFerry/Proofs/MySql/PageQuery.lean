import RowFerry.Proofs.MySql.Ticks
import RowFerry.Proofs.MySql.WholePages
import RowFerry.Proofs.Sql.Acceptance
import RowFerry.Rehearsal.Server

/-!
The text of a page query and the values that are bound to it. They come from two passes over the
filters, one that writes the conditions and one that collects the values, so that they agree has to
be said of both: read from the left, the placeholders outside names are those of the filters for
values, each directly after its column, and then those of the limit and the offset. The names are
read back from the text whatever characters are in them.
-/

namespace RowFerry

namespace MySql

/-! ## Reading a statement -/

/-- The characters of a name from within it, after those that were read, and what
follows it. After a backtick a second one stands for one in the name, and any other
character no longer belongs to it. -/
def readTicked (tick : Bool) (name : List Char) : List Char → Option (List Char × List Char)
  | [] => if tick then some (name, []) else none
  | c :: cs =>
    if c = '\x60' then if tick then readTicked false (name ++ [c]) cs else readTicked true name cs
    else if tick then some (name, c :: cs) else readTicked false (name ++ [c]) cs

/-- The name between backticks that a text begins with, and what follows it. -/
def readName : List Char → Option (List Char × List Char)
  | [] => none
  | c :: cs => if c = '\x60' then readTicked false [] cs else none

/-- The condition that a text begins with, and what follows it: the column, and
whether it is to be missing. -/
def readCondition (cs : List Char) : Option ((String × Bool) × List Char) :=
  match readName cs with
  | none => none
  | some (column, rest) =>
    match Text.dropLead " IS NULL".toList rest, Text.dropLead " = ?".toList rest with
    | some later, _ => some ((String.ofList column, true), later)
    | none, some later => some ((String.ofList column, false), later)
    | none, none => none

theorem readTicked_le {tick : Bool} {name cs : List Char} {p : List Char × List Char}
    (h : readTicked tick name cs = some p) : p.2.length ≤ cs.length := by
  induction cs generalizing tick name with
  | nil => grind [readTicked]
  | cons c cs ih => grind [readTicked]

theorem readName_lt {cs : List Char} {p : List Char × List Char} (h : readName cs = some p) :
    p.2.length < cs.length := by
  cases cs with
  | nil => cases h
  | cons c cs =>
    rw [readName] at h
    split at h
    · exact Nat.lt_succ_of_le (readTicked_le h)
    · cases h

theorem readCondition_lt {cs later : List Char} {condition : String × Bool}
    (h : readCondition cs = some (condition, later)) : later.length < cs.length := by
  unfold readCondition at h
  split at h
  next => cases h
  next column rest hname =>
    have hrest := readName_lt hname
    split at h
    next hmissing =>
      cases h
      exact Nat.lt_of_le_of_lt (Text.dropLead_le hmissing) hrest
    next hequal =>
      cases h
      exact Nat.lt_of_le_of_lt (Text.dropLead_le hequal) hrest
    next => cases h

/-- The conditions that a text consists of, the first after the keyword and every other after
`AND`, up to the limit. -/
def readConditions (keyword : String) (cs : List Char) : Option (List (String × Bool)) :=
  match hlead : Text.dropLead keyword.toList cs with
  | none => if cs = " LIMIT ? OFFSET ?".toList then some [] else none
  | some rest =>
    match hcondition : readCondition rest with
    | none => none
    | some (condition, later) =>
      have : later.length < cs.length :=
        Nat.lt_of_lt_of_le (readCondition_lt hcondition) (Text.dropLead_le hlead)
      (readConditions " AND " later).map (condition :: ·)
termination_by cs.length

/-- The table and the conditions that a statement spells. -/
def readStatement (sql : String) : Option (String × List (String × Bool)) := do
  let rest ← Text.dropLead "SELECT * FROM ".toList sql.toList
  let (table, rest) ← readName rest
  let conditions ← readConditions " WHERE " rest
  pure (String.ofList table, conditions)

/-! ## The text of a query -/

namespace PageQuery

/-- The table and the columns of the filters have 1 to 128 bytes, and no NUL. -/
def Quotable (q : PageQuery) : Prop :=
  ∀ name ∈ q.table :: q.filters.map Prod.fst,
    1 ≤ name.utf8ByteSize ∧ name.utf8ByteSize ≤ 128 ∧ '\x00' ∉ name.toList

/-- What a query asks of the rows: of each filter the column, and whether it is to be missing. -/
def conditions (q : PageQuery) : List (String × Bool) := q.filters.map fun f => (f.1, f.2.isNull)

/-- The text of the condition of a filter. -/
def predicateText (filter : String × Value) : String :=
  ticked filter.1 ++ if filter.2.isNull then " IS NULL" else " = ?"

/-- The text of a query before its limit. -/
def front (q : PageQuery) : String :=
  "SELECT * FROM " ++ ticked q.table ++ series " WHERE " " AND " predicateText q.filters

theorem front_eq (q : PageQuery) :
    q.front = "SELECT * FROM " ++ ticked q.table ++
      series " WHERE " " AND " predicateText q.filters := rfl

end PageQuery

open PageQuery

theorem quoteName_eq_ok_iff {name text : String} : quoteName name = .ok text ↔
    (1 ≤ name.utf8ByteSize ∧ name.utf8ByteSize ≤ 128 ∧ '\x00' ∉ name.toList) ∧
    text = ticked name := by
  rw [quoteName, map_eq_ok_iff, ← checkName_eq_ok_iff]
  exact ⟨fun ⟨_, hcheck, htext⟩ => ⟨hcheck, htext.symm⟩, fun ⟨hcheck, htext⟩ =>
    ⟨(), hcheck, htext.symm⟩⟩

theorem predicate_eq_ok_iff {filter : String × Value} {text : String} :
    predicate filter = .ok text ↔
    (1 ≤ filter.1.utf8ByteSize ∧ filter.1.utf8ByteSize ≤ 128 ∧ '\x00' ∉ filter.1.toList) ∧
      text = predicateText filter := by
  rw [predicate, bind_eq_ok_iff]
  simp only [quoteName_eq_ok_iff, pure, Except.pure, Except.ok.injEq, predicateText]
  grind

theorem predicates_eq_ok_iff {filters : List (String × Value)} {texts : List String} :
    filters.mapM predicate = .ok texts ↔
      (∀ f ∈ filters, 1 ≤ f.1.utf8ByteSize ∧ f.1.utf8ByteSize ≤ 128 ∧ '\x00' ∉ f.1.toList) ∧
        texts = filters.map predicateText := by
  simp only [mapM_eq_ok_iff, predicate_eq_ok_iff]
  rw [List.forall₂_and_left, eq_comm, ← List.forall₂_eq_eq_eq, List.forall₂_map_left_iff]
  simp only [eq_comm]

theorem condition_eq_series (filters : List (String × Value)) :
    (if (filters.map predicateText).isEmpty then ""
      else " WHERE " ++ Text.joinWith " AND " (filters.map predicateText)) =
    series " WHERE " " AND " predicateText filters := by
  cases filters with
  | nil => rfl
  | cons f fs =>
    rw [if_neg (by simp), joinWith_eq_series, series_lead]
    simp

/-- A query is written when its names can be quoted. -/
theorem sql_eq_ok_iff {q : PageQuery} {text : String} :
    q.sql = .ok text ↔ q.Quotable ∧ text = q.front ++ " LIMIT ? OFFSET ?" := by
  simp only [sql, bind_eq_ok_iff, quoteName_eq_ok_iff, predicates_eq_ok_iff, pure,
    Except.pure, Except.ok.injEq, Quotable, front_eq, List.forall_mem_cons, List.forall_mem_map]
  constructor
  · rintro ⟨_, ⟨htable, rfl⟩, _, ⟨hfilters, rfl⟩, rfl⟩
    exact ⟨⟨htable, hfilters⟩, by rw [condition_eq_series]⟩
  · rintro ⟨⟨htable, hfilters⟩, rfl⟩
    exact ⟨_, ⟨htable, rfl⟩, _, ⟨hfilters, rfl⟩, by rw [condition_eq_series]⟩

/-! ## Names and conditions come back -/

theorem readTicked_doubled (name cs rest : List Char) :
    readTicked false name (doubledTicks cs ++ '\x60' :: ' ' :: rest) =
      some (name ++ cs, ' ' :: rest) := by
  induction cs generalizing name with
  | nil => simp [doubledTicks, readTicked]
  | cons c cs ih =>
    rw [doubledTicks, List.flatMap_cons, ← doubledTicks]
    by_cases hc : c = '\x60'
    · simp [hc, readTicked, ih]
    · simp [hc, readTicked, ih]

/-- A name is read back whatever characters are in it. -/
theorem readName_ticked (name : String) (rest : List Char) :
    readName ((ticked name).toList ++ ' ' :: rest) = some (name.toList, ' ' :: rest) := by
  have hread := readTicked_doubled [] name.toList rest
  rw [List.nil_append] at hread
  rw [ticked, String.toList_ofList, List.cons_append, List.cons_append, readName, if_pos rfl,
    List.append_assoc, List.singleton_append, hread]

example : readName "`a``? b` LIMIT ?".toList = some ("a`? b".toList, " LIMIT ?".toList) := by decide

theorem readCondition_predicateText (filter : String × Value) (rest : List Char) :
    readCondition ((predicateText filter).toList ++ rest) =
      some ((filter.1, filter.2.isNull), rest) := by
  obtain ⟨column, value⟩ := filter
  rw [predicateText, String.toList_append, List.append_assoc]
  cases value.isNull with
  | true =>
    have hname : readName ((ticked column).toList ++ (" IS NULL".toList ++ rest)) =
        some (column.toList, " IS NULL".toList ++ rest) := readName_ticked column _
    simp only [if_true, readCondition, hname, Text.dropLead_append, String.ofList_toList]
  | false =>
    have hname : readName ((ticked column).toList ++ (" = ?".toList ++ rest)) =
        some (column.toList, " = ?".toList ++ rest) := readName_ticked column _
    have hequal : Text.dropLead " IS NULL".toList (" = ?".toList ++ rest) = none := rfl
    simp only [Bool.false_eq_true, if_false, readCondition, hname, hequal, Text.dropLead_append,
      String.ofList_toList]

theorem readConditions_lead {keyword : String} {rest later : List Char} {condition : String × Bool}
    (h : readCondition rest = some (condition, later)) :
    readConditions keyword (keyword.toList ++ rest) = (readConditions " AND " later).map
      (condition :: ·) := by
  have hkeyword := Text.dropLead_append keyword.toList rest
  rw [readConditions]
  split
  next hlead => cases hlead.symm.trans hkeyword
  next hlead =>
    obtain rfl := Option.some.inj (hlead.symm.trans hkeyword)
    split
    next hcondition => cases hcondition.symm.trans h
    next hcondition =>
      cases hcondition.symm.trans h
      rfl

theorem readConditions_end {keyword : String}
    (h : Text.dropLead keyword.toList " LIMIT ? OFFSET ?".toList = none) :
    readConditions keyword " LIMIT ? OFFSET ?".toList = some [] := by
  rw [readConditions]
  split
  next => rw [if_pos rfl]
  next hlead => cases hlead.symm.trans h

theorem readConditions_following (filters : List (String × Value)) :
    readConditions " AND " ((following " AND " predicateText filters).toList ++
      " LIMIT ? OFFSET ?".toList) =
      some (filters.map fun f => (f.1, f.2.isNull)) := by
  induction filters with
  | nil => exact readConditions_end rfl
  | cons f fs ih =>
    rw [following, String.toList_append, String.toList_append, List.append_assoc, List.append_assoc,
      readConditions_lead (readCondition_predicateText f _), ih]
    rfl

theorem readConditions_series (filters : List (String × Value)) :
    readConditions " WHERE " ((series " WHERE " " AND " predicateText filters).toList ++
      " LIMIT ? OFFSET ?".toList) =
      some (filters.map fun f => (f.1, f.2.isNull)) := by
  cases filters with
  | nil => exact readConditions_end rfl
  | cons f fs =>
    rw [series, String.toList_append, String.toList_append, List.append_assoc, List.append_assoc,
      readConditions_lead (readCondition_predicateText f _), readConditions_following]
    rfl

/-- The table and the conditions of a query are read back from its text. -/
theorem readStatement_front (q : PageQuery) :
    readStatement (q.front ++ " LIMIT ? OFFSET ?") = some (q.table, q.conditions) := by
  have hblank : ∃ cs, (series " WHERE " " AND " predicateText q.filters).toList ++
    " LIMIT ? OFFSET ?".toList =
      ' ' :: cs := by
    cases q.filters <;> simp [series]
  have hconditions := readConditions_series q.filters
  obtain ⟨cs, hcs⟩ := hblank
  rw [hcs] at hconditions
  have htext : (q.front ++ " LIMIT ? OFFSET ?").toList =
      "SELECT * FROM ".toList ++ ((ticked q.table).toList ++ ' ' :: cs) := by
    rw [← hcs]
    simp only [front_eq, String.toList_append, List.append_assoc]
  simp only [readStatement, htext, Text.dropLead_append, Option.bind_eq_bind,
    Option.bind_some, readName_ticked, hconditions, String.ofList_toList,
    Option.pure_def, conditions]

/-! ## Values are bound where they belong -/

/-- The text ends outside names with a keyword and what a condition for a value of
the column begins with. -/
def AsksFor (column before : String) : Prop :=
  ∃ rest keyword, ClosedTicks rest ∧ keyword ∈ [" WHERE ", " AND "] ∧
    before = rest ++ (keyword ++ (ticked column ++ " = "))

/-- The placeholders and the bound values of filters, in order. A filter for a value has one of
each, the placeholder directly after its column; a filter for a missing value has none. -/
inductive BindsFilters : List (String × Value) → List String → List Parameter → Prop
  | nil : BindsFilters [] [] []
  | bound {column before : String} {value : Value} {p : Parameter} {filters : List (String × Value)}
    {marks : List String} {ps : List Parameter} (hvalue : Parameter.ofValue? value = some p)
    (hbefore : AsksFor column before) (hrest : BindsFilters filters marks ps) :
    BindsFilters ((column, value) :: filters) (before :: marks) (p :: ps)
  | missing {column : String} {filters : List (String × Value)} {marks : List String}
    {ps : List Parameter} (hrest : BindsFilters filters marks ps) :
    BindsFilters ((column, .null) :: filters) marks ps

/-- The placeholders and the bound values of a query: those of the filters, and last
the limit and the offset. -/
def PageQuery.Binds (q : PageQuery) (marks : List String) (ps : List Parameter) : Prop :=
  ∃ set bound front, BindsFilters q.filters set bound ∧
    marks = set ++ [front ++ " LIMIT ", front ++ " LIMIT ? OFFSET "] ∧
    ps = bound ++ [.unsignedLongLong q.limit, .unsignedLongLong q.offset]

section Binding

variable {filters : List (String × Value)} {marks : List String} {ps : List Parameter}

theorem AsksFor.after {column before s : String} (hs : ClosedTicks s) (h : AsksFor column before) :
    AsksFor column (s ++ before) := by
  obtain ⟨rest, keyword, hrest, hkeyword, rfl⟩ := h
  exact ⟨s ++ rest, keyword, hs.append hrest, hkeyword, by rw [String.append_assoc]⟩

theorem BindsFilters.after {s : String} (hs : ClosedTicks s) (h : BindsFilters filters marks ps) :
    BindsFilters filters (marks.map (s ++ ·)) ps := by
  induction h with
  | nil => exact .nil
  | bound hvalue hbefore _ ih => exact .bound hvalue (hbefore.after hs) ih
  | missing _ ih => exact .missing ih

theorem BindsFilters.length_eq (h : BindsFilters filters marks ps) : marks.length = ps.length := by
  induction h with
  | nil => rfl
  | bound _ _ _ ih => rw [List.length_cons, List.length_cons, ih]
  | missing _ ih => exact ih

/-- Every value is bound that is not missing. -/
theorem ofValue?_of_ne {value : Value} (h : value ≠ .null) :
    value.isNull = false ∧ ∃ p, Parameter.ofValue? value = some p := by
  cases value with
  | null => exact absurd rfl h
  | _ => exact ⟨rfl, _, rfl⟩

/-- A condition comes with its value, if it has one, before the conditions that follow. -/
theorem bindsFilters_cons {keyword rest : String} (hkeyword : keyword ∈ [" WHERE ", " AND "])
    (filter : String × Value) (hrest : BindsFilters filters (placeholders rest) ps) :
    BindsFilters (filter :: filters) (placeholders (keyword ++ (predicateText filter ++ rest)))
      ((Parameter.ofValue? filter.2).toList ++ ps) := by
  obtain ⟨column, value⟩ := filter
  obtain ⟨hclosed, hnone⟩ := ticked_outside column
  have hplain : ClosedTicks keyword ∧ '?' ∉ outsideTicks false keyword.toList := by
    revert keyword
    decide
  have hname : ClosedTicks (keyword ++ ticked column) := hplain.1.append hclosed
  have hnames : placeholders (keyword ++ ticked column) = [] := by
    rw [placeholders_append hplain.1, placeholders_eq_nil hplain.2,
      placeholders_eq_nil (by simp [hnone])]
    rfl
  rw [predicateText, String.append_assoc, ← String.append_assoc, placeholders_append hname,
    hnames, List.nil_append]
  by_cases hvalue : value = .null
  · subst hvalue
    have hmissing : placeholders (" IS NULL" ++ rest) = (placeholders rest).map (" IS NULL" ++ ·) :=
      placeholders_append (by decide) rest
    exact .missing ((hmissing ▸ hrest.after (by decide)).after hname)
  · obtain ⟨hsome, p, hp⟩ := ofValue?_of_ne hvalue
    have hequal : placeholders (" = ?" ++ rest) = " = " :: (placeholders rest).map (" = ?" ++ ·) :=
      placeholders_append (by decide) rest
    have hasks : AsksFor column (keyword ++ ticked column ++ " = ") :=
      ⟨"", keyword, by decide, hkeyword, by rw [String.empty_append, String.append_assoc]⟩
    simp only [hsome, hp, Bool.false_eq_true, if_false, hequal]
    exact .bound hp hasks ((hrest.after (by decide)).after hname)

theorem bindsFilters_following (filters : List (String × Value)) :
    BindsFilters filters (placeholders (following " AND " predicateText filters))
      (filters.filterMap fun f => Parameter.ofValue? f.2) := by
  induction filters with
  | nil => exact .nil
  | cons f fs ih =>
    rw [List.filterMap_eq_flatMap_toList, List.flatMap_cons, ← List.filterMap_eq_flatMap_toList]
    exact bindsFilters_cons (by simp) f ih

theorem bindsFilters_series (filters : List (String × Value)) :
    BindsFilters filters (placeholders (series " WHERE " " AND " predicateText filters))
      (filters.filterMap fun f => Parameter.ofValue? f.2) := by
  cases filters with
  | nil => exact .nil
  | cons f fs =>
    rw [List.filterMap_eq_flatMap_toList, List.flatMap_cons, ← List.filterMap_eq_flatMap_toList]
    exact bindsFilters_cons (by simp) f (bindsFilters_following fs)

theorem closedTicks_predicateText (filter : String × Value) :
    ClosedTicks (predicateText filter) := by
  rw [predicateText]
  refine ClosedTicks.append (ticked_outside _).1 ?_
  split <;> decide

theorem closedTicks_front (q : PageQuery) : ClosedTicks q.front := by
  have hfollowing (fs : List (String × Value)) :
    ClosedTicks (following " AND " predicateText fs) := by
    induction fs with
    | nil => decide
    | cons f fs ih => exact ClosedTicks.append (by decide) ((closedTicks_predicateText f).append ih)
  have hseries (fs : List (String × Value)) :
    ClosedTicks (series " WHERE " " AND " predicateText fs) := by
    cases fs with
    | nil => decide
    | cons f fs =>
      exact ClosedTicks.append (by decide) ((closedTicks_predicateText f).append (hfollowing fs))
  exact (ClosedTicks.append (by decide) (ticked_outside _).1).append (hseries _)

/-- The placeholders of the text of a query and its values. -/
theorem binds_front (q : PageQuery) :
    q.Binds (placeholders (q.front ++ " LIMIT ? OFFSET ?")) q.parameters := by
  obtain ⟨hclosed, hnone⟩ := ticked_outside q.table
  have hlead : ClosedTicks "SELECT * FROM " := by decide
  have hnames : placeholders ("SELECT * FROM " ++ ticked q.table) = [] := by
    rw [placeholders_append hlead, placeholders_eq_nil (by decide),
      placeholders_eq_nil (by simp [hnone])]
    rfl
  have hlimit : placeholders " LIMIT ? OFFSET ?" = [" LIMIT ", " LIMIT ? OFFSET "] := by decide
  refine ⟨placeholders q.front, _, q.front, ?_, ?_, rfl⟩
  · rw [front_eq, placeholders_append (hlead.append hclosed), hnames, List.nil_append]
    exact (bindsFilters_series q.filters).after (hlead.append hclosed)
  · rw [placeholders_append (closedTicks_front q), hlimit]
    rfl

end Binding

/-! ## Agreement -/

theorem PageQuery.Binds.length_eq {q : PageQuery} {marks : List String} {ps : List Parameter}
    (h : q.Binds marks ps) : marks.length = ps.length := by
  obtain ⟨set, bound, front, hfilters, rfl, rfl⟩ := h
  rw [List.length_append, List.length_append, hfilters.length_eq]
  rfl

/-- Once its text is written a query fails at the server or with a cell. -/
theorem select_ne_compile {q : PageQuery} {text : String} (hsql : q.sql = .ok text)
    (s : Server) (number : Nat) (e : CompileError) : s.select number q ≠ .error (.compile e) := by
  rw [Server.select, hsql]
  intro h
  cases hanswer : s.answer number q with
  | error reason =>
    rw [hanswer] at h
    cases h
  | ok t =>
    rw [hanswer] at h
    obtain ⟨-, name, -, -, -, reason, -, -, -, hcause⟩ := Decoder.decodeTable_error h
    cases hcause

/-- **A page query and its values agree.** A query whose names cannot all be quoted is refused
whatever the server is, and nothing is sent. Any other is not refused for its names; one statement
is sent, with as many values as it has placeholders outside names: the values of the filters in
order, each for the placeholder directly after its column, and then the limit and the offset. The
table and what is asked of which column are read back from the statement, so that queries of one
text ask the same of the same table. -/
theorem page_query_agrees (q : PageQuery) :
    (¬ q.Quotable ∧ ∃ e, (∀ (s : Server) number, s.select number q = .error (.compile e)) ∧
        ∀ s : Rehearsal.Server, s.queryLog q = []) ∨
      (q.Quotable ∧ ∃ text, q.sql = .ok text ∧
        (∀ (s : Server) number e, s.select number q ≠ .error (.compile e)) ∧
        (∀ s : Rehearsal.Server, s.queryLog q =
          [if s.prepareFailure.isSome then .prepared text else .executed text q.parameters]) ∧
        (outsideTicks false text.toList).count '?' = q.parameters.length ∧
        q.Binds (placeholders text) q.parameters ∧
        readStatement text = some (q.table, q.conditions) ∧
        ∀ q' : PageQuery, q'.sql = .ok text → q'.table = q.table ∧
        q'.conditions = q.conditions) := by
  by_cases hquotable : q.Quotable
  · have hsql : q.sql = .ok (q.front ++ " LIMIT ? OFFSET ?") := sql_eq_ok_iff.mpr ⟨hquotable, rfl⟩
    have hbinds := binds_front q
    refine .inr ⟨hquotable, _, hsql, select_ne_compile hsql, fun s => ?_, ?_, hbinds,
      readStatement_front q, ?_⟩
    · rw [Rehearsal.Server.queryLog, hsql]
      cases s.prepareFailure.isSome <;> rfl
    · rw [← length_placeholders, hbinds.length_eq]
    · intro q' hsql'
      obtain ⟨-, htext⟩ := sql_eq_ok_iff.mp hsql'
      have hread := readStatement_front q'
      rw [← htext, readStatement_front] at hread
      exact Prod.mk.inj (Option.some.inj hread.symm)
  · refine .inl ⟨hquotable, ?_⟩
    cases hsql : q.sql with
    | ok text => exact absurd (sql_eq_ok_iff.mp hsql).1 hquotable
    | error e =>
      refine ⟨e, fun s number => ?_, fun s => ?_⟩
      · rw [Server.select, hsql]
        rfl
      · rw [Rehearsal.Server.queryLog, hsql]

end MySql

end RowFerry
