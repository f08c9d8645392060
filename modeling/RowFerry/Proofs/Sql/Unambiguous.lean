import RowFerry.Proofs.Sql.Reading

/-!
Statements with quoted names can be read back. A quoted name ends at its first double quote without
a second one after it, so it ends where nothing follows that begins with a double quote; every
clause then follows, because its keywords and separators are apart from what may stand after it.
-/

namespace RowFerry

variable {follow : List String}

/-! ## Names -/

theorem Ident.doubled_cons (c : Char) (cs : List Char) :
    doubled (c :: cs) = (if c = '"' then ['"', '"'] else [c]) ++ doubled cs := rfl

/-- A name within its quotes ends at the first double quote that is not doubled. -/
theorem Ident.doubled_inj {cs ds r s : List Char} (hr : r.head? ≠ some '"')
    (hs : s.head? ≠ some '"') (h : doubled cs ++ '"' :: r = doubled ds ++ '"' :: s) :
    cs = ds ∧ r = s := by
  have hnot (c : Char) (cs ds r : List Char) (hr : r.head? ≠ some '"') :
      '"' :: r ≠ doubled (c :: cs) ++ ds := by
    intro h
    rw [doubled_cons] at h
    split at h
    · simp only [List.cons_append, List.nil_append, List.cons.injEq, true_and] at h
      exact hr (by rw [h]; rfl)
    next hc => exact hc (List.cons.inj h).1.symm
  induction cs generalizing ds with
  | nil =>
    cases ds with
    | nil => exact ⟨rfl, (List.cons.inj h).2⟩
    | cons d ds => exact absurd h (hnot d ds _ r hr)
  | cons c cs ih =>
    cases ds with
    | nil => exact absurd h.symm (hnot c cs _ s hs)
    | cons d ds =>
      rw [doubled_cons, doubled_cons] at h
      have hsplit : c = d ∧ doubled cs ++ '"' :: r = doubled ds ++ '"' :: s := by
        by_cases hc : c = '"'
        · by_cases hd : d = '"'
          · simpa [hc, hd] using h
          · simp only [hc, hd, if_true, if_false, List.cons_append, List.cons.injEq] at h
            exact absurd h.1.symm hd
        · by_cases hd : d = '"'
          · simp [hc, hd] at h
          · simpa [hc, hd] using h
      obtain ⟨rfl, hrest⟩ := hsplit
      obtain ⟨rfl, hend⟩ := ih hrest
      exact ⟨rfl, hend⟩

/-- The text of a name tells which thing it names. -/
theorem Ident.text_eq_iff {style : NameStyle} {i j : Ident style} :
    i.text = j.text ↔ style.sameName i.name j.name = true := by
  cases style with
  | quoted =>
    rw [NameStyle.sameName, beq_iff_eq]
    constructor
    · intro h
      have hchars := congrArg String.toList h
      simp only [text, String.toList_ofList, List.cons_append, List.cons.injEq, true_and] at hchars
      exact String.toList_inj.mp (doubled_inj (by simp) (by simp) hchars).1
    · intro h
      rw [text, text, h]
  | folded =>
    rw [NameStyle.sameName, beq_iff_eq]
    rfl

theorem Ident.readsBack (hapart : Apart ["\""] follow) :
    ReadsBack ["\""] follow (text : Ident .quoted → String) id where
  begins i r _ := ⟨"\"", List.mem_singleton_self _,
    String.ofList (doubled i.name.toList ++ ['"']) ++ r, by
    rw [← String.toList_inj]
    simp [text]⟩
  determines {i j r s} hr hs heq := by
    have hhead {t : String} (ht : Begins follow t) : t.toList.head? ≠ some '"' := by
      intro hquote
      refine hapart.absurd ⟨"\"", List.mem_singleton_self _, String.ofList t.toList.tail, ?_⟩ ht
      rw [← String.toList_inj]
      simpa using List.eq_cons_of_mem_head? hquote
    have hlist := congrArg String.toList heq
    simp only [text, String.toList_append, String.toList_ofList, List.cons_append,
      List.append_assoc, List.nil_append, List.cons.injEq, true_and] at hlist
    obtain ⟨hname, hend⟩ := doubled_inj (hhead hr) (hhead hs) hlist
    refine ⟨?_, String.toList_inj.mp hend⟩
    cases i
    cases j
    exact congrArg Ident.mk (String.toList_inj.mp hname)

/-- A name with its qualifier, if there is one. What follows the first name
tells whether there is. -/
theorem qualified_readsBack (hapart : Apart ["\"", "."] follow) :
    ReadsBack ["\""] follow
      (fun n : Option (Ident .quoted) × Ident .quoted => qualifiedText n.1 n.2) id := by
  have hquote : Apart ["\""] follow := hapart.subset (by simp)
  have hdot : Apart ["."] follow := hapart.subset (by simp)
  have hboth : Apart ["\""] (["."] ++ follow) := Apart.append_right (by decide) hquote
  have hrest : ReadsBack (["."] ++ follow) follow
    (following "." (Ident.text : Ident .quoted → String))
      (List.map id) :=
    (Ident.readsBack hboth).following (by decide) hdot
  let first (n : Option (Ident .quoted) × Ident .quoted) : Ident .quoted := n.1.getD n.2
  let rest (n : Option (Ident .quoted) × Ident .quoted) : List (Ident .quoted) :=
    (n.1.map fun _ => n.2).toList
  refine (((Ident.readsBack hboth).part first).append (hrest.part rest)).of_eq ?_ ?_
  · rintro ⟨q, i⟩
    cases q <;> simp [first, rest, qualifiedText, following, String.append_assoc]
  · rintro ⟨q, i⟩ ⟨q', i'⟩ h
    cases q <;> cases q' <;> simp_all [first, rest]

theorem TableName.readsBack (hapart : Apart ["\"", "."] follow) :
    ReadsBack ["\""] follow (text : TableName .quoted → String) id := by
  have hparts := (qualified_readsBack hapart).part
    fun n : TableName .quoted => (n.tablespace, n.table)
  refine hparts.of_eq TableName.text_eq ?_
  rintro ⟨q, i⟩ ⟨q', i'⟩ h
  simpa using h

theorem ColumnName.readsBack (hapart : Apart ["\"", "."] follow) :
    ReadsBack ["\""] follow (text : ColumnName .quoted → String) id := by
  have hparts := (qualified_readsBack hapart).part
    fun n : ColumnName .quoted => (n.qualifier, n.column)
  refine hparts.of_eq ColumnName.text_eq ?_
  rintro ⟨q, i⟩ ⟨q', i'⟩ h
  simpa using h

/-! ## Clauses -/

/-- The list of a query: a star, or names. -/
theorem columnList_readsBack :
    ReadsBack ["*", "\""] [" FROM "] (columnList : List (ColumnName .quoted) → String) id := by
  have hname : ReadsBack ["\""] ([", "] ++ [" FROM "])
    (ColumnName.text : ColumnName .quoted → String) id :=
    ColumnName.readsBack (by decide)
  have hnames : ReadsBack ["\""] [" FROM "]
    (fun p : ColumnName .quoted × List (ColumnName .quoted) =>
      p.1.text ++ following ", " ColumnName.text p.2) fun p => (id p.1, p.2.map id) :=
    (hname.part Prod.fst).append ((hname.following (by decide) (by decide)).part Prod.snd)
  have hcons (n : ColumnName .quoted) (ns : List (ColumnName .quoted)) :
      columnList (n :: ns) = n.text ++ following ", " ColumnName.text ns := by
    rw [columnList, series, String.empty_append]
  have hstar (r : String) (n : ColumnName .quoted) (ns : List (ColumnName .quoted)) {s : String}
      (hs : Begins [" FROM "] s) : "*" ++ r ≠ columnList (n :: ns) ++ s := by
    intro heq
    have hquote := hnames.begins (n, ns) s hs
    rw [← hcons, ← heq] at hquote
    exact (by decide : Apart ["*"] ["\""]).absurd ⟨"*", List.mem_singleton_self _, r, rfl⟩ hquote
  constructor
  · intro xs r hr
    cases xs with
    | nil => exact ⟨"*", List.mem_cons_self, r, rfl⟩
    | cons n ns =>
      rw [hcons]
      exact (hnames.begins (n, ns) r hr).covered (by decide)
  · intro xs ys r s hr hs heq
    cases xs with
    | nil =>
      cases ys with
      | nil => exact ⟨rfl, (String.append_right_inj "*").mp heq⟩
      | cons n ns => exact absurd heq (hstar r n ns hs)
    | cons m ms =>
      cases ys with
      | nil => exact absurd heq.symm (hstar s m ms hr)
      | cons n ns =>
        rw [hcons, hcons] at heq
        obtain ⟨hviews, hend⟩ := hnames.determines (x := (m, ms)) (y := (n, ns)) hr hs heq
        simp only [id, List.map_id, Prod.mk.injEq] at hviews
        exact ⟨congrArg₂ List.cons hviews.1 hviews.2, hend⟩

/-- The text that asks something of a column. -/
def Test.text : Test → String
  | .holds c _ => " " ++ c.symbol ++ " " ++ placeholder
  | .isNull => " IS NULL"
  | .isNotNull => " IS NOT NULL"

/-- What a test asks, without its operand. -/
def Test.form : Test → Test
  | .holds c _ => .holds c .null
  | t => t

def Test.words : List String :=
  [" = ?", " <> ?", " > ?", " >= ?", " < ?", " <= ?", " LIKE ?", " IS NULL", " IS NOT NULL"]

theorem Comparison.symbol_inj {c d : Comparison} (h : c.symbol = d.symbol) : c = d := by
  cases c <;> cases d <;> first | rfl | exact absurd h (by decide)

theorem Test.readsBack : ReadsBack words follow text form := by
  have hnull (c : Comparison) (v : Value) :
      text (.holds c v) ≠ text .isNull ∧ text (.holds c v) ≠ text .isNotNull := by
    cases c <;> simp [text, Comparison.symbol, placeholder]
  refine .word (by decide) (fun t => ?_) fun t u h => ?_
  · cases t with
    | holds c v => cases c <;> simp [words, text, Comparison.symbol, placeholder]
    | isNull | isNotNull => simp [words, text]
  · cases t with
    | holds c v =>
      cases u with
      | holds d w =>
        have hsymbol : c.symbol = d.symbol := by simpa [text] using h
        rw [form, form, Comparison.symbol_inj hsymbol]
      | isNull => exact absurd h (hnull c v).1
      | isNotNull => exact absurd h (hnull c v).2
    | isNull =>
      cases u with
      | holds d w => exact absurd h.symm (hnull d w).1
      | isNull => rfl
      | isNotNull => simp [text] at h
    | isNotNull =>
      cases u with
      | holds d w => exact absurd h.symm (hnull d w).2
      | isNull => simp [text] at h
      | isNotNull => rfl

/-- What a predicate asks of which column, without its operand. -/
def Predicate.form {style : NameStyle} (p : Predicate style) : ColumnName style × Test :=
  (p.column, p.test.form)

theorem Predicate.readsBack : ReadsBack ["\""] follow (text : Predicate .quoted → String) form := by
  have hcolumn : ReadsBack ["\""] Test.words (ColumnName.text : ColumnName .quoted → String) id :=
    ColumnName.readsBack (by decide)
  refine ((hcolumn.part Predicate.column).append (Test.readsBack.part Predicate.test)).of_eq ?_ ?_
  · rintro ⟨column, _ | _ | _⟩ <;> simp [text, Test.text, String.append_assoc]
  · exact fun _ _ h => h

theorem SortKey.readsBack : ReadsBack ["\""] follow (text : SortKey .quoted → String) id := by
  have hdirection : ReadsBack [" ASC", " DESC"] follow
    (fun d : SortDirection => " " ++ d.keyword) id := by
    refine .word (by decide) (fun d => ?_) fun d e h => ?_
    · cases d <;> simp [SortDirection.keyword]
    · cases d <;> cases e <;> first | rfl | exact absurd h (by decide)
  have hcolumn : ReadsBack ["\""] [" ASC", " DESC"]
    (ColumnName.text : ColumnName .quoted → String) id :=
    ColumnName.readsBack (by decide)
  refine ((hcolumn.part SortKey.column).append (hdirection.part SortKey.direction)).of_eq ?_ ?_
  · simp [text, String.append_assoc]
  · rintro ⟨c, d⟩ ⟨c', d'⟩ h
    simpa using h

theorem uint64Text_readsBack
    (hfollow : ∀ f ∈ follow, f.toList.head?.any (fun c => !c.isDigit) = true) :
    ReadsBack [""] follow uint64Text id where
  begins n r _ := ⟨"", List.mem_singleton_self _, uint64Text n ++ r, by rw [String.empty_append]⟩
  determines {m n r s} hr hs heq := by
    have hdigits (n : UInt64) : ∀ c ∈ Text.numeral n.toNat, c.isDigit = true := fun c hc =>
      Nat.isDigit_of_mem_toDigits (by decide) (by decide) hc
    have hend {t : String} (ht : Begins follow t) : t.toList.takeWhile Char.isDigit = [] := by
      obtain ⟨f, hf, rest, rfl⟩ := ht
      have hhead := hfollow f hf
      rw [String.toList_append]
      cases hlist : f.toList with
      | nil => simp [hlist] at hhead
      | cons c cs =>
        have hc : c.isDigit = false := by simpa [hlist] using hhead
        simp [hc]
    have hlist : Text.numeral m.toNat ++ r.toList = Text.numeral n.toNat ++ s.toList := by
      simpa [uint64Text, natText] using congrArg String.toList heq
    have hnumeral : Text.numeral m.toNat = Text.numeral n.toNat := by
      have htake := congrArg (List.takeWhile Char.isDigit) hlist
      rw [List.takeWhile_append_of_pos (hdigits m),
        List.takeWhile_append_of_pos (hdigits n), hend hr, hend hs] at htake
      simpa using htake
    rw [hnumeral, List.append_cancel_left_eq] at hlist
    refine ⟨UInt64.toNat_inj.mp ?_, String.toList_inj.mp hlist⟩
    have hvalue := congrArg (fun ds => Nat.ofDigitChars 10 ds 0) hnumeral
    simpa [Text.numeral, Nat.ofDigitChars_toDigits] using hvalue

def JoinKind.words : List String := ["INNER JOIN", "LEFT JOIN", "RIGHT JOIN", "FULL JOIN"]

theorem JoinKind.readsBack : ReadsBack words follow keyword id := by
  refine .word (by decide) (fun k => ?_) fun k l h => ?_
  · cases k <;> simp [words, keyword]
  · cases k <;> cases l <;> first | rfl | exact absurd h (by decide)

/-- What may follow the joins of a query. -/
def clauseWords : List String := [" WHERE ", " LIMIT ", " OFFSET ", " ORDER BY ", ";"]

def Join.words : List String := [" INNER JOIN", " LEFT JOIN", " RIGHT JOIN", " FULL JOIN"]

theorem Join.readsBack :
    ReadsBack JoinKind.words (words ++ clauseWords) (text : Join .quoted → String) id := by
  have htable : ReadsBack ["\""] ([" \""] ++ [" ON "])
    (TableName.text : TableName .quoted → String) id :=
    TableName.readsBack (by decide)
  have halias : ReadsBack ["\""] ([" \""] ++ [" ON "]) (Ident.text : Ident .quoted → String) id :=
    Ident.readsBack (by decide)
  have hleft : ReadsBack ["\""] [" = "] (ColumnName.text : ColumnName .quoted → String) id :=
    ColumnName.readsBack (by decide)
  have hright : ReadsBack ["\""] ([" AND "] ++ (words ++ clauseWords))
      (ColumnName.text : ColumnName .quoted → String) id :=
    ColumnName.readsBack (by decide)
  have hcondition : ReadsBack ["\""] ([" AND "] ++ (words ++ clauseWords))
      (conditionText : ColumnName .quoted × ColumnName .quoted → String) id :=
    ((hleft.part Prod.fst).append ((hright.lead " = ").part Prod.snd)).of_eq
      (fun p => by simp [conditionText, String.append_assoc]) (fun _ _ h => h)
  have hconditions : ReadsBack (["\""] ++ (words ++ clauseWords)) (words ++ clauseWords)
      (series "" " AND " (conditionText : ColumnName .quoted × ColumnName .quoted → String))
      (List.map id) :=
    hcondition.series (by decide) (by decide) (by decide) (by decide)
  have haliases : ReadsBack ([" \""] ++ [" ON "]) [" ON "]
      (following " " (Ident.text : Ident .quoted → String)) (List.map id) :=
    halias.following (by decide) (by decide)
  have htarget := (htable.part Join.table).append
    ((haliases.part fun j : Join .quoted => j.aliasName.toList).append
      ((hconditions.part Join.conditions).lead " ON "))
  refine ((JoinKind.readsBack.part Join.kind).append (htarget.lead " ")).of_eq Join.text_eq ?_
  rintro ⟨kind, table, aliasName, conditions⟩ ⟨kind', table', aliasName', conditions'⟩ h
  cases aliasName <;> cases aliasName' <;> simp_all

theorem where_readsBack (hwhere : Apart [" WHERE "] follow) (hand : Apart [" AND "] follow) :
    ReadsBack ([" WHERE "] ++ follow) follow
      (series " WHERE " " AND " (Predicate.text : Predicate .quoted → String))
      (List.map Predicate.form) :=
  Predicate.readsBack.series (by decide) hwhere (by decide : Covers [" AND "] _) hand

/-! ## Statements -/

namespace Insert

theorem lead_readsBack :
    ReadsBack ["INSERT INTO "] [""] (lead : Insert .quoted → String) fun s =>
    (s.table, s.columns) := by
  have htable : ReadsBack ["\""] [" ("] (TableName.text : TableName .quoted → String) id :=
    TableName.readsBack (by decide)
  have hcolumn : ReadsBack ["\""] ([", "] ++ [") VALUES ("])
    (Ident.text : Ident .quoted → String) id :=
    Ident.readsBack (by decide)
  have hcolumns : ReadsBack (["\""] ++ [") VALUES ("]) [") VALUES ("]
      (series "" ", " (Ident.text : Ident .quoted → String)) (List.map id) :=
    hcolumn.series (by decide) (by decide) (by decide) (by decide)
  have hvalues : ReadsBack [") VALUES ("] [""] (fun _ : Insert .quoted => ") VALUES (")
      fun _ => () :=
    .word (by decide) (fun _ => List.mem_singleton_self _) fun _ _ _ => rfl
  refine (((htable.part Insert.table).append
    (((hcolumns.part Insert.columns).append hvalues).lead " (")).lead "INSERT INTO ").of_eq
    (fun _ => rfl) ?_
  intro s t h
  simpa using h

end Insert

namespace Select

theorem tail_readsBack :
    ReadsBack [" FROM "] [";"] (tail : Select .quoted → String) fun s =>
      (s.table, s.joins, s.predicates.map Predicate.form, s.limit, s.offset, s.order) := by
  have htable : ReadsBack ["\""] (Join.words ++ clauseWords)
      (TableName.text : TableName .quoted → String) id :=
    TableName.readsBack (by decide)
  have hjoins : ReadsBack (Join.words ++ clauseWords) clauseWords
      (following " " (Join.text : Join .quoted → String)) (List.map id) :=
    Join.readsBack.following (by decide) (by decide)
  have hwhere : ReadsBack clauseWords [" LIMIT ", " OFFSET ", " ORDER BY ", ";"]
      (series " WHERE " " AND " (Predicate.text : Predicate .quoted → String))
      (List.map Predicate.form) :=
    where_readsBack (by decide) (by decide)
  have hlimit : ReadsBack ([" LIMIT "] ++ [" OFFSET ", " ORDER BY ", ";"])
      [" OFFSET ", " ORDER BY ", ";"] (following " LIMIT " uint64Text) (List.map id) :=
    (uint64Text_readsBack (by decide)).following (by decide) (by decide)
  have hoffset : ReadsBack ([" OFFSET "] ++ [" ORDER BY ", ";"]) [" ORDER BY ", ";"]
      (following " OFFSET " uint64Text) (List.map id) :=
    (uint64Text_readsBack (by decide)).following (by decide) (by decide)
  have horder : ReadsBack ([" ORDER BY "] ++ [";"]) [";"]
      (series " ORDER BY " ", " (SortKey.text : SortKey .quoted → String)) (List.map id) :=
    SortKey.readsBack.series (by decide) (by decide) (by decide : Covers [", "] _) (by decide)
  have hpages := (hlimit.part fun s : Select .quoted => s.limit.toList).append
    ((hoffset.part fun s : Select .quoted => s.offset.toList).append (horder.part Select.order))
  have hclauses := (hjoins.part Select.joins).append ((hwhere.part Select.predicates).append hpages)
  refine (((htable.part Select.table).append hclauses).lead " FROM ").of_eq (fun _ => rfl) ?_
  intro s t h
  have htoList {m n : Option UInt64} (hmn : m.toList = n.toList) : m = n := by
    cases m <;> cases n <;> simp_all
  simp only [List.map_id, id, Prod.mk.injEq] at h ⊢
  obtain ⟨htable, hjoins, hpredicates, hlimit, hoffset, horder⟩ := h
  exact ⟨htable, hjoins, hpredicates, htoList hlimit, htoList hoffset, horder⟩

theorem readsBack : ReadsBack ["SELECT "] [";"]
    (fun s : Select .quoted => "SELECT " ++ (columnList s.selection.names ++ s.tail))
    fun s => (s.selection.names, s.table, s.joins, s.predicates.map Predicate.form,
      s.limit, s.offset, s.order) :=
  have hnames := columnList_readsBack.part fun s : Select .quoted => s.selection.names
  (hnames.append tail_readsBack).lead "SELECT "

end Select

theorem Update.readsBack : ReadsBack ["UPDATE "] [";"] (body : Update .quoted → String) fun s =>
    (s.table, s.columns, s.predicates.map Predicate.form) := by
  have htable : ReadsBack ["\""] [" SET "] (TableName.text : TableName .quoted → String) id :=
    TableName.readsBack (by decide)
  have hname : ReadsBack ["\""] [" = ?"] (Ident.text : Ident .quoted → String) id :=
    Ident.readsBack (by decide)
  have hset : ReadsBack ["\""] ([", "] ++ [" WHERE ", ";"])
      (fun c : Ident .quoted => c.text ++ " = " ++ placeholder) id := by
    have hmark : ReadsBack [" = ?"] ([", "] ++ [" WHERE ", ";"])
        (fun _ : Ident .quoted => " = " ++ placeholder) fun _ => () :=
      .word (by decide) (fun _ => by simp [placeholder]) fun _ _ _ => rfl
    exact (hname.append hmark).of_eq (fun c => String.append_assoc) fun _ _ h => (Prod.mk.inj h).1
  have hsets : ReadsBack (["\""] ++ [" WHERE ", ";"]) [" WHERE ", ";"]
      (series "" ", " fun c : Ident .quoted => c.text ++ " = " ++ placeholder) (List.map id) :=
    hset.series (by decide) (by decide) (by decide) (by decide)
  have hwhere : ReadsBack ([" WHERE "] ++ [";"]) [";"]
      (series " WHERE " " AND " (Predicate.text : Predicate .quoted → String))
      (List.map Predicate.form) :=
    where_readsBack (by decide) (by decide)
  have hclauses := ((hsets.part Update.columns).append (hwhere.part Update.predicates)).lead " SET "
  refine (((htable.part Update.table).append hclauses).lead "UPDATE ").of_eq (fun _ => rfl) ?_
  intro s t h
  simpa using h

theorem Delete.readsBack : ReadsBack ["DELETE"] [";"] (body : Delete .quoted → String) fun s =>
    (s.table, s.predicates.map Predicate.form) := by
  have htable : ReadsBack ["\""] ([" WHERE "] ++ [";"])
    (TableName.text : TableName .quoted → String) id :=
    TableName.readsBack (by decide)
  have hwhere : ReadsBack ([" WHERE "] ++ [";"]) [";"]
      (series " WHERE " " AND " (Predicate.text : Predicate .quoted → String))
      (List.map Predicate.form) :=
    where_readsBack (by decide) (by decide)
  exact (((htable.part Delete.table).append (hwhere.part Delete.predicates)).lead " FROM ").lead
    "DELETE"

theorem IdentityInsert.readsBack : ReadsBack ["SET IDENTITY_INSERT"] [";"]
    (body : IdentityInsert .quoted → String) fun s => (s.table, s.enabled) := by
  have htable : ReadsBack ["\""] [" ON", " OFF"] (TableName.text : TableName .quoted → String) id :=
    TableName.readsBack (by decide)
  have hword : ReadsBack [" ON", " OFF"] [";"] (word : IdentityInsert .quoted → String)
      IdentityInsert.enabled := by
    refine .word (by decide) (fun s => ?_) fun s t h => ?_
    · unfold word
      split <;> simp
    · unfold word at h
      cases hs : s.enabled <;> cases ht : t.enabled <;> simp_all
  have hname (s : IdentityInsert .quoted) : s.table.text ≠ "" := by
    rw [TableName.text_eq]
    unfold qualifiedText
    split <;> simp [Ident.text]
  refine (((htable.part IdentityInsert.table).append hword).lead " ").lead lead
    |>.of_eq (fun s => ?_) ?_
  · rw [body, segment_of_ne (hname s), String.append_assoc]
  · exact fun _ _ h => h

end RowFerry
