import Mathlib.Data.Finset.Card
import Mathlib.Data.List.Induction
import Mathlib.Data.List.Nodup
import RowFerry.Row

/-!
What a row is after any insertions. It has the columns that were inserted, each where it came
first, with the value that came last, and setting one column leaves every other where and
what it is. A row is no more than that: rows with the same columns in the same order and the
same value in each are equal.
-/

namespace RowFerry.Row

/-! ## Entries -/

theorem lookup_cons (column other : String) (value : Value) (es : List (String × Value)) :
    ((column, value) :: es).lookup other = if other =
      column then some value else es.lookup other := by
  rw [List.lookup_cons]
  by_cases h : other = column
  · rw [if_pos h, beq_iff_eq.mpr h]
  · rw [if_neg h, beq_false_of_ne h]

theorem lookup_put (column other : String) (value : Value) (es : List (String × Value)) :
    (put column value es).lookup other = if other =
      column then some value else es.lookup other := by
  induction es with
  | nil => rw [put, lookup_cons]
  | cons e es ih =>
    obtain ⟨c, v⟩ := e
    by_cases hc : c = column
    · subst hc
      rw [put, if_pos rfl, lookup_cons, lookup_cons]
      split <;> rfl
    · rw [put, if_neg hc, lookup_cons, lookup_cons, ih]
      grind

theorem put_new {column : String} {es : List (String × Value)} (h : column ∉ es.map Prod.fst)
    (value : Value) : put column value es = es ++ [(column, value)] := by
  induction es with
  | nil => rfl
  | cons e es ih =>
    obtain ⟨hfirst, hrest⟩ := not_or.mp (List.mem_cons.not.mp h)
    rw [put, if_neg (Ne.symm hfirst), ih hrest, List.cons_append]

/-- Every place holds the same entry of another column as before, or none as before. -/
theorem getElem?_put (column : String) (value : Value) (es : List (String × Value)) (i : Nat) :
    (put column value es)[i]?.filter (fun e => e.1 ≠ column) = es[i]?.filter fun e =>
    e.1 ≠ column := by
  induction es generalizing i with
  | nil => cases i <;> simp [put]
  | cons e es ih =>
    obtain ⟨c, v⟩ := e
    by_cases h : c = column
    · rw [put, if_pos h]
      cases i with
      | zero => simp [h, Option.filter_some]
      | succ i => rfl
    · rw [put, if_neg h]
      cases i with
      | zero => rfl
      | succ i => exact ih i

/-- Entries of different columns are their columns and the value of each. -/
theorem entries_eq {es fs : List (String × Value)} (hes : (es.map Prod.fst).Nodup)
    (hnames : es.map Prod.fst = fs.map Prod.fst)
    (hvalues : ∀ column ∈ es.map Prod.fst, es.lookup column = fs.lookup column) : es = fs := by
  induction es generalizing fs with
  | nil => exact (List.map_eq_nil_iff.mp hnames.symm).symm
  | cons e es ih =>
    obtain ⟨c, v⟩ := e
    obtain ⟨⟨d, w⟩, fs, rfl, hd, hrest⟩ := List.map_eq_cons_iff.mp hnames.symm
    obtain rfl : d = c := hd
    obtain ⟨hfresh, hdistinct⟩ := List.nodup_cons.mp hes
    obtain rfl : v = w := by simpa using hvalues d (List.mem_cons_self ..)
    rw [ih hdistinct hrest.symm fun column hcolumn => ?_]
    have hother : column ≠ d := by
      rintro rfl
      exact hfresh hcolumn
    simpa only [lookup_cons, if_neg hother] using hvalues column (List.mem_cons_of_mem _ hcolumn)

/-! ## Rows -/

/-- Insertion sets one column and no other. -/
theorem get?_insert (r : Row) (column other : String) (value : Value) :
    (r.insert column value).get? other = if other = column then some value else r.get? other :=
  lookup_put column other value r.entries

theorem names_insert (r : Row) (column : String) (value : Value) :
    (r.insert column value).names = if column ∈ r.names then r.names else r.names ++ [column] :=
  names_put column value r.entries

theorem ofList_concat (pairs : List (String × Value)) (p : String × Value) :
    ofList (pairs ++ [p]) = (ofList pairs).insert p.1 p.2 := by
  rw [ofList, List.foldl_append]
  rfl

/-- The columns are those inserted, each where it came first. -/
theorem names_ofList (pairs : List (String × Value)) :
    (ofList pairs).names = (pairs.map Prod.fst).eraseDups := by
  induction pairs using List.reverseRecOn with
  | nil => rfl
  | append_singleton pairs p ih =>
    rw [ofList_concat, names_insert, ih, List.map_append, List.eraseDups_append]
    by_cases h : p.1 ∈ pairs.map Prod.fst
    · rw [if_pos (List.mem_eraseDups.mpr h)]
      simp_all [List.removeAll]
    · rw [if_neg (by rwa [List.mem_eraseDups])]
      simp_all [List.removeAll, List.eraseDups_cons]

/-- The value of a column is the one inserted last. -/
theorem get?_ofList (pairs : List (String × Value)) (column : String) :
    (ofList pairs).get? column = pairs.reverse.lookup column := by
  induction pairs using List.reverseRecOn with
  | nil => rfl
  | append_singleton pairs p ih =>
    rw [ofList_concat, get?_insert, ih, List.reverse_append, List.reverse_singleton,
      List.singleton_append, lookup_cons]

/-- Looking a column up from the end finds its last pair. -/
theorem lookup_reverse (pairs : List (String × Value)) (column : String) :
    pairs.reverse.lookup column = ((pairs.filter fun p => p.1 = column).getLast?).map Prod.snd := by
  induction pairs using List.reverseRecOn with
  | nil => rfl
  | append_singleton pairs p ih =>
    rw [List.reverse_append, List.reverse_singleton, List.singleton_append, lookup_cons, ih,
      List.filter_append]
    by_cases h : column = p.1
    · simp [h]
    · simp [h, Ne.symm h]

/-- Pairs of different columns are the entries of the row that they make. -/
theorem entries_ofList {pairs : List (String × Value)} (h : (pairs.map Prod.fst).Nodup) :
    (ofList pairs).entries = pairs := by
  induction pairs using List.reverseRecOn with
  | nil => rfl
  | append_singleton pairs p ih =>
    rw [List.map_append, List.map_singleton, List.nodup_append] at h
    obtain ⟨hbefore, -, hnew⟩ := h
    have hentries := ih hbefore
    have hfresh : p.1 ∉ (ofList pairs).entries.map Prod.fst := by
      rw [hentries]
      exact fun hmem => hnew _ hmem _ (List.mem_singleton_self _) rfl
    calc (ofList (pairs ++ [p])).entries
      _ = put p.1 p.2 (ofList pairs).entries := by rw [ofList_concat]; rfl
      _ = pairs ++ [p] := by rw [put_new hfresh, hentries]

/-- A row is its columns in their order and the value of each. -/
theorem eq_of_get? {r s : Row} (hnames : r.names = s.names)
    (hvalues : ∀ column ∈ r.names, r.get? column = s.get? column) : r = s := by
  obtain ⟨es, hes⟩ := r
  obtain ⟨fs, _⟩ := s
  obtain rfl : es = fs := entries_eq hes hnames hvalues
  rfl

/-- **A row is a map in the order of insertion.** After any insertions into an empty row its columns
are the different names among those inserted, each where it came first, and there are as many as
there are different names; a column has the value that came with it last, and none if it never came.
Setting a column of a row leaves the entry of every other column in its place. -/
theorem insertion_ordered (pairs : List (String × Value)) :
    ((ofList pairs).names.Nodup ∧ (ofList pairs).names = (pairs.map Prod.fst).eraseDups) ∧
      (∀ column, (ofList pairs).get? column =
        ((pairs.filter fun p => p.1 = column).getLast?).map Prod.snd) ∧
      (ofList pairs).size = (pairs.map Prod.fst).toFinset.card ∧
      ∀ (r : Row) (column : String) (value : Value) (i : Nat),
        (r.insert column value).entries[i]?.filter (fun e => e.1 ≠ column) =
          r.entries[i]?.filter fun e => e.1 ≠ column := by
  have hnames := names_ofList pairs
  have hdistinct : (ofList pairs).names.Nodup := (ofList pairs).nodup
  have hsize : (ofList pairs).size = (pairs.map Prod.fst).toFinset.card := by
    have hsame : (ofList pairs).names.toFinset = (pairs.map Prod.fst).toFinset := by
      ext column
      rw [List.mem_toFinset, List.mem_toFinset, hnames, List.mem_eraseDups]
    rw [← hsame, List.toFinset_card_of_nodup hdistinct, names, List.length_map, size]
  exact ⟨⟨hdistinct, hnames⟩, fun column => by rw [get?_ofList, lookup_reverse], hsize,
    fun r column value i => getElem?_put column value r.entries i⟩

/-- A column that comes again keeps its place and takes the later value. -/
example : (ofList [("id", .i64 1), ("name", .null), ("id", .i64 2)]).entries =
    [("id", .i64 2), ("name", .null)] := by decide

end RowFerry.Row
