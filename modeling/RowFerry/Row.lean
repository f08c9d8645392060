import RowFerry.Value

/-!
Rows: columns with their values, in the order in which the columns first came. Statements list the
columns in exactly this order.
-/

namespace RowFerry

namespace Row

/-- Sets the value of a column; a new column goes to the end, a known one keeps its place. -/
def put (column : String) (value : Value) : List (String × Value) → List (String × Value)
  | [] => [(column, value)]
  | (c, v) :: es => if c = column then (c, value) :: es else (c, v) :: put column value es

theorem names_put (column : String) (value : Value) (es : List (String × Value)) :
    (put column value es).map Prod.fst =
      if column ∈ es.map Prod.fst then es.map Prod.fst else es.map Prod.fst ++ [column] := by
  induction es with
  | nil => simp [put]
  | cons e es ih =>
    obtain ⟨c, v⟩ := e
    by_cases h : c = column
    · simp [put, h]
    · have h' : column ≠ c := fun e => h e.symm
      by_cases m : column ∈ es.map Prod.fst <;> simp_all [put]

theorem nodup_put (column : String) (value : Value) {es : List (String × Value)}
    (h : (es.map Prod.fst).Nodup) : ((put column value es).map Prod.fst).Nodup := by
  rw [names_put]
  split
  · exact h
  · next m =>
    rw [List.nodup_append]
    refine ⟨h, by simp, ?_⟩
    intro a ha b hb
    simp only [List.mem_singleton] at hb
    subst hb
    exact fun e => m (e ▸ ha)

end Row

/-- A row of a table: columns of different names, each with a value. -/
structure Row where
  entries : List (String × Value)
  nodup : (entries.map Prod.fst).Nodup
  deriving Repr, DecidableEq

namespace Row

/-- The row without columns. -/
def empty : Row := ⟨[], by simp⟩

instance : Inhabited Row := ⟨empty⟩

/-- Sets the value of a column. -/
def insert (r : Row) (column : String) (value : Value) : Row :=
  ⟨put column value r.entries, nodup_put column value r.nodup⟩

/-- The row that inserting the pairs one after another gives. -/
def ofList (pairs : List (String × Value)) : Row :=
  pairs.foldl (fun r p => r.insert p.1 p.2) empty

/-- The value of a column. -/
def get? (r : Row) (column : String) : Option Value := r.entries.lookup column

def names (r : Row) : List String := r.entries.map Prod.fst
def values (r : Row) : List Value := r.entries.map Prod.snd
def size (r : Row) : Nat := r.entries.length
def isEmpty (r : Row) : Bool := r.entries.isEmpty

/-- Equality of rows: the same columns in the same order, with the same values. -/
def same (r s : Row) : Bool :=
  r.names == s.names && (r.values.zip s.values).all fun p => p.1.same p.2

def toJson (r : Row) : Json := .object (r.entries.map fun p => (p.1, p.2.toJson))

end Row

end RowFerry
