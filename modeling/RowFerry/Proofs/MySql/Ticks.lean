import RowFerry.MySql.Query

/-!
Reading a text from the left, where every backtick begins or ends a name. The doubled
backticks of a name end inside it, so what stands outside the names of a statement is what
stands outside those of its parts.
-/

namespace RowFerry.MySql

/-- The characters outside names between backticks. -/
def outsideTicks (inside : Bool) : List Char → List Char
  | [] => []
  | c :: cs =>
    if c = '\x60' then outsideTicks (!inside) cs
    else if inside then outsideTicks inside cs
    else c :: outsideTicks inside cs

/-- Does the text end inside a name between backticks? -/
def endsInTicks (inside : Bool) : List Char → Bool
  | [] => inside
  | c :: cs => endsInTicks (if c = '\x60' then !inside else inside) cs

theorem endsInTicks_append (inside : Bool) (cs ds : List Char) :
    endsInTicks inside (cs ++ ds) = endsInTicks (endsInTicks inside cs) ds := by
  induction cs generalizing inside with
  | nil => rfl
  | cons c cs ih => exact ih _

theorem outsideTicks_append (inside : Bool) (cs ds : List Char) :
    outsideTicks inside (cs ++ ds) =
      outsideTicks inside cs ++ outsideTicks (endsInTicks inside cs) ds := by
  induction cs generalizing inside with
  | nil => rfl
  | cons c cs ih =>
    simp only [List.cons_append, outsideTicks, endsInTicks]
    by_cases hc : c = '\x60'
    · rw [if_pos hc, if_pos hc, if_pos hc, ih]
    · cases inside <;> simp [hc, ih]

/-- The doubled backticks of a name end inside it and leave nothing outside. -/
theorem doubledTicks_inside (cs : List Char) :
    endsInTicks true (doubledTicks cs) = true ∧ outsideTicks true (doubledTicks cs) = [] := by
  induction cs with
  | nil => exact ⟨rfl, rfl⟩
  | cons c cs ih =>
    by_cases hc : c = '\x60'
    · simpa [doubledTicks, hc, endsInTicks, outsideTicks] using ih
    · simpa [doubledTicks, hc, endsInTicks, outsideTicks] using ih

/-- A name between backticks leaves nothing outside and ends there. -/
theorem ticked_outside (name : String) :
    endsInTicks false (ticked name).toList = false ∧
    outsideTicks false (ticked name).toList = [] := by
  obtain ⟨hends, hnone⟩ := doubledTicks_inside name.toList
  rw [ticked, String.toList_ofList, List.cons_append]
  constructor
  · rw [endsInTicks, if_pos rfl, endsInTicks_append]
    simp [hends, endsInTicks]
  · rw [outsideTicks, if_pos rfl, outsideTicks_append]
    simp [hnone, outsideTicks]

/-- Every name that begins in the text ends in it. -/
def ClosedTicks (s : String) : Prop := endsInTicks false s.toList = false

instance (s : String) : Decidable (ClosedTicks s) :=
  inferInstanceAs (Decidable (endsInTicks false s.toList = false))

theorem ClosedTicks.append {s t : String} (hs : ClosedTicks s) (ht : ClosedTicks t) :
    ClosedTicks (s ++ t) := by
  rw [ClosedTicks, String.toList_append, endsInTicks_append, hs, ht]

/-! ## Placeholders -/

/-- What stands before each question mark outside names. -/
def placeholdersFrom (inside : Bool) (before : List Char) : List Char → List (List Char)
  | [] => []
  | c :: cs =>
    if c = '\x60' then placeholdersFrom (!inside) (before ++ [c]) cs
    else if c = '?' && !inside then before :: placeholdersFrom inside (before ++ [c]) cs
    else placeholdersFrom inside (before ++ [c]) cs

/-- The texts before the placeholders of a statement, which are its question
placeholders outside names. -/
def placeholders (sql : String) : List String :=
  (placeholdersFrom false [] sql.toList).map String.ofList

theorem placeholdersFrom_append (inside : Bool) (before cs ds : List Char) :
    placeholdersFrom inside before (cs ++ ds) =
      placeholdersFrom inside before cs ++ placeholdersFrom (endsInTicks inside cs)
        (before ++ cs) ds := by
  induction cs generalizing inside before with
  | nil => simp [placeholdersFrom, endsInTicks]
  | cons c cs ih =>
    simp only [List.cons_append, placeholdersFrom, endsInTicks, ih]
    split
    · simp
    · split <;> simp

/-- What stands before all of a text stands before each of its placeholders. -/
theorem placeholdersFrom_before (inside : Bool) (front before cs : List Char) :
    placeholdersFrom inside (front ++ before) cs = (placeholdersFrom inside before cs).map
      (front ++ ·) := by
  induction cs generalizing inside before with
  | nil => rfl
  | cons c cs ih =>
    simp only [placeholdersFrom, List.append_assoc, ih]
    split
    · rfl
    · split <;> simp

theorem length_placeholdersFrom (inside : Bool) (before cs : List Char) :
    (placeholdersFrom inside before cs).length = (outsideTicks inside cs).count '?' := by
  induction cs generalizing inside before with
  | nil => rfl
  | cons c cs ih =>
    rw [placeholdersFrom, outsideTicks]
    by_cases hc : c = '\x60'
    · rw [if_pos hc, if_pos hc, ih]
    · cases inside <;> by_cases hmark : c = '?' <;> simp [hc, hmark, ih]

theorem length_placeholders (sql : String) :
    (placeholders sql).length = (outsideTicks false sql.toList).count '?' := by
  rw [placeholders, List.length_map, length_placeholdersFrom]

theorem placeholders_eq_nil {s : String} (h : '?' ∉ outsideTicks false s.toList) :
    placeholders s = [] := by
  rw [← List.length_eq_zero_iff, length_placeholders, List.count_eq_zero_of_not_mem h]

theorem placeholders_append {s : String} (hs : ClosedTicks s) (t : String) :
    placeholders (s ++ t) = placeholders s ++ (placeholders t).map (s ++ ·) := by
  have hafter := placeholdersFrom_before false s.toList [] t.toList
  rw [List.append_nil] at hafter
  rw [placeholders, String.toList_append, placeholdersFrom_append, hs, List.nil_append,
    hafter, List.map_append, List.map_map, placeholders, placeholders, List.map_map]
  congr 2
  funext before
  simp

end RowFerry.MySql
