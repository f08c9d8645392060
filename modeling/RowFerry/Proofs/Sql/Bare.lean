import RowFerry.Proofs.Sql.Layout

/-!
Reading a text from the left, where every double quote begins or ends a quoted name. The characters
outside quoted names are bare. A text is closed when it does not end inside a quoted name; closed
texts are read one after another without an effect on each other, so what is bare in a statement is
what is bare in its clauses.
-/

namespace RowFerry

variable {style : NameStyle} {excluded : List Char} {α : Type}

/-- Does the text end inside a quoted name? -/
def endsInside (inside : Bool) : List Char → Bool
  | [] => inside
  | c :: cs => endsInside (if c = '"' then !inside else inside) cs

/-- The characters outside quoted names, each with the characters before it. -/
def bareFrom (inside : Bool) (before : List Char) : List Char → List (List Char × Char)
  | [] => []
  | c :: cs =>
    if c = '"' then bareFrom (!inside) (before ++ [c]) cs
    else if inside then bareFrom inside (before ++ [c]) cs
    else (before, c) :: bareFrom inside (before ++ [c]) cs

/-- The bare characters of a text, each with the text before it. -/
def bare (t : String) : List (String × Char) :=
  (bareFrom false [] t.toList).map fun m => (String.ofList m.1, m.2)

/-- Every quoted name that begins in the text also ends in it. -/
def Closed (t : String) : Prop := endsInside false t.toList = false

instance (t : String) : Decidable (Closed t) :=
  inferInstanceAs (Decidable (endsInside false t.toList = false))

theorem endsInside_append (inside : Bool) (cs ds : List Char) :
    endsInside inside (cs ++ ds) = endsInside (endsInside inside cs) ds := by
  induction cs generalizing inside with
  | nil => rfl
  | cons c cs ih => simp only [List.cons_append, endsInside, ih]

theorem bareFrom_append (inside : Bool) (before cs ds : List Char) :
    bareFrom inside before (cs ++ ds) =
      bareFrom inside before cs ++ bareFrom (endsInside inside cs) (before ++ cs) ds := by
  induction cs generalizing inside before with
  | nil => simp [bareFrom, endsInside]
  | cons c cs ih =>
    simp only [List.cons_append, bareFrom, endsInside, ih]
    split
    · simp
    · split <;> simp

/-- What stands before all of a text stands before each of its characters. -/
theorem bareFrom_before (inside : Bool) (front before cs : List Char) :
    bareFrom inside (front ++ before) cs =
      (bareFrom inside before cs).map fun m => (front ++ m.1, m.2) := by
  induction cs generalizing inside before with
  | nil => rfl
  | cons c cs ih =>
    simp only [bareFrom, List.append_assoc, ih]
    split
    · rfl
    · split <;> simp

theorem Closed.append {s t : String} (hs : Closed s) (ht : Closed t) : Closed (s ++ t) := by
  rw [Closed, String.toList_append, endsInside_append, hs, ht]

theorem bare_append {s : String} (hs : Closed s) (t : String) :
    bare (s ++ t) = bare s ++ (bare t).map fun m => (s ++ m.1, m.2) := by
  have hafter := bareFrom_before false s.toList [] t.toList
  rw [List.append_nil] at hafter
  rw [bare, String.toList_append, bareFrom_append, hs, List.nil_append, hafter, List.map_append,
    List.map_map, bare, bare, List.map_map]
  congr 2
  funext m
  simp

/-! ## Placeholders -/

/-- The texts before the placeholders of a text, which are its bare question marks. -/
def placeholders (t : String) : List String :=
  (bare t).filterMap fun m => if m.2 = '?' then some m.1 else none

theorem placeholders_append {s : String} (hs : Closed s) (t : String) :
    placeholders (s ++ t) = placeholders s ++ (placeholders t).map fun before => s ++ before := by
  rw [placeholders, bare_append hs, List.filterMap_append, List.filterMap_map, placeholders,
    placeholders, List.map_filterMap]
  congr 2
  funext m
  simp only [Function.comp_apply]
  split <;> rfl

/-! ## Fragments -/

/-- What ends a statement, and what begins texts, comments and escapes or breaks a line. -/
def dangerous : List Char := [';', '\'', '`', '-', '/', '\\', '\x00', '\n', '\r']

/-- The text has neither double quotes nor excluded characters. -/
def Plain (excluded : List Char) (t : String) : Prop := ∀ c ∈ t.toList, c ≠ '"' ∧ c ∉ excluded

-- The text's characters are checked, not all the characters there are.
instance (excluded : List Char) (t : String) : Decidable (Plain excluded t) :=
  List.decidableBAll _ _

/-- A part of a statement in the style of names: it is closed, the excluded characters stand in it
in quoted names only, and there are no such names when names are folded. -/
structure Fragment (style : NameStyle) (excluded : List Char) (t : String) : Prop where
  closed : Closed t
  bare_not_mem : ∀ m ∈ bare t, m.2 ∉ excluded
  unquoted : style = .folded → '"' ∉ t.toList

namespace Fragment

private theorem bareFrom_plain {cs : List Char} (h : ∀ c ∈ cs, c ≠ '"' ∧ c ∉ excluded)
    (before : List Char) :
    (∀ m ∈ bareFrom false before cs, m.2 ∉ excluded) ∧ endsInside false cs = false := by
  induction cs generalizing before with
  | nil => simp [bareFrom, endsInside]
  | cons c cs ih =>
    obtain ⟨⟨hquote, hc⟩, hcs⟩ := List.forall_mem_cons.mp h
    simpa [bareFrom, endsInside, hquote, hc] using ih hcs (before ++ [c])

theorem plain {t : String} (h : Plain excluded t) : Fragment style excluded t where
  closed := (bareFrom_plain h []).2
  bare_not_mem := by
    intro m hm
    obtain ⟨n, hn, rfl⟩ := List.mem_map.mp hm
    exact (bareFrom_plain h []).1 n hn
  unquoted := fun _ hquote => (h _ hquote).1 rfl

theorem append {s t : String} (hs : Fragment style excluded s) (ht : Fragment style excluded t) :
    Fragment style excluded (s ++ t) where
  closed := hs.closed.append ht.closed
  bare_not_mem := by
    rw [bare_append hs.closed]
    intro m hm
    rcases List.mem_append.mp hm with hm | hm
    · exact hs.bare_not_mem m hm
    · obtain ⟨n, hn, rfl⟩ := List.mem_map.mp hm
      exact ht.bare_not_mem n hn
  unquoted := by
    intro hstyle
    rw [String.toList_append, List.mem_append, not_or]
    exact ⟨hs.unquoted hstyle, ht.unquoted hstyle⟩

theorem following {separator : String} (hseparator : Fragment style excluded separator)
    {text : α → String} {xs : List α} (h : ∀ x ∈ xs, Fragment style excluded (text x)) :
    Fragment style excluded (following separator text xs) := by
  induction xs with
  | nil => exact plain (by simp [Plain, RowFerry.following])
  | cons x xs ih =>
    obtain ⟨hx, hxs⟩ := List.forall_mem_cons.mp h
    exact hseparator.append (hx.append (ih hxs))

theorem series {lead separator : String} (hlead : Fragment style excluded lead)
    (hseparator : Fragment style excluded separator) {text : α → String} {xs : List α}
    (h : ∀ x ∈ xs, Fragment style excluded (text x)) :
    Fragment style excluded (series lead separator text xs) := by
  cases xs with
  | nil => exact plain (by simp [Plain, RowFerry.series])
  | cons x xs =>
    obtain ⟨hx, hxs⟩ := List.forall_mem_cons.mp h
    exact hlead.append (hx.append (following hseparator hxs))

theorem mono {t : String} {fewer : List Char} (h : Fragment style excluded t)
    (hsub : fewer ⊆ excluded) :
    Fragment style fewer t :=
  ⟨h.closed, fun m hm hmem => h.bare_not_mem m hm (hsub hmem), h.unquoted⟩

theorem placeholders_eq_nil {t : String} (h : Fragment style excluded t) (hmark : '?' ∈ excluded) :
    placeholders t = [] := by
  rw [placeholders, List.filterMap_eq_nil_iff]
  intro m hm
  have hne : m.2 ≠ '?' := fun heq => h.bare_not_mem m hm (heq ▸ hmark)
  simp [hne]

end Fragment

end RowFerry
