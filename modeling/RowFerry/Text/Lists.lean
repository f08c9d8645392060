/-!
Lists of texts and characters: joining with a separator, trimming, cutting at a character.
-/

namespace RowFerry.Text

/-- The texts in order with the separator between neighbours. -/
def joinWith (separator : String) : List String → String
  | [] => ""
  | [t] => t
  | t :: u :: ts => t ++ separator ++ joinWith separator (u :: ts)

/-- The characters left when those of a class are dropped at both ends. -/
def trimBy (p : Char → Bool) (cs : List Char) : List Char :=
  ((cs.dropWhile p).reverse.dropWhile p).reverse

/-- What stands before and after the first occurrence of a character. -/
def cutAt (c : Char) : List Char → Option (List Char × List Char)
  | [] => none
  | d :: ds => if d = c then some ([], ds) else (cutAt c ds).map fun p => (d :: p.1, p.2)

theorem cutAt_eq_some_iff {c : Char} {cs before after : List Char} :
    cutAt c cs = some (before, after) ↔ cs = before ++ c :: after ∧ c ∉ before := by
  induction cs generalizing before after with
  | nil => simp [cutAt]
  | cons d ds ih =>
    rw [cutAt]
    by_cases h : d = c
    · cases before with
      | nil => simp [h]
      | cons b before =>
        have hfirst : c = b → c ∈ b :: before := fun hb => hb ▸ List.mem_cons_self
        simp only [h, if_true, Option.some.injEq, Prod.mk.injEq, List.nil_eq, List.cons_append,
          List.cons.injEq, reduceCtorEq, false_and, false_iff]
        exact fun hcons => hcons.2 (hfirst hcons.1.1)
    · cases before with
      | nil => simp [h]
      | cons b before =>
        simp only [h, if_false, Option.map_eq_some_iff, Prod.mk.injEq,
          List.cons.injEq, Prod.exists, ih, List.cons_append, List.mem_cons, not_or]
        constructor
        · rintro ⟨_, _, ⟨hds, hc⟩, ⟨rfl, rfl⟩, rfl⟩
          exact ⟨⟨rfl, hds⟩, fun hcd => h hcd.symm, hc⟩
        · rintro ⟨⟨rfl, hds⟩, -, hc⟩
          exact ⟨before, after, ⟨hds, hc⟩, ⟨rfl, rfl⟩, rfl⟩

/-- What is left of a text after it began with another. -/
def dropLead : List Char → List Char → Option (List Char)
  | [], ds => some ds
  | _ :: _, [] => none
  | c :: cs, d :: ds => if c = d then dropLead cs ds else none

theorem dropLead_eq_some_iff {lead cs rest : List Char} : dropLead lead cs = some rest ↔
    cs = lead ++ rest := by
  induction lead generalizing cs with
  | nil => simp [dropLead]
  | cons c lead ih =>
    cases cs with
    | nil => simp [dropLead]
    | cons d cs =>
      rw [dropLead, List.cons_append, List.cons.injEq]
      split <;> simp_all [eq_comm]

theorem dropLead_append (lead rest : List Char) : dropLead lead (lead ++ rest) = some rest :=
  dropLead_eq_some_iff.mpr rfl

theorem dropLead_le {lead cs rest : List Char} (h : dropLead lead cs = some rest) :
    rest.length ≤ cs.length := by
  rw [dropLead_eq_some_iff.mp h, List.length_append]
  omega

/-- Does the first text occur within the second? -/
def occursIn (part : List Char) : List Char → Bool
  | [] => part.isEmpty
  | d :: ds => (dropLead part (d :: ds)).isSome || occursIn part ds

/-- What stands before the first occurrence of a text; all of it when there is none. -/
def beforeFirst (part : List Char) : List Char → List Char
  | [] => []
  | d :: ds => if (dropLead part (d :: ds)).isSome then [] else d :: beforeFirst part ds

/-- The character written `n` times. -/
def times (n : Nat) (c : Char) : List Char := List.replicate n c

end RowFerry.Text
