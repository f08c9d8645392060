import Mathlib.Algebra.Group.Nat.Defs
import RowFerry.Text.Digits
import RowFerry.Text.Lists
import RowFerry.Unicode.WhiteSpace

/-!
Numerals and what they are read as. A numeral, with zeros before it or not, has nothing but digits
and is read as its number; a field that is wide enough has exactly its width. No digit is white
space, so trimming leaves numerals and everything that is written with them as they are.
-/

namespace RowFerry.Text

/-- There are only digits in the list. -/
def AllDigits (cs : List Char) : Prop := ∀ c ∈ cs, c.isDigit = true

theorem AllDigits.append {cs ds : List Char} (hcs : AllDigits cs) (hds : AllDigits ds) :
    AllDigits (cs ++ ds) := fun c hc => (List.mem_append.mp hc).elim (hcs c) (hds c)

/-! ## Numbers -/

/-- The number that digits make of the one that those before them make. -/
def digitsOn (n : Nat) (cs : List Char) : Nat := cs.foldl (fun n c => n * 10 + digitValue c) n

theorem le_digitsOn (n : Nat) (cs : List Char) : n ≤ digitsOn n cs := by
  induction cs generalizing n with
  | nil => exact Nat.le_refl n
  | cons c cs ih =>
    have hstep : n ≤ n * 10 + digitValue c := by omega
    exact Nat.le_trans hstep (ih _)

theorem ofDigits_append (cs ds : List Char) : ofDigits (cs ++ ds) = digitsOn (ofDigits cs) ds :=
  List.foldl_append

theorem ofDigits_eq (cs : List Char) : ofDigits cs = Nat.ofDigitChars 10 cs 0 := by
  rw [Nat.ofDigitChars_eq_foldl]
  simp only [ofDigits, digitValue, Nat.mul_comm 10]

theorem numeral_digits (n : Nat) : AllDigits (numeral n) := fun _ hc =>
  Nat.isDigit_of_mem_toDigits (by decide) (by decide) hc

theorem numeral_ne_nil (n : Nat) : numeral n ≠ [] := Nat.toDigits_ne_nil

theorem ofDigits_numeral (n : Nat) : ofDigits (numeral n) = n := by
  rw [ofDigits_eq]
  exact Nat.ofDigitChars_ten_toDigits

theorem padded_digits (width n : Nat) : AllDigits (padded width n) := by
  refine AllDigits.append (fun c hc => ?_) (numeral_digits n)
  rw [List.eq_of_mem_replicate hc]
  decide

theorem ofDigits_padded (width n : Nat) : ofDigits (padded width n) = n := by
  have hzeros (k : Nat) : ofDigits (List.replicate k '0') = 0 := by
    rw [ofDigits_eq, Nat.ofDigitChars_replicate_zero, Nat.mul_zero]
  rw [padded, ofDigits_append, hzeros]
  exact ofDigits_numeral n

theorem length_padded (width n : Nat) : (padded width n).length = max width (numeral n).length := by
  rw [padded, List.length_append, List.length_replicate]
  omega

theorem length_padded_of_lt {width n : Nat} (hwidth : 0 < width) (h : n < 10 ^ width) :
    (padded width n).length = width := by
  rw [length_padded, Nat.max_eq_left]
  exact (Nat.length_toDigits_le_iff (by decide) hwidth).mpr h

theorem padded_ne_nil (width n : Nat) : padded width n ≠ [] := by
  intro h
  exact numeral_ne_nil n (List.append_eq_nil_iff.mp h).2

/-! ## Marks and white space -/

/-- No digit is a sign. -/
theorem digit_not_sign {c : Char} (h : c.isDigit = true) : c ≠ '-' ∧ c ≠ '+' := by
  constructor <;> (rintro rfl; revert h; decide)

theorem digit_not_blank {c : Char} (h : c.isDigit = true) : Unicode.isWhiteSpace c = false := by
  have hrange : 48 ≤ c.toNat ∧ c.toNat ≤ 57 := by
    simpa [Char.isDigit, UInt32.le_iff_toNat_le] using h
  simp only [Unicode.isWhiteSpace, Unicode.whiteSpaceEnds, Unicode.memEnds, Bool.and_eq_false_iff,
    Bool.or_eq_false_iff, decide_eq_false_iff_not]
  omega

/-- An unsigned number is read by its digits. -/
theorem integer?_digits {low high : Int} {ds : List Char} (hne : ds ≠ []) (hds : AllDigits ds)
    (hlow : low ≤ ofDigits ds) (hhigh : (ofDigits ds : Int) ≤ high) :
    integer? low high ds = some (ofDigits ds : Int) := by
  have hall : ds.all Char.isDigit = true := List.all_eq_true.mpr hds
  obtain ⟨c, cs, rfl⟩ := List.exists_cons_of_ne_nil hne
  obtain ⟨hminus, hplus⟩ := digit_not_sign (hds c (List.mem_cons_self ..))
  unfold integer?
  split
  next negative ds hsplit =>
    obtain ⟨rfl, rfl⟩ : negative = false ∧ c :: cs = ds := by simpa [hminus, hplus] using hsplit
    simp [hall, hlow, hhigh]

/-- A negative one by those after its sign. -/
theorem integer?_minus {low high : Int} {ds : List Char} (hne : ds ≠ []) (hds : AllDigits ds)
    (hlow : low ≤ -(ofDigits ds : Int)) (hhigh : -(ofDigits ds : Int) ≤ high) :
    integer? low high ('-' :: ds) = some (-(ofDigits ds : Int)) := by
  have hall : ds.all Char.isDigit = true := List.all_eq_true.mpr hds
  simp [integer?, hne, hall, hlow, hhigh]

/-- The integer that a text spells: digits, with or without a sign. -/
inductive Spells : List Char → Int → Prop where
  | unsigned {ds : List Char} (hne : ds ≠ []) (hds : AllDigits ds) : Spells ds (ofDigits ds)
  | plus {ds : List Char} (hne : ds ≠ []) (hds : AllDigits ds) : Spells ('+' :: ds) (ofDigits ds)
  | minus {ds : List Char} (hne : ds ≠ []) (hds : AllDigits ds) :
    Spells ('-' :: ds) (-(ofDigits ds : Int))

/-- A text is read as the integer that it spells, if that lies within the bounds. -/
theorem integer?_eq_some_iff {low high i : Int} {cs : List Char} :
    integer? low high cs = some i ↔ Spells cs i ∧ low ≤ i ∧ i ≤ high := by
  constructor
  · intro h
    unfold integer? at h
    split at h
    next negative ds hsplit =>
      obtain ⟨hdigits, hbounds, rfl⟩ : (ds ≠ [] ∧ AllDigits ds) ∧ (low ≤ i ∧ i ≤ high) ∧
          (if negative then -(ofDigits ds : Int) else ofDigits ds) = i := by
        by_cases hread : ds.isEmpty || !ds.all Char.isDigit
        · simp [hread] at h
        · simp only [hread] at h
          grind [AllDigits]
      refine ⟨?_, hbounds⟩
      split at hsplit <;> cases hsplit
      · exact .minus hdigits.1 hdigits.2
      · exact .plus hdigits.1 hdigits.2
      · exact .unsigned hdigits.1 hdigits.2
  · rintro ⟨hspells, hlow, hhigh⟩
    cases hspells with
    | unsigned hne hds => exact integer?_digits hne hds hlow hhigh
    | plus hne hds =>
      have hall := List.all_eq_true.mpr hds
      simp [integer?, hne, hall, hlow, hhigh]
    | minus hne hds => exact integer?_minus hne hds hlow hhigh

theorem integer?_signedNumeral {low high i : Int} (hlow : low ≤ i) (hhigh : i ≤ high) :
    integer? low high (signedNumeral i) = some i := by
  have hvalue := ofDigits_numeral i.natAbs
  rcases Int.lt_or_le i 0 with hneg | hpos
  · have hi : -((i.natAbs : Nat) : Int) = i := by omega
    rw [signedNumeral, if_pos hneg, integer?_minus (numeral_ne_nil _) (numeral_digits _),
      hvalue, hi]
    · rwa [hvalue, hi]
    · rwa [hvalue, hi]
  · have hi : ((i.natAbs : Nat) : Int) = i := by omega
    rw [signedNumeral, if_neg (by omega), integer?_digits (numeral_ne_nil _) (numeral_digits _),
      hvalue, hi]
    · rwa [hvalue, hi]
    · rwa [hvalue, hi]

/-! ## Trimming -/

/-- There is no white space in the list. -/
def NoBlanks (cs : List Char) : Prop := ∀ c ∈ cs, Unicode.isWhiteSpace c = false

theorem AllDigits.noBlanks {cs : List Char} (h : AllDigits cs) : NoBlanks cs := fun c hc =>
  digit_not_blank (h c hc)

theorem NoBlanks.append {cs ds : List Char} (hcs : NoBlanks cs) (hds : NoBlanks ds) :
    NoBlanks (cs ++ ds) := fun c hc => (List.mem_append.mp hc).elim (hcs c) (hds c)

theorem NoBlanks.cons {c : Char} {cs : List Char} (hc : Unicode.isWhiteSpace c = false)
    (hcs : NoBlanks cs) : NoBlanks (c :: cs) := List.forall_mem_cons.mpr ⟨hc, hcs⟩

/-- A text is not trimmed that has no white space at its ends. -/
theorem trimBy_eq_self {p : Char → Bool} {cs : List Char} (hhead : ∀ c ∈ cs.head?, p c = false)
    (hlast : ∀ c ∈ cs.getLast?, p c = false) : trimBy p cs = cs := by
  have hdrop {ds : List Char} (h : ∀ c ∈ ds.head?, p c = false) : ds.dropWhile p = ds := by
    cases ds with
    | nil => rfl
    | cons c ds => rw [List.dropWhile_cons_of_neg]; simpa using h c rfl
  rw [trimBy, hdrop hhead, hdrop (by rwa [List.head?_reverse]), List.reverse_reverse]

theorem NoBlanks.trim {cs : List Char} (h : NoBlanks cs) : trimBy Unicode.isWhiteSpace cs = cs :=
  trimBy_eq_self (fun c hc => h c (List.mem_of_mem_head? hc)) fun c hc =>
    h c (List.mem_of_getLast? hc)

/-- White space between two parts is kept. -/
theorem NoBlanks.trim_between {cs ds : List Char} (hcs : NoBlanks cs)
    (hds : NoBlanks ds) (hleft : cs ≠ []) (hright : ds ≠ []) (c : Char) :
    trimBy Unicode.isWhiteSpace (cs ++ c :: ds) = cs ++ c :: ds := by
  obtain ⟨a, cs, rfl⟩ := List.exists_cons_of_ne_nil hleft
  obtain ⟨b, ds, rfl⟩ := List.exists_cons_of_ne_nil hright
  refine trimBy_eq_self (fun d hd => hcs d ?_) fun d hd => hds d (List.mem_of_getLast? ?_)
  · obtain rfl : a = d := by simpa using hd
    exact List.mem_cons_self ..
  · rw [List.getLast?_append, List.getLast?_cons_cons, List.getLast?_cons, Option.some_or] at hd
    rwa [List.getLast?_cons]

end RowFerry.Text
