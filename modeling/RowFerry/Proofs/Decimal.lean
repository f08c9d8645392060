import Mathlib.Data.List.TakeWhile
import RowFerry.Number.Decimal
import RowFerry.Proofs.Text.Digits

/-!
Decimals are read as they were written, with all their places: as long as a decimal has room for its
digits, nothing of it is rounded.
-/

namespace RowFerry.Decimal

open Text

variable {ds whole fraction : List Char}

/-- A decimal with room for all its digits. -/
structure InRange (d : Decimal) : Prop where
  coefficient : d.coefficient.natAbs < limit
  scale : d.scale ≤ maxScale

instance (d : Decimal) : Decidable d.InRange :=
  decidable_of_iff (d.coefficient.natAbs < limit ∧ d.scale ≤ maxScale)
    ⟨fun h => ⟨h.1, h.2⟩, fun h => ⟨h.coefficient, h.scale⟩⟩

/-! ## Digits -/

/-- A digit for which there is room. -/
theorem Reading.ofChars?_digit {value scale : Nat} {point seen : Bool} {c : Char}
    (hc : c.isDigit = true) (hvalue : value * 10 + digitValue c < limit)
    (hroom : point = true → scale < maxScale) (cs : List Char) :
    ofChars? ⟨value, scale, point, seen⟩ (c :: cs) =
      ofChars? ⟨value * 10 + digitValue c, if point then scale + 1 else 0, point, true⟩ cs := by
  have hfull : ¬ (point && decide (maxScale ≤ scale)) = true := by
    simpa using hroom
  rw [ofChars?, if_neg hfull, if_pos hc]
  exact if_pos hvalue

theorem Reading.ofChars?_whole {value : Nat} (hds : AllDigits ds)
    (hvalue : digitsOn value ds < limit) (rest : List Char) :
    ofChars? ⟨value, 0, false, true⟩ (ds ++ rest) =
      ofChars? ⟨digitsOn value ds, 0, false, true⟩ rest := by
  induction ds generalizing value with
  | nil => rfl
  | cons c ds ih =>
    obtain ⟨hc, hds⟩ := List.forall_mem_cons.mp hds
    have hnext : value * 10 + digitValue c < limit := Nat.lt_of_le_of_lt (le_digitsOn _ ds) hvalue
    rw [List.cons_append, ofChars?_digit hc hnext (by simp),
      if_neg Bool.false_ne_true, ih hds hvalue]
    rfl

/-- The digits of a fraction are its places. -/
theorem Reading.ofChars?_places {value scale : Nat} (hds : AllDigits ds)
    (hvalue : digitsOn value ds < limit) (hplaces : scale + ds.length ≤ maxScale)
    (rest : List Char) :
    ofChars? ⟨value, scale, true, true⟩ (ds ++ rest) =
      ofChars? ⟨digitsOn value ds, scale + ds.length, true, true⟩ rest := by
  induction ds generalizing value scale with
  | nil => rfl
  | cons c ds ih =>
    obtain ⟨hc, hds⟩ := List.forall_mem_cons.mp hds
    rw [List.length_cons] at hplaces
    have hnext : value * 10 + digitValue c < limit := Nat.lt_of_le_of_lt (le_digitsOn _ ds) hvalue
    have hroom : scale < maxScale := by omega
    have hscale : scale + (ds.length + 1) = scale + 1 + ds.length := by omega
    rw [List.cons_append, ofChars?_digit hc hnext (fun _ => hroom), if_pos rfl,
      ih hds hvalue (by omega), List.length_cons, hscale]
    rfl

/-- A number begins with a digit. -/
theorem Reading.ofChars?_start (hne : ds ≠ []) (hds : AllDigits ds) (hvalue : ofDigits ds < limit)
    (rest : List Char) :
    ofChars? ⟨0, 0, false, false⟩ (ds ++ rest) = ofChars? ⟨ofDigits ds, 0, false, true⟩ rest := by
  obtain ⟨c, ds, rfl⟩ := List.exists_cons_of_ne_nil hne
  obtain ⟨hc, hds⟩ := List.forall_mem_cons.mp hds
  have hfirst : 0 * 10 + digitValue c < limit := Nat.lt_of_le_of_lt (le_digitsOn _ ds) hvalue
  rw [List.cons_append, ofChars?_digit hc hfirst (by simp), if_neg Bool.false_ne_true,
    ofChars?_whole hds hvalue]
  rfl

theorem magnitude?_plain {cs : List Char} (h : ∀ c ∈ cs, c ≠ 'e' ∧ c ≠ 'E') :
    magnitude? cs =
      (Reading.ofChars? ⟨0, 0, false, false⟩ cs).map fun r => (r.value, r.scale) := by
  have hnone : (cs.dropWhile fun c => !(c == 'e' || c == 'E')) = [] := by
    rw [List.dropWhile_eq_nil_iff]
    intro c hc
    simpa using h c hc
  rw [magnitude?]
  simp only [hnone]

theorem digit_not_exponent {c : Char} (h : c.isDigit = true) : c ≠ 'e' ∧ c ≠ 'E' := by
  constructor <;> (rintro rfl; revert h; decide)

/-! ## The point -/

/-- Digits with a point before those of the fraction, if there are any. -/
def pointed (whole fraction : List Char) : List Char :=
  if fraction.isEmpty then whole else whole ++ '.' :: fraction

theorem pointed_forall {P : Char → Prop} (hwhole : AllDigits whole) (hfraction : AllDigits fraction)
    (hdigit : ∀ c, c.isDigit = true → P c) (hpoint : P '.') :
    ∀ c ∈ pointed whole fraction, P c := by
  intro c hc
  rw [pointed] at hc
  split at hc
  next => exact hdigit c (hwhole c hc)
  next =>
    rcases List.mem_append.mp hc with hc | hc
    · exact hdigit c (hwhole c hc)
    · rcases List.mem_cons.mp hc with rfl | hc
      · exact hpoint
      · exact hdigit c (hfraction c hc)

theorem magnitude?_pointed (hne : whole ≠ []) (hwhole : AllDigits whole)
    (hfraction : AllDigits fraction) (hvalue : ofDigits (whole ++ fraction) < limit)
    (hplaces : fraction.length ≤ maxScale) :
    magnitude? (pointed whole fraction) = some (ofDigits (whole ++ fraction), fraction.length) := by
  have hplain : ∀ c ∈ pointed whole fraction, c ≠ 'e' ∧ c ≠ 'E' :=
    pointed_forall hwhole hfraction (fun _ => digit_not_exponent) (by decide)
  rw [ofDigits_append] at hvalue ⊢
  have hbefore := Reading.ofChars?_start hne hwhole
    (Nat.lt_of_le_of_lt (le_digitsOn _ fraction) hvalue)
  rw [magnitude?_plain hplain, pointed]
  by_cases hnone : fraction = []
  · subst hnone
    have hread := hbefore []
    rw [List.append_nil] at hread
    rw [List.isEmpty_nil, if_pos rfl, hread]
    rfl
  · have hpoint : Reading.ofChars? ⟨ofDigits whole, 0, false, true⟩ ('.' :: fraction) =
        Reading.ofChars? ⟨ofDigits whole, 0, true, true⟩ fraction := by
      rw [Reading.ofChars?]
      rfl
    have hroom : 0 + fraction.length ≤ maxScale := by omega
    have hafter := Reading.ofChars?_places hfraction hvalue hroom []
    rw [List.append_nil] at hafter
    rw [if_neg (by simpa using hnone), hbefore, hpoint, hafter]
    simp [Reading.ofChars?]

/-! ## Signs -/

theorem ofText?_unsigned {cs : List Char} (h : ∀ c ∈ cs.head?, c ≠ '-' ∧ c ≠ '+') :
    ofText? (String.ofList cs) = (magnitude? cs).map fun m => ⟨(m.1 : Int), m.2⟩ := by
  rw [ofText?, String.toList_ofList]
  split
  next negative ds hsplit =>
    obtain ⟨rfl, rfl⟩ : negative = false ∧ cs = ds := by
      cases cs with
      | nil => simpa using hsplit
      | cons c cs =>
        obtain ⟨hminus, hplus⟩ := h c rfl
        simpa [hminus, hplus] using hsplit
    rfl

theorem ofText?_minus (cs : List Char) :
    ofText? (String.ofList ('-' :: cs)) = (magnitude? cs).map fun m => ⟨-(m.1 : Int), m.2⟩ := by
  rw [ofText?, String.toList_ofList]
  rfl

/-- At least one digit stands before the point, and a digit after it for every place. -/
theorem text_eq (d : Decimal) : ∃ whole fraction, whole ≠ [] ∧ AllDigits whole ∧
    AllDigits fraction ∧
    ofDigits (whole ++ fraction) = d.coefficient.natAbs ∧ fraction.length = d.scale ∧
    d.text = String.ofList
      (if d.coefficient < 0 then '-' :: pointed whole fraction else pointed whole fraction) := by
  have hdigits := padded_digits (d.scale + 1) d.coefficient.natAbs
  have hlength := length_padded (d.scale + 1) d.coefficient.natAbs
  refine ⟨_, _, ?_, fun c hc => hdigits c (List.mem_of_mem_take hc),
    fun c hc => hdigits c (List.mem_of_mem_drop hc), ?_, ?_, rfl⟩
  · intro h
    have := congrArg List.length h
    rw [List.length_take, List.length_nil] at this
    omega
  · rw [List.take_append_drop, ofDigits_padded]
  · rw [List.length_drop]
    omega

/-- A decimal is read with the places it was written with. -/
theorem ofText?_text {d : Decimal} (h : d.InRange) : ofText? d.text = some d := by
  obtain ⟨whole, fraction, hne, hwhole, hfraction, hvalue, hplaces, htext⟩ := text_eq d
  have hread := magnitude?_pointed hne hwhole hfraction (hvalue ▸ h.coefficient) (hplaces ▸ h.scale)
  rw [hvalue, hplaces] at hread
  rw [htext]
  split
  next hneg =>
    have hsign : -((d.coefficient.natAbs : Nat) : Int) = d.coefficient := by omega
    rw [ofText?_minus, hread, Option.map_some, hsign]
  next hpos =>
    have hsign : ((d.coefficient.natAbs : Nat) : Int) = d.coefficient := by omega
    have hfirst : ∀ c ∈ (pointed whole fraction).head?, c ≠ '-' ∧ c ≠ '+' := fun c hc =>
      pointed_forall hwhole hfraction (fun _ => digit_not_sign) (by decide) c
        (List.mem_of_mem_head? hc)
    rw [ofText?_unsigned hfirst, hread, Option.map_some, hsign]

theorem text_noBlanks (d : Decimal) : NoBlanks d.text.toList := by
  obtain ⟨whole, fraction, -, hwhole, hfraction, -, -, htext⟩ := text_eq d
  have hpointed : NoBlanks (pointed whole fraction) :=
    pointed_forall hwhole hfraction (fun _ => digit_not_blank) (by decide)
  rw [htext, String.toList_ofList]
  split
  next => exact hpointed.cons (by decide)
  next => exact hpointed

end RowFerry.Decimal
