import RowFerry.Proofs.Sql.Folding

/-!
Upper-case forms stay as they are when they are upper-cased again. The tables are checked entry by
entry: a run moves its code points to a stretch that no entry of the tables meets, and a longer form
is made of characters that are their own forms.
-/

namespace RowFerry.Unicode

/-- No code point from `low` to `high` lies in one of the ascending runs. When they are spaced, only
every second code point counts, from `low` on. -/
def clearOf (low high : Nat) (spaced : Bool) : List CaseRun → Bool
  | [] => true
  | r :: rs =>
    Nat.blt high r.first ||
      ((Nat.blt r.last low || (spaced && r.step == 2 && (low + r.first) % 2 == 1)) &&
        clearOf low high spaced rs)

theorem shiftedBy_clearOf {low high n : Nat} {spaced : Bool} {rs : List CaseRun}
    (h : clearOf low high spaced rs = true) (hlow : low ≤ n) (hhigh : n ≤ high)
    (hspaced : spaced = true → (n - low) % 2 = 0) : shiftedBy rs n = n := by
  induction rs with
  | nil => rfl
  | cons r rs ih =>
    simp only [clearOf, Bool.or_eq_true, Bool.and_eq_true, Nat.blt_eq, beq_iff_eq] at h
    unfold shiftedBy
    by_cases hfirst : n < r.first
    · rw [if_pos hfirst]
    · obtain hafter | ⟨houtside, hrest⟩ := h
      · omega
      · have hmiss : ¬(n ≤ r.last ∧ (n - r.first) % r.step = 0) := by
          rintro ⟨hlast, hgrid⟩
          obtain hbefore | ⟨⟨heven, htwo⟩, hodd⟩ := houtside
          · omega
          · have := hspaced heven
            rw [htwo] at hgrid
            omega
        rw [if_neg hfirst, if_neg (by simpa using hmiss), ih hrest]

namespace CaseRun

/-- The form of the first code point. -/
def lowest (r : CaseRun) : Nat := (r.first + r.shift).toNat

/-- The form of the last code point. -/
def highest (r : CaseRun) : Nat := (r.last + r.shift).toNat

/-- Is only every second code point between these two a form of the run? -/
def spaced (r : CaseRun) : Bool := r.first == r.last || r.step == 2

/-- Forms beyond ASCII that are characters. -/
def beyondAscii (r : CaseRun) : Bool :=
  Nat.ble 0x80 r.lowest && (Nat.blt r.highest 0xD800 ||
    (Nat.ble 0xE000 r.lowest && Nat.blt r.highest 0x110000))

/-- No form of the run has another form: the stretch that the run moves to is met by no entry of the
tables. -/
@[mk_iff]
structure Settled (r : CaseRun) : Prop where
  valid : r.beyondAscii = true ∨
    (r.first = r.last ∧ upperForm (Char.ofNat r.lowest) = [Char.ofNat r.lowest])
  clear : clearOf r.lowest r.highest r.spaced caseRuns = true
  short : caseExpansions.all (fun e => Nat.blt e.1 r.lowest || Nat.blt r.highest e.1) = true

instance (r : CaseRun) : Decidable r.Settled := decidable_of_iff _ (settled_iff r).symm

end CaseRun

theorem caseRuns_settled : ∀ r ∈ caseRuns, r.last < 0x80 ∨ r.Settled := by decide +kernel

theorem caseExpansions_fixed :
    ∀ e ∈ caseExpansions, ∀ n ∈ e.2, upperForm (Char.ofNat n) = [Char.ofNat n] := by decide +kernel

/-- A code point beyond ASCII in no entry of the tables is its own form. -/
theorem upperForm_ofNat {n : Nat} (hvalid : n.isValidChar) (hn : 0x80 ≤ n)
    (hlong : ∀ e ∈ caseExpansions, e.1 ≠ n) (hrun : shiftedBy caseRuns n = n) :
    upperForm (Char.ofNat n) = [Char.ofNat n] := by
  have hlookup : caseExpansions.lookup n = none := by
    rw [List.lookup_eq_none_iff]
    intro e he
    simpa using (hlong e he).symm
  rw [upperForm, Text.Utf8.toNat_ofNat hvalid, if_neg (by omega), hlookup, hrun]

theorem upperForm_shifted {r : CaseRun} (hr : r ∈ caseRuns) {n : Nat} (hn : 0x80 ≤ n)
    (hfirst : r.first ≤ n) (hlast : n ≤ r.last) (hgrid : (n - r.first) % r.step = 0) :
    upperForm (Char.ofNat (n + r.shift).toNat) = [Char.ofNat (n + r.shift).toNat] := by
  obtain hascii | ⟨hbeyond | ⟨hsingle, hform⟩, hclear, hshort⟩ := caseRuns_settled r hr
  · omega
  · simp only [CaseRun.beyondAscii, CaseRun.lowest, CaseRun.highest,
      Bool.and_eq_true, Bool.or_eq_true, Nat.ble_eq, Nat.blt_eq] at hbeyond
    have hlow : r.lowest ≤ (n + r.shift).toNat := by
      rw [CaseRun.lowest]
      omega
    have hhigh : (n + r.shift).toNat ≤ r.highest := by
      rw [CaseRun.highest]
      omega
    refine upperForm_ofNat ?_ ?_ ?_ (shiftedBy_clearOf hclear hlow hhigh ?_)
    · obtain ⟨-, hbelow | ⟨habove, hbelow⟩⟩ := hbeyond
      · exact .inl (by omega)
      · exact .inr ⟨by omega, by omega⟩
    · omega
    · intro e he heq
      have hmiss := List.all_eq_true.mp hshort e he
      simp only [Bool.or_eq_true, Nat.blt_eq] at hmiss
      omega
    · intro hspaced
      simp only [CaseRun.spaced, Bool.or_eq_true, beq_iff_eq] at hspaced
      rw [CaseRun.lowest]
      obtain hsingle | htwo := hspaced
      · omega
      · rw [htwo] at hgrid
        omega
  · have heq : n = r.first := by omega
    rw [heq]
    exact hform

/-- The characters of an upper-case form are their own forms. -/
theorem upperForm_fixed {c d : Char} (hd : d ∈ upperForm c) : upperForm d = [d] := by
  unfold upperForm at hd
  split at hd
  next hlt =>
    rw [List.mem_singleton.mp hd]
    exact (asciiForm hlt).fixed
  next hge =>
    split at hd
    next form hlookup =>
      obtain ⟨before, after, htable, -⟩ := List.lookup_eq_some_iff.mp hlookup
      obtain ⟨n, hn, rfl⟩ := List.mem_map.mp hd
      exact caseExpansions_fixed (c.toNat, form) (by simp [htable]) n hn
    next hlookup =>
      rw [List.mem_singleton.mp hd]
      obtain hself | ⟨r, hr, hfirst, hlast, hgrid, hshift⟩ := shiftedBy_cases caseRuns c.toNat
      · rw [hself, Char.ofNat_toNat, upperForm, if_neg hge, hlookup, hself, Char.ofNat_toNat]
      · rw [hshift]
        exact upperForm_shifted hr (Nat.le_of_not_lt hge) hfirst hlast hgrid

/-! ## Texts -/

theorem upper_append (s t : String) : upper (s ++ t) = upper s ++ upper t := by
  simp [upper, String.ofList_append]

@[simp] theorem toList_upper (t : String) : (upper t).toList = t.toList.flatMap upperForm := by
  rw [upper, String.toList_ofList]

theorem upper_eq_self {t : String} (h : ∀ c ∈ t.toList, upperForm c = [c]) : upper t = t := by
  have hforms : t.toList.flatMap upperForm = t.toList := by
    generalize t.toList = cs at h
    induction cs with
    | nil => rfl
    | cons c cs ih =>
      rw [List.forall_mem_cons] at h
      rw [List.flatMap_cons, h.1, ih h.2, List.singleton_append]
  rw [upper, hforms, String.ofList_toList]

theorem upper_upper (t : String) : upper (upper t) = upper t := by
  refine upper_eq_self fun d hd => ?_
  rw [toList_upper] at hd
  obtain ⟨c, -, hform⟩ := List.mem_flatMap.mp hd
  exact upperForm_fixed hform

theorem upper_eq_empty_iff {t : String} : upper t = "" ↔ t = "" := by
  rw [← String.toList_eq_nil_iff, toList_upper, ← String.toList_eq_nil_iff, List.flatMap_eq_nil_iff]
  constructor
  · intro h
    exact List.eq_nil_iff_forall_not_mem.mpr fun c hc => upperForm_ne_nil c (h c hc)
  · intro h
    simp [h]

end RowFerry.Unicode
