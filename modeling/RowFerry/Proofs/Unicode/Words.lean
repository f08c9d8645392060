import RowFerry.Proofs.Unicode.Upper

/-!
Which plain words have an upper-case form that is a plain word again. All but a few letters have
forms made of letters; the exceptions are written with a combining mark in upper case, and a mark is
neither a letter nor a number. The tables are checked run by run: nearly every run moves its code
points into a single range of letters.
-/

namespace RowFerry.Unicode

/-! ## Ranges of a class -/

/-- Do all code points from `low` to `high` lie in one range of the class? -/
def inOneRange (low high : Nat) : List Nat → Bool
  | start :: stop :: ends =>
    Nat.ble start low && (Nat.blt high stop || inOneRange low high ends)
  | _ => false

theorem memEnds_of_inOneRange {low high n : Nat} {ends : List Nat}
    (h : inOneRange low high ends = true) (hlow : low ≤ n) (hhigh : n ≤ high) :
    memEnds ends n = true := by
  fun_induction inOneRange low high ends with
  | case1 start stop ends ih =>
    simp only [Bool.and_eq_true, Bool.or_eq_true, Nat.ble_eq, Nat.blt_eq] at h
    obtain ⟨hstart, hrest⟩ := h
    have hn : start ≤ n := by omega
    simp only [memEnds, hn, decide_true, Bool.true_and, Bool.or_eq_true, decide_eq_true_eq]
    rcases hrest with hstop | hlater
    · left
      omega
    · right
      exact ih hlater
  | case2 => cases h

/-! ## Letters -/

/-- Every form of the run is a letter: all of the stretch that the run moves to is, or else each
code point of the run is looked up. -/
def CaseRun.MovesToLetters (r : CaseRun) : Prop :=
  (r.highest < 0xD800 ∨ (0xE000 ≤ r.lowest ∧ r.highest < 0x110000)) ∧
    (inOneRange r.lowest r.highest alphabeticEnds = true ∨
      (0 ≤ r.first + r.shift ∧
        ∀ i ≤ r.last - r.first, i % r.step = 0 → memEnds alphabeticEnds (r.lowest + i) = true))

instance (r : CaseRun) : Decidable r.MovesToLetters :=
  inferInstanceAs (Decidable (_ ∧ _))

theorem caseRuns_letters : ∀ r ∈ caseRuns, r.MovesToLetters := by decide +kernel

theorem isAlphabetic_ofNat {n : Nat} (hvalid : n.isValidChar)
    (h : memEnds alphabeticEnds n = true) :
    isAlphabetic (Char.ofNat n) = true := by
  rw [isAlphabetic, Text.Utf8.toNat_ofNat hvalid]
  exact h

theorem isAlphabetic_shifted {r : CaseRun} (hr : r ∈ caseRuns) {n : Nat} (hfirst : r.first ≤ n)
    (hlast : n ≤ r.last) (hgrid : (n - r.first) % r.step = 0) :
    isAlphabetic (Char.ofNat (n + r.shift).toNat) = true := by
  obtain ⟨hvalid, hletters⟩ := caseRuns_letters r hr
  have hlow : r.lowest ≤ (n + r.shift).toNat := by
    rw [CaseRun.lowest]
    omega
  have hhigh : (n + r.shift).toNat ≤ r.highest := by
    rw [CaseRun.highest]
    omega
  apply isAlphabetic_ofNat
  · rcases hvalid with hbelow | ⟨habove, hbelow⟩
    · left
      omega
    · right
      constructor <;> omega
  · rcases hletters with hrange | ⟨hpositive, heach⟩
    · exact memEnds_of_inOneRange hrange hlow hhigh
    · have hform := heach (n - r.first) (by omega) hgrid
      have hmove : r.lowest + (n - r.first) = (n + r.shift).toNat := by
        rw [CaseRun.lowest]
        omega
      rwa [hmove] at hform

/-! ## Forms with a combining mark -/

/-- The letters whose upper-case form has a combining mark in it. -/
def markedLetters : List Nat :=
  [
    0x1F0, 0x390, 0x3B0, 0x1E96, 0x1E97, 0x1E98, 0x1E99, 0x1F50, 0x1F52, 0x1F54, 0x1F56, 0x1FB6,
    0x1FB7, 0x1FC6, 0x1FC7, 0x1FD2, 0x1FD3, 0x1FD6, 0x1FD7, 0x1FE2, 0x1FE3, 0x1FE4, 0x1FE6, 0x1FE7,
    0x1FF6, 0x1FF7
  ]

/-- Longer forms begin with a letter, and go on as a word does unless a mark is in them. -/
theorem caseExpansions_words : ∀ e ∈ caseExpansions,
    (e.2.head?.any fun n => startsWord (Char.ofNat n)) = true ∧
      (e.2.all fun n => continuesWord (Char.ofNat n)) =
        !markedLetters.contains e.1 := by decide +kernel

theorem markedLetters_expand :
    ∀ n ∈ markedLetters, 0x80 ≤ n ∧ (caseExpansions.lookup n).isSome := by decide

/-- What the form of a character looks like: one character that is a letter or the character itself,
or an entry of the table. -/
theorem upperForm_cases {c : Char} (hc : 0x80 ≤ c.toNat) :
    (∃ form, (c.toNat, form) ∈ caseExpansions ∧ upperForm c = form.map Char.ofNat) ∨
      (c.toNat ∉ markedLetters ∧ ∃ d, upperForm c = [d] ∧ (d = c ∨ isAlphabetic d = true)) := by
  unfold upperForm
  rw [if_neg (by omega)]
  cases hlookup : caseExpansions.lookup c.toNat with
  | some form =>
    left
    obtain ⟨before, after, htable, -⟩ := List.lookup_eq_some_iff.mp hlookup
    exact ⟨form, by simp [htable], rfl⟩
  | none =>
    right
    constructor
    · intro hmarked
      have hsome := (markedLetters_expand _ hmarked).2
      simp [hlookup] at hsome
    · refine ⟨_, rfl, ?_⟩
      obtain hself | ⟨r, hr, hfirst, hlast, hgrid, hshift⟩ := shiftedBy_cases caseRuns c.toNat
      · left
        rw [hself, Char.ofNat_toNat]
      · right
        rw [hshift]
        exact isAlphabetic_shifted hr hfirst hlast hgrid

/-- The form of a character of a word goes on as a word exactly when no mark is in it. -/
theorem upperForm_continues_iff {c : Char} (hc : continuesWord c = true) :
    (∀ d ∈ upperForm c, continuesWord d = true) ↔ c.toNat ∉ markedLetters := by
  by_cases hascii : c.toNat < 0x80
  · have hform : upperForm c = [c.toUpper] := by rw [upperForm, if_pos hascii]
    have hupper := (asciiForm hascii).continues hc
    have hmarked : c.toNat ∉ markedLetters := by
      intro hmem
      have hbeyond := (markedLetters_expand _ hmem).1
      omega
    simp [hform, hupper, hmarked]
  · rcases upperForm_cases (Nat.le_of_not_lt hascii) with ⟨form, hentry,
      hform⟩ | ⟨hmarked, d, hform, hd⟩
    · have hwords := (caseExpansions_words _ hentry).2
      rw [hform]
      cases hmarked : markedLetters.contains c.toNat <;> simp_all
    · have hword : continuesWord d = true := by
        rcases hd with rfl | hletter
        · exact hc
        · simp [continuesWord, hletter]
      simp [hform, hword, hmarked]

/-- The form of a character that begins words begins as a word does. -/
theorem upperForm_starts {c : Char} (hc : startsWord c = true) :
    ∃ d ds, upperForm c = d :: ds ∧ startsWord d = true := by
  by_cases hascii : c.toNat < 0x80
  · exact ⟨c.toUpper, [], by rw [upperForm, if_pos hascii], (asciiForm hascii).starts hc⟩
  · rcases upperForm_cases (Nat.le_of_not_lt hascii) with ⟨form, hentry, hform⟩ | ⟨-, d, hform, hd⟩
    · have hfirst := (caseExpansions_words _ hentry).1
      rw [hform]
      cases form with
      | nil => simp at hfirst
      | cons n ns => exact ⟨_, _, rfl, by simpa using hfirst⟩
    · refine ⟨d, [], hform, ?_⟩
      rcases hd with rfl | hletter
      · exact hc
      · simp [startsWord, hletter]

/-! ## Words -/

/-- The form of a word is a word exactly when no letter of it is written
with a mark in upper case. -/
theorem upper_isPlainWord_iff {t : String} (h : isPlainWord t.toList = true) :
    isPlainWord (upper t).toList = true ↔ ∀ c ∈ t.toList, c.toNat ∉ markedLetters := by
  have hcontinues := plainWord_continues h
  rw [toList_upper]
  cases hchars : t.toList with
  | nil =>
    rw [hchars] at h
    cases h
  | cons c cs =>
    rw [hchars] at h hcontinues
    rw [isPlainWord, Bool.and_eq_true] at h
    obtain ⟨hstart, -⟩ := h
    obtain ⟨d, ds, hform, hd⟩ := upperForm_starts hstart
    have hall : isPlainWord ((c :: cs).flatMap upperForm) = true ↔
        ∀ e ∈ (c :: cs).flatMap upperForm, continuesWord e = true := by
      rw [List.flatMap_cons, hform, List.cons_append, isPlainWord, hd,
        Bool.true_and, List.all_eq_true, List.forall_mem_cons]
      exact (and_iff_right (startsWord_continues hd)).symm
    rw [hall]
    constructor
    · intro hwords x hx
      refine (upperForm_continues_iff (hcontinues x hx)).mp fun e he => ?_
      exact hwords e (List.mem_flatMap.mpr ⟨x, hx, he⟩)
    · intro hunmarked e he
      obtain ⟨x, hx, hform⟩ := List.mem_flatMap.mp he
      exact (upperForm_continues_iff (hcontinues x hx)).mpr (hunmarked x hx) e hform

end RowFerry.Unicode
