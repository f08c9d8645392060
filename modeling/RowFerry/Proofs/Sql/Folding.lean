import Mathlib.Tactic.MkIffOfInductiveProp
import RowFerry.Proofs.Text.Utf8
import RowFerry.Sql.Ident

/-!
Upper-casing keeps words: the form of a letter or number is made of ASCII letters and
digits and of characters beyond ASCII. So no upper-case form brings a character into a
statement that means something to the engine. The tables are checked run by run; what lies
in a run follows from its ends.
-/

namespace RowFerry.Unicode

/-- Is the character beyond ASCII, or may it stand in a plain word? -/
def KeepsWord (c : Char) : Prop := 0x80 ≤ c.toNat ∨ c.isAlphanum ∨ c = '_' ∨ c = '$' ∨ c = '#'

instance (c : Char) : Decidable (KeepsWord c) :=
  inferInstanceAs (Decidable (_ ∨ _))

theorem startsWord_continues {c : Char} (h : startsWord c = true) : continuesWord c = true := by
  simp only [startsWord, Bool.or_eq_true] at h
  rcases h with hletter | hscore <;> simp [continuesWord, *]

theorem plainWord_continues {cs : List Char} (h : isPlainWord cs = true) :
    ∀ c ∈ cs, continuesWord c = true := by
  cases cs with
  | nil => simp
  | cons c cs =>
    rw [isPlainWord, Bool.and_eq_true, List.all_eq_true] at h
    exact List.forall_mem_cons.mpr ⟨startsWord_continues h.1, h.2⟩

/-- Within a run that lies beyond ASCII, every form keeps words. -/
def CaseRun.KeepsWords (r : CaseRun) : Prop :=
  r.last < 0x80 ∨ (r.first = r.last ∧ KeepsWord (Char.ofNat (r.first + r.shift).toNat)) ∨
    (0x80 ≤ r.first + r.shift ∧ r.last + r.shift < 0xD800) ∨
    (0xE000 ≤ r.first + r.shift ∧ r.last + r.shift < 0x110000)

instance (r : CaseRun) : Decidable r.KeepsWords :=
  inferInstanceAs (Decidable (_ ∨ _))

theorem caseRuns_keepWords : ∀ r ∈ caseRuns, r.KeepsWords := by decide +kernel

theorem caseExpansions_keepWords :
    ∀ e ∈ caseExpansions, e.2 ≠ [] ∧ ∀ n ∈ e.2, KeepsWord (Char.ofNat n) := by decide

theorem shiftedBy_cases (rs : List CaseRun) (n : Nat) :
    shiftedBy rs n = n ∨
      ∃ r ∈ rs, r.first ≤ n ∧ n ≤ r.last ∧ (n - r.first) % r.step = 0 ∧
        shiftedBy rs n = (n + r.shift).toNat := by
  induction rs with
  | nil => exact .inl rfl
  | cons r rs ih =>
    unfold shiftedBy
    split
    · exact .inl rfl
    · split
      next hfirst hlast =>
        simp only [Bool.and_eq_true, decide_eq_true_eq, beq_iff_eq] at hlast
        exact .inr ⟨r, List.mem_cons_self, Nat.le_of_not_lt hfirst, hlast.1, hlast.2, rfl⟩
      next =>
        refine ih.imp_right ?_
        rintro ⟨r', hr', hrest⟩
        exact ⟨r', List.mem_cons_of_mem _ hr', hrest⟩

/-- What is checked of every ASCII code point holds of every ASCII character. -/
theorem ascii_forall {P : Char → Prop} (h : ∀ n < 0x80, P (Char.ofNat n)) {c : Char}
    (hc : c.toNat < 0x80) : P c := by
  have hform := h c.toNat hc
  rwa [Char.ofNat_toNat] at hform

/-- The ASCII form of a character is its own form, and it stands in words
wherever the character does. -/
@[mk_iff]
structure AsciiForm (c : Char) : Prop where
  fixed : upperForm c.toUpper = [c.toUpper]
  starts : startsWord c = true → startsWord c.toUpper = true
  continues : continuesWord c = true → continuesWord c.toUpper = true
  keepsWord : continuesWord c = true → KeepsWord c.toUpper

instance (c : Char) : Decidable (AsciiForm c) := decidable_of_iff _ (asciiForm_iff c).symm

theorem asciiForm {c : Char} (hc : c.toNat < 0x80) : AsciiForm c :=
  ascii_forall (by decide) hc

theorem keepsWord_ofNat {n : Nat} (hn : 0x80 ≤ n) (hvalid : n.isValidChar) :
    KeepsWord (Char.ofNat n) := by
  left
  rw [Text.Utf8.toNat_ofNat hvalid]
  exact hn

theorem keepsWord_shifted {n : Nat} (hn : 0x80 ≤ n) (hvalid : n.isValidChar) :
    KeepsWord (Char.ofNat (shiftedBy caseRuns n)) := by
  obtain hself | ⟨r, hr, hfirst, hlast, -, hshift⟩ := shiftedBy_cases caseRuns n
  · rw [hself]
    exact keepsWord_ofNat hn hvalid
  · rw [hshift]
    obtain hascii | ⟨hsingle, hform⟩ | hbelow | habove := caseRuns_keepWords r hr
    · omega
    · have heq : n = r.first := by omega
      rw [heq]
      exact hform
    · refine keepsWord_ofNat (by omega) (.inl (by omega))
    · refine keepsWord_ofNat (by omega) (.inr ⟨by omega, by omega⟩)

theorem upperForm_keepsWord {c d : Char} (hc : continuesWord c = true) (hd : d ∈ upperForm c) :
    KeepsWord d := by
  unfold upperForm at hd
  split at hd
  next hlt =>
    rw [List.mem_singleton.mp hd]
    exact (asciiForm hlt).keepsWord hc
  next hge =>
    split at hd
    next form hlookup =>
      obtain ⟨before, after, htable, -⟩ := List.lookup_eq_some_iff.mp hlookup
      obtain ⟨n, hn, rfl⟩ := List.mem_map.mp hd
      exact (caseExpansions_keepWords (c.toNat, form) (by simp [htable])).2 n hn
    next =>
      rw [List.mem_singleton.mp hd]
      exact keepsWord_shifted (Nat.le_of_not_lt hge) c.valid

theorem upperForm_ne_nil (c : Char) : upperForm c ≠ [] := by
  unfold upperForm
  split
  · exact List.cons_ne_nil _ _
  · split
    next form hlookup =>
      obtain ⟨before, after, htable, -⟩ := List.lookup_eq_some_iff.mp hlookup
      simpa using (caseExpansions_keepWords (c.toNat, form) (by simp [htable])).1
    next => exact List.cons_ne_nil _ _

end RowFerry.Unicode
