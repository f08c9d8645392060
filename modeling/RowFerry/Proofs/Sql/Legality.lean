import RowFerry.Proofs.Sql.Acceptance
import RowFerry.Proofs.Sql.Case
import RowFerry.Proofs.Unicode.Words

/-!
Whether a folded name is written as a name that could be folded. Names are checked as they are
given, and their upper-case forms are what stands in statements. A form may be longer than its name,
and a few letters are written with a combining mark in upper case, so the form of an accepted name
may be a name that is not accepted. These are the only two ways.
-/

namespace RowFerry

open Unicode (upper markedLetters)

variable {name : String} {i : Ident .folded}

/-- The form of a name that was checked is accepted if it is short enough and has no marks. -/
theorem accepts_upper_iff (h : Ident.of .folded name = .ok i) :
    NameStyle.folded.Accepts (upper name) ↔
      (upper name).utf8ByteSize ≤ 128 ∧ ∀ c ∈ name.toList, c.toNat ∉ markedLetters := by
  have hchecked := Ident.of_checked h
  have htext := Ident.text_folded h
  have hword : isPlainWord name.toList = true := by
    rw [← Ident.of_name h]
    exact hchecked.plainWord
  constructor
  · intro haccepts
    refine ⟨haccepts.short, ?_⟩
    rw [← Unicode.upper_isPlainWord_iff hword, isPlainWord_iff]
    exact haccepts.plainWord rfl
  · rintro ⟨hshort, hunmarked⟩
    constructor
    · have hne : upper name ≠ "" := htext ▸ hchecked.text_ne
      rw [Nat.one_le_iff_ne_zero]
      simpa using hne
    · exact hshort
    · intro hnul
      rw [← htext] at hnul
      exact (Unicode.KeepsWord.plain (hchecked.keepsWord _ hnul)).2 (by decide)
    · intro _
      rw [← isPlainWord_iff]
      exact (Unicode.upper_isPlainWord_iff hword).mpr hunmarked

/-- A folded name that can be folded again stays as it is. -/
theorem Ident.text_fixed {j : Ident .folded} (h : Ident.of .folded name = .ok i)
    (hagain : Ident.of .folded i.text = .ok j) : j.text = i.text := by
  rw [text_folded hagain, text_folded h, Unicode.upper_upper]

/-- **When folded names stay legal.** The text of an accepted name obeys the rules for bare names
and is folded to itself exactly when it has at most 128 bytes and no letter of the name is written
with a combining mark in upper case. -/
theorem folded_legal_iff (h : Ident.of .folded name = .ok i) :
    (NameStyle.folded.Accepts i.text ∧ ∃ j, Ident.of .folded i.text = .ok j ∧ j.text = i.text) ↔
      (upper name).utf8ByteSize ≤ 128 ∧ ∀ c ∈ name.toList, c.toNat ∉ markedLetters := by
  rw [← accepts_upper_iff h, ← Ident.text_folded h]
  constructor
  · intro hlegal
    exact hlegal.1
  · intro haccepts
    obtain ⟨j, hj⟩ := Ident.exists_of_iff.mpr haccepts
    exact ⟨haccepts, j, hj, Ident.text_fixed h hj⟩

/-- A sharp s is written as two letters, and what is written can be folded again. -/
theorem sharpS_legal :
    Ident.of .folded "straße" = .ok ⟨"straße"⟩ ∧ NameStyle.folded.Accepts "STRASSE" ∧
      ∃ j, Ident.of .folded "STRASSE" = .ok j ∧ j.text = "STRASSE" := by
  have h : Ident.of .folded "straße" = .ok ⟨"straße"⟩ := by decide
  have htext : (Ident.mk "straße" : Ident .folded).text = "STRASSE" := by decide
  have hshort : (upper "straße").utf8ByteSize ≤ 128 := by decide
  have hunmarked : ("straße".toList.all fun c => !markedLetters.contains c.toNat) = true := by
    decide
  have hlegal := (folded_legal_iff h).mpr ⟨hshort, by simpa using hunmarked⟩
  rw [htext] at hlegal
  exact ⟨h, hlegal⟩

/-- Thirty-three letters of two bytes whose forms have four bytes. -/
def growingName : String := String.ofList (List.replicate 33 '\u0587')

/-- A letter with a line below is written as a letter and a combining mark, which is no plain word,
and a name of 66 bytes may be written in 132. -/
theorem folded_not_legal :
    (Ident.of .folded "\u1e96" = .ok ⟨"\u1e96"⟩ ∧
      (Ident.mk "\u1e96" : Ident .folded).text = "H\u0331" ∧
        Ident.of .folded "H\u0331" = .error (.notPlainWord "H\u0331") ∧
        ¬ NameStyle.folded.Accepts "H\u0331") ∧
      Ident.of .folded growingName = .ok ⟨growingName⟩ ∧
        Ident.of .folded (Ident.mk growingName : Ident .folded).text =
          .error (.tooLong (upper growingName) 132) ∧
        ¬ NameStyle.folded.Accepts (Ident.mk growingName : Ident .folded).text := by
  have hmark : Ident.of .folded "H\u0331" = .error (.notPlainWord "H\u0331") := by decide
  have hlong : Ident.of .folded (Ident.mk growingName : Ident .folded).text =
      .error (.tooLong (upper growingName) 132) := by decide +kernel
  refine ⟨⟨by decide +kernel, by decide, hmark, NameStyle.not_accepts_of_error hmark⟩, ?_⟩
  exact ⟨by decide +kernel, hlong, NameStyle.not_accepts_of_error hlong⟩

end RowFerry
