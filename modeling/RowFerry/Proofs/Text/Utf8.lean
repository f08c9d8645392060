import Mathlib.Algebra.Group.Nat.Defs
import Mathlib.Data.List.Infix
import RowFerry.Text.Utf8

/-!
What reading bytes as UTF-8 gives. Where the bytes of a character stand, that character is
read; where none can be read, the longest part that begins one, or else a single byte, is
read as one replacement character. This says of all bytes which text they are, and the
reader gives exactly that text.
-/

namespace RowFerry.Text.Utf8

open String (utf8EncodeChar)

/-! ## The reading of bytes -/

/-- Some character begins with the bytes. -/
def OpensChar (part : List UInt8) : Prop := ∃ c, part <+: utf8EncodeChar c

/-- No character can be read where the part begins, and the part is the longest there that begins a
character, or a single byte. -/
structure InvalidPart (part rest : List UInt8) : Prop where
  nonempty : part ≠ []
  unreadable : ∀ c, ¬ utf8EncodeChar c <+: part ++ rest
  opens : part.length = 1 ∨ OpensChar part
  longest : ∀ longer, longer <+: part ++ rest → part.length < longer.length → ¬ OpensChar longer

/-- The characters that bytes are read as: every maximal invalid part is one
replacement character. -/
inductive Lossy : List UInt8 → List Char → Prop
  | nil : Lossy [] []
  | char (c : Char) {bs : List UInt8} {cs : List Char} (h : Lossy bs cs) :
    Lossy (utf8EncodeChar c ++ bs) (c :: cs)
  | invalid {part bs : List UInt8} {cs : List Char} (hpart : InvalidPart part bs)
    (h : Lossy bs cs) :
    Lossy (part ++ bs) (replacement :: cs)

/-- No character's bytes begin with those of another. -/
theorem utf8EncodeChar_prefixFree {c d : Char} {bs ds : List UInt8}
    (h : utf8EncodeChar c ++ bs = utf8EncodeChar d ++ ds) : c = d := by
  have hdecode (c : Char) (bs : List UInt8) :
      ((utf8EncodeChar c).toByteArray ++ bs.toByteArray).utf8DecodeChar? 0 = some c :=
    ByteArray.utf8DecodeChar?_utf8EncodeChar_append
  have hc := hdecode c bs
  rw [← List.toByteArray_append, h, List.toByteArray_append, hdecode] at hc
  exact (Option.some.inj hc).symm

theorem InvalidPart.length_le {part part' rest rest' : List UInt8} (h : InvalidPart part rest)
    (h' : InvalidPart part' rest') (heq : part ++ rest = part' ++ rest') :
    part'.length ≤ part.length := by
  by_contra hlonger
  have hlt : part.length < part'.length := Nat.lt_of_not_le hlonger
  have hpos : 0 < part.length := List.length_pos_iff.mpr h.nonempty
  rcases h'.opens with hone | hopens
  · omega
  · exact h.longest part' (heq ▸ List.prefix_append part' rest') hlt hopens

/-- Bytes are read as one text only. -/
theorem Lossy.unique {bs : List UInt8} {cs ds : List Char} (h : Lossy bs cs) (h' : Lossy bs ds) :
    cs = ds := by
  induction h generalizing ds with
  | nil =>
    generalize hbs : ([] : List UInt8) = bs at h'
    cases h' with
    | nil => rfl
    | char c h' => simp at hbs
    | invalid hpart h' => exact absurd (List.append_eq_nil_iff.mp hbs.symm).1 hpart.nonempty
  | @char c bs cs h ih =>
    generalize hbs : utf8EncodeChar c ++ bs = whole at h'
    cases h' with
    | nil => simp at hbs
    | @char d ds _ h' =>
      obtain rfl := utf8EncodeChar_prefixFree hbs
      rw [ih (List.append_cancel_left hbs ▸ h')]
    | invalid hpart h' => exact absurd ⟨bs, hbs⟩ (hpart.unreadable c)
  | @invalid part bs cs hpart h ih =>
    generalize hbs : part ++ bs = whole at h'
    cases h' with
    | nil => exact absurd (List.append_eq_nil_iff.mp hbs).1 hpart.nonempty
    | @char d ds _ h' => exact absurd ⟨ds, hbs.symm⟩ (hpart.unreadable d)
    | @invalid part' bs' _ hpart' h' =>
      have hlength : part.length = part'.length :=
        Nat.le_antisymm (hpart'.length_le hpart hbs.symm) (hpart.length_le hpart' hbs)
      obtain ⟨rfl, rfl⟩ := List.append_inj hbs hlength
      rw [ih h']

/-! ## The bytes of a character -/

/-- The number of bytes after the first. -/
def tailLength (n : Nat) : Nat :=
  if n < 0x80 then 0 else if n < 0x800 then 1 else if n < 0x10000 then 2 else 3

/-- The first byte. -/
def leadByte (n : Nat) : Nat :=
  if n < 0x80 then n
  else if n < 0x800 then 0xC0 + n / 64
  else if n < 0x10000 then 0xE0 + n / 4096
  else 0xF0 + n / 262144

/-- The last `left` bytes, each with six bits of the code point. -/
def tailBytes (n : Nat) : Nat → List UInt8
  | 0 => []
  | left + 1 => .ofNat (0x80 + n / 64 ^ left % 64) :: tailBytes n left

theorem length_cases (n : Nat) :
    (n < 0x80 ∧ leadByte n = n ∧ tailLength n = 0) ∨
      (0x80 ≤ n ∧ n < 0x800 ∧ leadByte n = 0xC0 + n / 64 ∧ tailLength n = 1) ∨
      (0x800 ≤ n ∧ n < 0x10000 ∧ leadByte n = 0xE0 + n / 4096 ∧ tailLength n = 2) ∨
      (0x10000 ≤ n ∧ leadByte n = 0xF0 + n / 262144 ∧ tailLength n = 3) := by
  unfold leadByte tailLength
  split_ifs <;> omega

theorem toNat_lt (c : Char) : c.toNat < 0xD800 ∨ (0xDFFF < c.toNat ∧ c.toNat < 0x110000) := c.valid

theorem leadByte_lt (c : Char) : leadByte c.toNat < 256 := by
  have := toNat_lt c
  have := length_cases c.toNat
  omega

theorem utf8EncodeChar_eq (c : Char) :
    utf8EncodeChar c = .ofNat (leadByte c.toNat) :: tailBytes c.toNat (tailLength c.toNat) := by
  have hvalid := toNat_lt c
  have hval : c.val.toNat = c.toNat := rfl
  unfold utf8EncodeChar leadByte tailLength
  simp only [hval, ← Nat.lt_succ_iff, Nat.succ_eq_add_one, Nat.reduceAdd]
  split_ifs with h1 h2 h3
  · rfl
  · have hfirst : c.toNat / 64 % 32 = c.toNat / 64 := Nat.mod_eq_of_lt (by omega)
    simp [tailBytes, hfirst, Nat.add_comm]
  · have hfirst : c.toNat / 4096 % 16 = c.toNat / 4096 := Nat.mod_eq_of_lt (by omega)
    simp [tailBytes, hfirst, Nat.add_comm]
  · have hfirst : c.toNat / 262144 % 8 = c.toNat / 262144 := Nat.mod_eq_of_lt (by omega)
    simp [tailBytes, hfirst, Nat.add_comm]

/-! ## Inside a character -/

/-- The code point has the bits read so far, and its next byte lies in the range. -/
def Fits (value left low high n : Nat) : Prop :=
  n / 64 ^ (left + 1) = value ∧ low ≤ 0x80 + n / 64 ^ left % 64 ∧ 0x80 + n / 64 ^ left % 64 ≤ high

/-- The bytes in `part` begin exactly the characters that fit, and
`left + 1` bytes of them follow. -/
structure Inside (part : List UInt8) (value left low high : Nat) : Prop where
  ne_nil : part ≠ []
  tail_low : 0x80 ≤ low
  tail_high : high ≤ 0xBF
  opened : OpensChar part
  valid : ∀ n, Fits value left low high n → n.isValidChar
  fits : ∀ c, part <+: utf8EncodeChar c ↔ Fits value left low high c.toNat
  ends : ∀ c, part <+: utf8EncodeChar c → utf8EncodeChar c = part ++ tailBytes c.toNat (left + 1)

theorem toNat_ofNat {n : Nat} (h : n.isValidChar) : (Char.ofNat n).toNat = n := by
  rw [Char.ofNat, dif_pos h]
  rfl

variable {part : List UInt8} {value left low high : Nat}

/-- The next byte of a character that begins with the bytes. -/
theorem Inside.snoc_prefix_iff (h : Inside part value left low high) (b : UInt8) (c : Char) :
    part ++ [b] <+: utf8EncodeChar c ↔
      part <+: utf8EncodeChar c ∧ b.toNat = 0x80 + c.toNat / 64 ^ left % 64 := by
  have hbyte : (UInt8.ofNat (0x80 + c.toNat / 64 ^ left % 64)).toNat =
    0x80 + c.toNat / 64 ^ left % 64 := by
    have := Nat.mod_lt (c.toNat / 64 ^ left) (show 64 > 0 by decide)
    rw [UInt8.toNat_ofNat']
    omega
  constructor
  · intro hsnoc
    have hpart : part <+: utf8EncodeChar c := (List.prefix_append part [b]).trans hsnoc
    rw [h.ends c hpart, List.prefix_append_right_inj, tailBytes, List.cons_prefix_cons] at hsnoc
    exact ⟨hpart, by rw [hsnoc.1, hbyte]⟩
  · rintro ⟨hpart, hb⟩
    rw [h.ends c hpart, List.prefix_append_right_inj, tailBytes, List.cons_prefix_cons]
    exact ⟨UInt8.toNat_inj.mp (hb.trans hbyte.symm), List.nil_prefix⟩

/-- A byte outside the range continues no character. -/
theorem Inside.not_opensChar (h : Inside part value left low high) {b : UInt8}
    (hb : ¬ (low ≤ b.toNat ∧ b.toNat ≤ high)) : ¬ OpensChar (part ++ [b]) := by
  rintro ⟨c, hsnoc⟩
  obtain ⟨hpart, hbyte⟩ := (h.snoc_prefix_iff b c).mp hsnoc
  obtain ⟨-, hrange⟩ := (h.fits c).mp hpart
  rw [← hbyte] at hrange
  exact hb hrange

/-- The characters that fit and go on with a byte are those that fit with the bits of the byte. -/
theorem fits_snoc_iff (hlow : 0x80 ≤ low) {b n : Nat} (hb : low ≤ b ∧ b ≤ high)
    (hhigh : high ≤ 0xBF) : (Fits value (left + 1) low high n ∧
      b = 0x80 + n / 64 ^ (left + 1) % 64) ↔
      Fits (value * 64 + (b - 0x80)) left 0x80 0xBF n := by
  have hdiv : n / 64 ^ (left + 1 + 1) = n / 64 ^ (left + 1) / 64 := by
    rw [Nat.pow_succ, Nat.div_div_eq_div_mul]
  unfold Fits
  rw [hdiv]
  generalize n / 64 ^ (left + 1) = m
  have := Nat.mod_lt (n / 64 ^ left) (show 64 > 0 by decide)
  omega

/-- Some code point fits: the one whose next byte is the lowest and whose
later bytes hold no bits. -/
theorem exists_fits (hlow : 0x80 ≤ low) (hle : low ≤ high) (hhigh : high ≤ 0xBF) :
    ∃ n, Fits value left low high n := by
  have hdiv : (value * 64 + (low - 0x80)) * 64 ^ left / 64 ^ left = value * 64 + (low - 0x80) :=
    Nat.mul_div_cancel _ (Nat.pow_pos (by decide))
  refine ⟨(value * 64 + (low - 0x80)) * 64 ^ left, ?_⟩
  unfold Fits
  rw [Nat.pow_succ, ← Nat.div_div_eq_div_mul, hdiv]
  omega

theorem Inside.of_fits (hne : part ≠ []) (hlow : 0x80 ≤ low) (hle : low ≤ high)
    (hhigh : high ≤ 0xBF) (hvalid : ∀ n, Fits value left low high n → n.isValidChar)
    (hfits : ∀ c, part <+: utf8EncodeChar c ↔ Fits value left low high c.toNat)
    (hends : ∀ c, part <+: utf8EncodeChar c →
      utf8EncodeChar c = part ++ tailBytes c.toNat (left + 1)) :
    Inside part value left low high := by
  obtain ⟨n, hn⟩ : ∃ n, Fits value left low high n := exists_fits hlow hle hhigh
  refine ⟨hne, hlow, hhigh, ⟨Char.ofNat n, ?_⟩, hvalid, hfits, hends⟩
  rw [hfits, toNat_ofNat (hvalid n hn)]
  exact hn

/-- A byte in the range that does not complete the character. -/
theorem Inside.snoc (h : Inside part value (left + 1) low high) {b : UInt8}
    (hb : low ≤ b.toNat ∧ b.toNat ≤ high) :
    Inside (part ++ [b]) (value * 64 + (b.toNat - 0x80)) left 0x80 0xBF := by
  have hfits (n : Nat) : Fits value (left + 1) low high n ∧
    b.toNat = 0x80 + n / 64 ^ (left + 1) % 64 ↔
      Fits (value * 64 + (b.toNat - 0x80)) left 0x80 0xBF n :=
      fits_snoc_iff h.tail_low hb h.tail_high
  have hvalid (n : Nat) (hn : Fits (value * 64 + (b.toNat - 0x80)) left 0x80 0xBF n) :
    n.isValidChar :=
    h.valid n ((hfits n).mpr hn).1
  refine .of_fits (by simp) (by decide) (by decide) (by decide) hvalid (fun c => ?_) fun c hc => ?_
  · rw [h.snoc_prefix_iff, h.fits, hfits]
  · obtain ⟨hpart, hbyte⟩ := (h.snoc_prefix_iff b c).mp hc
    rw [h.ends c hpart, tailBytes, ← hbyte, UInt8.ofNat_toNat, List.append_assoc]
    rfl

/-- A byte in the range that completes the character. -/
theorem Inside.complete (h : Inside part value 0 low high) {b : UInt8}
    (hb : low ≤ b.toNat ∧ b.toNat ≤ high) :
    utf8EncodeChar (Char.ofNat (value * 64 + (b.toNat - 0x80))) = part ++ [b] := by
  have hlow := h.tail_low
  have hhigh := h.tail_high
  have hfit : Fits value 0 low high (value * 64 + (b.toNat - 0x80)) := by
    simp only [Fits, Nat.zero_add, Nat.pow_one, Nat.pow_zero, Nat.div_one]
    omega
  have hcode := toNat_ofNat (h.valid _ hfit)
  have hpart := (h.fits (Char.ofNat (value * 64 + (b.toNat - 0x80)))).mpr
    (by rw [hcode]; exact hfit)
  have hbyte : 0x80 + (value * 64 + (b.toNat - 0x80)) % 64 = b.toNat := by omega
  rw [h.ends _ hpart, hcode]
  simp only [tailBytes, Nat.pow_zero, Nat.div_one, hbyte, UInt8.ofNat_toNat]

/-! ## The first byte -/

/-- A byte begins the characters whose first byte it is. -/
theorem leadByte_prefix_iff (b : UInt8) (c : Char) : [b] <+: utf8EncodeChar c ↔
    leadByte c.toNat = b.toNat := by
  have hbyte : (UInt8.ofNat (leadByte c.toNat)).toNat = leadByte c.toNat := by
    have := leadByte_lt c
    rw [UInt8.toNat_ofNat']
    omega
  rw [utf8EncodeChar_eq, List.cons_prefix_cons, ← UInt8.toNat_inj, hbyte]
  exact ⟨fun h => h.1.symm, fun h => ⟨h.symm, List.nil_prefix⟩⟩

theorem inside_first {b : UInt8} (hlow : 0x80 ≤ low) (hle : low ≤ high) (hhigh : high ≤ 0xBF)
    (hfits : ∀ n, Fits value left low high n →
      n.isValidChar ∧ leadByte n = b.toNat ∧ tailLength n = left + 1)
    (hfirst : ∀ n, n.isValidChar → leadByte n = b.toNat → Fits value left low high n) :
    Inside [b] value left low high := by
  refine .of_fits (by simp) hlow hle hhigh (fun n hn => (hfits n hn).1) (fun c => ?_) fun c hc => ?_
  · rw [leadByte_prefix_iff]
    exact ⟨hfirst _ c.valid, fun hn => (hfits _ hn).2.1⟩
  · have hbyte := (leadByte_prefix_iff b c).mp hc
    rw [utf8EncodeChar_eq, hbyte, (hfits c.toNat (hfirst _ c.valid hbyte)).2.2, UInt8.ofNat_toNat]
    rfl

/-- The first bytes of characters of two bytes. -/
theorem inside_two {b : UInt8} (hb : 0xC2 ≤ b.toNat ∧ b.toNat < 0xE0) :
    Inside [b] (b.toNat - 0xC0) 0 0x80 0xBF := by
  have hfits (n : Nat) : Fits (b.toNat - 0xC0) 0 0x80 0xBF n ↔ n / 64 = b.toNat - 0xC0 := by
    simp only [Fits, Nat.reduceAdd, Nat.reducePow, Nat.div_one]
    omega
  refine inside_first (by decide) (by decide) (by decide) (fun n hn => ?_) fun n hn hfirst => ?_
  · have hn := (hfits n).mp hn
    have := length_cases n
    exact ⟨.inl (by omega), by omega, by omega⟩
  · have := length_cases n
    exact (hfits n).mpr (by omega)

/-- The first bytes of characters of three bytes. The range of the second byte leaves out what fewer
bytes say and what is no character. -/
theorem inside_three {b : UInt8} (hb : 0xE0 ≤ b.toNat ∧ b.toNat < 0xF0)
    (hbounds : 0x80 ≤ low ∧ low ≤ high ∧ high ≤ 0xBF)
    (hrange : ∀ n, n / 4096 = b.toNat - 0xE0 →
      (low ≤ 0x80 + n / 64 % 64 ∧ 0x80 + n / 64 % 64 ≤ high ↔
        0x800 ≤ n ∧ (n < 0xD800 ∨ (0xDFFF < n ∧ n < 0x110000)))) :
    Inside [b] (b.toNat - 0xE0) 1 low high := by
  have hfits (n : Nat) : Fits (b.toNat - 0xE0) 1 low high n ↔
      n / 4096 = b.toNat - 0xE0 ∧ 0x800 ≤ n ∧ n.isValidChar := and_congr_right (hrange n)
  refine inside_first hbounds.1 hbounds.2.1 hbounds.2.2 (fun n hn => ?_) fun n hn hfirst => ?_
  · obtain ⟨hvalue, hleast, hvalid⟩ := (hfits n).mp hn
    have := length_cases n
    exact ⟨hvalid, by omega, by omega⟩
  · have := length_cases n
    exact (hfits n).mpr ⟨by omega, by omega, hn⟩

@[inherit_doc inside_three]
theorem inside_four {b : UInt8} (hb : 0xF0 ≤ b.toNat ∧ b.toNat < 0xF5)
    (hbounds : 0x80 ≤ low ∧ low ≤ high ∧ high ≤ 0xBF)
    (hrange : ∀ n, n / 262144 = b.toNat - 0xF0 →
      (low ≤ 0x80 + n / 4096 % 64 ∧ 0x80 + n / 4096 % 64 ≤ high ↔
        0x10000 ≤ n ∧ (n < 0xD800 ∨ (0xDFFF < n ∧ n < 0x110000)))) :
    Inside [b] (b.toNat - 0xF0) 2 low high := by
  have hfits (n : Nat) : Fits (b.toNat - 0xF0) 2 low high n ↔
      n / 262144 = b.toNat - 0xF0 ∧ 0x10000 ≤ n ∧ n.isValidChar := and_congr_right (hrange n)
  refine inside_first hbounds.1 hbounds.2.1 hbounds.2.2 (fun n hn => ?_) fun n hn hfirst => ?_
  · obtain ⟨hvalue, hleast, hvalid⟩ := (hfits n).mp hn
    have := length_cases n
    exact ⟨hvalid, by omega, by omega⟩
  · have := length_cases n
    exact (hfits n).mpr ⟨by omega, by omega, hn⟩

theorem not_opensChar_byte {b : UInt8} (hb : (0x80 ≤ b.toNat ∧ b.toNat < 0xC2) ∨ 0xF5 ≤ b.toNat) :
    ¬ OpensChar [b] := by
  rintro ⟨c, hc⟩
  have hlead := (leadByte_prefix_iff b c).mp hc
  have := toNat_lt c
  have := length_cases c.toNat
  omega

theorem ascii_byte {b : UInt8} (hb : b.toNat < 0x80) :
    utf8EncodeChar (Char.ofNat b.toNat) = [b] := by
  have hcode : (Char.ofNat b.toNat).toNat = b.toNat := toNat_ofNat (.inl (by omega))
  rw [utf8EncodeChar_eq, hcode, leadByte, tailLength, if_pos hb, if_pos hb, UInt8.ofNat_toNat]
  rfl

/-- The first byte is a character, begins no character, or leads into one. -/
inductive Leads (b : UInt8) : List Char × State → Prop
  | char {c : Char} (h : utf8EncodeChar c = [b]) : Leads b ([c], .start)
  | nothing (h : ¬ OpensChar [b]) : Leads b ([replacement], .start)
  | into {value left low high : Nat} (h : Inside [b] value left low high) :
    Leads b ([], .inside value (left + 1) low high)

theorem lead_leads (b : UInt8) : Leads b (lead b.toNat) := by
  have hb := b.toNat_lt
  unfold lead
  by_cases h1 : b.toNat < 0x80
  · rw [if_pos h1]
    exact .char (ascii_byte h1)
  rw [if_neg h1]
  by_cases h2 : b.toNat < 0xC2
  · rw [if_pos h2]
    exact .nothing (not_opensChar_byte (.inl (by omega)))
  rw [if_neg h2]
  by_cases h3 : b.toNat < 0xE0
  · rw [if_pos h3]
    exact .into (inside_two (by omega))
  rw [if_neg h3]
  by_cases h4 : b.toNat < 0xF0
  · have hthree {low high : Nat} := @inside_three low high b (by omega)
    by_cases he0 : b.toNat = 0xE0
    · rw [if_pos he0]
      rw [he0] at hthree
      exact .into (hthree (by decide) (by omega))
    rw [if_neg he0]
    by_cases hed : b.toNat = 0xED
    · rw [if_pos hed]
      rw [hed] at hthree
      exact .into (hthree (by decide) (by omega))
    rw [if_neg hed, if_pos h4]
    exact .into (hthree (by decide) (by omega))
  have hleast : ¬ b.toNat = 0xE0 ∧ ¬ b.toNat = 0xED := by omega
  rw [if_neg hleast.1, if_neg hleast.2, if_neg h4]
  by_cases h5 : b.toNat < 0xF5
  · have hfour {low high : Nat} := @inside_four low high b (by omega)
    by_cases hf0 : b.toNat = 0xF0
    · rw [if_pos hf0]
      rw [hf0] at hfour
      exact .into (hfour (by decide) (by omega))
    rw [if_neg hf0]
    by_cases hf4 : b.toNat < 0xF4
    · rw [if_pos hf4]
      exact .into (hfour (by decide) (by omega))
    have hlast : b.toNat = 0xF4 := by omega
    rw [if_neg hf4, if_pos hlast]
    rw [hlast] at hfour
    exact .into (hfour (by decide) (by omega))
  have habove : ¬ b.toNat = 0xF0 ∧ ¬ b.toNat < 0xF4 ∧ ¬ b.toNat = 0xF4 := by omega
  rw [if_neg habove.1, if_neg habove.2.1, if_neg habove.2.2]
  exact .nothing (not_opensChar_byte (.inr (by omega)))

/-! ## The machine -/

/-- The machine stands in the state after bytes that complete no character. -/
inductive Stands : List UInt8 → State → Prop
  | start : Stands [] .start
  | inside {part : List UInt8} {value left low high : Nat} (h : Inside part value left low high) :
    Stands part (.inside value (left + 1) low high)

theorem readOn_done (s : State) (done : List Char) (bs : List UInt8) :
    readOn s done bs = done.reverse ++ readOn s [] bs := by
  induction bs generalizing s done with
  | nil => simp [readOn]
  | cons b bs ih =>
    simp only [readOn, List.append_nil]
    rw [ih, ih _ (s.step b.toNat).1.reverse]
    simp

theorem readOn_cons (s : State) (b : UInt8) (bs : List UInt8) :
    readOn s [] (b :: bs) = (s.step b.toNat).1 ++ readOn (s.step b.toNat).2 [] bs := by
  have hdone := readOn_done (s.step b.toNat).2 (s.step b.toNat).1.reverse bs
  rw [List.reverse_reverse] at hdone
  simpa only [readOn, List.append_nil] using hdone

/-- A byte that cannot continue the character is read as a first byte, after a replacement. -/
theorem readOn_refused (value left : Nat) {b : UInt8} (hb : ¬ (low ≤ b.toNat ∧ b.toNat ≤ high))
    (bs : List UInt8) :
    readOn (.inside value left low high) [] (b :: bs) = replacement :: readOn .start
      [] (b :: bs) := by
  have hstep : (State.inside value left low high).step b.toNat =
      (replacement :: (lead b.toNat).1, (lead b.toNat).2) := by
    rw [State.step, if_neg (by simpa using hb)]
  rw [readOn_cons, readOn_cons, hstep]
  rfl

/-- The part read so far ends before a byte that continues no character. -/
theorem Inside.invalidPart (h : Inside part value left low high) {rest : List UInt8}
    (hrest : ∀ b ∈ rest.head?, ¬ OpensChar (part ++ [b])) : InvalidPart part rest := by
  have hlonger (longer : List UInt8) (hbegins : longer <+: part ++ rest)
    (hlt : part.length < longer.length) :
      ¬ OpensChar longer := by
    rintro ⟨c, hc⟩
    obtain ⟨more, hmore⟩ := List.prefix_of_prefix_length_le
      (List.prefix_append part rest) hbegins hlt.le
    cases more with
    | nil => simp [← hmore] at hlt
    | cons b more =>
      obtain ⟨last, hlast⟩ := hbegins
      rw [← hmore, List.append_assoc, List.append_cancel_left_eq] at hlast
      refine hrest b (by simp [← hlast]) ⟨c, .trans ?_ hc⟩
      exact ⟨more, by rw [← hmore, List.append_assoc]; rfl⟩
  refine ⟨h.ne_nil, fun c hc => ?_, .inr h.opened, hlonger⟩
  by_cases hlength : part.length < (utf8EncodeChar c).length
  · exact hlonger _ hc hlength ⟨c, List.prefix_rfl⟩
  · -- A character that ends within the part would be the one that the part begins.
    obtain ⟨d, hd⟩ := h.opened
    obtain ⟨more, hmore⟩ := List.prefix_of_prefix_length_le hc (List.prefix_append part rest)
      (Nat.le_of_not_lt hlength)
    obtain ⟨last, hlast⟩ := hd
    have hboth : utf8EncodeChar c ++ (more ++ last) = utf8EncodeChar d ++ [] := by
      rw [← List.append_assoc, hmore, hlast, List.append_nil]
    obtain rfl : c = d := utf8EncodeChar_prefixFree hboth
    have hends := congrArg List.length (h.ends c ⟨last, hlast⟩)
    rw [List.length_append, tailBytes, List.length_cons] at hends
    omega

/-- A single byte that begins no character. -/
theorem invalidPart_byte {b : UInt8} (h : ¬ OpensChar [b]) (rest : List UInt8) :
    InvalidPart [b] rest := by
  have hopens (longer : List UInt8) (hbegins : longer <+: [b] ++ rest) (hne : longer ≠ []) :
      ¬ OpensChar longer := by
    rintro ⟨c, hc⟩
    obtain ⟨x, longer, rfl⟩ := List.exists_cons_of_ne_nil hne
    obtain ⟨rfl, -⟩ := List.cons_prefix_cons.mp hbegins
    exact h ⟨c, .trans ⟨longer, rfl⟩ hc⟩
  refine ⟨by simp, fun c hc => ?_, .inl rfl, fun longer hbegins hlt => ?_⟩
  · exact hopens _ hc (by simp) ⟨c, List.prefix_rfl⟩
  · exact hopens longer hbegins (List.ne_nil_of_length_pos (by omega))

section Step

variable {b : UInt8} {bs : List UInt8}
  (ih : ∀ {part : List UInt8} {s : State}, Stands part s → Lossy (part ++ bs) (readOn s [] bs))
include ih

theorem lossy_first : Lossy (b :: bs) (readOn .start [] (b :: bs)) := by
  have hleads := lead_leads b
  rw [readOn_cons, State.step]
  generalize lead b.toNat = read at hleads
  cases hleads with
  | @char c hc =>
    have hchar : Lossy (utf8EncodeChar c ++ bs) (c :: readOn .start [] bs) := .char c (ih .start)
    rwa [hc] at hchar
  | nothing hclosed => exact .invalid (invalidPart_byte hclosed bs) (ih .start)
  | into hinside => exact ih (.inside hinside)

theorem lossy_accepted (h : Inside part value left low high) (hb : low ≤ b.toNat ∧ b.toNat ≤ high) :
    Lossy (part ++ b :: bs) (readOn (.inside value (left + 1) low high) [] (b :: bs)) := by
  rw [readOn_cons, State.step, if_pos (by simpa using hb), List.append_cons]
  cases left with
  | zero =>
    rw [← h.complete hb]
    exact .char _ (ih .start)
  | succ left => exact ih (.inside (h.snoc hb))

/-- One byte is read as the bytes are, if those after it are. -/
theorem lossy_step {s : State} (h : Stands part s) :
    Lossy (part ++ b :: bs) (readOn s [] (b :: bs)) := by
  cases h with
  | start => exact lossy_first ih
  | @inside _ value left low high hinside =>
    by_cases hb : low ≤ b.toNat ∧ b.toNat ≤ high
    · exact lossy_accepted ih hinside hb
    · rw [readOn_refused value (left + 1) hb]
      exact .invalid (hinside.invalidPart (by simpa using hinside.not_opensChar hb))
        (lossy_first ih)

end Step

/-- From any state the machine reads on as the bytes are read from where their character begins. -/
theorem lossy_readOn (bs : List UInt8) {s : State} (h : Stands part s) :
    Lossy (part ++ bs) (readOn s [] bs) := by
  induction bs generalizing part s with
  | nil =>
    cases h with
    | start => exact .nil
    | inside hinside => exact .invalid (hinside.invalidPart (by simp)) .nil
  | cons b bs ih => exact lossy_step ih h

/-- **The text of bytes is their lossy reading.** -/
theorem read_eq_iff (bs : List UInt8) (text : String) : read bs = text ↔ Lossy bs text.toList := by
  have hread : Lossy bs (read bs).toList := by
    rw [read, String.toList_ofList]
    exact lossy_readOn bs .start
  constructor
  · rintro rfl
    exact hread
  · intro h
    exact String.toList_injective (hread.unique h)

theorem lossy_encoded (cs : List Char) : Lossy (cs.flatMap utf8EncodeChar) cs := by
  induction cs with
  | nil => exact .nil
  | cons c cs ih => exact .char c ih

/-- The bytes of a text are read as the text. -/
theorem read_toByteArray {bs : List UInt8} {text : String} (h : bs.toByteArray = text.toByteArray) :
    read bs = text := by
  have hbytes : bs = text.toList.flatMap utf8EncodeChar := by
    rw [← String.ofList_toList (s := text), String.toByteArray_ofList,
      List.utf8Encode] at h
    simpa using congrArg (fun b => b.data.toList) h
  rw [read_eq_iff, hbytes]
  exact lossy_encoded text.toList

end RowFerry.Text.Utf8
