import RowFerry.Proofs.Sql.Layout

/-!
Texts that can be read back. A kind of text is given with the texts that it may begin with and those
that may follow it; reading it finds where it ends and what it says. Texts in a row are read one
after another when each may be followed by the beginnings of the next, and a series is read to its
end because its separator is apart from what may follow. Nothing here knows of statements.
-/

namespace RowFerry

variable {α β γ δ : Type} {leads follow : List String}

/-- The text begins with one of the leads. -/
def Begins (leads : List String) (t : String) : Prop := ∃ l ∈ leads, ∃ rest, t = l ++ rest

/-- No text of the one list begins with a text of the other. -/
def Apart (as bs : List String) : Prop :=
  ∀ a ∈ as, ∀ b ∈ bs, ¬ a.toList <+: b.toList ∧ ¬ b.toList <+: a.toList

instance (as bs : List String) : Decidable (Apart as bs) :=
  inferInstanceAs (Decidable (∀ a ∈ as, ∀ b ∈ bs, _))

theorem Apart.subset {as bs fewer : List String} (h : Apart as bs) (hsub : fewer ⊆ as) :
    Apart fewer bs :=
  fun a ha => h a (hsub ha)

theorem Apart.append_right {as bs cs : List String} (hb : Apart as bs) (hc : Apart as cs) :
    Apart as (bs ++ cs) := by
  intro a ha t ht
  rcases List.mem_append.mp ht with ht | ht
  · exact hb a ha t ht
  · exact hc a ha t ht

/-- Every text of the one list begins with a text of the other. -/
def Covers (leads texts : List String) : Prop := ∀ t ∈ texts, ∃ l ∈ leads, l.toList <+: t.toList

instance (leads texts : List String) : Decidable (Covers leads texts) :=
  inferInstanceAs (Decidable (∀ t ∈ texts, ∃ l ∈ leads, _))

theorem Begins.append_left {more : List String} {t : String} (h : Begins leads t) :
    Begins (leads ++ more) t := by
  obtain ⟨l, hl, hrest⟩ := h
  exact ⟨l, List.mem_append_left _ hl, hrest⟩

theorem Begins.append_right {more : List String} {t : String} (h : Begins leads t) :
    Begins (more ++ leads) t := by
  obtain ⟨l, hl, hrest⟩ := h
  exact ⟨l, List.mem_append_right _ hl, hrest⟩

theorem Begins.covered {texts : List String} {t : String} (h : Begins texts t)
    (hcovers : Covers leads texts) : Begins leads t := by
  obtain ⟨u, hu, rest, rfl⟩ := h
  obtain ⟨l, hl, middle, hmiddle⟩ := hcovers u hu
  refine ⟨l, hl, String.ofList middle ++ rest, ?_⟩
  rw [← String.toList_inj, String.toList_append, ← hmiddle]
  simp

theorem Begins.after {starts : List String} {t : String} (h : Begins leads t) (s : String)
    (hstarts : Covers starts (leads.map (s ++ ·))) : Begins starts (s ++ t) := by
  obtain ⟨l, hl, rest, rfl⟩ := h
  refine Begins.covered ⟨s ++ l, List.mem_map_of_mem hl, rest, ?_⟩ hstarts
  rw [String.append_assoc]

/-- Two texts that begin the same text begin one another. -/
theorem prefix_of_append_eq {a b r s : String} (h : a ++ r = b ++ s) :
    a.toList <+: b.toList ∨ b.toList <+: a.toList := by
  have hlist : a.toList ++ r.toList = b.toList ++ s.toList := by
    rw [← String.toList_append, h, String.toList_append]
  exact List.prefix_or_prefix_of_prefix ⟨r.toList, hlist⟩ ⟨s.toList, rfl⟩

theorem Apart.absurd {as bs : List String} (h : Apart as bs) {t : String} (ha : Begins as t)
    (hb : Begins bs t) : False := by
  obtain ⟨a, ha, r, rfl⟩ := ha
  obtain ⟨b, hb, s, heq⟩ := hb
  rcases prefix_of_append_eq heq with hprefix | hprefix
  · exact (h a ha b hb).1 hprefix
  · exact (h a ha b hb).2 hprefix

/-- Before a text that begins with one of `follow`, a text of the kind begins with one of `leads`,
and reading it gives its view and its end. -/
structure ReadsBack (leads follow : List String) (text : α → String) (view : α → β) : Prop where
  begins : ∀ x r, Begins follow r → Begins leads (text x ++ r)
  determines : ∀ {x y r s}, Begins follow r → Begins follow s → text x ++ r = text y ++ s →
    view x = view y ∧ r = s

namespace ReadsBack

variable {text : α → String} {view : α → β}

/-- A part of something is read as the part is. -/
theorem part (h : ReadsBack leads follow text view) (f : γ → α) :
    ReadsBack leads follow (fun x => text (f x)) fun x => view (f x) :=
  ⟨fun x => h.begins (f x), h.determines⟩

/-- Equal texts that say no more are read alike. -/
theorem of_eq {same : α → String} {less : α → γ} (h : ReadsBack leads follow text view)
    (htext : ∀ x, same x = text x) (hview : ∀ x y, view x = view y → less x = less y) :
    ReadsBack leads follow same less where
  begins x r hr := htext x ▸ h.begins x r hr
  determines {x y r s} hr hs heq := by
    rw [htext, htext] at heq
    obtain ⟨hsame, hend⟩ := h.determines hr hs heq
    exact ⟨hview x y hsame, hend⟩

/-- Texts in a row. -/
theorem append {mid : List String} {next : α → String} {more : α → γ}
    (h : ReadsBack leads mid text view) (hnext : ReadsBack mid follow next more) :
    ReadsBack leads follow (fun x => text x ++ next x) fun x => (view x, more x) where
  begins x r hr := by
    rw [String.append_assoc]
    exact h.begins x _ (hnext.begins x r hr)
  determines {x y r s} hr hs heq := by
    rw [String.append_assoc, String.append_assoc] at heq
    obtain ⟨hview, hrest⟩ := h.determines (hnext.begins x r hr) (hnext.begins y s hs) heq
    obtain ⟨hmore, hend⟩ := hnext.determines hr hs hrest
    exact ⟨Prod.ext hview hmore, hend⟩

/-- A fixed text before others. -/
theorem lead (a : String) (h : ReadsBack leads follow text view) :
    ReadsBack [a] follow (fun x => a ++ text x) view where
  begins x r _ := ⟨a, List.mem_singleton_self a, text x ++ r, String.append_assoc ..⟩
  determines hr hs heq := by
    rw [String.append_assoc, String.append_assoc, String.append_right_inj] at heq
    exact h.determines hr hs heq

/-- One of some words, none of which begins another. -/
theorem word {words : List String}
    (hwords : ∀ a ∈ words, ∀ b ∈ words, a.toList <+: b.toList → a = b) (hmem : ∀ x, text x ∈ words)
    (hview : ∀ x y, text x = text y → view x = view y) : ReadsBack words follow text view where
  begins x r _ := ⟨text x, hmem x, r, rfl⟩
  determines {x y r s} _ _ heq := by
    have hsame : text x = text y := by
      rcases prefix_of_append_eq heq with hprefix | hprefix
      · exact hwords _ (hmem x) _ (hmem y) hprefix
      · exact (hwords _ (hmem y) _ (hmem x) hprefix).symm
    rw [hsame, String.append_right_inj] at heq
    exact ⟨hview x y hsame, heq⟩

/-- Texts each after a separator, up to what may follow them all. -/
theorem following {separator : String} {starts : List String}
    (h : ReadsBack leads (starts ++ follow) text view)
    (hstarts : Covers starts (leads.map (separator ++ ·))) (hapart : Apart starts follow) :
    ReadsBack (starts ++ follow) follow (following separator text) (List.map view) := by
  have hcons (x : α) {t : String} (ht : Begins (starts ++ follow) t) :
      Begins starts (separator ++ (text x ++ t)) := (h.begins x t ht).after separator hstarts
  have hbegins (xs : List α) (r : String) (hr : Begins follow r) :
      Begins (starts ++ follow) (RowFerry.following separator text xs ++ r) := by
    induction xs with
    | nil => simpa [RowFerry.following] using hr.append_right
    | cons x xs ih =>
      rw [RowFerry.following, String.append_assoc, String.append_assoc]
      exact (hcons x ih).append_left
  refine ⟨hbegins, ?_⟩
  intro xs ys r s hr hs heq
  induction xs generalizing ys with
  | nil =>
    cases ys with
    | nil => simpa [RowFerry.following] using heq
    | cons y ys =>
      rw [RowFerry.following, RowFerry.following, String.empty_append, String.append_assoc,
        String.append_assoc] at heq
      exact (hapart.absurd (hcons y (hbegins ys s hs)) (heq ▸ hr)).elim
  | cons x xs ih =>
    cases ys with
    | nil =>
      rw [RowFerry.following, RowFerry.following, String.empty_append, String.append_assoc,
        String.append_assoc] at heq
      exact (hapart.absurd (hcons x (hbegins xs r hr)) (heq ▸ hs)).elim
    | cons y ys =>
      rw [RowFerry.following, RowFerry.following, String.append_assoc, String.append_assoc,
        String.append_assoc, String.append_assoc, String.append_right_inj] at heq
      obtain ⟨hview, hrest⟩ := h.determines (hbegins xs r hr) (hbegins ys s hs) heq
      obtain ⟨hviews, hend⟩ := ih hrest
      exact ⟨congrArg₂ List.cons hview hviews, hend⟩

/-- A series, which may be empty. -/
theorem series {lead separator : String} {starts later : List String}
    (h : ReadsBack leads (later ++ follow) text view)
    (hstarts : Covers starts (leads.map (lead ++ ·))) (hstartsApart : Apart starts follow)
    (hlater : Covers later (leads.map (separator ++ ·))) (hlaterApart : Apart later follow) :
    ReadsBack (starts ++ follow) follow (series lead separator text) (List.map view) := by
  have hcons : ReadsBack leads follow
      (fun p : α × List α => text p.1 ++ RowFerry.following separator text p.2)
      fun p => (view p.1, p.2.map view) :=
    (h.part Prod.fst).append ((h.following hlater hlaterApart).part Prod.snd)
  have hbegins (x : α) (xs : List α) {r : String} (hr : Begins follow r) :
      Begins starts (RowFerry.series lead separator text (x :: xs) ++ r) := by
    rw [RowFerry.series, String.append_assoc]
    exact (hcons.begins (x, xs) r hr).after lead hstarts
  constructor
  · intro xs r hr
    cases xs with
    | nil => simpa [RowFerry.series] using hr.append_right
    | cons x xs => exact (hbegins x xs hr).append_left
  · intro xs ys r s hr hs heq
    cases xs with
    | nil =>
      cases ys with
      | nil => simpa [RowFerry.series] using heq
      | cons y ys =>
        rw [RowFerry.series, String.empty_append] at heq
        exact (hstartsApart.absurd (hbegins y ys hs) (heq ▸ hr)).elim
    | cons x xs =>
      cases ys with
      | nil =>
        rw [RowFerry.series.eq_def lead separator text [], String.empty_append] at heq
        exact (hstartsApart.absurd (hbegins x xs hr) (heq ▸ hs)).elim
      | cons y ys =>
        simp only [RowFerry.series, String.append_assoc, String.append_right_inj] at heq
        obtain ⟨hviews, hend⟩ := hcons.determines (x := (x, xs)) (y := (y, ys)) hr hs
          (by simpa only [String.append_assoc] using heq)
        exact ⟨congrArg (fun p : β × List β => p.1 :: p.2) hviews, hend⟩

end ReadsBack

end RowFerry
