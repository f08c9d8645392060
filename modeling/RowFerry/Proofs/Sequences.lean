import Mathlib.Data.List.Forall2

/-!
Sequences that may fail. What is said here of a sequence that it gives a result, or that it
fails, is said of its parts; over a list the parts are those of its members, in order, and the
first that fails decides.
-/

namespace RowFerry

variable {α β ε : Type}

theorem bind_eq_ok_iff {x : Except ε α} {f : α → Except ε β} {b : β} :
    (x >>= f) = .ok b ↔ ∃ a, x = .ok a ∧ f a = .ok b := by
  cases x with
  | error e => simp [bind, Except.bind]
  | ok a => simp [bind, Except.bind]

theorem bind_eq_error_iff {x : Except ε α} {f : α → Except ε β} {e : ε} :
    (x >>= f) = .error e ↔ x = .error e ∨ ∃ a, x = .ok a ∧ f a = .error e := by
  cases x with
  | error e' => simp [bind, Except.bind]
  | ok a => simp [bind, Except.bind]

theorem map_eq_ok_iff {x : Except ε α} {f : α → β} {b : β} :
    x.map f = .ok b ↔ ∃ a, x = .ok a ∧ f a = b := by
  cases x with
  | error e => simp [Except.map]
  | ok a => simp [Except.map]

theorem map_eq_error_iff {x : Except ε α} {f : α → β} {e : ε} : x.map f = .error e ↔
    x = .error e := by
  cases x <;> simp [Except.map]

theorem map_of_bind {γ : Type} (x : Except ε α) (f : α → Except ε β) (k : β → γ) :
    (x >>= f).map k = x >>= fun a => (f a).map k := by
  cases x <;> rfl

/-- In a sequence over a state the second part goes on from where the first one ended. -/
theorem run_bind_ok {σ : Type} {act : ExceptT ε (StateM σ) α} {next : α → ExceptT ε (StateM σ) β}
    {s s' : σ} {x : α} (h : act.run.run s = (.ok x, s')) :
    (act >>= next).run.run s = (next x).run.run s' := by
  change (ExceptT.bindCont next (act.run.run s).1).run (act.run.run s).2 = _
  rw [h]
  rfl

/-- A failure of the first part leaves the state that it ended in. -/
theorem run_bind_error {σ : Type} {act : ExceptT ε (StateM σ) α} {next : α → ExceptT ε (StateM σ) β}
    {s s' : σ} {e : ε} (h : act.run.run s = (.error e, s')) :
    (act >>= next).run.run s = (.error e, s') := by
  change (ExceptT.bindCont next (act.run.run s).1).run (act.run.run s).2 = _
  rw [h]
  rfl

theorem mapM_eq_ok_iff {f : α → Except ε β} {xs : List α} {ys : List β} :
    xs.mapM f = .ok ys ↔ List.Forall₂ (fun x y => f x = .ok y) xs ys := by
  induction xs generalizing ys with
  | nil => cases ys <;> simp [pure, Except.pure]
  | cons x xs ih =>
    rw [List.mapM_cons]
    simp only [bind_eq_ok_iff, pure, Except.pure, Except.ok.injEq, ih]
    constructor
    · rintro ⟨y, hy, zs, hzs, rfl⟩
      exact .cons hy hzs
    · intro h
      cases h with
      | cons hy hys => exact ⟨_, hy, _, hys, rfl⟩

/-- A sequence succeeds when both parts do, if the first does not decide whether the second does. -/
theorem exists_bind_ok_iff {x : Except ε α} {f : α → Except ε β} {p : Prop}
    (h : ∀ a, (∃ b, f a = .ok b) ↔ p) : (∃ b, (x >>= f) = .ok b) ↔ (∃ a, x = .ok a) ∧ p := by
  simp only [bind_eq_ok_iff]
  constructor
  · rintro ⟨b, a, ha, hb⟩
    exact ⟨⟨a, ha⟩, (h a).mp ⟨b, hb⟩⟩
  · rintro ⟨⟨a, ha⟩, hp⟩
    obtain ⟨b, hb⟩ := (h a).mpr hp
    exact ⟨b, a, ha, hb⟩

/-- A sequence whose second part cannot fail succeeds as its first part does. -/
theorem exists_map_ok_iff {x : Except ε α} (f : α → β) :
    (∃ b, x.map f = .ok b) ↔ ∃ a, x = .ok a := by
  simp only [map_eq_ok_iff]
  constructor
  · rintro ⟨_, a, ha, -⟩
    exact ⟨a, ha⟩
  · rintro ⟨a, ha⟩
    exact ⟨f a, a, ha, rfl⟩

theorem exists_forall₂_iff {R : α → β → Prop} {xs : List α} :
    (∃ ys, List.Forall₂ R xs ys) ↔ ∀ x ∈ xs, ∃ y, R x y := by
  induction xs with
  | nil => exact ⟨fun _ => by simp, fun _ => ⟨[], .nil⟩⟩
  | cons x xs ih =>
    rw [List.forall_mem_cons, ← ih]
    constructor
    · rintro ⟨_, h⟩
      cases h with
      | cons hxy hxs => exact ⟨⟨_, hxy⟩, ⟨_, hxs⟩⟩
    · rintro ⟨⟨y, hxy⟩, ys, hxs⟩
      exact ⟨y :: ys, .cons hxy hxs⟩

theorem exists_mapM_ok_iff {f : α → Except ε β} {xs : List α} :
    (∃ ys, xs.mapM f = .ok ys) ↔ ∀ x ∈ xs, ∃ y, f x = .ok y := by
  simp only [mapM_eq_ok_iff]
  exact exists_forall₂_iff

/-- Over a list the first member that fails decides: all before it succeed. -/
theorem mapM_eq_error_iff {f : α → Except ε β} {xs : List α} {e : ε} :
    xs.mapM f = .error e ↔
      ∃ before x after, xs = before ++ x :: after ∧ (∀ a ∈ before, ∃ b, f a = .ok b) ∧
      f x = .error e := by
  induction xs with
  | nil => simp [pure, Except.pure]
  | cons x xs ih =>
    rw [List.mapM_cons]
    simp only [bind_eq_error_iff, pure, Except.pure, reduceCtorEq, and_false,
      exists_false, or_false, ih]
    constructor
    · rintro (hx | ⟨y, hy, before, z, after, rfl, hbefore, hz⟩)
      · exact ⟨[], x, xs, rfl, by simp, hx⟩
      · exact ⟨x :: before, z, after, rfl, List.forall_mem_cons.mpr ⟨⟨y, hy⟩, hbefore⟩, hz⟩
    · rintro ⟨before, z, after, hxs, hbefore, hz⟩
      cases before with
      | nil =>
        obtain ⟨rfl, rfl⟩ := List.cons.inj hxs
        exact .inl hz
      | cons a before =>
        obtain ⟨rfl, rfl⟩ := List.cons.inj hxs
        obtain ⟨⟨y, hy⟩, hbefore⟩ := List.forall_mem_cons.mp hbefore
        exact .inr ⟨y, hy, before, z, after, rfl, hbefore, hz⟩

/-- What every result of a function has, the members of related lists have. -/
theorem forall₂_right {R : α → β → Prop} {P : β → Prop} (h : ∀ x y, R x y → P y) {xs : List α}
    {ys : List β} (hxs : List.Forall₂ R xs ys) : ∀ y ∈ ys, P y := by
  induction hxs with
  | nil => simp
  | cons hxy _ ih => exact List.forall_mem_cons.mpr ⟨h _ _ hxy, ih⟩

/-- A member of the first of two related lists is related to a member of the second. -/
theorem forall₂_mem_left {R : α → β → Prop} {xs : List α} {ys : List β} (h : List.Forall₂ R xs ys)
    {x : α} (hx : x ∈ xs) : ∃ y ∈ ys, R x y := by
  induction h with
  | nil => simp at hx
  | cons hxy _ ih =>
    rcases List.mem_cons.mp hx with rfl | hlater
    · exact ⟨_, List.mem_cons_self, hxy⟩
    · obtain ⟨y, hy, hrelated⟩ := ih hlater
      exact ⟨y, List.mem_cons_of_mem _ hy, hrelated⟩

theorem forall₂_comp {γ : Type} {R : α → β → Prop} {S : β → γ → Prop} {T : α → γ → Prop}
    (h : ∀ x y z, R x y → S y z → T x z) {xs : List α} {ys : List β} {zs : List γ}
    (hxs : List.Forall₂ R xs ys) (hys : List.Forall₂ S ys zs) : List.Forall₂ T xs zs := by
  induction hxs generalizing zs with
  | nil =>
    cases hys
    exact .nil
  | cons hxy _ ih =>
    cases hys with
    | cons hyz hys => exact .cons (h _ _ _ hxy hyz) (ih hys)

/-- What stands for named members beside others, each under the name of its member,
has the names in order. -/
theorem forall₂_zip_names {γ δ : Type} {xs : List (α × β)} {ys : List γ} {zs : List (α × δ)}
    (hlength : ys.length = xs.length) (h : List.Forall₂ (fun p z => z.1 = p.1.1) (xs.zip ys) zs) :
    zs.map Prod.fst = xs.map Prod.fst := by
  induction xs generalizing ys zs with
  | nil =>
    cases h
    rfl
  | cons x xs ih =>
    obtain ⟨y, ys, rfl⟩ := List.exists_cons_of_length_eq_add_one hlength
    cases h with
    | cons hz hzs =>
      rw [List.map_cons, List.map_cons, hz, ih (Nat.succ.inj hlength) hzs]

end RowFerry
