import RowFerry.Proofs.Odbc.FaithfulKeeper

/-!
What each request to a pool does. A request changes the states of the keeper and of the manager, and
of the pool itself only what is said here; `Opening` lists the ways in which opening a pool goes.
-/

namespace RowFerry.Odbc.PoolState

variable {ρ μ π κ : Type}

/-- The states of the keeper and of the manager. -/
def world (s : PoolState ρ μ π κ) : ρ × μ := (s.keeper, s.manager)

/-- The pool with other states of the keeper and of the manager. -/
def withWorld (s : PoolState ρ μ π κ) (w : ρ × μ) : PoolState ρ μ π κ :=
  { s with keeper := w.1, manager := w.2 }

@[simp] theorem world_withWorld (s : PoolState ρ μ π κ) (w : ρ × μ) :
    (s.withWorld w).world = w := rfl

section Requests

variable [DecidableEq κ] (m : Manager μ κ) (k : Keeper ρ μ π κ) (settings : PoolSettings)

omit [DecidableEq κ] in
theorem checkOut_runFrom (pool : π) (s : PoolState ρ μ π κ) :
    (checkOut k pool).runFrom s =
      ((k.lend pool s.world).1.mapError Refusal.asInit, s.withWorld (k.lend pool s.world).2) := by
  have hlend : below (k.lend pool) s =
    ((k.lend pool s.world).1, s.withWorld (k.lend pool s.world).2) := rfl
  rw [checkOut, Act.runFrom_lift_bind, hlend]
  cases (k.lend pool s.world).1 <;> rfl

theorem giveBack_eq (c : κ) (s : PoolState ρ μ π κ) :
    giveBack k c s = ((), s.withWorld (k.takeBack c (s.broken.contains c) s.world).2) := rfl

theorem discard_eq (c : κ) (s : PoolState ρ μ π κ) :
    discard k c s = ((), { s with broken := c :: s.broken }.withWorld
      (k.takeBack c true s.world).2) := by
  change giveBack k c { s with broken := c :: s.broken } = _
  rw [giveBack_eq, List.contains_cons, beq_self_eq_true, Bool.true_or]
  rfl

omit [DecidableEq κ] in
theorem closePool_eq (s : PoolState ρ μ π κ) :
    (closePool k s).2 =
      { s with held := none, isOpen := false }.withWorld
        (s.held.elim s.world fun pool => (k.giveUp pool s.world).2) := by
  -- the structure is taken apart so that both sides compute once it is known whether a pool is held
  obtain ⟨held, isOpen, broken, r, t⟩ := s
  cases held <;> rfl

/-! ## Testing a connection -/

/-- What the test of a pool makes of the answer of its connection. -/
def tested (answer : Except Failure Outcome) : Except Failure Unit :=
  (answer.mapError fun f => .init f.message).map fun _ => ()

variable {k} in
theorem testOne_refused {pool : π} {s : PoolState ρ μ π κ} {r : Refusal} {w : ρ × μ}
    (h : k.lend pool s.world = (.error r, w)) :
    (testOne m k pool).runFrom s = (.error r.asInit, s.withWorld w) := by
  have hlend := checkOut_runFrom k pool s
  rw [h] at hlend
  rw [testOne, Act.runFrom_bind_error hlend]

variable {k} in
/-- The connection that is tested goes back to the keeper, whatever it answered. -/
theorem testOne_lent {pool : π} {s : PoolState ρ μ π κ} {c : κ} {w : ρ × μ}
    (h : k.lend pool s.world = (.ok c, w)) :
    (testOne m k pool).runFrom s =
      (tested ((m.run c healthCheck []).runFrom w.2).1,
        s.withWorld (k.takeBack c (s.broken.contains c)
          (w.1, ((m.run c healthCheck []).runFrom w.2).2)).2) := by
  have hlend := checkOut_runFrom k pool s
  rw [h] at hlend
  have hrun : Act.runFrom (ask (m.run c healthCheck [])) (s.withWorld w) =
      (((m.run c healthCheck []).runFrom w.2).1,
        s.withWorld (w.1, ((m.run c healthCheck []).runFrom w.2).2)) := rfl
  rw [testOne, Act.runFrom_bind_ok hlend, Act.runFrom_attempt_bind, Act.runFrom_lift_bind, hrun]
  cases ((m.run c healthCheck []).runFrom w.2).1 <;> rfl

theorem testOne_frame (pool : π) (s : PoolState ρ μ π κ) :
    ∃ w, ((testOne m k pool).runFrom s).2 = s.withWorld w := by
  cases h : k.lend pool s.world with
  | mk answer w =>
    cases answer with
    | error r => exact ⟨w, by rw [testOne_refused m h]⟩
    | ok c => exact ⟨_, by rw [testOne_lent m h]⟩

variable {m k} in
/-- The connection that is tested was idle or new, so giving it back frees nothing. -/
theorem testOne_keeps {v : KeeperView ρ μ κ} (hk : k.Faithful m v) (pool : π)
    {s : PoolState ρ μ π κ} (hs : v.sound s.world) :
    v.Keeps ∅ s.world ((testOne m k pool).runFrom s).2.world := by
  have hlend := hk.lend pool s.world hs
  cases h : k.lend pool s.world with
  | mk answer w =>
    rw [h] at hlend
    cases answer with
    | error r =>
      rw [testOne_refused m h]
      exact hlend
    | ok c =>
      rw [testOne_lent m h, world_withWorld]
      obtain ⟨hfree, hout⟩ : c ∈ v.free s.world ∧ c ∉ v.free w := by
        simpa only [h] using hk.lend_ok pool s.world c hs (by rw [h])
      have hrun := hk.run c healthCheck [] w.1 w.2 hlend.sound
      have hback := hk.takeBack_any (s.broken.contains c) hrun.sound
        (hrun.not_free hout (Set.notMem_empty c))
      exact (hlend.trans hrun).absorb hback hfree

/-! ## Opening -/

/-- The ways in which opening goes when no pool is held: none is built, or the one that is built
fails its test and is given up, or it is held from then on. -/
inductive Opening (s : PoolState ρ μ π κ) : Except Failure π → PoolState ρ μ π κ → Prop where
  | unbuilt {f : Failure} {w : ρ × μ} (hbuild : k.build settings s.world = (.error f, w)) :
    Opening s (.error f) (s.withWorld w)
  | refused {pool : π} {w : ρ × μ} {f : Failure} {s' : PoolState ρ μ π κ}
    (hbuild : k.build settings s.world = (.ok pool, w))
    (htest : (testOne m k pool).runFrom (s.withWorld w) = (.error f, s')) :
    Opening s (.error f) (s'.withWorld (k.giveUp pool s'.world).2)
  | opened {pool : π} {w : ρ × μ} {s' : PoolState ρ μ π κ}
    (hbuild : k.build settings s.world = (.ok pool, w))
    (htest : (testOne m k pool).runFrom (s.withWorld w) = (.ok (), s')) :
    Opening s (.ok pool) { s' with held := some pool, isOpen := true }

theorem current_held {s : PoolState ρ μ π κ} {pool : π} (h : s.held = some pool) :
    (current m k settings).runFrom s = (.ok pool, s) := by
  rw [current, Act.runFrom_bind_ok (show Act.runFrom get s = (.ok s, s) from rfl), h]
  rfl

theorem current_none {s : PoolState ρ μ π κ} (h : s.held = none) :
    (current m k settings).runFrom s =
      match k.build settings s.world with
      | (.error f, w) => (.error f, s.withWorld w)
      | (.ok pool, w) =>
        match (testOne m k pool).runFrom (s.withWorld w) with
        | (.error f, s') => (.error f, s'.withWorld (k.giveUp pool s'.world).2)
        | (.ok (), s') => (.ok pool, { s' with held := some pool, isOpen := true }) := by
  rw [current, Act.runFrom_bind_ok (show Act.runFrom get s = (.ok s, s) from rfl), h]
  cases hb : k.build settings s.world with
  | mk built w =>
    have hbuild : Act.runFrom (ExceptT.mk (below (k.build settings).run)) s =
      (built, s.withWorld w) := by
      change ((k.build settings s.world).1, s.withWorld (k.build settings s.world).2) = _
      rw [hb]
    cases built with
    | error f => rw [Act.runFrom_bind_error hbuild]
    | ok pool =>
      rw [Act.runFrom_bind_ok hbuild, Act.runFrom_attempt_bind]
      dsimp only
      cases (testOne m k pool).runFrom (s.withWorld w) with
      | mk answer s' => cases answer <;> rfl

theorem current_opening {s : PoolState ρ μ π κ} (h : s.held = none) :
    Opening m k settings s ((current m k settings).runFrom s).1
      ((current m k settings).runFrom s).2 := by
  rw [current_none m k settings h]
  cases hb : k.build settings s.world with
  | mk built w =>
    cases built with
    | error f => exact .unbuilt hb
    | ok pool =>
      dsimp only
      cases ht : (testOne m k pool).runFrom (s.withWorld w) with
      | mk answer s' =>
        cases answer with
        | error f => exact .refused hb ht
        | ok _ => exact .opened hb ht

variable {m k settings}

/-- Opening holds a pool exactly when it succeeds, and announces the pool it holds. -/
theorem Opening.slot {s s' : PoolState ρ μ π κ} {r : Except Failure π}
    (h : Opening m k settings s r s') (hs : s.held = none) :
    s'.held = r.toOption ∧ s'.isOpen = (r.toOption.isSome || s.isOpen) := by
  cases h with
  | unbuilt hbuild => exact ⟨hs, rfl⟩
  | @refused pool w f s' hbuild htest =>
    obtain ⟨w', hw'⟩ := testOne_frame m k pool (s.withWorld w)
    rw [htest] at hw'
    subst hw'
    exact ⟨hs, rfl⟩
  | @opened pool w s' hbuild htest =>
    obtain ⟨w', hw'⟩ := testOne_frame m k pool (s.withWorld w)
    rw [htest] at hw'
    subst hw'
    exact ⟨rfl, rfl⟩

theorem Opening.current {s s' : PoolState ρ μ π κ} {r : Except Failure π}
    (h : Opening m k settings s r s') (hs : s.held = none) :
    (current m k settings).runFrom s = (r, s') := by
  rw [current_none m k settings hs]
  cases h with
  | unbuilt hbuild => rw [hbuild]
  | refused hbuild htest => simp only [hbuild, htest]
  | opened hbuild htest => simp only [hbuild, htest]

theorem Opening.keeps {v : KeeperView ρ μ κ} (hk : k.Faithful m v) {s s' : PoolState ρ μ π κ}
    {r : Except Failure π} (h : Opening m k settings s r s') (hs : v.sound s.world) :
    v.Keeps ∅ s.world s'.world := by
  have hbuilt := hk.build settings s.world hs
  cases h with
  | unbuilt hbuild => rwa [hbuild] at hbuilt
  | @refused pool w f s' hbuild htest =>
    rw [hbuild] at hbuilt
    have htested := testOne_keeps hk pool (s := s.withWorld w) hbuilt.sound
    rw [htest] at htested
    exact (hbuilt.trans htested).trans (hk.giveUp pool s'.world htested.sound)
  | @opened pool w s' hbuild htest =>
    rw [hbuild] at hbuilt
    have htested := testOne_keeps hk pool (s := s.withWorld w) hbuilt.sound
    rw [htest] at htested
    exact hbuilt.trans htested

variable (m k settings)

/-- The pool that is held after opening is the one that opening gives, and it is announced. -/
theorem current_slot {s : PoolState ρ μ π κ} (hs : s.isOpen = s.held.isSome) :
    ((current m k settings).runFrom s).2.held = ((current m k settings).runFrom s).1.toOption ∧
      ((current m k settings).runFrom s).2.isOpen =
        ((current m k settings).runFrom s).1.toOption.isSome := by
  cases h : s.held with
  | some pool =>
    rw [current_held m k settings h]
    exact ⟨h, by rw [hs, h]; rfl⟩
  | none =>
    obtain ⟨hheld, hopen⟩ := (current_opening m k settings h).slot h
    rw [hs, h, Option.isSome_none, Bool.or_false] at hopen
    exact ⟨hheld, hopen⟩

variable {m k} in
theorem current_keeps {v : KeeperView ρ μ κ} (hk : k.Faithful m v) {s : PoolState ρ μ π κ}
    (hs : v.sound s.world) : v.Keeps ∅ s.world ((current m k settings).runFrom s).2.world := by
  cases h : s.held with
  | some pool =>
    rw [current_held m k settings h]
    exact .refl hs
  | none => exact (current_opening m k settings h).keeps hk hs

theorem openPool_runFrom (s : PoolState ρ μ π κ) :
    (openPool m k settings).runFrom s =
      (((current m k settings).runFrom s).1.map fun _ => (),
        ((current m k settings).runFrom s).2) := by
  cases hr : (current m k settings).runFrom s with
  | mk r s' =>
    cases r with
    | error f => rw [openPool, Act.runFrom_bind_error hr]; rfl
    | ok pool => rw [openPool, Act.runFrom_bind_ok hr]; rfl

/-- A connection is lent by the pool that is held after opening. -/
theorem acquire_runFrom (s : PoolState ρ μ π κ) :
    (acquire m k settings).runFrom s =
      match (current m k settings).runFrom s with
      | (.error f, s') => (.error f, s')
      | (.ok pool, s') => (checkOut k pool).runFrom s' := by
  cases hr : (current m k settings).runFrom s with
  | mk r s' =>
    cases r with
    | error f => rw [acquire, Act.runFrom_bind_error hr]
    | ok pool => rw [acquire, Act.runFrom_bind_ok hr]

end Requests

/-! ## The pools that are built -/

section Builds

variable [DecidableEq κ] {m : Manager μ κ} {k : Keeper ρ μ π κ} {settings : PoolSettings}

/-- The answers of a keeper to the requests to build a pool. -/
def builds (s : PoolState (Noted ρ π) μ π κ) : List (Except Failure π) := s.keeper.2

theorem testOne_builds (pool : π) (s : PoolState (Noted ρ π) μ π κ) :
    ((testOne m k.noted pool).runFrom s).2.builds = s.builds := by
  cases h : k.noted.lend pool s.world with
  | mk answer w =>
    have hw : w.1.2 = s.builds := by
      rw [← show (k.noted.lend pool s.world).2 = w from congrArg Prod.snd h]
      rfl
    cases answer with
    | error r =>
      rw [testOne_refused m h]
      exact hw
    | ok c =>
      rw [testOne_lent m h]
      exact hw

/-- Opening asks for one pool, the one that is held if it succeeds. -/
theorem Opening.builds {s s' : PoolState (Noted ρ π) μ π κ} {r : Except Failure π}
    (h : Opening m k.noted settings s r s') :
    ∃ built, s'.builds = s.builds ++ [built] ∧ ∀ pool, r = .ok pool → built = .ok pool := by
  have hnoted : (k.noted.build settings s.world).2.1.2 =
      s.builds ++ [(k.noted.build settings s.world).1] := rfl
  cases h with
  | unbuilt hbuild =>
    rw [hbuild] at hnoted
    exact ⟨_, hnoted, fun _ h => h⟩
  | @refused pool w f s' hbuild htest =>
    have htested := testOne_builds (m := m) (k := k) pool (s.withWorld w)
    rw [htest] at htested
    rw [hbuild] at hnoted
    exact ⟨_, htested.trans hnoted, fun _ h => nomatch h⟩
  | @opened pool w s' hbuild htest =>
    have htested := testOne_builds (m := m) (k := k) pool (s.withWorld w)
    rw [htest] at htested
    rw [hbuild] at hnoted
    exact ⟨_, htested.trans hnoted, fun _ h => h⟩

/-! Noting changes nothing. -/

/-- The pool without what its keeper noted. -/
def unnoted (s : PoolState (Noted ρ π) μ π κ) : PoolState ρ μ π κ :=
  ⟨s.held, s.isOpen, s.broken, s.keeper.1, s.manager⟩

theorem testOne_unnoted (pool : π) (s : PoolState (Noted ρ π) μ π κ) :
    (testOne m k pool).runFrom s.unnoted =
      (((testOne m k.noted pool).runFrom s).1, ((testOne m k.noted pool).runFrom s).2.unnoted) := by
  cases h : k.lend pool s.unnoted.world with
  | mk answer w =>
    have hnoted : k.noted.lend pool s.world = (answer, (w.1, s.keeper.2), w.2) := by
      change ((k.lend pool s.unnoted.world).1, ((k.lend pool s.unnoted.world).2.1, s.keeper.2),
        (k.lend pool s.unnoted.world).2.2) = _
      rw [h]
    cases answer with
    | error r =>
      rw [testOne_refused m h, testOne_refused m hnoted]
      rfl
    | ok c =>
      rw [testOne_lent m h, testOne_lent m hnoted]
      rfl

theorem Opening.unnoted {s s' : PoolState (Noted ρ π) μ π κ} {r : Except Failure π}
    (h : Opening m k.noted settings s r s') : Opening m k settings s.unnoted r s'.unnoted := by
  have hplain {answer : Except Failure π} {w : Noted ρ π × μ}
      (hbuild : k.noted.build settings s.world = (answer, w)) :
      k.build settings s.unnoted.world = (answer, w.1.1, w.2) := by
    rw [← show _ = answer from congrArg Prod.fst hbuild, ← show _ = w from congrArg Prod.snd hbuild]
    rfl
  cases h with
  | unbuilt hbuild => exact .unbuilt (hplain hbuild)
  | @refused pool w f s' hbuild htest =>
    have htested := testOne_unnoted (m := m) (k := k) pool (s.withWorld w)
    rw [htest] at htested
    exact .refused (hplain hbuild) htested
  | @opened pool w s' hbuild htest =>
    have htested := testOne_unnoted (m := m) (k := k) pool (s.withWorld w)
    rw [htest] at htested
    exact .opened (hplain hbuild) htested

theorem current_unnoted (s : PoolState (Noted ρ π) μ π κ) :
    (current m k settings).runFrom s.unnoted =
      (((current m k.noted settings).runFrom s).1,
        ((current m k.noted settings).runFrom s).2.unnoted) := by
  cases h : s.held with
  | some pool =>
    rw [current_held m k settings (s := s.unnoted) h, current_held m k.noted settings h]
  | none => exact (current_opening m k.noted settings h).unnoted.current h

theorem openPool_unnoted (s : PoolState (Noted ρ π) μ π κ) :
    (openPool m k settings).runFrom s.unnoted =
      (((openPool m k.noted settings).runFrom s).1,
        ((openPool m k.noted settings).runFrom s).2.unnoted) := by
  rw [openPool_runFrom, openPool_runFrom, current_unnoted]

theorem acquire_unnoted (s : PoolState (Noted ρ π) μ π κ) :
    (acquire m k settings).runFrom s.unnoted =
      (((acquire m k.noted settings).runFrom s).1,
        ((acquire m k.noted settings).runFrom s).2.unnoted) := by
  rw [acquire_runFrom, acquire_runFrom, current_unnoted]
  cases (current m k.noted settings).runFrom s with
  | mk r s' =>
    cases r with
    | error f => rfl
    | ok pool =>
      dsimp only
      rw [checkOut_runFrom, checkOut_runFrom]
      rfl

omit [DecidableEq κ] in
theorem closePool_unnoted (s : PoolState (Noted ρ π) μ π κ) :
    (closePool k s.unnoted).2 = (closePool k.noted s).2.unnoted := by
  obtain ⟨held, isOpen, broken, r, t⟩ := s
  cases held <;> rfl

end Builds

end RowFerry.Odbc.PoolState
