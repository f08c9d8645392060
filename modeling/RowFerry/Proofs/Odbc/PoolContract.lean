import Mathlib.Data.List.Nodup
import Mathlib.Data.Set.Insert
import RowFerry.Proofs.Odbc.PoolRequests
import RowFerry.Proofs.Odbc.Shelves
import RowFerry.Proofs.PoolClient

/-!
The contract of a pool over any run of calls on it, whatever fails meanwhile: what is held is
announced, a pool is built only when none is held, and a discarded connection does not come back.
-/

namespace RowFerry

open Odbc in
/-- The client of a pool without what the keeper noted. -/
def Client.unnoted {ρ μ π κ : Type} (s : Client (PoolState (Noted ρ π) μ π κ) κ) :
    Client (PoolState ρ μ π κ) κ :=
  ⟨s.pool.unnoted, s.lent⟩

open Odbc in
/-- A step without what the keeper noted. -/
def PoolStep.unnoted {ρ μ π κ : Type} (step : PoolStep (PoolState (Noted ρ π) μ π κ) κ) :
    PoolStep (PoolState ρ μ π κ) κ :=
  ⟨step.before.unnoted, step.answer, step.after.unnoted⟩

namespace Odbc

variable {ρ μ π κ : Type} [DecidableEq κ]

/-! ## The contract at one call -/

/-- What a call on a pool does whose keeper notes the pools that it builds. -/
structure KeepsContract (m : Manager μ κ) (k : Keeper ρ μ π κ) (settings : PoolSettings)
    (step : PoolStep (PoolState (Noted ρ π) μ π κ) κ) : Prop where
  /-- The pool is announced as open exactly when one is held. -/
  announced : (PoolState.engine m k.noted settings).isOpen step.after = step.after.held.isSome
  /-- When no pool is held the keeper is asked for one, which is held afterwards
  if it passes its test. -/
  tried : step.answer.needsPool → step.before.held = none →
    ∃ result opened built, PoolState.Opening m k.noted settings step.before result opened ∧
      step.after.held = result.toOption ∧ step.after.builds = step.before.builds ++ [built] ∧
      ∀ pool, result = .ok pool → built = .ok pool
  /-- A pool that is held stays, and the keeper is asked for no other. -/
  reused : step.answer.needsPool → ∀ pool, step.before.held = some pool →
    step.after.held = some pool ∧ step.after.builds = step.before.builds
  /-- When opening fails so does the call, and no pool is held or announced. -/
  failed : step.answer.needsPool → ∀ f,
    ((PoolState.engine m k.noted settings).openPool.runFrom step.before).1 = .error f →
      step.answer.failure? = some f ∧ step.after.held = none ∧
        (PoolState.engine m k.noted settings).isOpen step.after = false
  /-- When opening succeeds a pool is held, even if the call fails. -/
  opened : step.answer.needsPool →
    ((PoolState.engine m k.noted settings).openPool.runFrom step.before).1 = .ok () →
      step.after.held.isSome
  /-- No other call asks for a pool; closing gives the pool up, and the others leave it. -/
  others : step.answer.needsPool = false →
    step.after.builds = step.before.builds ∧
      step.after.held = if step.answer = .closed then none else step.before.held

section Contract

open PoolState

variable {m : Manager μ κ} {k : Keeper ρ μ π κ} {settings : PoolSettings}

/-- What a call that needs a pool does beyond opening it concerns only what the keeper lends. -/
theorem keepsContract_of_current {s s₁ : PoolState (Noted ρ π) μ π κ} {r : Except Failure π}
    {answer : PoolAnswer κ} {w : Noted ρ π × μ} (hs : s.isOpen = s.held.isSome)
    (hr : (current m k.noted settings).runFrom s = (r, s₁)) (hneeds : answer.needsPool)
    (hw : w.1.2 = s₁.builds) (hfail : ∀ f, r = .error f → answer.failure? = some f) :
    KeepsContract m k settings ⟨s, answer, s₁.withWorld w⟩ := by
  obtain ⟨hheld, hopen⟩ := current_slot m k.noted settings hs
  have hopened := openPool_runFrom m k.noted settings s
  rw [hr] at hheld hopen hopened
  have hresult : ((engine m k.noted settings).openPool.runFrom s).1 = r.map fun _ => () :=
    congrArg Prod.fst hopened
  constructor
  case announced => exact hopen.trans (congrArg Option.isSome hheld.symm)
  case tried =>
    intro _ hnone
    have hopening := current_opening m k.noted settings hnone
    rw [hr] at hopening
    obtain ⟨built, hbuilds, hbuilt⟩ := hopening.builds
    exact ⟨r, s₁, built, hopening, hheld, hw.trans hbuilds, hbuilt⟩
  case reused =>
    intro _ pool hpool
    change s.held = some pool at hpool
    cases (current_held m k.noted settings hpool).symm.trans hr
    exact ⟨hpool, hw⟩
  case failed =>
    intro _ f hf
    cases r with
    | error g =>
      cases hresult.symm.trans hf
      exact ⟨hfail f rfl, hheld, hopen⟩
    | ok p => cases hresult.symm.trans hf
  case opened =>
    intro _ hok
    cases r with
    | error f => cases hresult.symm.trans hok
    | ok p => exact congrArg Option.isSome hheld
  case others => exact fun h => nomatch hneeds.symm.trans h

/-- A call that needs no pool to be open leaves the one that is held unless it closes the pool. -/
theorem keepsContract_of_other {s after : PoolState (Noted ρ π) μ π κ} {answer : PoolAnswer κ}
    (hneeds : answer.needsPool = false) (hopen : after.isOpen = after.held.isSome)
    (hbuilds : after.builds = s.builds)
    (hheld : after.held = if answer = .closed then none else s.held) :
    KeepsContract m k settings ⟨s, answer, after⟩ where
  announced := hopen
  tried h := nomatch hneeds.symm.trans h
  reused h := nomatch hneeds.symm.trans h
  failed h := nomatch hneeds.symm.trans h
  opened h := nomatch hneeds.symm.trans h
  others _ := ⟨hbuilds, hheld⟩

/-- Every call keeps the contract when the pool is announced as it should be beforehand. -/
theorem perform_keepsContract {s s' : Client (PoolState (Noted ρ π) μ π κ) κ} {call : PoolCall}
    {answer : PoolAnswer κ} (hs : s.pool.isOpen = s.pool.held.isSome)
    (h : s.perform (engine m k.noted settings) call = some (answer, s')) :
    KeepsContract m k settings ⟨s.pool, answer, s'.pool⟩ := by
  rcases hr : (current m k.noted settings).runFrom s.pool with ⟨r, s₁⟩
  rcases Client.perform_cases _ h with
    ⟨rfl, rfl⟩ | ⟨rfl, rfl⟩ | ⟨c, -, rfl, rfl⟩ | ⟨c, -, rfl, rfl⟩ | ⟨rfl, rfl⟩
  case inl =>
    have hopened := openPool_runFrom m k.noted settings s.pool
    rw [hr] at hopened
    change KeepsContract m k settings
      ⟨s.pool, .opened ((openPool m k.noted settings).runFrom s.pool).1,
        ((openPool m k.noted settings).runFrom s.pool).2⟩
    rw [hopened]
    exact keepsContract_of_current (w := s₁.world) hs hr rfl rfl fun f hf => by rw [hf]; rfl
  case inr.inl =>
    have hacquired := acquire_runFrom m k.noted settings s.pool
    rw [hr] at hacquired
    change KeepsContract m k settings
      ⟨s.pool, .acquired ((acquire m k.noted settings).runFrom s.pool).1,
        ((acquire m k.noted settings).runFrom s.pool).2⟩
    rw [hacquired]
    cases r with
    | error f =>
      exact keepsContract_of_current (w := s₁.world) hs hr rfl rfl fun _ h => by cases h; rfl
    | ok pool =>
      dsimp only
      rw [checkOut_runFrom]
      exact keepsContract_of_current hs hr rfl rfl fun _ h => nomatch h
  case inr.inr.inl => exact keepsContract_of_other rfl hs rfl rfl
  case inr.inr.inr.inl => exact keepsContract_of_other rfl hs rfl rfl
  case inr.inr.inr.inr =>
    change KeepsContract m k settings ⟨s.pool, .closed, (closePool k.noted s.pool).2⟩
    rw [closePool_eq]
    refine keepsContract_of_other rfl rfl ?_ rfl
    cases s.pool.held <;> rfl

end Contract

/-! ## Discarded connections -/

/-- The discarded connections after a call. -/
def discardedBy (discarded : Set κ) : PoolAnswer κ → Set κ
  | .discarded c => insert c discarded
  | _ => discarded

omit [DecidableEq κ] in
theorem subset_discardedBy (discarded : Set κ) (answer : PoolAnswer κ) :
    discarded ⊆ discardedBy discarded answer := by
  cases answer with
  | discarded c => exact Set.subset_insert c discarded
  | _ => exact subset_rfl

/-- The connections that the client has are different and none of them is free; the discarded ones
are not free either, and the client has none of them. -/
structure Accounted (v : KeeperView ρ μ κ) (discarded : Set κ)
    (s : Client (PoolState ρ μ π κ) κ) : Prop where
  sound : v.sound s.pool.world
  nodup : s.lent.Nodup
  lent : ∀ c ∈ s.lent, c ∉ v.free s.pool.world
  discarded : ∀ c ∈ discarded, c ∉ v.free s.pool.world ∧ c ∉ s.lent

namespace Accounted

variable {v : KeeperView ρ μ κ} {discarded : Set κ} {s : Client (PoolState ρ μ π κ) κ} {c : κ}
  {pool : PoolState ρ μ π κ} (h : Accounted v discarded s)

include h

omit [DecidableEq κ] in
theorem kept (hpool : v.Keeps ∅ s.pool.world pool.world) :
    Accounted v discarded ⟨pool, s.lent⟩ where
  sound := hpool.sound
  nodup := h.nodup
  lent d hd := hpool.not_free (h.lent d hd) (Set.notMem_empty d)
  discarded d hd := ⟨hpool.not_free (h.discarded d hd).1 (Set.notMem_empty d), (h.discarded d hd).2⟩

omit [DecidableEq κ] in
/-- A connection that was free is none of those that the client has or has discarded. -/
theorem lend (hpool : v.Keeps ∅ s.pool.world pool.world) (hfree : c ∈ v.free s.pool.world)
    (hout : c ∉ v.free pool.world) : Accounted v discarded ⟨pool, c :: s.lent⟩ where
  sound := hpool.sound
  nodup := List.nodup_cons.mpr ⟨fun hc => h.lent c hc hfree, h.nodup⟩
  lent := List.forall_mem_cons.mpr ⟨hout, (h.kept hpool).lent⟩
  discarded d hd := by
    obtain ⟨hdfree, hdlent⟩ := (h.kept hpool).discarded d hd
    refine ⟨hdfree, fun hmem => ?_⟩
    rcases List.mem_cons.mp hmem with rfl | hmem
    · exact (h.discarded d hd).1 hfree
    · exact hdlent hmem

theorem giveBack (hc : c ∈ s.lent) (hpool : v.Keeps {c} s.pool.world pool.world) :
    Accounted v discarded ⟨pool, s.lent.erase c⟩ where
  sound := hpool.sound
  nodup := h.nodup.erase c
  lent d hd := by
    obtain ⟨hne, hlent⟩ := h.nodup.mem_erase_iff.mp hd
    exact hpool.not_free (h.lent d hlent) hne
  discarded d hd := by
    obtain ⟨hfree, hlent⟩ := h.discarded d hd
    refine ⟨hpool.not_free hfree ?_, fun hd => hlent (List.mem_of_mem_erase hd)⟩
    rintro rfl
    exact hlent hc

theorem drop (hc : c ∈ s.lent) (hpool : v.Keeps ∅ s.pool.world pool.world) :
    Accounted v (insert c discarded) ⟨pool, s.lent.erase c⟩ := by
  have hback := h.giveBack hc (hpool.mono (Set.empty_subset _))
  refine ⟨hback.sound, hback.nodup, hback.lent, ?_⟩
  rintro d (rfl | hd)
  · exact ⟨(h.kept hpool).lent d hc, h.nodup.not_mem_erase⟩
  · exact hback.discarded d hd

end Accounted

section Discarded

open PoolState

variable {m : Manager μ κ} {k : Keeper ρ μ π κ} {settings : PoolSettings} {v : KeeperView ρ μ κ}
  (hk : k.Faithful m v)

include hk

/-- A call accounts for the connection that it discards, and is handed out no discarded one. -/
theorem perform_accounted {discarded : Set κ}
    {s s' : Client (PoolState ρ μ π κ) κ} {call : PoolCall} {answer : PoolAnswer κ}
    (hs : Accounted v discarded s) (h : s.perform (engine m k settings) call = some (answer, s')) :
    Accounted v (discardedBy discarded answer) s' ∧ ∀ c ∈ discarded, answer ≠
      .acquired (.ok c) := by
  have hcurrent := current_keeps settings hk hs.sound
  rcases Client.perform_cases _ h with
    ⟨rfl, rfl⟩ | ⟨rfl, rfl⟩ | ⟨c, hc, rfl, rfl⟩ | ⟨c, hc, rfl, rfl⟩ | ⟨rfl, rfl⟩
  case inl =>
    have hpool : v.Keeps ∅ s.pool.world ((openPool m k settings).runFrom s.pool).2.world := by
      rwa [openPool_runFrom]
    exact ⟨hs.kept hpool, fun _ _ h => nomatch h⟩
  case inr.inl =>
    change Accounted v discarded ⟨((acquire m k settings).runFrom s.pool).2,
        ((acquire m k settings).runFrom s.pool).1.toOption.toList ++ s.lent⟩ ∧
      ∀ c ∈ discarded, PoolAnswer.acquired ((acquire m k settings).runFrom s.pool).1 ≠
        .acquired (.ok c)
    rw [acquire_runFrom]
    cases hr : (current m k settings).runFrom s.pool with
    | mk r s₁ =>
      rw [hr] at hcurrent
      cases r with
      | error f => exact ⟨hs.kept hcurrent, fun _ _ h => nomatch h⟩
      | ok pool =>
        dsimp only
        rw [checkOut_runFrom]
        have hlend := hk.lend pool s₁.world hcurrent.sound
        cases ha : (k.lend pool s₁.world).1 with
        | error refusal => exact ⟨hs.kept (hcurrent.trans hlend), fun _ _ h => nomatch h⟩
        | ok c =>
          obtain ⟨hfree, hout⟩ := hk.lend_ok pool s₁.world c hcurrent.sound ha
          -- opening frees nothing, so what is lent after it was free before the call
          have hbefore : c ∈ v.free s.pool.world :=
            (hcurrent.free hfree).resolve_right (Set.notMem_empty c)
          refine ⟨hs.lend (hcurrent.trans hlend) hbefore hout, fun d hd h => ?_⟩
          cases h
          exact (hs.discarded c hd).1 hbefore
  case inr.inr.inl =>
    have hpool : v.Keeps {c} s.pool.world (release k c s.pool).2.world :=
      hk.takeBack_any (s.pool.broken.contains c) hs.sound (hs.lent c hc)
    exact ⟨hs.giveBack hc hpool, fun _ _ h => nomatch h⟩
  case inr.inr.inr.inl =>
    have hpool : v.Keeps ∅ s.pool.world (discard k c s.pool).2.world := by
      rw [discard_eq]
      exact hk.takeBack_broken c s.pool.world hs.sound (hs.lent c hc)
    exact ⟨hs.drop hc hpool, fun _ _ h => nomatch h⟩
  case inr.inr.inr.inr =>
    have hpool : v.Keeps ∅ s.pool.world (closePool k s.pool).2.world := by
      rw [closePool_eq]
      cases s.pool.held with
      | none => exact .refl hs.sound
      | some pool => exact hk.giveUp pool s.pool.world hs.sound
    exact ⟨hs.kept hpool, fun _ _ h => nomatch h⟩

theorem history_discarded (calls : List PoolCall) {discarded : Set κ}
    {s : Client (PoolState ρ μ π κ) κ} (hs : Accounted v discarded s) :
    (∀ step ∈ s.history (engine m k settings) calls, ∀ c ∈ discarded,
      step.answer ≠ .acquired (.ok c)) ∧
      (s.history (engine m k settings) calls).Pairwise fun step later =>
        ∀ c, step.answer = .discarded c → later.answer ≠ .acquired (.ok c) := by
  induction calls generalizing discarded s with
  | nil => exact ⟨fun _ h => absurd h List.not_mem_nil, .nil⟩
  | cons call calls ih =>
    -- the rest of the run starts with the discarded connections of this call added to the others
    rw [Client.history]
    cases h : s.perform (engine m k settings) call with
    | none => exact ih hs
    | some made =>
      obtain ⟨hnext, hlent⟩ := perform_accounted hk hs h
      obtain ⟨hlater, hpairs⟩ := ih hnext
      refine ⟨List.forall_mem_cons.mpr ⟨hlent, fun step hstep c hc => ?_⟩,
        List.pairwise_cons.mpr ⟨fun step hstep c hc => ?_, hpairs⟩⟩
      · exact hlater step hstep c (subset_discardedBy discarded made.1 hc)
      · refine hlater step hstep c ?_
        rw [show made.1 = .discarded c from hc]
        exact Set.mem_insert c discarded

end Discarded

/-! ## Runs -/

section Unnoted

open PoolState

variable (m : Manager μ κ) (k : Keeper ρ μ π κ) (settings : PoolSettings)

theorem perform_unnoted (s : Client (PoolState (Noted ρ π) μ π κ) κ) (call : PoolCall) :
    s.unnoted.perform (engine m k settings) call =
      (s.perform (engine m k.noted settings) call).map fun made => (made.1, made.2.unnoted) := by
  cases call with
  | openPool =>
    change some (PoolAnswer.opened ((openPool m k settings).runFrom s.pool.unnoted).1,
      (⟨((openPool m k settings).runFrom s.pool.unnoted).2, s.lent⟩ : Client _ κ)) = _
    rw [openPool_unnoted]
    rfl
  | acquire =>
    change some (PoolAnswer.acquired ((acquire m k settings).runFrom s.pool.unnoted).1,
      (⟨((acquire m k settings).runFrom s.pool.unnoted).2,
        ((acquire m k settings).runFrom s.pool.unnoted).1.toOption.toList ++ s.lent⟩ :
          Client _ κ)) = _
    rw [acquire_unnoted]
    rfl
  | release i =>
    simp only [Client.perform, Client.unnoted, Option.map_map]
    rfl
  | discard i =>
    simp only [Client.perform, Client.unnoted, Option.map_map]
    rfl
  | closePool =>
    change some (PoolAnswer.closed, (⟨(closePool k s.pool.unnoted).2, s.lent⟩ : Client _ κ)) = _
    rw [closePool_unnoted]
    rfl

/-- A keeper that notes what it builds makes the run that the keeper itself makes. -/
theorem history_unnoted (calls : List PoolCall) (s : Client (PoolState (Noted ρ π) μ π κ) κ) :
    s.unnoted.history (engine m k settings) calls =
      (s.history (engine m k.noted settings) calls).map PoolStep.unnoted := by
  induction calls generalizing s with
  | nil => rfl
  | cons call calls ih =>
    rw [Client.history, Client.history, perform_unnoted]
    cases s.perform (engine m k.noted settings) call with
    | none => exact ih s
    | some made => exact congrArg (List.cons _) (ih made.2)

end Unnoted

open PoolState in
/-- **A pool keeps its contract over any run.** Over a faithful keeper every call keeps it from
where the last one ended, whatever the keeper and the manager refuse, and a connection that is
discarded is never handed out again. The run is the one that is made when nothing is noted. -/
theorem calls_keep_contract {m : Manager μ κ} {k : Keeper ρ μ π κ} {v : KeeperView ρ μ κ}
    (hk : k.Faithful m v) (settings : PoolSettings) {keeper : ρ} {manager : μ}
    (hs : v.sound (keeper, manager)) (calls : List PoolCall) :
    let steps := (Client.start κ (unopened (keeper, []) manager)).history
      (engine m k.noted settings) calls
    (Client.start κ (unopened keeper manager)).history (engine m k settings) calls =
        steps.map PoolStep.unnoted ∧
      (∀ step ∈ steps, KeepsContract m k settings step) ∧
      (steps.IsChain fun step next => next.before = step.after) ∧
      steps.Pairwise fun step later =>
        ∀ c, step.answer = .discarded c → later.answer ≠ .acquired (.ok c) := by
  refine ⟨history_unnoted m k settings calls (.start κ (unopened (keeper, []) manager)), ?_,
    Client.history_linked _ calls _, ?_⟩
  · refine Client.history_forall _ (I := fun s => s.pool.isOpen = s.pool.held.isSome) ?_ calls rfl
    -- the flag that is announced is the invariant: each call sets it as the
    -- contract of that call says
    intro s call answer s' hopen hcall
    have hkept := perform_keepsContract hopen hcall
    exact ⟨hkept.announced, hkept⟩
  · have hstart : Accounted (v.noted π) ∅
        (Client.start κ (unopened (keeper, []) manager : PoolState (Noted ρ π) μ π κ)) :=
      ⟨hs, List.nodup_nil, fun _ h => absurd h List.not_mem_nil, fun _ h =>
        absurd h (Set.notMem_empty _)⟩
    exact (history_discarded hk.noted calls hstart).2

open PoolState Rehearsal in
/-- The first test of a connection fails. The pool is opened by the call after it, a discarded
connection is replaced by a new one, and once the pool is closed the last call builds another. -/
theorem failedTest_keeps_contract :
    let failure : Diagnostic := ⟨"08S01", 17, "link failure"⟩
    let script : Rehearsal.Manager := { rules := [⟨"SELECT 1", failure, 0, some 1, 0⟩] }
    let steps := (Client.start Nat (unopened ([], []) script)).history
      (engine Manager.manager (Shelves.keeper Manager.manager).noted ⟨"DSN=dm;", 1, 0⟩)
      [.openPool, .acquire, .discard 0, .acquire, .release 0, .closePool, .acquire]
    steps.map PoolStep.answer =
        [.opened (.error (.init (failure.failure .execute).message)),
          .acquired (.ok 1), .discarded 1, .acquired (.ok 2), .released 2, .closed,
          .acquired (.ok 3)] ∧
      steps.map (fun step => (step.after.isOpen, step.after.builds.length)) =
        [(false, 1), (true, 2), (true, 2), (true, 2), (true, 2), (false, 2), (true, 3)] ∧
      (∀ step ∈ steps,
        KeepsContract Manager.manager (Shelves.keeper Manager.manager) ⟨"DSN=dm;", 1, 0⟩ step) ∧
      (steps.IsChain fun step next => next.before = step.after) ∧
      steps.Pairwise fun step later =>
        ∀ c, step.answer = .discarded c → later.answer ≠ .acquired (.ok c) := by
  intro failure script steps
  obtain ⟨-, hkept, hlinked, hdiscarded⟩ := calls_keep_contract
    (Shelves.keeper_faithful Rehearsal.Manager.fresh) ⟨"DSN=dm;", 1, 0⟩ (Shelves.sound_nil _ script)
    [.openPool, .acquire, .discard 0, .acquire, .release 0, .closePool, .acquire]
  exact ⟨by decide +kernel, by decide +kernel, hkept, hlinked, hdiscarded⟩

end Odbc

end RowFerry
