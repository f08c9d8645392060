import Mathlib.Data.Set.Basic
import RowFerry.Odbc.Pool
import RowFerry.Proofs.Trace

/-!
Faithful keepers. A faithful keeper lends a connection only while it is idle or when it is new, and
drops a connection that is given back as broken. Nothing more is known of what a keeper does
meanwhile: it may make connections and drop idle ones at every request.
-/

namespace RowFerry.Odbc

/-- The connections of a keeper and its manager: those that are idle and those that have been made.
`sound` holds of the states that can arise. -/
structure KeeperView (ρ μ κ : Type) where
  sound : ρ × μ → Prop
  idle : ρ × μ → Set κ
  made : ρ × μ → Set κ

namespace KeeperView

variable {ρ μ κ : Type} (v : KeeperView ρ μ κ)

/-- The connections that may be lent: those that are idle and those not made yet. -/
def free (w : ρ × μ) : Set κ := {c | c ∈ v.idle w ∨ c ∉ v.made w}

/-- What a request leaves: a sound state, in which no connection has become free
but the returned ones. -/
structure Keeps (returned : Set κ) (w w' : ρ × μ) : Prop where
  sound : v.sound w'
  free : v.free w' ⊆ v.free w ∪ returned

variable {v} {returned : Set κ} {w w' w'' : ρ × μ} {c : κ}

theorem Keeps.not_free (h : v.Keeps returned w w') (hw : c ∉ v.free w) (hc : c ∉ returned) :
    c ∉ v.free w' :=
  fun h' => (h.free h').elim hw hc

theorem Keeps.mono {more : Set κ} (h : v.Keeps returned w w') (hmore : returned ⊆ more) :
    v.Keeps more w w' :=
  ⟨h.sound, h.free.trans (Set.union_subset_union_right _ hmore)⟩

theorem Keeps.refl (h : v.sound w) : v.Keeps ∅ w w := ⟨h, Set.subset_union_left⟩

theorem Keeps.trans (h : v.Keeps returned w w') (h' : v.Keeps ∅ w' w'') : v.Keeps returned w w'' :=
  ⟨h'.sound, fun c hc => h.free ((h'.free hc).resolve_right (Set.notMem_empty c))⟩

/-- A connection that was free at first has not been freed by coming back. -/
theorem Keeps.absorb (h : v.Keeps ∅ w w') (h' : v.Keeps {c} w' w'') (hc : c ∈ v.free w) :
    v.Keeps ∅ w w'' := by
  refine ⟨h'.sound, fun d hd => ?_⟩
  rcases h'.free hd with hfree | rfl
  · exact h.free hfree
  · exact .inl hc

end KeeperView

/-- What is assumed of a keeper and its manager in sound states. A connection is given back by who
has it, so it is not free then; a broken one does not become free by it. -/
structure Keeper.Faithful {ρ μ π κ : Type} (k : Keeper ρ μ π κ) (m : Manager μ κ)
    (v : KeeperView ρ μ κ) : Prop where
  build : ∀ settings w, v.sound w → v.Keeps ∅ w (k.build settings w).2
  lend : ∀ pool w, v.sound w → v.Keeps ∅ w (k.lend pool w).2
  lend_ok : ∀ pool w c, v.sound w → (k.lend pool w).1 = .ok c →
    c ∈ v.free w ∧ c ∉ v.free (k.lend pool w).2
  takeBack : ∀ c w, v.sound w → c ∉ v.free w → v.Keeps {c} w (k.takeBack c false w).2
  takeBack_broken : ∀ c w, v.sound w → c ∉ v.free w → v.Keeps ∅ w (k.takeBack c true w).2
  giveUp : ∀ pool w, v.sound w → v.Keeps ∅ w (k.giveUp pool w).2
  run : ∀ c sql values r s, v.sound (r, s) →
    v.Keeps ∅ (r, s) (r, ((m.run c sql values).runFrom s).2)

/-- A connection that comes back is freed at most itself, whether or not it is broken. -/
theorem Keeper.Faithful.takeBack_any {ρ μ π κ : Type} {k : Keeper ρ μ π κ} {m : Manager μ κ}
    {v : KeeperView ρ μ κ} (hk : k.Faithful m v) {c : κ} (broken : Bool)
    {w : ρ × μ} (hw : v.sound w) (hc : c ∉ v.free w) : v.Keeps {c} w (k.takeBack c broken w).2 := by
  cases broken with
  | false => exact hk.takeBack c w hw hc
  | true => exact (hk.takeBack_broken c w hw hc).mono (Set.empty_subset _)

/-! ## Counting the pools that are built -/

/-- The states of a keeper with the answers to the requests to build a pool, the first one first. -/
abbrev Noted (ρ π : Type) := ρ × List (Except Failure π)

namespace Keeper

variable {ρ μ π κ α : Type}

/-- A request that is not noted. -/
def beneath (act : StateM (ρ × μ) α) : StateM (Noted ρ π × μ) α := fun w =>
  ((act (w.1.1, w.2)).1, ((act (w.1.1, w.2)).2.1, w.1.2), (act (w.1.1, w.2)).2.2)

/-- The keeper that notes the pools that it is asked to build. -/
def noted (k : Keeper ρ μ π κ) : Keeper (Noted ρ π) μ π κ where
  build settings w :=
    let (answer, r, s) := k.build settings (w.1.1, w.2)
    (answer, (r, w.1.2 ++ [answer]), s)
  lend pool := beneath (k.lend pool)
  takeBack c broken := beneath (k.takeBack c broken)
  giveUp pool := beneath (k.giveUp pool)

end Keeper

/-- The same connections, whatever is noted. -/
def KeeperView.noted {ρ μ κ : Type} (π : Type) (v : KeeperView ρ μ κ) :
    KeeperView (Noted ρ π) μ κ where
  sound w := v.sound (w.1.1, w.2)
  idle w := v.idle (w.1.1, w.2)
  made w := v.made (w.1.1, w.2)

/-- Noting leaves a keeper faithful. -/
theorem Keeper.Faithful.noted {ρ μ π κ : Type} {k : Keeper ρ μ π κ} {m : Manager μ κ}
    {v : KeeperView ρ μ κ} (hk : k.Faithful m v) : k.noted.Faithful m (v.noted π) := by
  have hlift {w w' : Noted ρ π × μ} {returned : Set κ}
      (h : v.Keeps returned (w.1.1, w.2) (w'.1.1, w'.2)) : (v.noted π).Keeps returned w w' :=
    ⟨h.sound, h.free⟩
  constructor
  case build => exact fun settings w hw => hlift (hk.build settings _ hw)
  case lend => exact fun pool w hw => hlift (hk.lend pool _ hw)
  case lend_ok => exact fun pool w c hw h => hk.lend_ok pool _ c hw h
  case takeBack => exact fun c w hw hc => hlift (hk.takeBack c _ hw hc)
  case takeBack_broken => exact fun c w hw hc => hlift (hk.takeBack_broken c _ hw hc)
  case giveUp => exact fun pool w hw => hlift (hk.giveUp pool _ hw)
  case run => exact fun c sql values r s hw => hlift (hk.run c sql values r.1 s hw)

end RowFerry.Odbc
