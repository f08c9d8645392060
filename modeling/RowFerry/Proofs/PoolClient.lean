import Mathlib.Data.List.Chain
import RowFerry.Proofs.Trace

/-!
Clients of a pool. A client makes calls one after another, and gives back or discards only
connections that it has been handed out. Its history is what the calls came to.
-/

namespace RowFerry

/-- A call of a client; a connection is named by its place among those that the client has. -/
inductive PoolCall where
  | openPool
  | acquire
  | release (i : Nat)
  | discard (i : Nat)
  | closePool
  deriving Repr, DecidableEq

/-- What a call came to. -/
inductive PoolAnswer (κ : Type) where
  | opened (result : Except Failure Unit)
  | acquired (result : Except Failure κ)
  | released (c : κ)
  | discarded (c : κ)
  | closed
  deriving Repr, DecidableEq

namespace PoolAnswer

variable {κ : Type}

/-- Is it the answer of a call that needs a pool to be open? -/
def needsPool : PoolAnswer κ → Bool
  | opened _ | acquired _ => true
  | released _ | discarded _ | closed => false

/-- The failure that a call came to. -/
def failure? : PoolAnswer κ → Option Failure
  | opened (.error f) | acquired (.error f) => some f
  | _ => none

end PoolAnswer

/-- The state of a pool and the connections that its client has. -/
structure Client (σ κ : Type) where
  pool : σ
  lent : List κ

/-- A client before any call. -/
def Client.start {σ : Type} (κ : Type) (pool : σ) : Client σ κ := ⟨pool, []⟩

/-- A call that was made, with the states of the pool before and after it. -/
structure PoolStep (σ κ : Type) where
  before : σ
  answer : PoolAnswer κ
  after : σ

namespace Client

variable {σ κ : Type} [DecidableEq κ] (e : Engine σ κ)

/-- Makes a call; one that is about a connection which the client does not have cannot be made. -/
def perform (s : Client σ κ) : PoolCall → Option (PoolAnswer κ × Client σ κ)
  | .openPool =>
    let (r, pool) := e.openPool.runFrom s.pool
    some (.opened r, ⟨pool, s.lent⟩)
  | .acquire =>
    let (r, pool) := e.acquire.runFrom s.pool
    some (.acquired r, ⟨pool, r.toOption.toList ++ s.lent⟩)
  | .release i => s.lent[i]?.map fun c => (.released c, ⟨(e.release c s.pool).2, s.lent.erase c⟩)
  | .discard i => s.lent[i]?.map fun c => (.discarded c, ⟨(e.discard c s.pool).2, s.lent.erase c⟩)
  | .closePool => some (.closed, ⟨(e.closePool s.pool).2, s.lent⟩)

/-- The calls that are made, one after another, of those that a client wants to make. -/
def history : List PoolCall → Client σ κ → List (PoolStep σ κ)
  | [], _ => []
  | call :: calls, s =>
    match perform e s call with
    | none => history calls s
    | some (answer, s') => ⟨s.pool, answer, s'.pool⟩ :: history calls s'

/-- The ways in which a call is made. -/
theorem perform_cases {s s' : Client σ κ} {call : PoolCall} {answer : PoolAnswer κ}
    (h : perform e s call = some (answer, s')) :
    (answer = .opened (e.openPool.runFrom s.pool).1 ∧
      s' = ⟨(e.openPool.runFrom s.pool).2, s.lent⟩) ∨
    (answer = .acquired (e.acquire.runFrom s.pool).1 ∧
      s' = ⟨(e.acquire.runFrom s.pool).2, (e.acquire.runFrom s.pool).1.toOption.toList ++ s.lent⟩) ∨
    (∃ c ∈ s.lent, answer = .released c ∧ s' = ⟨(e.release c s.pool).2, s.lent.erase c⟩) ∨
    (∃ c ∈ s.lent, answer = .discarded c ∧ s' = ⟨(e.discard c s.pool).2, s.lent.erase c⟩) ∨
    (answer = .closed ∧ s' = ⟨(e.closePool s.pool).2, s.lent⟩) := by
  cases call with
  | openPool =>
    cases h
    exact .inl ⟨rfl, rfl⟩
  | acquire =>
    cases h
    exact .inr (.inl ⟨rfl, rfl⟩)
  | release i =>
    obtain ⟨c, hc, h⟩ := Option.map_eq_some_iff.mp h
    cases h
    exact .inr (.inr (.inl ⟨c, List.mem_of_getElem? hc, rfl, rfl⟩))
  | discard i =>
    obtain ⟨c, hc, h⟩ := Option.map_eq_some_iff.mp h
    cases h
    exact .inr (.inr (.inr (.inl ⟨c, List.mem_of_getElem? hc, rfl, rfl⟩)))
  | closePool =>
    cases h
    exact .inr (.inr (.inr (.inr ⟨rfl, rfl⟩)))

/-- What every call does under an invariant that calls preserve is done at every step. -/
theorem history_forall {I : Client σ κ → Prop} {P : PoolStep σ κ → Prop}
    (hstep : ∀ s call answer s', I s → perform e s call = some (answer, s') →
      I s' ∧ P ⟨s.pool, answer, s'.pool⟩)
    (calls : List PoolCall) {s : Client σ κ} (hs : I s) : ∀ step ∈ history e calls s, P step := by
  induction calls generalizing s with
  | nil => exact fun _ h => absurd h List.not_mem_nil
  | cons call calls ih =>
    rw [history]
    cases h : perform e s call with
    | none => exact ih hs
    | some made =>
      obtain ⟨hnext, hp⟩ := hstep s call made.1 made.2 hs h
      exact List.forall_mem_cons.mpr ⟨hp, ih hnext⟩

theorem history_head (calls : List PoolCall) (s : Client σ κ) :
    ∀ step ∈ (history e calls s).head?, step.before = s.pool := by
  induction calls with
  | nil => exact fun _ h => nomatch h
  | cons call calls ih =>
    rw [history]
    cases h : perform e s call with
    | none => exact ih
    | some made =>
      rintro _ ⟨⟩
      rfl

/-- Each call begins where the one before it ended. -/
theorem history_linked (calls : List PoolCall) (s : Client σ κ) :
    (history e calls s).IsChain fun step next => next.before = step.after := by
  induction calls generalizing s with
  | nil => exact .nil
  | cons call calls ih =>
    rw [history]
    cases h : perform e s call with
    | none => exact ih s
    | some made => exact List.isChain_cons.mpr ⟨history_head e calls made.2, ih made.2⟩

end Client

end RowFerry
