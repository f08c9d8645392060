import RowFerry.Odbc.Driver

/-!
Keepers of connections. A keeper builds pools, lends connections of a pool and takes them back.
Little is said of keepers in general; the one given here keeps each pool on a shelf, hands out what
has been idle longest, and makes connections only when it is asked for them.
-/

namespace RowFerry.Odbc

/-- How a pool is set up. -/
structure PoolSettings where
  connection : String
  maxSize : Nat
  minIdle : Nat
  deriving Repr, DecidableEq

/-- Why no connection is lent. -/
inductive Refusal where
  | failed (cause : Failure)
  | timedOut
  deriving Repr, DecidableEq

/-- Being lent no connection is a failure to open. -/
def Refusal.asInit : Refusal → Failure
  | failed (.init text) => .init text
  | failed other => .init other.message
  | timedOut => .init "timed out waiting for a connection"

/-- What a keeper answers to each request, as a function of a state of its own and that of the
manager which makes the connections. A connection that is taken back comes with the word whether it
is broken, and a pool that is given up is asked for no more connections. -/
structure Keeper (ρ μ π κ : Type) where
  build : PoolSettings → Act (ρ × μ) π
  lend : π → StateM (ρ × μ) (Except Refusal κ)
  takeBack : κ → Bool → StateM (ρ × μ) Unit
  giveUp : π → StateM (ρ × μ) Unit

/-- A pool: its idle connections, those that are lent, and whether it may still be asked for one. -/
structure Shelf (κ : Type) where
  settings : PoolSettings
  idle : List κ
  lent : List κ
  held : Bool
  deriving Repr, DecidableEq

namespace Shelf

variable {κ : Type} [DecidableEq κ]

/-- Takes back a connection that it has lent; a broken one does not become idle again. -/
def takeBack (c : κ) (broken : Bool) (shelf : Shelf κ) : Shelf κ :=
  if shelf.lent.contains c then
    { shelf with
      idle := if broken then shelf.idle else shelf.idle ++ [c]
      lent := shelf.lent.erase c }
  else shelf

/-- The idle connections of a pool that was given up and has none lent are needed no more. -/
def unneeded (shelf : Shelf κ) : List κ :=
  if shelf.held || !shelf.lent.isEmpty then [] else shelf.idle

/-- The shelf without the connections that it needs no more. -/
def cleared (shelf : Shelf κ) : Shelf κ :=
  if shelf.held || !shelf.lent.isEmpty then shelf else { shelf with idle := [] }

end Shelf

/-- The pools that were built, numbered in order. -/
abbrev Shelves (κ : Type) := List (Shelf κ)

namespace Shelves

variable {μ κ : Type} (m : Manager μ κ)

/-- Drops connections. -/
def disconnectAll (cs : List κ) (s : μ) : μ := cs.foldl (fun s c => ((m.disconnect c).run s).2) s

/-- Makes connections after those made already, which are dropped when one fails. -/
def connectMany (text : String) : Nat → List κ → μ → Except Failure (List κ) × μ
  | 0, made, s => (.ok made, s)
  | n + 1, made, s =>
    match (m.connection text).run.run s with
    | (.error f, s) => (.error f, disconnectAll m made s)
    | (.ok c, s) => connectMany text n (made ++ [c]) s

/-- Builds a pool with the connections that it keeps idle. -/
def build (settings : PoolSettings) : Act (Shelves κ × μ) Nat := fun (shelves, s) =>
  match connectMany m settings.connection settings.minIdle [] s with
  | (.error f, s) => (.error f, shelves, s)
  | (.ok made, s) => (.ok shelves.length, shelves ++ [⟨settings, made, [], true⟩], s)

/-- Lends an idle connection, or a new one while there is room. Without room a connection would have
to come back first, and nobody else gives one back meanwhile. -/
def lend (pool : Nat) : StateM (Shelves κ × μ) (Except Refusal κ) := fun (shelves, s) =>
  match shelves[pool]? with
  | none => (.error .timedOut, shelves, s)
  | some shelf =>
    match shelf.idle with
    | c :: rest => (.ok c, shelves.set pool { shelf with idle := rest, lent := c :: shelf.lent }, s)
    | [] =>
      if shelf.settings.maxSize ≤ shelf.lent.length then (.error .timedOut, shelves, s)
      else
        match (m.connection shelf.settings.connection).run.run s with
        | (.error f, s) => (.error (.failed f), shelves, s)
        | (.ok c, s) => (.ok c, shelves.set pool { shelf with lent := c :: shelf.lent }, s)

/-- Drops what no shelf needs. -/
def clear (shelves : Shelves κ) (s : μ) : Shelves κ × μ :=
  (shelves.map Shelf.cleared, disconnectAll m (shelves.flatMap Shelf.unneeded) s)

/-- Takes a connection back to the shelf that lent it, or drops it when it is broken. -/
def takeBack [DecidableEq κ] (c : κ) (broken : Bool) : StateM (Shelves κ × μ) Unit :=
  fun (shelves, s) =>
  let s := if broken then disconnectAll m [c] s else s
  ((), clear m (shelves.map (Shelf.takeBack c broken)) s)

def giveUp (pool : Nat) : StateM (Shelves κ × μ) Unit := fun (shelves, s) =>
  ((), clear m (shelves.modify pool fun shelf => { shelf with held := false }) s)

/-- Shelves as a keeper. -/
def keeper [DecidableEq κ] : Keeper (Shelves κ) μ Nat κ where
  build := build m
  lend := lend m
  takeBack := takeBack m
  giveUp := giveUp m

end Shelves

end RowFerry.Odbc
