import RowFerry.Text.Lists

/-!
Rules that make an engine in a rehearsal fail: a rule counts the texts in which its pattern occurs
and fails some of them in a row.
-/

namespace RowFerry.Rehearsal

/-- Fails the occurrences of a pattern from number `skip` on, `times` of them or all. -/
structure Rule (ε : Type) where
  pattern : String
  failure : ε
  skip : Nat
  times : Option Nat
  seen : Nat := 0
  deriving Repr

namespace Rule

variable {ε : Type}

/-- Does the rule fail its occurrence number `n`? -/
def fails (r : Rule ε) (n : Nat) : Bool :=
  r.skip ≤ n && match r.times with
    | none => true
    | some k => n < r.skip + k

/-- Puts a text to the rules in order; the first that fails it ends the search, and the rules after
it do not count the text. -/
def apply (text : String) : List (Rule ε) → Option ε × List (Rule ε)
  | [] => (none, [])
  | r :: rs =>
    if Text.occursIn r.pattern.toList text.toList then
      let counted := { r with seen := r.seen + 1 }
      if r.fails r.seen then (some r.failure, counted :: rs)
      else
        let (failure, rest) := apply text rs
        (failure, counted :: rest)
    else
      let (failure, rest) := apply text rs
      (failure, r :: rest)

end Rule

/-- Does a text begin with another? -/
def startsWith (text start : String) : Bool := (Text.dropLead start.toList text.toList).isSome

/-- The table and columns of an insert, up to its column list, by which its rows are told apart. -/
def insertTarget (sql : String) : String := String.ofList (Text.beforeFirst [' ', '('] sql.toList)

/-- Does the text hold the word that asks for a result set? -/
def mentions (sql word : String) : Bool := Text.occursIn word.toList sql.toList

end RowFerry.Rehearsal
