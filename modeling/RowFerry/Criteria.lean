import RowFerry.Value

/-!
Criteria: what a query asks for, flat. Filters are all required; there is no nesting and no choice
between them.
-/

namespace RowFerry

/-- What a query returns of each row. -/
inductive Projection where
  | all
  | columns (references : List String)
  | expression (text : String)
  deriving Repr, DecidableEq

/-- A comparison with an operand. -/
inductive Comparison where
  | eq
  | ne
  | gt
  | gte
  | lt
  | lte
  | like
  deriving Repr, DecidableEq

def Comparison.symbol : Comparison → String
  | eq => "="
  | ne => "<>"
  | gt => ">"
  | gte => ">="
  | lt => "<"
  | lte => "<="
  | like => "LIKE"

/-- A condition on one column. -/
inductive Filter where
  | compares (comparison : Comparison) (operand : Value)
  | isNull
  | isNotNull
  deriving Repr, DecidableEq

inductive JoinKind where
  | inner
  | left
  | right
  | full
  deriving Repr, DecidableEq

def JoinKind.keyword : JoinKind → String
  | inner => "INNER JOIN"
  | left => "LEFT JOIN"
  | right => "RIGHT JOIN"
  | full => "FULL JOIN"

/-- A join with another table of the same tablespace, on pairs of equal columns. -/
structure JoinSpec where
  kind : JoinKind
  table : String
  aliasName : Option String
  conditions : List (String × String)
  deriving Repr, DecidableEq

inductive SortDirection where
  | ascending
  | descending
  deriving Repr, DecidableEq

def SortDirection.keyword : SortDirection → String
  | ascending => "ASC"
  | descending => "DESC"

/-- What a query asks for. -/
structure Criteria where
  projection : Projection := .all
  filters : List (String × Filter) := []
  joins : List JoinSpec := []
  sort : List (String × SortDirection) := []
  limit : Option UInt64 := none
  offset : Option UInt64 := none
  deriving Repr, DecidableEq

/-- The same match set without pages and order. -/
def Criteria.unpaged (c : Criteria) : Criteria :=
  { c with limit := none, offset := none, sort := [] }

end RowFerry
