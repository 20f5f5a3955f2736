import OpcodeTables.Program.Basic

/-!
# Delegation cycles

Tables that hand over to each other in a circle would make lookup run for
ever.  The search goes through the tables in their order and from each into
the tables it hands over to, depth first.  It keeps the way from the start to
the present table and the tables that are done; to meet a table of the way
again is a cycle.
-/

namespace OpcodeTables

namespace Program

/-- The tables that the table of a name hands over to. -/
def delegatesOf (tables : List GeneratedTable) (name : TableName) : List TableName :=
  ((tables.find? (·.name = name)).map GeneratedTable.delegates).getD []

/-- The part of a way from the first visit of a table on, closed by the table
itself. -/
def closeCycle (way : List TableName) (name : TableName) : List TableName :=
  way.dropWhile (· ≠ name) ++ [name]

/-- What a search found: a cycle, or the tables that are done. -/
inductive Search where
  | cycle (path : List TableName)
  | done (tables : List TableName)
  deriving DecidableEq, Repr

mutual

/-- Searches on from a table, `way` leading to it. -/
def visit (tables : List GeneratedTable) (way done : List TableName) (name : TableName) :
    Search :=
  if name ∈ done then .done done
  else if _ : name ∈ way then .cycle (closeCycle way name)
  else if _ : name ∈ tables.map GeneratedTable.name then
    match visitEach tables (way ++ [name]) done (delegatesOf tables name) with
    | .cycle path => .cycle path
    | .done done => .done (name :: done)
  else .done (name :: done)
termination_by (unmet (tables.map GeneratedTable.name) way, 0)
decreasing_by exact Prod.Lex.left _ _ (unmet_append_lt ‹_› ‹_› (by simp))

/-- Searches on from some tables in turn, `way` leading to each of them. -/
def visitEach (tables : List GeneratedTable) (way done : List TableName) :
    List TableName → Search
  | [] => .done done
  | name :: rest =>
      match visit tables way done name with
      | .cycle path => .cycle path
      | .done done => visitEach tables way done rest
termination_by names => (unmet (tables.map GeneratedTable.name) way, names.length + 1)
decreasing_by
  · exact Prod.Lex.right _ (Nat.succ_pos _)
  · exact Prod.Lex.right _ (by simp)

end

/-- The first cycle among tables, if there is one: a list of tables each of
which hands over to the next, with the same table at both ends. -/
def cycle? (tables : List GeneratedTable) : Option (List TableName) :=
  match visitEach tables [] [] (tables.map GeneratedTable.name) with
  | .cycle path => some path
  | .done _ => none

end Program

end OpcodeTables
