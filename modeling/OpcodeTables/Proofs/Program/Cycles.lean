import OpcodeTables.Proofs.Program.Discovery
import Mathlib.Data.List.Chain

/-!
# The search for delegation cycles

The depth-first search is exact.  A cycle that it reports leads from table to
table and comes round once.  Where it reports none, the tables that are done
stand in an order in which each hands over only to tables behind it, so that
no way through them can come round.
-/

namespace OpcodeTables

/-- A way that comes round: each entry leads to the next, the last is the
first again, and no other entry repeats. -/
structure IsCycle (leads : TableName → TableName → Prop) (path : List TableName) : Prop where
  long : 2 ≤ path.length
  closed : path.head? = path.getLast?
  simple : path.dropLast.Nodup
  linked : path.IsChain leads

theorem IsCycle.imp {leads other : TableName → TableName → Prop} {path : List TableName}
    (cycle : IsCycle leads path) (weaker : ∀ left right, leads left right → other left right) :
    IsCycle other path where
  long := cycle.long
  closed := cycle.closed
  simple := cycle.simple
  linked := cycle.linked.imp fun {left right} => weaker left right

/-- A cycle comes back to its first entry in at least one step. -/
theorem IsCycle.exists_transGen {leads : TableName → TableName → Prop} {path : List TableName}
    (cycle : IsCycle leads path) :
    ∃ name next, leads name next ∧ Relation.TransGen leads name name := by
  obtain ⟨long, closed, _, linked⟩ := cycle
  match path, long with
  | name :: next :: rest, _ =>
      obtain ⟨first, others⟩ := List.isChain_cons_cons.mp linked
      refine ⟨name, next, first, .head' first ?_⟩
      have last : (next :: rest).getLast (by simp) = name := by
        simpa [List.getLast?_eq_some_getLast, eq_comm] using closed
      rw [← last]
      exact List.relationReflTransGen_of_exists_isChain_cons rest others rfl

namespace Program

variable {tables : List GeneratedTable}

/-- Among some tables, one name hands over to another. -/
def Leads (tables : List GeneratedTable) (left right : TableName) : Prop :=
  right ∈ delegatesOf tables left

/-- Names in an order in which each leads only to names behind it. -/
def Settled (tables : List GeneratedTable) : List TableName → Prop
  | [] => True
  | name :: rest => (∀ next, Leads tables name next → next ∈ rest) ∧ Settled tables rest

/-- What settled names lead to is settled too. -/
theorem Settled.mem_of_leads {order : List TableName} (settled : Settled tables order)
    {left right : TableName} (member : left ∈ order) (leads : Leads tables left right) :
    right ∈ order := by
  induction order with
  | nil => contradiction
  | cons name rest ih =>
      obtain ⟨behind, settled⟩ := settled
      right
      rcases List.mem_cons.mp member with rfl | member
      · exact behind right leads
      · exact ih settled member

/-- No way through settled names comes round. -/
theorem Settled.not_transGen {order : List TableName} (settled : Settled tables order)
    {name : TableName} (member : name ∈ order) :
    ¬Relation.TransGen (Leads tables) name name := by
  induction order with
  | nil => contradiction
  | cons head rest ih =>
      intro round
      obtain ⟨behind, settled⟩ := settled
      have closed {left right : TableName} (inside : left ∈ rest)
          (way : Relation.ReflTransGen (Leads tables) left right) : right ∈ rest := by
        induction way with
        | refl => exact inside
        | tail _ leads inside => exact settled.mem_of_leads inside leads
      -- The head, too, would come back from behind itself.
      have inside : name ∈ rest := by
        rcases List.mem_cons.mp member with rfl | inside
        · obtain ⟨next, leads, back⟩ := Relation.TransGen.head'_iff.mp round
          exact closed (behind next leads) back
        · exact inside
      exact ih settled inside round

/-! ## What a search finds -/

/-- The answer of a search for `names` is right if it is a cycle, or if it
settles the names and keeps what was settled before. -/
def Search.Right (tables : List GeneratedTable) (before names : List TableName) :
    Search → Prop
  | .cycle path => IsCycle (Leads tables) path
  | .done after => Settled tables after ∧ (∀ name ∈ names, name ∈ after) ∧ before <:+ after

/-- Meeting a table of the way again closes a cycle. -/
theorem isCycle_closeCycle {leads : TableName → TableName → Prop} {way : List TableName}
    {name : TableName} (nodup : way.Nodup) (linked : (way ++ [name]).IsChain leads)
    (member : name ∈ way) : IsCycle leads (closeCycle way name) := by
  obtain ⟨left, right, rfl, fresh⟩ := List.eq_append_cons_of_mem member
  have path : closeCycle (left ++ name :: right) name = name :: right ++ [name] := by
    rw [closeCycle, List.dropWhile_append_of_pos, List.dropWhile_cons_of_neg (by simp)]
    intro other inside
    simpa using fun same : other = name => fresh (same ▸ inside)
  rw [path]
  constructor
  · simp
  · rw [List.getLast?_concat]
    rfl
  · rw [List.dropLast_concat]
    exact nodup.of_append_right
  · rw [List.append_assoc] at linked
    exact linked.right_of_append

theorem delegatesOf_of_not_mem {name : TableName}
    (unknown : name ∉ tables.map GeneratedTable.name) : delegatesOf tables name = [] := by
  have missing : tables.find? (·.name = name) = none := by
    rw [List.find?_eq_none]
    intro table member
    simpa using fun same : table.name = name => unknown (same ▸ List.mem_map_of_mem member)
  simp [delegatesOf, missing]

/-- A way may be continued by whatever its last table leads to. -/
theorem linked_concat {leads : TableName → TableName → Prop} {way : List TableName}
    {name next : TableName} (linked : (way ++ [name]).IsChain leads) (step : leads name next) :
    (way ++ [name] ++ [next]).IsChain leads := by
  apply linked.append (List.isChain_singleton next)
  intro last isLast first isFirst
  simp only [List.getLast?_concat, List.head?_cons, Option.mem_some_iff] at isLast isFirst
  rw [← isLast, ← isFirst]
  exact step

theorem nodup_concat {way : List TableName} {name : TableName} (nodup : way.Nodup)
    (fresh : name ∉ way) : (way ++ [name]).Nodup := by
  rw [← List.concat_eq_append]
  exact nodup.concat fresh

/-- Searching finds the right answer, from one table and from several, wherever
the way that leads to them has no repeat and the tables that are done are
settled. -/
theorem search_right (tables : List GeneratedTable) :
    (∀ way done name, way.Nodup → Settled tables done →
      (way ++ [name]).IsChain (Leads tables) →
      (visit tables way done name).Right tables done [name]) ∧
    ∀ way done names, way.Nodup → Settled tables done →
      (∀ name ∈ names, (way ++ [name]).IsChain (Leads tables)) →
      (visitEach tables way done names).Right tables done names := by
  apply visit.mutual_induct_unfolding tables
    (fun way done name answer => way.Nodup → Settled tables done →
      (way ++ [name]).IsChain (Leads tables) → answer.Right tables done [name])
    (fun way done names answer => way.Nodup → Settled tables done →
      (∀ name ∈ names, (way ++ [name]).IsChain (Leads tables)) →
      answer.Right tables done names)
  -- A table that is done, or that is on the way already.
  case case1 =>
    intro way done name member _ settled _
    exact ⟨settled, by simpa using member, List.suffix_refl done⟩
  case case2 =>
    intro way done name _ member nodup _ linked
    exact isCycle_closeCycle nodup linked member
  -- A table that is searched on from; what is found behind it counts for it.
  case case3 =>
    intro way done name _ fresh _ path found ih nodup settled linked
    rw [found] at ih
    exact ih (nodup_concat nodup fresh) settled fun next leads => linked_concat linked leads
  case case4 =>
    intro way done name _ fresh _ after found ih nodup settled linked
    rw [found] at ih
    obtain ⟨settled, behind, kept⟩ :=
      ih (nodup_concat nodup fresh) settled fun next leads => linked_concat linked leads
    exact ⟨⟨behind, settled⟩, by simp, kept.trans (List.suffix_cons name after)⟩
  case case5 =>
    intro way done name _ _ unknown _ settled _
    refine ⟨⟨?_, settled⟩, by simp, List.suffix_cons name done⟩
    intro next leads
    rw [Leads, delegatesOf_of_not_mem unknown] at leads
    contradiction
  -- Several tables, one after the other.
  case case6 =>
    intro way done _ settled _
    exact ⟨settled, by simp, List.suffix_refl done⟩
  case case7 =>
    intro way done name rest path found ih nodup settled linked
    rw [found] at ih
    exact ih nodup settled (linked name (by simp))
  case case8 =>
    intro way done name rest after found first others nodup settled linked
    rw [found] at first
    obtain ⟨settled, member, kept⟩ := first nodup settled (linked name (by simp))
    have right := others nodup settled fun next inside => linked next (by simp [inside])
    cases answer : visitEach tables way after rest with
    | cycle path =>
        rw [answer] at right
        exact right
    | done last =>
        rw [answer] at right
        obtain ⟨settled, inside, keptLast⟩ := right
        refine ⟨settled, ?_, kept.trans keptLast⟩
        intro other among
        rcases List.mem_cons.mp among with rfl | among
        · exact keptLast.subset (member other (by simp))
        · exact inside other among

theorem cycle?_right (tables : List GeneratedTable) :
    (visitEach tables [] [] (tables.map GeneratedTable.name)).Right tables []
      (tables.map GeneratedTable.name) :=
  (search_right tables).2 [] [] _ List.nodup_nil trivial fun name _ => List.isChain_singleton name

/-- A cycle that is reported is one. -/
theorem isCycle_of_cycle? {path : List TableName} (found : cycle? tables = some path) :
    IsCycle (Leads tables) path := by
  have right := cycle?_right tables
  rw [cycle?] at found
  cases answer : visitEach tables [] [] (tables.map GeneratedTable.name) with
  | done order => simp [answer] at found
  | cycle other =>
      obtain rfl : other = path := by simpa [answer] using found
      rw [answer] at right
      exact right

/-- Where no cycle is reported the tables can be put in an order in which each
hands over only to tables behind it. -/
theorem exists_settled_of_cycle? (none_found : cycle? tables = none) :
    ∃ order, Settled tables order ∧ ∀ name ∈ tables.map GeneratedTable.name, name ∈ order := by
  have right := cycle?_right tables
  rw [cycle?] at none_found
  cases answer : visitEach tables [] [] (tables.map GeneratedTable.name) with
  | cycle path => simp [answer] at none_found
  | done order =>
      rw [answer] at right
      exact ⟨order, right.1, right.2.1⟩

end Program

end OpcodeTables
