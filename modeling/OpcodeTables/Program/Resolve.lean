import OpcodeTables.Program.Cycle

/-!
# Resolving programs

The tables of a program are found breadth first from the root.  A table's
records are loaded and generated, and the tables it hands over to join the end
of a queue unless they were seen before, so that each is loaded once.  The
first table that is missing or faulty ends the search.  Tables that hand over
to each other in a circle are refused when all are there.

A source may go on naming new tables, and then the search has no end and no
result.  It ends for a source whose records name finitely many tables, which a
`FiniteSource` carries as a fact.
-/

namespace OpcodeTables

/-- Where tables come from. A table is loaded at most once, so that a source is
a function of the name alone. -/
structure TableSource where
  /-- The content of a table, or nothing where there is no such table. -/
  load : TableName → Traced Fault (Option RecordSet)
  /-- Where a table is looked for. -/
  locate : TableName → Option Path

/-- A table that waits to be loaded, and the table that mentioned it first. -/
structure Pending where
  name : TableName
  referencedBy : Option TableName
  deriving DecidableEq, Repr

/-- What a search for tables did: the loads in order, the log, and the tables
or the first fault. -/
structure Exploration where
  loads : List TableName
  log : List Event
  result : Except Fault (List GeneratedTable)

/-- What resolving a program did: the loads in order, the log, and the program
or the fault. -/
structure Resolution where
  loads : List TableName
  log : List Event
  result : Except Fault Program

/-- The program of all tables that a search found, unless they hand over in a
circle. -/
def Exploration.resolution (found : Exploration) : Resolution where
  loads := found.loads
  log := found.log
  result :=
    match found.result with
    | .error fault => .error fault
    | .ok tables =>
        match Program.cycle? tables with
        | some path => .error (.cycle path)
        | none => .ok ⟨tables⟩

namespace TableSource

/-- Loads and generates one table. -/
def generate (source : TableSource) (pending : Pending) : Traced Fault GeneratedTable := do
  let location := source.locate pending.name
  Traced.event (.parsing pending.name location)
  match ← source.load pending.name with
  | none => Traced.fail (.unresolvable pending.name pending.referencedBy location)
  | some set => GeneratedTable.ofRecordSet pending.name set

/-- The tables that a table hands over to and that were not seen before. -/
def fresh (seen : List TableName) (table : GeneratedTable) : List TableName :=
  table.delegates.filter fun name => name ∉ seen

/-- The tables that a table hands over to, as they wait in the queue. -/
def enqueued (pending : Pending) (names : List TableName) : List Pending :=
  names.map fun name => ⟨name, some pending.name⟩

/-- Generates the tables of a queue and all that they lead to. `seen` holds
the names that are, or were, in the queue. -/
def explore (source : TableSource) (queue : List Pending) (seen : List TableName) :
    Option Exploration :=
  match queue with
  | [] => some ⟨[], [], .ok []⟩
  | pending :: queue =>
      let generated := source.generate pending
      match generated.result with
      | .error fault => some ⟨[pending.name], generated.log, .error fault⟩
      | .ok table => do
          let new := fresh seen table
          let rest ← source |>.explore (queue ++ enqueued pending new) (seen ++ new)
          return {
            loads := pending.name :: rest.loads
            log := generated.log ++ table.delegates.map (.delegates pending.name) ++ rest.log
            result := rest.result.map (table :: ·) }
partial_fixpoint

/-- Finds every table from the root on and refuses cycles. -/
def resolve? (source : TableSource) : Option Resolution :=
  (source.explore [⟨.root, none⟩] [.root]).map Exploration.resolution

/-- Every table that a record hands over to is among some names. -/
def MentionsOnly (source : TableSource) (names : List TableName) : Prop :=
  ∀ table set, (source.load table).result = .ok (some set) →
    ∀ name ∈ set.delegates, name ∈ names

theorem mem_of_generate {source : TableSource} {names : List TableName}
    (closed : source.MentionsOnly names) {pending : Pending} {table : GeneratedTable}
    (made : (source.generate pending).result = .ok table)
    {name : TableName} (member : name ∈ table.delegates) : name ∈ names := by
  obtain ⟨_, _, rest⟩ := Traced.result_bind_eq_ok.mp made
  obtain ⟨content, loaded, rest⟩ := Traced.result_bind_eq_ok.mp rest
  cases content with
  | none => contradiction
  | some set =>
      exact closed _ _ loaded _ (GeneratedTable.mem_delegates_of_ofRecordSet rest member)

/-- A search over finitely many names ends: each round takes a table from the
queue, and whatever joins the queue was not seen before. -/
theorem explore_isSome {source : TableSource} {names : List TableName}
    (closed : source.MentionsOnly names) (queue : List Pending) (seen : List TableName) :
    (source.explore queue seen).isSome := by
  rw [explore.eq_def]
  cases queue with
  | nil => rfl
  | cons pending queue =>
      cases generated : (source.generate pending).result with
      | error fault => simp [generated]
      | ok table =>
          obtain ⟨rest, found⟩ := Option.isSome_iff_exists.mp
            (explore_isSome closed (queue ++ enqueued pending (fresh seen table))
              (seen ++ fresh seen table))
          simp [generated, found]
termination_by (Program.unmet names seen, queue.length)
decreasing_by
  cases same : fresh seen table with
  | nil =>
      simp only [enqueued, List.append_nil, List.map_nil, List.length_cons]
      exact Prod.Lex.right _ (Nat.lt_succ_self _)
  | cons name rest =>
      have member : name ∈ fresh seen table := by simp [same]
      obtain ⟨mentioned, unknown⟩ := List.mem_filter.mp member
      exact Prod.Lex.left _ _ (Program.unmet_append_lt (mem_of_generate closed generated mentioned)
        (by simpa using unknown) (by simp))

end TableSource

/-- A source whose records hand over to finitely many tables. -/
structure FiniteSource extends TableSource where
  finite : ∃ names, toTableSource.MentionsOnly names

namespace FiniteSource

theorem resolve?_isSome (source : FiniteSource) : source.resolve?.isSome := by
  obtain ⟨names, closed⟩ := source.finite
  simp only [TableSource.resolve?, Option.isSome_map]
  exact TableSource.explore_isSome closed _ _

/-- Finds every table from the root on and refuses cycles. -/
def resolve (source : FiniteSource) : Resolution :=
  source.resolve?.get source.resolve?_isSome

@[simp] theorem resolve?_eq_some (source : FiniteSource) :
    source.resolve? = some source.resolve := by
  simp [resolve]

end FiniteSource

/-- The source that holds the tables of a list; of two for one name the first
counts. -/
def TableSource.ofList (tables : List (TableName × Traced Fault RecordSet))
    (locate : TableName → Option Path) : FiniteSource where
  load name :=
    match tables.find? (·.1 = name) with
    | none => .ok none
    | some (_, content) => ⟨content.log, content.result.map some⟩
  locate := locate
  finite := by
    refine ⟨tables.flatMap fun entry =>
      (entry.2.result.toOption.map RecordSet.delegates).getD [], ?_⟩
    intro table set loaded name member
    simp only at loaded
    split at loaded
    · simp [Traced.ok] at loaded
    · next other content found =>
        cases read : content.result with
        | error fault => simp [read, Except.map] at loaded
        | ok content =>
            obtain rfl : content = set := by simpa [read, Except.map] using loaded
            exact List.mem_flatMap.mpr ⟨_, List.mem_of_find?_eq_some found, by
              simpa [read, Except.toOption] using member⟩

end OpcodeTables
