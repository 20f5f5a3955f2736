import Mathlib
import OpcodeTables.Proofs.Program.Refusal

/-!
# The first fault of a search

A search that fails stops at the first table, in breadth-first order from the
root, that is missing, cannot be loaded or cannot be built.  Everything before
it was loaded once and is sound, and the table that a missing one is blamed on
is the earliest that hands over to it.

The order is that of `TableSource.discovery`, which knows nothing of a queue.
`Underway` says how the queue of a search continues it.
-/

namespace OpcodeTables

namespace TableSource

/-- The tables that the table of a name hands over to; none where there is no
such table or it is faulty. -/
def targets (source : TableSource) (name : TableName) : List TableName :=
  match (source.generate ⟨name, none⟩).result with
  | .ok table => table.delegates
  | .error _ => []

/-- The first names in breadth-first order from the root, as many as there are
up to a number: each is the first that the lists of delegates of those before
it mention and that is not among them. -/
def discovery (source : TableSource) : Nat → List TableName
  | 0 => []
  | count + 1 =>
      (TableName.root :: (source.discovery count).flatMap source.targets).eraseDups.take (count + 1)

/-- What is wrong with a table, given the table that mentions it first. -/
inductive Faulty (source : TableSource) (name : TableName) (referencedBy : Option TableName) :
    Fault → Prop where
  | missing (absent : (source.load name).result = .ok none) :
      Faulty source name referencedBy (.unresolvable name referencedBy (source.locate name))
  | unloaded {fault : Fault} (failed : (source.load name).result = .error fault) :
      Faulty source name referencedBy fault
  | unbuilt {set : RecordSet} {fault : Fault} (loaded : (source.load name).result = .ok (some set))
      (failed : (DecisionTree.build set).result = .error fault) :
      Faulty source name referencedBy fault

variable {source : TableSource}

theorem targets_of_generates {name : TableName} {table : GeneratedTable}
    (generates : source.Generates name table) : source.targets name = table.delegates := by
  rw [targets, generate_eq_ok.mpr generates]

theorem faulty_of_generate {pending : Pending} {fault : Fault}
    (failed : (source.generate pending).result = .error fault) :
    source.Faulty pending.name pending.referencedBy fault := by
  rcases generate_eq_error.mp failed with unloaded | ⟨absent, rfl⟩ | ⟨set, loaded, unbuilt⟩
  · exact .unloaded unloaded
  · exact .missing absent
  · exact .unbuilt loaded unbuilt

/-! ## A search on its way -/

/-- The state of a search that has generated the tables of some names: the
names seen are those and then those that wait, in breadth-first order, and each
that waits is blamed on the earliest table that hands over to it. -/
structure Underway (source : TableSource) (before : List TableName) (queue : List Pending)
    (seen : List TableName) : Prop where
  listed : seen = before ++ queue.map Pending.name
  mentioned : seen = (TableName.root :: before.flatMap source.targets).eraseDups
  nodup : seen.Nodup
  reachable : ∀ name ∈ seen, source.Reachable name
  discovered : source.discovery before.length = before
  sound : ∀ name ∈ before, ∃ table, source.Generates name table
  referred : ∀ pending ∈ queue, pending.referencedBy =
    before.find? fun earlier => pending.name ∈ source.targets earlier

namespace Underway

variable {before : List TableName} {pending : Pending} {queue : List Pending}
  {seen : List TableName} {table : GeneratedTable}

theorem start : source.Underway [] [⟨.root, none⟩] [.root] where
  listed := rfl
  mentioned := rfl
  nodup := List.nodup_singleton _
  reachable := List.forall_mem_singleton.mpr .refl
  discovered := rfl
  sound := by simp
  referred := by simp

theorem mem_seen_iff (underway : source.Underway before queue seen) {name : TableName} :
    name ∈ seen ↔ name = .root ∨ ∃ earlier ∈ before, name ∈ source.targets earlier := by
  rw [underway.mentioned, List.mem_eraseDups, List.mem_cons, List.mem_flatMap]

theorem head?_seen (underway : source.Underway before queue seen) : seen.head? = some .root := by
  rw [underway.mentioned, List.eraseDups_cons]
  rfl

/-- The table that waits at the front is the next in breadth-first order. -/
theorem discovery_succ (underway : source.Underway before (pending :: queue) seen) :
    source.discovery (before.length + 1) = before ++ [pending.name] := by
  rw [discovery, underway.discovered, ← underway.mentioned, underway.listed]
  simp [List.take_append]

/-- The root is waiting at the front or was generated first of all. -/
theorem root_mem (underway : source.Underway before (pending :: queue) seen) :
    .root ∈ before ++ [pending.name] := by
  have head := underway.head?_seen
  rw [underway.listed] at head
  cases before with
  | nil => simpa [eq_comm] using head
  | cons first rest =>
      obtain rfl : first = .root := by simpa using head
      exact List.mem_cons_self

theorem nodup_front (underway : source.Underway before (pending :: queue) seen) :
    (before ++ [pending.name] ++ queue.map Pending.name).Nodup := by
  have nodup := underway.nodup
  rwa [underway.listed, List.map_cons, List.append_cons] at nodup

/-- Nothing that waits behind another table is the root. -/
theorem ne_root (underway : source.Underway before (pending :: queue) seen) {other : Pending}
    (behind : other ∈ queue) : other.name ≠ .root := by
  have apart := (List.nodup_append.mp underway.nodup_front).2.2
  exact (apart .root underway.root_mem other.name (List.mem_map_of_mem behind)).symm

/-- A table at the front is blamed on none exactly where it is the root. -/
theorem find?_eq_none_iff (underway : source.Underway before (pending :: queue) seen) :
    (before.find? fun earlier => pending.name ∈ source.targets earlier) = none ↔
      pending.name = .root := by
  rw [List.find?_eq_none]
  constructor
  · intro unmentioned
    have waits : pending.name ∈ seen := by
      simp [underway.listed]
    rcases underway.mem_seen_iff.mp waits with root | ⟨earlier, inside, mentions⟩
    · exact root
    · exact absurd (decide_eq_true mentions) (unmentioned earlier inside)
  · intro root
    cases before with
    | nil => simp
    | cons first rest =>
        -- The first of all names is the root, which would be there twice.
        have head := underway.head?_seen
        rw [underway.listed] at head
        have apart := (List.nodup_append.mp underway.nodup_front).1
        simp_all

theorem mentioned_next (underway : source.Underway before (pending :: queue) seen)
    (generates : source.Generates pending.name table) :
    seen ++ fresh seen table =
      (TableName.root :: (before ++ [pending.name]).flatMap source.targets).eraseDups := by
  have unseen : (table.delegates.removeAll (.root :: before.flatMap source.targets)) =
      fresh seen table := by
    apply List.filter_congr
    intro name _
    rw [underway.mentioned, List.elem_eq_mem, decide_not]
    simp only [List.mem_eraseDups]
  have distinct : (fresh seen table).Nodup := generates.nodup_delegates.filter _
  rw [List.flatMap_append, List.flatMap_singleton, targets_of_generates generates,
    ← List.cons_append, List.eraseDups_append, unseen, eraseDups_of_nodup distinct,
    ← underway.mentioned]

/-- Whoever waits is still blamed on the earliest table that hands over to it
when one more table has been generated. -/
theorem referred_next (underway : source.Underway before (pending :: queue) seen)
    (generates : source.Generates pending.name table) {other : Pending}
    (waits : other ∈ queue ++ enqueued pending (fresh seen table)) :
    other.referencedBy =
      (before ++ [pending.name]).find? fun earlier => other.name ∈ source.targets earlier := by
  rw [List.find?_append]
  rcases List.mem_append.mp waits with behind | new
  · have old : other.name ∈ seen := by
      rw [underway.listed, List.map_cons]
      simp [List.mem_map_of_mem behind]
    have referred := underway.referred other (List.mem_cons_of_mem _ behind)
    rcases underway.mem_seen_iff.mp old with root | ⟨earlier, inside, mentions⟩
    · exact absurd root (underway.ne_root behind)
    · have found : (before.find? fun earlier => other.name ∈ source.targets earlier).isSome :=
        List.find?_isSome.mpr ⟨earlier, inside, decide_eq_true mentions⟩
      rw [Option.or_of_isSome found]
      exact referred
  · obtain ⟨name, unseen, rfl⟩ := List.mem_map.mp new
    obtain ⟨mentioned, unknown⟩ := List.mem_filter.mp unseen
    have unmentioned : (before.find? fun earlier => name ∈ source.targets earlier) = none := by
      rw [List.find?_eq_none]
      intro earlier inside
      simpa using fun mentions =>
        of_decide_eq_true unknown (underway.mem_seen_iff.mpr (.inr ⟨earlier, inside, mentions⟩))
    rw [unmentioned, Option.none_or, List.find?_singleton, targets_of_generates generates]
    simp [mentioned]

/-- Generating the table at the front leads on to the next state. -/
theorem next (underway : source.Underway before (pending :: queue) seen)
    (generates : source.Generates pending.name table) :
    source.Underway (before ++ [pending.name]) (queue ++ enqueued pending (fresh seen table))
      (seen ++ fresh seen table) where
  listed := by
    simp [underway.listed, enqueued, Function.comp_def]
  mentioned := underway.mentioned_next generates
  nodup := by
    rw [List.nodup_append]
    refine ⟨underway.nodup, generates.nodup_delegates.filter _, ?_⟩
    intro name old other new same
    simp [fresh, ← same, old] at new
  reachable := by
    intro name member
    rcases List.mem_append.mp member with old | new
    · exact underway.reachable name old
    · have waits : pending.name ∈ seen := by
        simp [underway.listed]
      have handed : source.HandsTo pending.name name :=
        ⟨table, generates, (List.mem_filter.mp new).1⟩
      exact (underway.reachable _ waits).tail handed
  discovered := by
    rw [List.length_append, List.length_singleton, underway.discovery_succ]
  sound := by
    intro name member
    rcases List.mem_append.mp member with member | member
    · exact underway.sound name member
    · exact ⟨table, List.mem_singleton.mp member ▸ generates⟩
  referred := fun _ waits => underway.referred_next generates waits

end Underway

/-- A search that fails does so underway, at the table that waits at the front. -/
theorem Explores.exists_underway {before : List TableName} {queue : List Pending}
    {seen : List TableName} {found : Exploration} {fault : Fault}
    (run : source.Explores queue seen found) (failure : found.result = .error fault)
    (underway : source.Underway before queue seen) :
    ∃ done pending rest last, source.Underway (before ++ done) (pending :: rest) last ∧
      (source.generate pending).result = .error fault ∧ found.loads = done ++ [pending.name] := by
  induction run generalizing before with
  | done => contradiction
  | @failed pending queue seen other failed =>
      obtain rfl := Except.error.inj failure
      exact ⟨[], pending, queue, seen, by rwa [List.append_nil], failed, rfl⟩
  | @loaded pending queue seen table rest generated further ih =>
      cases inner : rest.result with
      | ok others => simp [inner, Except.map] at failure
      | error other =>
          obtain rfl : other = fault := by simpa [inner, Except.map] using failure
          obtain ⟨done, last, behind, names, reached, failed, loads⟩ :=
            ih inner (underway.next (generate_eq_ok.mp generated))
          refine ⟨pending.name :: done, last, behind, names, ?_, failed, ?_⟩
          · rwa [List.append_cons]
          · rw [loads, List.cons_append]

theorem resolution_eq_error {found : Exploration} {fault : Fault}
    (failed : found.resolution.result = .error fault) (acyclic : ∀ path, fault ≠ .cycle path) :
    found.result = .error fault := by
  rw [Exploration.resolution] at failed
  cases result : found.result with
  | error other => simpa [result] using failed
  | ok tables =>
      simp only [result] at failed
      split at failed
      · next path _ => exact absurd (Except.error.inj failed).symm (acyclic path)
      · contradiction

/-- Resolving that fails, other than for a cycle, does so underway. -/
theorem exists_underway_of_resolve {source : FiniteSource} {fault : Fault}
    (failed : source.resolve.result = .error fault) (acyclic : ∀ path, fault ≠ .cycle path) :
    ∃ before pending rest seen, source.Underway before (pending :: rest) seen ∧
      (source.generate pending).result = .error fault ∧
      source.resolve.loads = before ++ [pending.name] := by
  obtain ⟨found, run, resolution⟩ := resolve?_eq_some_iff.mp source.resolve?_eq_some
  rw [← resolution] at failed ⊢
  exact run.exists_underway (resolution_eq_error failed acyclic) .start

end TableSource

/-- Resolving that fails, other than for a cycle, stops at the first table in
breadth-first order from the root that is missing, cannot be loaded or cannot be
built, and its fault is that of the table.  The tables of that order up to it are
loaded, each once, and no others.  A missing table is blamed on the earliest of
them that hands over to it, and on none exactly where it is the root. -/
theorem FiniteSource.resolve_stops_at_first_fault (source : FiniteSource) {fault : Fault}
    (failed : source.resolve.result = .error fault) (acyclic : ∀ path, fault ≠ .cycle path) :
    ∃ before name,
      source.discovery before.length = before ∧
      source.discovery (before.length + 1) = before ++ [name] ∧
      (∀ earlier ∈ before, ∃ table, source.Generates earlier table) ∧
      source.Faulty name (before.find? fun earlier => name ∈ source.targets earlier) fault ∧
      ((before.find? fun earlier => name ∈ source.targets earlier) = none ↔ name = .root) ∧
      source.resolve.loads = before ++ [name] ∧ (before ++ [name]).Nodup := by
  obtain ⟨before, pending, rest, seen, underway, failure, loads⟩ :=
    TableSource.exists_underway_of_resolve failed acyclic
  have referred := underway.referred pending List.mem_cons_self
  have faulty := TableSource.faulty_of_generate failure
  rw [referred] at faulty
  have nodup := (List.nodup_append.mp underway.nodup_front).1
  exact ⟨before, pending.name, underway.discovered, underway.discovery_succ, underway.sound,
    faulty, underway.find?_eq_none_iff, loads, nodup⟩

/-- Where an honest source is refused because a table is missing, that table is
missing.  It is the next in breadth-first order, and the earliest table that
hands over to it is named with it, unless it is the root. -/
theorem HonestSource.missing_of_resolve (source : HonestSource) {name : TableName}
    {referencedBy : Option TableName} {location : Option Path}
    (failed : source.resolve.result = .error (.unresolvable name referencedBy location)) :
    (source.load name).result = .ok none ∧ location = source.locate name ∧
      ∃ before, source.discovery (before.length + 1) = before ++ [name] ∧
        referencedBy = (before.find? fun earlier => name ∈ source.targets earlier) ∧
        (referencedBy = none ↔ name = .root) := by
  obtain ⟨before, pending, rest, seen, underway, failure, -⟩ :=
    TableSource.exists_underway_of_resolve failed nofun
  have referred := underway.referred pending List.mem_cons_self
  have reachable : source.Reachable pending.name :=
    underway.reachable _ (by simp [underway.listed])
  rcases TableSource.generate_eq_error.mp failure with forged | ⟨absent, same⟩ | ⟨set, _, unbuilt⟩
  · exact Bool.noConfusion (source.honest _ reachable _ forged)
  · obtain ⟨rfl, rfl, rfl⟩ := Fault.unresolvable.inj same
    refine ⟨absent, rfl, before, underway.discovery_succ, referred, ?_⟩
    rw [referred]
    exact underway.find?_eq_none_iff
  · obtain ⟨field, reason, group, same⟩ := DecisionTree.exists_ambiguous_of_build unbuilt
    contradiction

namespace TableSource

/-- Of the tables that the root leads to, `c` and `e` are missing. Both `b` and
`d` lead to `c`, and `b` stands before `d`. -/
def gappedSource : FiniteSource :=
  ofList [
    (.root, .ok (relay .root [⟨"a"⟩, ⟨"b"⟩])),
    (⟨"a"⟩, .ok (relay ⟨"a"⟩ [⟨"d"⟩])),
    (⟨"b"⟩, .ok (relay ⟨"b"⟩ [⟨"c"⟩, ⟨"e"⟩])),
    (⟨"d"⟩, .ok (relay ⟨"d"⟩ [⟨"c"⟩]))] fun _ => none

/-- The tables that are generated from `gappedSource` before it fails. -/
def gappedTables : List GeneratedTable :=
  [ .ofTree .root (.branch ⟨0, "opcode"⟩ [
      (.int 0, .leaf ⟨"", 0, 0, some ⟨"a"⟩⟩),
      (.int 1, .leaf ⟨"", 0, 1, some ⟨"b"⟩⟩)] none),
    .ofTree ⟨"a"⟩ (.leaf ⟨"", 0, 0, some ⟨"d"⟩⟩),
    .ofTree ⟨"b"⟩ (.branch ⟨0, "opcode"⟩ [
      (.int 0, .leaf ⟨"", 0, 0, some ⟨"c"⟩⟩),
      (.int 1, .leaf ⟨"", 0, 1, some ⟨"e"⟩⟩)] none),
    .ofTree ⟨"d"⟩ (.leaf ⟨"", 0, 0, some ⟨"c"⟩⟩)]

theorem resolve_gappedSource :
    gappedSource.resolve.result = .error (.unresolvable ⟨"c"⟩ (some ⟨"b"⟩) none) ∧
      gappedSource.resolve.loads = [.root, ⟨"a"⟩, ⟨"b"⟩, ⟨"d"⟩, ⟨"c"⟩] := by
  have root : (gappedSource.generate ⟨.root, none⟩).result = .ok gappedTables[0] := by cbv
  have a : (gappedSource.generate ⟨⟨"a"⟩, some .root⟩).result = .ok gappedTables[1] := by cbv
  have b : (gappedSource.generate ⟨⟨"b"⟩, some .root⟩).result = .ok gappedTables[2] := by cbv
  have d : (gappedSource.generate ⟨⟨"d"⟩, some ⟨"a"⟩⟩).result = .ok gappedTables[3] := by cbv
  have c : (gappedSource.generate ⟨⟨"c"⟩, some ⟨"b"⟩⟩).result =
      .error (.unresolvable ⟨"c"⟩ (some ⟨"b"⟩) none) := by cbv
  have ended := resolve?_eq_some_iff.mpr
    ⟨_, .loaded root (.loaded a (.loaded b (.loaded d (.failed c)))), rfl⟩
  rw [← Option.some.inj (ended.symm.trans gappedSource.resolve?_eq_some)]
  exact ⟨rfl, rfl⟩

/-- Of two missing tables the first in breadth-first order is reported, blamed
on the earlier of the two that hand over to it. -/
theorem resolve_stops_at_first_fault_gapped :
    gappedSource.resolve.result = .error (.unresolvable ⟨"c"⟩ (some ⟨"b"⟩) none) ∧
      (∀ path, Fault.unresolvable ⟨"c"⟩ (some ⟨"b"⟩) none ≠ .cycle path) ∧
      gappedSource.discovery 5 = [.root, ⟨"a"⟩, ⟨"b"⟩, ⟨"d"⟩, ⟨"c"⟩] ∧
      [TableName.root, ⟨"a"⟩, ⟨"b"⟩, ⟨"d"⟩].find?
        (fun earlier => ⟨"c"⟩ ∈ gappedSource.targets earlier) = some ⟨"b"⟩ ∧
      gappedSource.Faulty ⟨"c"⟩ (some ⟨"b"⟩) (.unresolvable ⟨"c"⟩ (some ⟨"b"⟩) none) := by
  obtain ⟨failed, loads⟩ := resolve_gappedSource
  have acyclic (path : List TableName) :
      Fault.unresolvable ⟨"c"⟩ (some ⟨"b"⟩) none ≠ .cycle path := by simp
  obtain ⟨before, name, _, discovered, _, faulty, _, order, _⟩ :=
    gappedSource.resolve_stops_at_first_fault failed acyclic
  have split : before ++ [name] = [.root, ⟨"a"⟩, ⟨"b"⟩, ⟨"d"⟩] ++ [⟨"c"⟩] := order.symm.trans loads
  obtain ⟨rfl, same⟩ := List.append_inj' split rfl
  obtain rfl : name = ⟨"c"⟩ := by simpa using same
  have blamed : [TableName.root, ⟨"a"⟩, ⟨"b"⟩, ⟨"d"⟩].find?
      (fun earlier => ⟨"c"⟩ ∈ gappedSource.targets earlier) = some ⟨"b"⟩ := by cbv
  exact ⟨failed, acyclic, discovered, blamed, blamed ▸ faulty⟩

end TableSource

end OpcodeTables
