import OpcodeTables.Proofs.DecisionTree.Tested
import OpcodeTables.Proofs.Dispatch.Lowering
import Mathlib.Data.List.Induction
import Mathlib.Data.List.Nodup

/-!
# What a dispatch mentions

The handlers that a dispatch runs, the tables that it hands over to and the
fields that it selects on.  A lowered tree mentions its leaves and the fields
that it tests, and an emission lists what its body mentions.
-/

namespace OpcodeTables

section EraseDups

variable {α : Type} [DecidableEq α]

theorem eraseDups_of_nodup {items : List α} (nodup : items.Nodup) : items.eraseDups = items := by
  induction items with
  | nil => rfl
  | cons item rest ih =>
      obtain ⟨fresh, nodup⟩ := List.nodup_cons.mp nodup
      have kept : (rest.filter fun other => !other == item) = rest := by
        apply List.filter_eq_self.mpr
        intro other member
        simpa using fun same : other = item => fresh (same ▸ member)
      rw [List.eraseDups_cons, kept, ih nodup]

/-- One item more is kept where it comes first. -/
theorem eraseDups_concat (items : List α) (item : α) :
    (items ++ [item]).eraseDups =
      if item ∈ items then items.eraseDups else items.eraseDups ++ [item] := by
  rw [List.eraseDups_append]
  split
  · next known => simp [List.removeAll, known]
  · next fresh => simp [List.removeAll, fresh, List.eraseDups_cons]

theorem nodup_eraseDups (items : List α) : items.eraseDups.Nodup := by
  induction items using List.reverseRecOn with
  | nil => exact List.nodup_nil
  | append_singleton items item ih =>
      rw [eraseDups_concat]
      split
      · exact ih
      · next fresh =>
          have apart : items.eraseDups.Disjoint [item] := by
            rw [List.disjoint_singleton, List.mem_eraseDups]
            exact fresh
          exact ih.append (List.nodup_singleton item) apart

end EraseDups

namespace Dispatch

section Collect

variable {α : Type} (onRun : Handler → List α) (onDelegate : TableName → List α)
  (onSelect : Field → List α)

mutual

/-- Takes something from each part of a dispatch: a field first, then the arms
and the fallback. -/
def collect : Dispatch → List α
  | .run handler => onRun handler
  | .delegate table => onDelegate table
  | .select field arms fallback =>
      onSelect field ++ (collectArms arms ++ collectFallback fallback)

/-- Takes something from each part of some arms. -/
def collectArms : List (Literal × Dispatch) → List α
  | [] => []
  | (_, child) :: rest => collect child ++ collectArms rest

/-- Takes something from each part of a fallback. -/
def collectFallback : Option Dispatch → List α
  | none => []
  | some child => collect child

end

end Collect

/-- The handlers that a dispatch runs, as often as it names them. -/
def handlers : Dispatch → List Handler :=
  collect (fun handler => [handler]) (fun _ => []) fun _ => []

/-- The tables that a dispatch hands over to, as often as it names them. -/
def delegations : Dispatch → List TableName :=
  collect (fun _ => []) (fun table => [table]) fun _ => []

section Lowered

variable {α : Type} {onRun : Handler → List α} {onDelegate : TableName → List α}
  {onSelect : Field → List α} {item : α}

theorem mem_collectArms_map {arms : List (Literal × DecisionTree)} :
    item ∈ collectArms onRun onDelegate onSelect (arms.map fun arm => (arm.1, lower arm.2)) ↔
      ∃ arm ∈ arms, item ∈ collect onRun onDelegate onSelect (lower arm.2) := by
  induction arms with
  | nil => simp [collectArms]
  | cons arm rest ih => simp [collectArms, ih]

theorem mem_collectFallback_map {otherwise : Option DecisionTree} :
    item ∈ collectFallback onRun onDelegate onSelect (otherwise.map lower) ↔
      ∃ child, otherwise = some child ∧
        item ∈ collect onRun onDelegate onSelect (lower child) := by
  cases otherwise <;> simp [collectFallback]

theorem mem_flatten_branch {field : Field} {arms : List (Literal × DecisionTree)}
    {otherwise : Option DecisionTree} {target : Leaf} :
    target ∈ (DecisionTree.branch field arms otherwise).flatten ↔
      (∃ arm ∈ arms, target ∈ arm.2.flatten) ∨
        ∃ child, otherwise = some child ∧ target ∈ child.flatten := by
  rw [DecisionTree.flatten, List.mem_append, DecisionTree.mem_flattenArms]
  cases otherwise <;> simp [DecisionTree.flattenOtherwise]

/-- What is taken from a lowered tree comes from one of its leaves or from a
field that it tests. -/
theorem mem_collect_lower {tree : DecisionTree} :
    item ∈ collect onRun onDelegate onSelect (lower tree) ↔
      (∃ target ∈ tree.flatten, item ∈ collect onRun onDelegate onSelect (lower (.leaf target))) ∨
        ∃ field, DecisionTree.Tests field tree ∧ item ∈ onSelect field := by
  induction tree using DecisionTree.induction with
  | leaf target => simp [DecisionTree.flatten, DecisionTree.not_tests_leaf]
  | branch field arms otherwise below beside =>
      rw [lower_branch, collect, List.mem_append, List.mem_append, mem_collectArms_map,
        mem_collectFallback_map]
      constructor
      · rintro (here | ⟨arm, member, inside⟩ | ⟨child, rfl, inside⟩)
        · exact .inr ⟨field, .here, here⟩
        · rcases (below arm member).mp inside with ⟨target, found, taken⟩ | ⟨other, tests, taken⟩
          · exact .inl ⟨target, mem_flatten_branch.mpr (.inl ⟨arm, member, found⟩), taken⟩
          · exact .inr ⟨other, .arm member tests, taken⟩
        · rcases (beside child rfl).mp inside with ⟨target, found, taken⟩ | ⟨other, tests, taken⟩
          · exact .inl ⟨target, mem_flatten_branch.mpr (.inr ⟨child, rfl, found⟩), taken⟩
          · exact .inr ⟨other, .otherwise tests, taken⟩
      · rintro (⟨target, found, taken⟩ | ⟨other, tests, taken⟩)
        · rcases mem_flatten_branch.mp found with ⟨arm, member, under⟩ | ⟨child, rfl, under⟩
          · exact .inr (.inl ⟨arm, member, (below arm member).mpr (.inl ⟨target, under, taken⟩)⟩)
          · exact .inr (.inr ⟨child, rfl, (beside child rfl).mpr (.inl ⟨target, under, taken⟩)⟩)
        · cases tests with
          | here => exact .inl taken
          | arm member tests =>
              exact .inr (.inl ⟨_, member, (below _ member).mpr (.inr ⟨other, tests, taken⟩)⟩)
          | otherwise tests =>
              exact .inr (.inr ⟨_, rfl, (beside _ rfl).mpr (.inr ⟨other, tests, taken⟩)⟩)

mutual

/-- What is taken from a lowered tree, if not from its fields, is taken from its
leaves in their order. -/
theorem collect_lower : (tree : DecisionTree) →
    collect onRun onDelegate (fun _ => []) (lower tree) =
      tree.flatten.flatMap fun target => collect onRun onDelegate (fun _ => []) (lower (.leaf target))
  | .leaf _ => by rw [DecisionTree.flatten, List.flatMap_singleton]
  | .branch _ arms otherwise => by
      rw [lower_branch, collect, List.nil_append, DecisionTree.flatten, List.flatMap_append,
        collectArms_lower arms, collectFallback_lower otherwise]

theorem collectArms_lower : (arms : List (Literal × DecisionTree)) →
    collectArms onRun onDelegate (fun _ => []) (arms.map fun arm => (arm.1, lower arm.2)) =
      (DecisionTree.flattenArms arms).flatMap fun target =>
        collect onRun onDelegate (fun _ => []) (lower (.leaf target))
  | [] => rfl
  | (_, child) :: rest => by
      rw [List.map_cons, collectArms, DecisionTree.flattenArms, List.flatMap_append,
        collect_lower child, collectArms_lower rest]

theorem collectFallback_lower : (otherwise : Option DecisionTree) →
    collectFallback onRun onDelegate (fun _ => []) (otherwise.map lower) =
      (DecisionTree.flattenOtherwise otherwise).flatMap fun target =>
        collect onRun onDelegate (fun _ => []) (lower (.leaf target))
  | none => rfl
  | some child => by
      rw [Option.map_some, collectFallback, DecisionTree.flattenOtherwise, collect_lower child]

end

end Lowered

/-- A lowered tree runs the handlers of the leaves that hand nothing over, in
their order. -/
theorem handlers_lower (tree : DecisionTree) :
    (lower tree).handlers =
      (tree.flatten.filter fun target => !target.isProxy).map Leaf.toHandler := by
  rw [handlers, collect_lower]
  induction tree.flatten with
  | nil => rfl
  | cons target rest ih =>
      rw [List.flatMap_cons, ih]
      cases proxy : target.delegate with
      | none => simp [lower_handler proxy, collect, Leaf.isProxy, proxy]
      | some next => simp [lower_proxy proxy, collect, Leaf.isProxy, proxy]

theorem mem_handlers_lower {tree : DecisionTree} {handler : Handler} :
    handler ∈ (lower tree).handlers ↔
      ∃ target ∈ tree.flatten, target.delegate = none ∧ target.toHandler = handler := by
  simp [handlers_lower, Leaf.isProxy, and_assoc]

theorem mem_delegations_lower {tree : DecisionTree} {name : TableName} :
    name ∈ (lower tree).delegations ↔ ∃ target ∈ tree.flatten, target.delegate = some name := by
  rw [delegations, mem_collect_lower]
  simp only [List.not_mem_nil, and_false, exists_const, or_false]
  refine exists_congr fun target => and_congr_right fun _ => ?_
  cases proxy : target.delegate with
  | none => simp [lower_handler proxy, collect]
  | some next => simp [lower_proxy proxy, collect, eq_comm]

end Dispatch

namespace Emission

theorem body_ofTree (table : TableName) (tree : DecisionTree) :
    (ofTree table tree).body = .lower tree := rfl

theorem handlers_foldl_meet (leaves : List Leaf) (mentions : Mentions) :
    (leaves.foldl Dispatch.meet mentions).handlers =
      mentions.handlers ++ (leaves.filter fun target => !target.isProxy).map Leaf.toHandler := by
  induction leaves generalizing mentions with
  | nil => simp
  | cons target rest ih =>
      rw [List.foldl_cons, ih]
      cases proxy : target.delegate with
      | none =>
          simp [Dispatch.meet, Dispatch.ofLeaf, proxy, Mentions.addHandler, Leaf.isProxy]
      | some next =>
          simp only [Dispatch.meet, Dispatch.ofLeaf, proxy, Mentions.addDelegate]
          split <;> simp [Leaf.isProxy, proxy]

/-- An emission lists the handlers of the leaves that hand nothing over, in
their order. -/
theorem handlers_ofTree (table : TableName) (tree : DecisionTree) :
    (ofTree table tree).handlers =
      (tree.flatten.filter fun target => !target.isProxy).map Leaf.toHandler := by
  simp only [ofTree, Dispatch.mentions_ofTree]
  rw [handlers_foldl_meet]
  rfl

/-- An emission lists the handlers that its body runs, in the body's order. -/
theorem handlers_eq_body (table : TableName) (tree : DecisionTree) :
    (ofTree table tree).handlers = (ofTree table tree).body.handlers := by
  rw [handlers_ofTree, body_ofTree, Dispatch.handlers_lower]

/-- An emission lists the tables that its body hands over to. -/
theorem mem_delegations_ofTree {table name : TableName} {tree : DecisionTree} :
    name ∈ (ofTree table tree).body.delegations ↔ name ∈ (ofTree table tree).delegates := by
  rw [body_ofTree, Dispatch.mem_delegations_lower, mem_delegates_ofTree]

/-- The tables met at some leaves are listed by their first mentions. -/
theorem delegates_foldl_meet (leaves : List Leaf) :
    (leaves.foldl Dispatch.meet .none).delegates =
      (leaves.filterMap Leaf.delegate).eraseDups := by
  induction leaves using List.reverseRecOn with
  | nil => rfl
  | append_singleton leaves target ih =>
      rw [List.foldl_append, List.foldl_cons, List.foldl_nil, List.filterMap_append]
      cases proxy : target.delegate with
      | none =>
          rw [List.filterMap_cons_none proxy, List.filterMap_nil, List.append_nil, ← ih]
          simp [Dispatch.meet, Dispatch.ofLeaf, proxy, Mentions.addHandler]
      | some table =>
          have known : table ∈ (leaves.foldl Dispatch.meet .none).delegates ↔
              table ∈ leaves.filterMap Leaf.delegate := by
            rw [ih, List.mem_eraseDups]
          rw [List.filterMap_cons_some proxy, List.filterMap_nil, eraseDups_concat, ← ih]
          simp only [Dispatch.meet, Dispatch.ofLeaf, proxy, Mentions.addDelegate, known]
          split <;> rfl

/-- An emission lists the tables that leaves of its tree hand over to, each
where it comes first. -/
theorem delegates_ofTree (table : TableName) (tree : DecisionTree) :
    (ofTree table tree).delegates = (tree.flatten.filterMap Leaf.delegate).eraseDups := by
  simp only [ofTree, Dispatch.mentions_ofTree]
  exact delegates_foldl_meet tree.flatten

theorem nodup_delegates_ofTree (table : TableName) (tree : DecisionTree) :
    (ofTree table tree).delegates.Nodup := by
  rw [delegates_ofTree]
  exact nodup_eraseDups _

end Emission

end OpcodeTables
